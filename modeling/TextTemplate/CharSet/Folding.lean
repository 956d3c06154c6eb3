import TextTemplate.CharSet

/-!
# Letters that differ in case only

Characters fall into groups that are the same but for case. The table gives each group through its
least member; `foldCase` closes a set under the groups.
-/

set_option autoImplicit false

namespace TextTemplate.CharSet

/-- Rows `(first, last, step, shift)`: each code point from `first` to `last` by `step` is the least
of its group, and the code point `shift` above it belongs to the group. -/
def caseRows : List (Nat × Nat × Nat × Nat) :=
  [(65, 90, 1, 32), (75, 75, 1, 8415), (83, 83, 1, 300), (181, 181, 1, 743), (181, 181, 1, 775),
   (192, 214, 1, 32), (197, 197, 1, 8294), (216, 222, 1, 32), (223, 223, 1, 7615),
   (255, 255, 1, 121), (256, 302, 2, 1), (306, 310, 2, 1), (313, 327, 2, 1), (330, 374, 2, 1),
   (377, 381, 2, 1), (384, 384, 1, 195), (385, 385, 1, 210), (386, 388, 2, 1), (390, 390, 1, 206),
   (391, 391, 1, 1), (393, 394, 1, 205), (395, 395, 1, 1), (398, 398, 1, 79), (399, 399, 1, 202),
   (400, 400, 1, 203), (401, 401, 1, 1), (403, 403, 1, 205), (404, 404, 1, 207),
   (405, 405, 1, 97), (406, 406, 1, 211), (407, 407, 1, 209), (408, 408, 1, 1),
   (410, 410, 1, 163), (411, 411, 1, 42561), (412, 412, 1, 211), (413, 413, 1, 213),
   (414, 414, 1, 130), (415, 415, 1, 214), (416, 420, 2, 1), (422, 422, 1, 218), (423, 423, 1, 1),
   (425, 425, 1, 218), (428, 428, 1, 1), (430, 430, 1, 218), (431, 431, 1, 1), (433, 434, 1, 217),
   (435, 437, 2, 1), (439, 439, 1, 219), (440, 440, 1, 1), (444, 444, 1, 1), (447, 447, 1, 56),
   (452, 452, 1, 1), (452, 452, 1, 2), (455, 455, 1, 1), (455, 455, 1, 2), (458, 458, 1, 1),
   (458, 458, 1, 2), (461, 475, 2, 1), (478, 494, 2, 1), (497, 497, 1, 1), (497, 497, 1, 2),
   (500, 500, 1, 1), (504, 542, 2, 1), (546, 562, 2, 1), (570, 570, 1, 10795), (571, 571, 1, 1),
   (574, 574, 1, 10792), (575, 576, 1, 10815), (577, 577, 1, 1), (580, 580, 1, 69),
   (581, 581, 1, 71), (582, 590, 2, 1), (592, 592, 1, 10783), (593, 593, 1, 10780),
   (594, 594, 1, 10782), (604, 604, 1, 42319), (609, 609, 1, 42315), (612, 612, 1, 42343),
   (613, 613, 1, 42280), (614, 614, 1, 42308), (618, 618, 1, 42308), (619, 619, 1, 10743),
   (620, 620, 1, 42305), (625, 625, 1, 10749), (637, 637, 1, 10727), (642, 642, 1, 42307),
   (647, 647, 1, 42282), (669, 669, 1, 42261), (670, 670, 1, 42258), (837, 837, 1, 84),
   (837, 837, 1, 116), (837, 837, 1, 7289), (880, 882, 2, 1), (886, 886, 1, 1),
   (891, 893, 1, 130), (895, 895, 1, 116), (902, 902, 1, 38), (904, 906, 1, 37),
   (908, 908, 1, 64), (910, 911, 1, 63), (912, 912, 1, 7235), (913, 920, 1, 32),
   (914, 914, 1, 62), (917, 917, 1, 96), (920, 920, 1, 57), (920, 920, 1, 92), (922, 922, 1, 86),
   (922, 923, 1, 32), (925, 929, 1, 32), (928, 928, 1, 54), (929, 929, 1, 80), (931, 931, 1, 31),
   (931, 939, 1, 32), (934, 934, 1, 47), (937, 937, 1, 7549), (944, 944, 1, 7219),
   (975, 975, 1, 8), (984, 1006, 2, 1), (1010, 1010, 1, 7), (1015, 1015, 1, 1),
   (1018, 1018, 1, 1), (1024, 1039, 1, 80), (1040, 1071, 1, 32), (1042, 1042, 1, 6254),
   (1044, 1044, 1, 6253), (1054, 1054, 1, 6244), (1057, 1058, 1, 6242), (1058, 1058, 1, 6243),
   (1066, 1066, 1, 6236), (1120, 1152, 2, 1), (1122, 1122, 1, 6181), (1162, 1214, 2, 1),
   (1216, 1216, 1, 15), (1217, 1229, 2, 1), (1232, 1326, 2, 1), (1329, 1366, 1, 48),
   (4256, 4293, 1, 7264), (4295, 4295, 1, 7264), (4301, 4301, 1, 7264), (4304, 4346, 1, 3008),
   (4349, 4351, 1, 3008), (5024, 5103, 1, 38864), (5104, 5109, 1, 8), (7304, 7304, 1, 35266),
   (7304, 7304, 1, 35267), (7305, 7305, 1, 1), (7545, 7545, 1, 35332), (7549, 7549, 1, 3814),
   (7566, 7566, 1, 35384), (7680, 7828, 2, 1), (7776, 7776, 1, 59), (7840, 7934, 2, 1),
   (7936, 7943, 1, 8), (7952, 7957, 1, 8), (7968, 7975, 1, 8), (7984, 7991, 1, 8),
   (8000, 8005, 1, 8), (8017, 8023, 2, 8), (8032, 8039, 1, 8), (8048, 8049, 1, 74),
   (8050, 8053, 1, 86), (8054, 8055, 1, 100), (8056, 8057, 1, 128), (8058, 8059, 1, 112),
   (8060, 8061, 1, 126), (8064, 8071, 1, 8), (8080, 8087, 1, 8), (8096, 8103, 1, 8),
   (8112, 8113, 1, 8), (8115, 8115, 1, 9), (8131, 8131, 1, 9), (8144, 8145, 1, 8),
   (8160, 8161, 1, 8), (8165, 8165, 1, 7), (8179, 8179, 1, 9), (8498, 8498, 1, 28),
   (8544, 8559, 1, 16), (8579, 8579, 1, 1), (9398, 9423, 1, 26), (11264, 11311, 1, 48),
   (11360, 11360, 1, 1), (11367, 11371, 2, 1), (11378, 11378, 1, 1), (11381, 11381, 1, 1),
   (11392, 11490, 2, 1), (11499, 11501, 2, 1), (11506, 11506, 1, 1), (42560, 42568, 2, 1),
   (42572, 42604, 2, 1), (42624, 42650, 2, 1), (42786, 42798, 2, 1), (42802, 42862, 2, 1),
   (42873, 42875, 2, 1), (42878, 42886, 2, 1), (42891, 42891, 1, 1), (42896, 42898, 2, 1),
   (42900, 42900, 1, 48), (42902, 42920, 2, 1), (42931, 42931, 1, 928), (42932, 42946, 2, 1),
   (42951, 42953, 2, 1), (42956, 42970, 2, 1), (42997, 42997, 1, 1), (64261, 64261, 1, 1),
   (65313, 65338, 1, 32), (66560, 66599, 1, 40), (66736, 66771, 1, 40), (66928, 66938, 1, 39),
   (66940, 66954, 1, 39), (66956, 66962, 1, 39), (66964, 66965, 1, 39), (68736, 68786, 1, 64),
   (68944, 68965, 1, 32), (71840, 71871, 1, 32), (93760, 93791, 1, 32), (93856, 93880, 1, 27),
   (125184, 125217, 1, 34)]

/-- Pairs of a group's least member and another member. -/
def casePairs : List (Nat × Nat) :=
  caseRows.flatMap (fun (first, last, step, shift) =>
    (List.range ((last - first) / step + 1)).map (fun i =>
      (first + i * step, first + i * step + shift)))

def foldCase (set : CharSet) : CharSet :=
  let touched := casePairs.filter (fun pair =>
    set.containsCode pair.1 || set.containsCode pair.2)
  let least := ofRanges (touched.map (fun pair => (pair.1, pair.1)))
  let others := (casePairs.filter (fun pair => least.containsCode pair.1)).map
    (fun pair => (pair.2, pair.2))
  ofRanges (set ++ least ++ others)

end TextTemplate.CharSet
