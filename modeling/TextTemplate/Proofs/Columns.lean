import Mathlib.Data.List.Basic
import Mathlib.Data.List.Forall2
import TextTemplate.Pass

/-!
# Matches in columns

The matches of a pattern are collected match by match: each adds one entry to every column, also to
those of groups that took no part in it. So no column gets ahead of the others, and the columns are
the transpose of the captures. Every match is a match of some text: a search remembers as many
positions all along as it has slots for, and what it finds has both ends of the whole match.
-/

set_option autoImplicit false

namespace TextTemplate

namespace Pattern

/-! ### What a search remembers -/

variable {program : Array Instruction} {slots position fuel : Nat} {before next after : Option Char}
variable {front : Front} {found : Option Marks} {marks : Marks}

def Front.HasSlots (front : Front) (slots : Nat) : Prop :=
  ∀ way ∈ front.ways, way.marks.size = slots

namespace Search

private theorem noWays_hasSlots (program : Array Instruction) (slots : Nat) :
    (noWays program).HasSlots slots :=
  fun _ impossible => absurd impossible (Array.not_mem_empty _)

private theorem follow_hasSlots {address : Nat} (held : front.HasSlots slots)
    (sized : marks.size = slots) :
    (follow program position before after fuel address marks front).HasSlots slots := by
  induction fuel generalizing address marks front with
  | zero => exact held
  | succ fuel ih =>
      rw [follow]
      split
      · exact held
      · have visited : ({ front with
            visited := front.visited.setIfInBounds address true } : Front).HasSlots slots := held
        dsimp only
        split
        · exact visited
        · exact ih visited sized
        · exact ih (ih visited sized) sized
        · exact ih visited (Array.size_setIfInBounds.trans sized)
        · split
          · exact ih visited sized
          · exact visited
        · intro way among
          rcases Array.mem_push.mp among with earlier | rfl
          · exact held way earlier
          · exact sized

private theorem advance_hasSlots {ways : List Way} (sized : ∀ way ∈ ways, way.marks.size = slots)
    (held : front.HasSlots slots) (kept : ∀ marks ∈ found, marks.size = slots) :
    (advance program position next after ways front found).1.HasSlots slots ∧
      ∀ marks ∈ (advance program position next after ways front found).2, marks.size = slots := by
  induction ways generalizing front with
  | nil => exact ⟨held, kept⟩
  | cons way ways ih =>
      obtain ⟨first, others⟩ := List.forall_mem_cons.mp sized
      rw [advance]
      split
      · refine ⟨held, ?_⟩
        rintro _ ⟨⟩
        exact first
      · refine ih others ?_
        split
        · exact follow_hasSlots held first
        · exact held
      · exact ih others held

def underway (program : Array Instruction) (slots position : Nat) (before : Option Char)
    (front : Front) (found : Option Marks) (text : List Char) : Front :=
  if found.isSome then front
  else
    follow program position before text.head? (program.size + 1) 0 (Array.replicate slots none) front

private theorem underway_hasSlots (held : front.HasSlots slots) (found : Option Marks)
    (text : List Char) :
    (underway program slots position before front found text).HasSlots slots := by
  rw [underway]
  split
  · exact held
  · exact follow_hasSlots held Array.size_replicate

private theorem run_nil :
    run program slots position before front found [] =
      let ways := (underway program slots position before front found []).ways
      if ways.isEmpty && found.isSome then found
      else (advance program position none none ways.toList (noWays program) found).2 :=
  rfl

private theorem run_cons (c : Char) (rest : List Char) :
    run program slots position before front found (c :: rest) =
      let ways := (underway program slots position before front found (c :: rest)).ways
      let step := advance program position (some c) rest.head? ways.toList (noWays program) found
      if ways.isEmpty && found.isSome then found
      else run program slots (position + 1) (some c) step.1 step.2 rest :=
  rfl

private theorem step_hasSlots (sized : front.HasSlots slots)
    (kept : ∀ marks ∈ found, marks.size = slots) :
    (advance program position next after front.ways.toList (noWays program) found).1.HasSlots slots ∧
      ∀ marks ∈ (advance program position next after front.ways.toList (noWays program) found).2,
        marks.size = slots :=
  advance_hasSlots (fun way among => sized way (Array.mem_toList_iff.mp among))
    (noWays_hasSlots program slots) kept

private theorem size_of_mem_run {text : List Char} (held : front.HasSlots slots)
    (kept : ∀ marks ∈ found, marks.size = slots)
    (matched : marks ∈ run program slots position before front found text) :
    marks.size = slots := by
  induction text generalizing position before front found with
  | nil =>
      rw [run_nil] at matched
      dsimp only at matched
      split at matched
      · exact kept marks matched
      · exact (step_hasSlots (underway_hasSlots held found []) kept).2 marks matched
  | cons c rest ih =>
      rw [run_cons] at matched
      dsimp only at matched
      split at matched
      · exact kept marks matched
      · refine ih ?_ ?_ matched
        · exact (step_hasSlots (underway_hasSlots held found (c :: rest)) kept).1
        · exact (step_hasSlots (underway_hasSlots held found (c :: rest)) kept).2

private theorem size_of_mem_first? {text : List Char}
    (matched : marks ∈ first? program slots position before text) : marks.size = slots :=
  size_of_mem_run (noWays_hasSlots program slots)
    (fun _ impossible => absurd impossible (Option.not_mem_none _)) matched

/-- A match in the list of all matches has as many positions as there are slots, among them both
ends of the whole match. -/
private theorem whole_of_mem_all {lastEnd : Option Nat} {text : List Char}
    (among : marks ∈ all program slots fuel position before lastEnd text) :
    marks.size = slots ∧ ∃ span, span? marks 0 = some span := by
  induction fuel generalizing position before lastEnd text with
  | zero => cases among
  | succ fuel ih =>
      unfold all at among
      split at among
      · cases among
      · next first matched =>
          split at among
          · cases among
          · next start stop whole =>
              split at among
              · split at among
                · cases among
                · exact ih among
              · rcases List.mem_cons.mp among with rfl | later
                · exact ⟨size_of_mem_first? matched, ⟨start, stop⟩, whole⟩
                · exact ih later

private theorem span?_of_size_zero (sized : marks.size = 0) (index : Nat) :
    span? marks index = none := by
  rw [Array.eq_empty_of_size_eq_zero sized]
  rfl

end Search

variable {pattern : Pattern} {text : Text} {groupTexts : List (Option Text)}

/-! ### What a match holds -/

private theorem length_of_mem_captures (among : groupTexts ∈ pattern.captures text) :
    groupTexts.length = pattern.groups := by
  obtain ⟨marks, _, rfl⟩ := List.mem_map.mp among
  rw [List.length_map, List.length_range]

private theorem full_of_mem_captures (among : groupTexts ∈ pattern.captures text) :
    ∃ full, groupTexts[0]? = some (some full) := by
  obtain ⟨marks, found, rfl⟩ := List.mem_map.mp among
  obtain ⟨sized, span, whole⟩ := Search.whole_of_mem_all found
  have grouped : 0 < pattern.groups := by
    apply Nat.pos_of_ne_zero
    intro groupless
    rw [groupless] at sized
    rw [Search.span?_of_size_zero sized] at whole
    cases whole
  rw [List.getElem?_map, List.getElem?_range grouped, Option.map_some, whole, Option.map_some]
  exact ⟨_, rfl⟩

end Pattern

namespace Matches

variable {groupTexts : List (Option Text)} {index : Nat} {taken : Text}

/-! ### Filling the columns -/

private theorem foldl_addRow (captures : List (List (Option Text))) (columns : List (List Text)) :
    captures.foldl addRow columns =
      columns.mapIdx fun index column => (captures.map (entry index)).reverse ++ column := by
  induction captures generalizing columns with
  | nil => exact (List.mapIdx_eq_iff.mpr fun index => Option.map_id'.symm).symm
  | cons groupTexts captures ih =>
      rw [List.foldl_cons, ih, addRow, List.mapIdx_mapIdx]
      congr 1
      funext index column
      rw [Function.comp_apply, List.map_cons, List.reverse_cons, List.append_assoc,
        List.singleton_append]

theorem group_collect (groups : Nat) (captures : List (List (Option Text))) (index : Nat) :
    (collect groups captures).group index =
      if index < groups then captures.map (entry index) else [] := by
  rw [group, collect, foldl_addRow, List.getD_eq_getElem?_getD, List.getElem?_map,
    List.getElem?_mapIdx, List.getElem?_replicate]
  split
  · rw [Option.map_some, Option.map_some, Option.getD_some, List.append_nil, List.reverse_reverse]
  · rfl

/-! ### Entries -/

/-- What stands in the column of a group for a match: the text that the group took, or the empty
text if it took no part. -/
inductive HasEntry (index : Nat) (groupTexts : List (Option Text)) : Text → Prop
  | tookPart {taken : Text} (captured : groupTexts[index]? = some (some taken)) :
      HasEntry index groupTexts taken
  | tookNoPart (uncaptured : groupTexts[index]? = some none) : HasEntry index groupTexts []

private theorem entry_of_captured (captured : groupTexts[index]? = some (some taken)) :
    entry index groupTexts = taken := by
  rw [entry, List.getD_eq_getElem?_getD, captured, Option.getD_some, Option.getD_some]

private theorem entry_of_uncaptured (uncaptured : groupTexts[index]? = some none) :
    entry index groupTexts = [] := by
  rw [entry, List.getD_eq_getElem?_getD, uncaptured, Option.getD_some, Option.getD_none]

private theorem hasEntry_entry (within : index < groupTexts.length) :
    HasEntry index groupTexts (entry index groupTexts) := by
  have present := List.getElem?_eq_getElem within
  cases part : groupTexts[index] with
  | none =>
      rw [part] at present
      rw [entry_of_uncaptured present]
      exact .tookNoPart present
  | some taken =>
      rw [part] at present
      rw [entry_of_captured present]
      exact .tookPart present

/-! ### The columns of a pattern -/

variable {pattern : Pattern} {text : Text}

private theorem hasEntry_of_mem_captures (within : index < pattern.groups)
    (among : groupTexts ∈ pattern.captures text) :
    HasEntry index groupTexts (entry index groupTexts) := by
  apply hasEntry_entry
  rw [Pattern.length_of_mem_captures among]
  exact within

private theorem captured_of_mem_captures (among : groupTexts ∈ pattern.captures text) :
    groupTexts[0]? = some (some (entry 0 groupTexts)) := by
  obtain ⟨full, captured⟩ := Pattern.full_of_mem_captures among
  rw [entry_of_captured captured]
  exact captured

private theorem groups_pos_of_mem_captures (among : groupTexts ∈ pattern.captures text) :
    0 < pattern.groups := by
  obtain ⟨within, _⟩ := List.getElem?_eq_some_iff.mp (captured_of_mem_captures among)
  rw [← Pattern.length_of_mem_captures among]
  exact within

private theorem group_of_lt (within : index < pattern.groups) :
    (ofText pattern text).group index = (pattern.captures text).map (entry index) := by
  rw [ofText, group_collect, if_pos within]

private theorem group_of_le (beyond : pattern.groups ≤ index) :
    (ofText pattern text).group index = [] := by
  rw [ofText, group_collect, if_neg (Nat.not_lt.mpr beyond)]

private theorem full_ofText (pattern : Pattern) (text : Text) :
    (ofText pattern text).full = (pattern.captures text).map (entry 0) := by
  rcases Nat.eq_zero_or_pos pattern.groups with groupless | grouped
  · have unmatched : pattern.captures text = [] :=
      List.eq_nil_iff_forall_not_mem.mpr fun _ among =>
        Nat.ne_of_gt (groups_pos_of_mem_captures among) groupless
    rw [full, group_of_le (Nat.le_of_eq groupless), unmatched, List.map_nil]
  · exact group_of_lt grouped

private theorem size_ofText (pattern : Pattern) (text : Text) :
    (ofText pattern text).size = (pattern.captures text).length := by
  rw [size, full_ofText, List.length_map]

private theorem isEmpty_ofText_iff (pattern : Pattern) (text : Text) :
    (ofText pattern text).isEmpty = true ↔ pattern.captures text = [] := by
  rw [isEmpty, size_ofText, beq_iff_eq, List.length_eq_zero_iff]

private theorem zip_full_group (within : index < pattern.groups) :
    (ofText pattern text).full.zip ((ofText pattern text).group index) =
      (pattern.captures text).map fun groupTexts => (entry 0 groupTexts, entry index groupTexts) := by
  rw [full_ofText, group_of_lt within, List.zip_map']

/-- Collected matches are the transpose of the captures. The column of a group has one entry for
each match, in the order of the matches, and a group that the pattern does not have has no entries;
there are as many matches as captures; and beside the column of whole matches every column has the
entry of a match next to the text of that match. -/
theorem columns_transpose_captures (pattern : Pattern) (text : Text) :
    (∀ index < pattern.groups,
      List.Forall₂ (HasEntry index) (pattern.captures text) ((ofText pattern text).group index)) ∧
    (∀ index, pattern.groups ≤ index → (ofText pattern text).group index = []) ∧
    (ofText pattern text).size = (pattern.captures text).length ∧
    ((ofText pattern text).isEmpty = true ↔ pattern.captures text = []) ∧
    ∀ index < pattern.groups,
      List.Forall₂
        (fun groupTexts paired =>
          groupTexts[0]? = some (some paired.1) ∧ HasEntry index groupTexts paired.2)
        (pattern.captures text)
        ((ofText pattern text).full.zip ((ofText pattern text).group index)) := by
  refine ⟨?_, fun index => group_of_le, size_ofText pattern text, isEmpty_ofText_iff pattern text,
    ?_⟩
  · intro index within
    rw [group_of_lt within, List.forall₂_map_right_iff, List.forall₂_same]
    exact fun groupTexts among => hasEntry_of_mem_captures within among
  · intro index within
    rw [zip_full_group within, List.forall₂_map_right_iff, List.forall₂_same]
    exact fun groupTexts among =>
      ⟨captured_of_mem_captures among, hasEntry_of_mem_captures within among⟩

/-- The group takes no part in the first match, takes nothing in the second, and takes a character
in the third. -/
theorem columns_transpose_captures_of_optional_group :
    ∃ pattern, Pattern.read? "x|y(z?)".toList = some pattern ∧ 1 < pattern.groups ∧
      pattern.captures "xyyz".toList =
        [[some ['x'], none], [some ['y'], some []], [some ['y', 'z'], some ['z']]] ∧
      List.Forall₂
        (fun groupTexts paired =>
          groupTexts[0]? = some (some paired.1) ∧ HasEntry 1 groupTexts paired.2)
        (pattern.captures "xyyz".toList)
        ((ofText pattern "xyyz".toList).full.zip ((ofText pattern "xyyz".toList).group 1)) ∧
      (ofText pattern "xyyz".toList).full.zip ((ofText pattern "xyyz".toList).group 1) =
        [(['x'], []), (['y'], []), (['y', 'z'], ['z'])] := by
  have found : (Pattern.read? "x|y(z?)".toList).map
      (fun pattern => (pattern.groups, pattern.captures "xyyz".toList)) =
        some (2, [[some ['x'], none], [some ['y'], some []], [some ['y', 'z'], some ['z']]]) := by
    decide +kernel
  obtain ⟨pattern, read, same⟩ := Option.map_eq_some_iff.mp found
  obtain ⟨groups, captures⟩ := Prod.mk.inj same
  have within : 1 < pattern.groups := by
    rw [groups]
    exact Nat.one_lt_two
  obtain ⟨_, _, _, _, paired⟩ := columns_transpose_captures pattern "xyyz".toList
  refine ⟨pattern, read, within, captures, paired 1 within, ?_⟩
  rw [zip_full_group within, captures]
  rfl

end Matches
end TextTemplate
