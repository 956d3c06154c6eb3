import TextTemplate.Proofs.Bindings
import TextTemplate.Proofs.Overlap
import TextTemplate.Proofs.Token

/-!
# Filling the tags of a name

The raw tags of a name are filled first, and the other tags are looked for in what that leaves. One
pass over the template, which does not look at what is put in, makes the same of it, unless the texts
put in for raw tags form a tag of the name: one that lies in such a text, begins or ends in it, or
joins what was around an empty one. A tag that was formed is filled too, and a deferred text is
invoked for it.
-/

set_option autoImplicit false

namespace TextTemplate

/-! ### Tags and overlaps -/

namespace Tag

variable {key rest : Text}

private theorem apart_of_braces {first : Text} (opens closes : Text)
    (begins : first.head? = some '{')
    (ends : first.getLast? = some '}') (noClosing : '}' ∉ opens) (noOpening : '{' ∉ closes)
    (counts : first.count '{' ≤ (opens ++ closes).count '{') :
    Text.Apart first (opens ++ closes) := by
  intro front shared back whole split nonempty
  have ending : '}' ∈ shared := by
    obtain ⟨others, last, rfl⟩ := (List.eq_nil_or_concat shared).resolve_left nonempty
    rw [whole, List.concat_eq_append, ← List.append_assoc, List.getLast?_concat] at ends
    simp [Option.some.inj ends]
  have noneBehind : '{' ∉ back := by
    rcases List.append_eq_append_iff.mp split with ⟨others, _, tail⟩ | ⟨others, head, _⟩
    · rw [tail] at noOpening
      exact fun present => noOpening (List.mem_append_right _ present)
    · rw [head] at noClosing
      exact absurd (List.mem_append_left _ ending) noClosing
  have noneBefore : front.count '{' = 0 := by
    have behind := List.count_eq_zero_of_not_mem noneBehind
    rw [split, whole, List.count_append, List.count_append, behind] at counts
    omega
  cases front with
  | nil => rfl
  | cons c front =>
      have brace : c = '{' := by simpa [whole] using begins
      simp [brace] at noneBefore

private theorem raw_ne_nil (key : Text) : raw key ≠ [] :=
  List.cons_ne_nil _ _

private theorem escaped_ne_nil (key : Text) : escaped key ≠ [] :=
  List.cons_ne_nil _ _

private theorem raw_eq (key : Text) : raw key = '{' :: (escaped key ++ ['}']) := by
  simp [raw, escaped, opening, closing]

private theorem apart_escaped (plain : key.Plain) : Text.Apart (escaped key) (escaped key) := by
  apply apart_of_braces (opening ++ key) closing
  · rfl
  · simp [escaped, closing]
  · simpa [opening] using plain.2
  · decide
  · exact Nat.le_refl _

private theorem apart_raw (plain : key.Plain) : Text.Apart (raw key) (raw key) := by
  apply apart_of_braces ('{' :: opening ++ key) ('}' :: closing)
  · rfl
  · rw [raw_eq, ← List.cons_append, List.getLast?_concat]
  · simpa [opening] using plain.2
  · decide
  · exact Nat.le_refl _

private theorem apart_escaped_raw (plain : key.Plain) : Text.Apart (escaped key) (raw key) := by
  apply apart_of_braces ('{' :: opening ++ key) ('}' :: closing)
  · rfl
  · simp [escaped, closing]
  · simpa [opening] using plain.2
  · decide
  · simp [escaped, opening, closing, List.count_append]

private theorem length_escaped_le (key : Text) : (escaped key).length ≤ (raw key).length := by
  simp [escaped, raw, opening, closing]

private theorem not_escaped_prefix_raw (plain : key.Plain) : ¬escaped key <+: raw key ++ rest := by
  rintro ⟨tail, equal⟩
  have inner : key ++ '}' :: ('}' :: tail) = '{' :: (key ++ '}' :: ('}' :: ('}' :: rest))) := by
    simpa [escaped, raw, opening, closing] using equal
  exact Text.ne_brace_of_plain plain inner rfl

private theorem not_raw_prefix_escaped (plain : key.Plain) : ¬raw key <+: escaped key ++ rest := by
  rintro ⟨tail, equal⟩
  have inner : key ++ '}' :: ('}' :: rest) = '{' :: (key ++ '}' :: ('}' :: ('}' :: tail))) := by
    simpa [escaped, raw, opening, closing] using equal.symm
  exact Text.ne_brace_of_plain plain inner rfl

end Tag

namespace Substitution

open Rendering

variable {key put text template gap rest front back : Text}

/-! ### One pass -/

/-- One pass from left to right, with `put` for each raw tag of the name and `text` for each other
tag of it. What is put in is not looked at. -/
def fillOnce (key put text : Text) : Text → Text
  | [] => []
  | c :: template =>
      match _atRaw : Text.after? (Tag.raw key) (c :: template) with
      | some rest => put ++ fillOnce key put text rest
      | none =>
          match _atEscaped : Text.after? (Tag.escaped key) (c :: template) with
          | some rest => text ++ fillOnce key put text rest
          | none => c :: fillOnce key put text template
  termination_by template => template.length
  decreasing_by
    · have positive := List.length_pos_iff.mpr (Tag.raw_ne_nil key)
      rw [Text.eq_append_of_after? _atRaw, List.length_append]
      omega
    · have positive := List.length_pos_iff.mpr (Tag.escaped_ne_nil key)
      rw [Text.eq_append_of_after? _atEscaped, List.length_append]
      omega
    · exact Nat.lt_succ_self _

private theorem fillOnce_nil : fillOnce key put text [] = [] := by
  rw [fillOnce]

private theorem fillOnce_raw (key put text rest : Text) :
    fillOnce key put text (Tag.raw key ++ rest) = put ++ fillOnce key put text rest := by
  obtain ⟨c, others, whole⟩ : ∃ c others, Tag.raw key ++ rest = c :: others := ⟨_, _, rfl⟩
  have begins := Text.after?_append (Tag.raw key) rest
  rw [whole] at begins ⊢
  rw [fillOnce]
  split
  · next found => rw [Option.some.inj (begins.symm.trans found)]
  · next absent => rw [begins] at absent; cases absent

private theorem fillOnce_escaped (plain : key.Plain) (rest : Text) :
    fillOnce key put text (Tag.escaped key ++ rest) = text ++ fillOnce key put text rest := by
  have notRaw : Text.after? (Tag.raw key) (Tag.escaped key ++ rest) = none :=
    Text.after?_eq_none (Tag.not_raw_prefix_escaped plain)
  obtain ⟨c, others, whole⟩ : ∃ c others, Tag.escaped key ++ rest = c :: others := ⟨_, _, rfl⟩
  have begins := Text.after?_append (Tag.escaped key) rest
  rw [whole] at begins notRaw ⊢
  rw [fillOnce]
  split
  · next found => rw [notRaw] at found; cases found
  · split
    · next found => rw [Option.some.inj (begins.symm.trans found)]
    · next absent => rw [begins] at absent; cases absent

private theorem fillOnce_cons {c : Char} (notRaw : ¬Tag.raw key <+: c :: rest)
    (notEscaped : ¬Tag.escaped key <+: c :: rest) :
    fillOnce key put text (c :: rest) = c :: fillOnce key put text rest := by
  rw [fillOnce]
  split
  · next found => rw [Text.after?_eq_none notRaw] at found; cases found
  · split
    · next found => rw [Text.after?_eq_none notEscaped] at found; cases found
    · rfl

private theorem fillOnce_append (plain : key.Plain)
    (unbegun : ∀ before after, gap ++ rest = before ++ Tag.raw key ++ after →
      gap.length ≤ before.length)
    (separate : Text.Separate (Tag.escaped key) gap rest) :
    fillOnce key put text (gap ++ rest) =
      Text.replaceAll (Tag.escaped key) text gap ++ fillOnce key put text rest := by
  induction measured : gap.length using Nat.strongRecOn generalizing gap with
  | _ size ih =>
      have later : ∀ start others, gap = start ++ others → ∀ before after,
          others ++ rest = before ++ Tag.raw key ++ after → others.length ≤ before.length := by
        rintro start others rfl before after whole
        have beyond := unbegun (start ++ before) after (by
          simp only [List.append_assoc] at whole ⊢
          rw [whole])
        simp only [List.length_append] at beyond
        omega
      cases gap with
      | nil => rw [Text.replaceAll_nil (Tag.escaped_ne_nil key), List.nil_append, List.nil_append]
      | cons c gap =>
          by_cases begins : Tag.escaped key <+: c :: gap ++ rest
          · obtain ⟨others, split⟩ := separate.exists_eq_append (List.cons_ne_nil c gap) begins
            have unbegunLater := later _ _ split
            rw [split] at separate measured
            have positive := List.length_pos_iff.mpr (Tag.escaped_ne_nil key)
            have shorter : others.length < size := by
              rw [← measured, List.length_append]
              omega
            rw [split, List.append_assoc, fillOnce_escaped plain,
              Text.replaceAll_append (Tag.escaped_ne_nil key), ih _ shorter unbegunLater
                (separate.behind _) rfl, List.append_assoc]
          · have notRaw : ¬Tag.raw key <+: c :: gap ++ rest := by
              rintro ⟨after, whole⟩
              have beyond := unbegun [] after (by rw [← whole]; rfl)
              exact absurd beyond (Nat.not_succ_le_zero _)
            have alone : ¬Tag.escaped key <+: c :: gap :=
              fun inFront => begins (inFront.trans (List.prefix_append _ _))
            have separateLater : Text.Separate (Tag.escaped key) gap rest :=
              separate.behind [c]
            rw [List.cons_append] at begins notRaw ⊢
            rw [fillOnce_cons notRaw begins, Text.replaceAll_cons (Tag.escaped_ne_nil key) alone,
              ih gap.length (by rw [← measured]; exact Nat.lt_succ_self _) (later [c] gap rfl)
                separateLater rfl, List.cons_append]

private theorem fillOnce_of_absent (plain : key.Plain) (noRaw : ¬Tag.raw key <:+: template) :
    fillOnce key put text template = Text.replaceAll (Tag.escaped key) text template := by
  have unbegun : ∀ before after, template ++ [] = before ++ Tag.raw key ++ after →
      template.length ≤ before.length := by
    intro before after whole
    rw [List.append_nil] at whole
    exact absurd ⟨before, after, whole.symm⟩ noRaw
  have separate : Text.Separate (Tag.escaped key) template [] := by
    intro before after whole _
    have lengths := congrArg List.length whole
    simp only [List.length_append, List.length_nil] at lengths
    omega
  have filled : fillOnce key put text (template ++ []) =
      Text.replaceAll (Tag.escaped key) text template ++ fillOnce key put text [] :=
    fillOnce_append plain unbegun separate
  rwa [List.append_nil, fillOnce_nil, List.append_nil] at filled

private theorem fillOnce_gap (plain : key.Plain) (noRaw : ¬Tag.raw key <:+: gap) :
    fillOnce key put text (gap ++ Tag.raw key ++ rest) =
      Text.replaceAll (Tag.escaped key) text gap ++ put ++ fillOnce key put text rest := by
  have separate := (Tag.apart_raw plain).separate (Nat.le_refl _) gap rest
  have unbegun : ∀ before after, gap ++ (Tag.raw key ++ rest) = before ++ Tag.raw key ++ after →
      gap.length ≤ before.length := by
    intro before after whole
    rcases Nat.lt_or_ge before.length gap.length with begins | beyond
    · exact absurd (separate.occurs whole begins) noRaw
    · exact beyond
  rw [List.append_assoc, fillOnce_append plain unbegun
    ((Tag.apart_escaped_raw plain).separate (Tag.length_escaped_le key) gap rest), fillOnce_raw,
    List.append_assoc]

/-! ### Tags that are formed -/

/-- In what filling the raw tags with `put` leaves, a tag of the name stands between `front` and
`back` that has some of the text put in for a raw tag, or joins what was on its two sides. -/
def TagFormed (key put template front back : Text) : Prop :=
  ∃ left right, template = left ++ Tag.raw key ++ right ∧
    Text.replaceAll (Tag.raw key) put template = front ++ Tag.escaped key ++ back ∧
    front.length < (Text.replaceAll (Tag.raw key) put left ++ put).length ∧
    (Text.replaceAll (Tag.raw key) put left).length < (front ++ Tag.escaped key).length

def FormsTag (key put template : Text) : Prop :=
  ∃ front back, TagFormed key put template front back

private theorem replaceAll_gap (plain : key.Plain) (noRaw : ¬Tag.raw key <:+: gap)
    (put rest : Text) :
    Text.replaceAll (Tag.raw key) put (gap ++ Tag.raw key ++ rest) =
      gap ++ (put ++ Text.replaceAll (Tag.raw key) put rest) := by
  rw [(Tag.apart_raw plain).replaceAll_append (Tag.raw_ne_nil key), Text.replaceAll_of_absent noRaw,
    List.append_assoc]

private theorem FormsTag.inFront (plain : key.Plain) (noRaw : ¬Tag.raw key <:+: gap)
    (forms : FormsTag key put rest) : FormsTag key put (gap ++ Tag.raw key ++ rest) := by
  obtain ⟨front, back, left, right, rfl, shown, begins, ends⟩ := forms
  refine ⟨gap ++ put ++ front, back, gap ++ Tag.raw key ++ left, right, ?_, ?_, ?_, ?_⟩
  · simp only [List.append_assoc]
  · rw [replaceAll_gap plain noRaw, shown]
    simp only [List.append_assoc]
  · rw [replaceAll_gap plain noRaw]
    simp only [List.length_append] at begins ⊢
    omega
  · rw [replaceAll_gap plain noRaw]
    simp only [List.length_append] at ends ⊢
    omega

private theorem beside_of_not_formsTag (plain : key.Plain) (noRaw : ¬Tag.raw key <:+: gap)
    (unformed : ¬FormsTag key put (gap ++ Tag.raw key ++ rest))
    (whole : gap ++ (put ++ Text.replaceAll (Tag.raw key) put rest) =
      front ++ Tag.escaped key ++ back) :
    front.length + (Tag.escaped key).length ≤ gap.length ∨
      gap.length + put.length ≤ front.length := by
  rcases Nat.lt_or_ge gap.length (front.length + (Tag.escaped key).length) with beyond | inFront
  · rcases Nat.lt_or_ge front.length (gap.length + put.length) with before | behind
    · refine absurd ⟨front, back, gap, rest, rfl, ?_, ?_, ?_⟩ unformed
      · rw [replaceAll_gap plain noRaw, whole]
      · rwa [Text.replaceAll_of_absent noRaw, List.length_append]
      · rwa [Text.replaceAll_of_absent noRaw, List.length_append]
    · exact Or.inr behind
  · exact Or.inl inFront

private theorem replaceAll_eq_fillOnce (plain : key.Plain) (unformed : ¬FormsTag key put template) :
    Text.replaceAll (Tag.escaped key) text (Text.replaceAll (Tag.raw key) put template) =
      fillOnce key put text template := by
  induction template using Text.occurrencesOn (Tag.raw_ne_nil key) with
  | absent template noRaw =>
      rw [Text.replaceAll_of_absent noRaw, fillOnce_of_absent plain noRaw]
  | found gap rest noRaw ih =>
      have separate : Text.Separate (Tag.escaped key) gap
          (put ++ Text.replaceAll (Tag.raw key) put rest) := by
        intro before after whole begins
        rcases beside_of_not_formsTag plain noRaw unformed whole with inFront | behind
        · exact inFront
        · omega
      have unbegun : ∀ before after, put ++ Text.replaceAll (Tag.raw key) put rest =
          before ++ Tag.escaped key ++ after → put.length ≤ before.length := by
        intro before after whole
        have further : gap ++ (put ++ Text.replaceAll (Tag.raw key) put rest) =
            gap ++ before ++ Tag.escaped key ++ after := by
          rw [whole]
          simp only [List.append_assoc]
        have beside := beside_of_not_formsTag plain noRaw unformed further
        simp only [List.length_append] at beside
        have positive := List.length_pos_iff.mpr (Tag.escaped_ne_nil key)
        omega
      have later := ih fun forms => unformed (forms.inFront plain noRaw)
      rw [replaceAll_gap plain noRaw, separate.replaceAll_append (Tag.escaped_ne_nil key),
        Text.replaceAll_of_unbegun (Tag.escaped_ne_nil key) unbegun, later,
        fillOnce_gap plain noRaw, List.append_assoc]

/-- What filling makes of a template. If no tag is formed, it is what one pass makes; a tag that is
formed is filled, and so is every other one in front of it and behind it. -/
def Filled (key put text template result : Text) : Prop :=
  (¬FormsTag key put template → result = fillOnce key put text template) ∧
    ∀ front back, TagFormed key put template front back →
      result = Text.replaceAll (Tag.escaped key) text front ++ text ++
        Text.replaceAll (Tag.escaped key) text back

private theorem filled_replaceAll (plain : key.Plain) (put text template : Text) :
    Filled key put text template
      (Text.replaceAll (Tag.escaped key) text (Text.replaceAll (Tag.raw key) put template)) := by
  constructor
  · exact replaceAll_eq_fillOnce plain
  · rintro front back ⟨_, _, _, shown, _, _⟩
    rw [shown, (Tag.apart_escaped plain).replaceAll_append (Tag.escaped_ne_nil key)]

/-! ### Tags that are there -/

/-- The template has a tag of the name that is not the inside of a raw one. -/
def HasEscapedTag (key template : Text) : Prop :=
  ∃ left right, template = left ++ Tag.escaped key ++ right ∧
    ¬(left.getLast? = some '{' ∧ right.head? = some '}')

private theorem raw_infix_of_braces
    (opens : front.getLast? = some '{') (closes : back.head? = some '}') :
    Tag.raw key <:+: front ++ Tag.escaped key ++ back := by
  obtain ⟨before, rfl⟩ := List.getLast?_eq_some_iff.mp opens
  obtain ⟨after, rfl⟩ := List.head?_eq_some_iff.mp closes
  exact ⟨before, after, by simp [Tag.raw_eq]⟩

private theorem inside_or_behind_raw (plain : key.Plain)
    (whole : Tag.raw key ++ rest = front ++ Tag.escaped key ++ back) :
    front = ['{'] ∧ back = '}' :: rest ∨
      ∃ later, front = Tag.raw key ++ later ∧ rest = later ++ Tag.escaped key ++ back := by
  cases front with
  | nil => exact absurd ⟨back, whole.symm⟩ (Tag.not_escaped_prefix_raw plain)
  | cons c front =>
      rw [Tag.raw_eq, List.cons_append, List.cons_append, List.cons_append] at whole
      obtain ⟨rfl, inside⟩ := List.cons.inj whole
      rw [List.append_assoc, List.append_assoc, List.singleton_append] at inside
      cases front with
      | nil => exact Or.inl ⟨rfl, (List.append_cancel_left inside).symm⟩
      | cons d front =>
          have separate := (Tag.apart_escaped plain).separate (Nat.le_refl _) (d :: front) back
          have atFront : d :: front ++ (Tag.escaped key ++ back) =
              [] ++ Tag.escaped key ++ '}' :: rest := inside.symm
          obtain ⟨others, split, tail⟩ :=
            separate.exists_eq_append_of_begins atFront (Nat.succ_pos _)
          cases others with
          | nil => exact absurd (List.cons.inj tail).1 (by decide)
          | cons closing later =>
              obtain ⟨rfl, behind⟩ := List.cons.inj tail
              refine Or.inr ⟨later, ?_, ?_⟩
              · rw [split, Tag.raw_eq]
                simp
              · rw [List.append_assoc]
                exact behind

private theorem hasEscapedTag_of_occurs (plain : key.Plain) (unformed : ¬FormsTag key put template)
    (present : Tag.escaped key <:+: Text.replaceAll (Tag.raw key) put template) :
    HasEscapedTag key template := by
  induction template using Text.occurrencesOn (Tag.raw_ne_nil key) with
  | absent template noRaw =>
      rw [Text.replaceAll_of_absent noRaw] at present
      obtain ⟨left, right, rfl⟩ := present
      exact ⟨left, right, rfl, fun braces => noRaw (raw_infix_of_braces braces.1 braces.2)⟩
  | found gap rest noRaw ih =>
      rw [replaceAll_gap plain noRaw] at present
      obtain ⟨front, back, whole⟩ := present
      rcases beside_of_not_formsTag plain noRaw unformed whole.symm with inFront | behind
      · have begins : front ++ Tag.escaped key <+: gap ++ (put ++ _) := ⟨back, whole⟩
        obtain ⟨others, split⟩ := List.prefix_of_prefix_length_le begins (List.prefix_append _ _)
          (by rwa [List.length_append])
        refine ⟨front, others ++ Tag.raw key ++ rest, by rw [← split]; simp, ?_⟩
        rintro ⟨opens, closes⟩
        apply noRaw
        rw [← split]
        cases others with
        | nil => exact absurd (Option.some.inj closes) (by decide)
        | cons c others => exact raw_infix_of_braces opens closes
      · rw [← List.append_assoc, List.append_assoc front] at whole
        have begun : gap ++ put <+: front ++ (Tag.escaped key ++ back) := ⟨_, whole.symm⟩
        obtain ⟨later, split⟩ := List.prefix_of_prefix_length_le begun (List.prefix_append _ _)
          (by rwa [List.length_append])
        rw [← split, List.append_assoc (gap ++ put)] at whole
        have inRest := List.append_cancel_left whole
        obtain ⟨left, right, rfl, outside⟩ := ih
          (fun forms => unformed (forms.inFront plain noRaw))
          ⟨later, back, by rw [← inRest, List.append_assoc]⟩
        refine ⟨gap ++ Tag.raw key ++ left, right, by simp only [List.append_assoc], ?_⟩
        rintro ⟨opens, closes⟩
        rcases List.eq_nil_or_concat left with rfl | ⟨before, last, rfl⟩
        · rw [List.append_nil, Tag.raw_eq, ← List.cons_append, ← List.append_assoc,
            List.getLast?_concat] at opens
          exact absurd (Option.some.inj opens) (by decide)
        · rw [List.concat_eq_append, ← List.append_assoc, List.getLast?_concat] at opens
          exact outside ⟨by rw [List.concat_eq_append, List.getLast?_concat, opens], closes⟩

private theorem occurs_of_hasEscapedTag (plain : key.Plain) (tagged : HasEscapedTag key template)
    (put : Text) : Tag.escaped key <:+: Text.replaceAll (Tag.raw key) put template := by
  induction template using Text.occurrencesOn (Tag.raw_ne_nil key) with
  | absent template noRaw =>
      obtain ⟨left, right, whole, _⟩ := tagged
      rw [Text.replaceAll_of_absent noRaw]
      exact ⟨left, right, whole.symm⟩
  | found gap rest noRaw ih =>
      obtain ⟨left, right, whole, outside⟩ := tagged
      rw [replaceAll_gap plain noRaw]
      rw [List.append_assoc gap] at whole
      have separate :=
        (Tag.apart_escaped_raw plain).separate (Tag.length_escaped_le key) gap rest
      rcases Nat.lt_or_ge left.length gap.length with begins | behind
      · exact (separate.occurs whole begins).trans (List.prefix_append _ _).isInfix
      · rw [List.append_assoc left] at whole
        have begun : gap <+: left ++ (Tag.escaped key ++ right) := ⟨_, whole⟩
        obtain ⟨later, rfl⟩ := List.prefix_of_prefix_length_le begun (List.prefix_append _ _) behind
        rw [List.append_assoc gap] at whole
        have atRaw := List.append_cancel_left whole
        rw [← List.append_assoc later] at atRaw
        rcases inside_or_behind_raw plain atRaw with ⟨rfl, rfl⟩ | ⟨others, rfl, rfl⟩
        · exact absurd ⟨List.getLast?_concat, rfl⟩ outside
        · have inRest := ih ⟨others, right, rfl, fun braces => outside ⟨?_, braces.2⟩⟩
          · exact inRest.trans ((List.suffix_append put _).trans (List.suffix_append gap _)).isInfix
          · rw [List.getLast?_append, List.getLast?_append, braces.1]
            rfl

private theorem occursIn_filled_iff (plain : key.Plain) (put template : Text) :
    Text.occursIn (Tag.escaped key) (Text.replaceAll (Tag.raw key) put template) = true ↔
      HasEscapedTag key template ∨ FormsTag key put template := by
  rw [Text.occursIn_iff]
  constructor
  · intro present
    by_cases forms : FormsTag key put template
    · exact Or.inr forms
    · exact Or.inl (hasEscapedTag_of_occurs plain forms present)
  · rintro (tagged | ⟨front, back, _, _, _, shown, _⟩)
    · exact occurs_of_hasEscapedTag plain tagged put
    · exact ⟨front, back, shown.symm⟩

end Substitution

/-! ### Invocations -/

def Trail.invokedTimes (trail : Trail) (source times : Nat) : Trail :=
  { trail with invoked := List.replicate times source ++ trail.invoked }

private theorem Trail.invocations_invokedTimes (trail : Trail) (source times : Nat) :
    (trail.invokedTimes source times).invocations source = trail.invocations source + times := by
  simp only [invocations, invokedTimes, List.count_append, List.count_replicate_self]
  omega

private theorem Trail.invokedTimes_invokedTimes (trail : Trail) (source first second : Nat) :
    (trail.invokedTimes source first).invokedTimes source second =
      trail.invokedTimes source (first + second) := by
  simp only [invokedTimes, ← List.append_assoc, List.replicate_append_replicate]
  rw [Nat.add_comm]

namespace Substitution

open Rendering

/-- A deferred text is invoked once for a form of tag that is there. -/
def invocationsFor (tag template : Text) : Nat :=
  if Text.occursIn tag template then 1 else 0

private theorem fillForm_eq (tag : Text) (written : Text → Text) (source : Deferred)
    (template : Text)
    (trail : Trail) :
    fillForm tag written source template trail =
      some (Text.replaceAll tag (written (source.produce (trail.invocations source.source)))
        template, trail.invokedTimes source.source (invocationsFor tag template)) := by
  unfold fillForm invocationsFor
  by_cases present : Text.occursIn tag template = true
  · rw [if_pos present, if_pos present]
    rfl
  · rw [if_neg present, if_neg present, Text.replaceAll_of_not_occursIn present]
    rfl

private theorem fillDeferred_apply (key template : Text) (source : Deferred) (trail : Trail) :
    let raws := invocationsFor (Tag.raw key) template
    let asked := trail.invocations source.source
    let left := Text.replaceAll (Tag.raw key) (source.produce asked) template
    fillDeferred key source template trail =
      some (Text.replaceAll (Tag.escaped key) (Markup.escape (source.produce (asked + raws))) left,
        trail.invokedTimes source.source (raws + invocationsFor (Tag.escaped key) left)) := by
  intro raws asked left
  rw [fillDeferred_eq]
  refine bind_eq_some_iff.mpr ⟨_, _, fillForm_eq _ _ _ _ _, ?_⟩
  rw [fillForm_eq, Trail.invocations_invokedTimes, Trail.invokedTimes_invokedTimes]
  rfl

private theorem invocationsFor_le (tag template : Text) : invocationsFor tag template ≤ 1 := by
  unfold invocationsFor
  split <;> omega

private theorem invocationsFor_eq_one_iff (tag template : Text) :
    invocationsFor tag template = 1 ↔ Text.occursIn tag template = true := by
  unfold invocationsFor
  split <;> simp_all

/-- Filling the tags of a name with a value or with a deferred text makes what one pass makes, as
long as the texts put in for raw tags form no tag of the name. A deferred text is invoked for the
raw tags if there is one, and then once more exactly if another tag is there or is formed. -/
theorem tags_filled_in_one_pass_unless_formed {key : Text} (plain : key.Plain)
    (value template : Text) (source : Deferred) (trail : Trail) :
    Filled key value (Markup.escape value) template (fillScalar key value template) ∧
      ∃ result again,
        let raws := if Text.occursIn (Tag.raw key) template then 1 else 0
        let asked := trail.invocations source.source
        let put := source.produce asked
        fillDeferred key source template trail =
            some (result, trail.invokedTimes source.source (raws + again)) ∧
          Filled key put (Markup.escape (source.produce (asked + raws))) template result ∧
          again ≤ 1 ∧ (again = 1 ↔ HasEscapedTag key template ∨ FormsTag key put template) := by
  constructor
  · exact filled_replaceAll plain value (Markup.escape value) template
  · refine ⟨_, _, fillDeferred_apply key template source trail, ?_, invocationsFor_le _ _, ?_⟩
    · exact filled_replaceAll plain _ _ template
    · rw [invocationsFor_eq_one_iff, occursIn_filled_iff plain]

/-- A value that has a tag of its own name in it: what the raw tag was filled with is filled again,
and a deferred text is invoked for it. -/
theorem tag_formed_by_value :
    let value : Text := "a{{k}}".toList
    let source : Deferred := ⟨0, fun _ => value⟩
    Text.Plain ['k'] ∧ TagFormed ['k'] value (Tag.raw ['k']) ['a'] [] ∧
      fillScalar ['k'] value (Tag.raw ['k']) = "aa{{k}}".toList ∧
      fillOnce ['k'] value (Markup.escape value) (Tag.raw ['k']) = value ∧
      ¬HasEscapedTag ['k'] (Tag.raw ['k']) ∧
      fillDeferred ['k'] source (Tag.raw ['k']) Trail.empty =
        some ("aa{{k}}".toList, Trail.empty.invokedTimes 0 2) ∧
      Filled ['k'] value (Markup.escape value) (Tag.raw ['k']) "aa{{k}}".toList := by
  intro value source
  have plain : Text.Plain ['k'] := by decide
  have formed : TagFormed ['k'] value (Tag.raw ['k']) ['a'] [] :=
    ⟨[], [], rfl, by decide +kernel, by decide +kernel, by decide +kernel⟩
  have scalar : fillScalar ['k'] value (Tag.raw ['k']) = "aa{{k}}".toList := by decide +kernel
  have onePass : fillOnce ['k'] value (Markup.escape value) (Tag.raw ['k']) = value := by
    decide +kernel
  have deferred : fillDeferred ['k'] source (Tag.raw ['k']) Trail.empty =
      some ("aa{{k}}".toList, Trail.empty.invokedTimes 0 2) := by
    decide +kernel
  have untagged : ¬HasEscapedTag ['k'] (Tag.raw ['k']) := by
    rintro ⟨left, right, whole, outside⟩
    rw [← List.append_nil (Tag.raw ['k'])] at whole
    rcases inside_or_behind_raw plain whole with ⟨rfl, rfl⟩ | ⟨later, _, none⟩
    · exact outside ⟨rfl, rfl⟩
    · simp [Tag.escaped, Tag.opening] at none
  have filled := (tags_filled_in_one_pass_unless_formed plain value (Tag.raw ['k']) source
    Trail.empty).1
  rw [scalar] at filled
  exact ⟨plain, formed, scalar, onePass, untagged, deferred, filled⟩

end Substitution
end TextTemplate
