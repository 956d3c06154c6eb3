import TextTemplate.Proofs.Search

/-!
# Occurrences where texts are joined

Replacing in two texts that were put together is replacing in each of them, as long as no occurrence
runs from the first into the second. A text whose beginnings are not its ends cannot run into another
occurrence of itself, so replacing it falls apart at every place where it stands.
-/

set_option autoImplicit false

namespace TextTemplate.Text

variable {needle front back before after : Text}

theorem occursIn_iff : occursIn needle front = true ↔ needle <:+: front := by
  constructor
  · intro occurs
    obtain ⟨parts, found⟩ := Option.isSome_iff_exists.mp occurs
    exact infix_of_cut? found
  · intro present
    cases found : cut? needle front with
    | none => exact absurd present (not_infix_of_cut?_eq_none found)
    | some parts => simp [occursIn, found]

@[elab_as_elim]
theorem occurrencesOn {motive : Text → Prop} (notEmpty : needle ≠ [])
    (absent : ∀ text, ¬needle <:+: text → motive text)
    (found : ∀ gap rest, ¬needle <:+: gap → motive rest → motive (gap ++ needle ++ rest))
    (text : Text) : motive text := by
  induction measured : text.length using Nat.strongRecOn generalizing text with
  | _ size ih =>
      cases taken : cut? needle text with
      | none => exact absent text (not_infix_of_cut?_eq_none taken)
      | some parts =>
          obtain ⟨gap, rest⟩ := parts
          have whole := eq_append_of_cut? taken
          have lengths := length_of_cut? taken
          have positive := List.length_pos_iff.mpr notEmpty
          have noEarlier : ¬needle <:+: gap := by
            rintro ⟨before, after, rfl⟩
            have earlier : text = before ++ needle ++ (after ++ needle ++ rest) := by
              rw [whole]
              simp only [List.append_assoc]
            have first := length_le_of_cut? taken earlier
            simp only [List.length_append] at first
            omega
          rw [whole]
          exact found gap rest noEarlier (ih rest.length (by omega) rest rfl)

/-! ### Replacing from the front -/

theorem replaceAll_nil (notEmpty : needle ≠ []) (replacement : Text) :
    replaceAll needle replacement [] = [] := by
  apply replaceAll_of_absent
  intro present
  exact notEmpty (List.infix_nil.mp present)

theorem replaceAll_cons {c : Char} {text : Text} (notEmpty : needle ≠ [])
    (other : ¬needle <+: c :: text) (replacement : Text) :
    replaceAll needle replacement (c :: text) = c :: replaceAll needle replacement text := by
  rw [replaceAll_eq notEmpty, replaceAll_eq notEmpty, cut?_cons other]
  cases cut? needle text <;> simp [inFront]

/-! ### Two texts put together -/

/-- An occurrence that begins in the first text ends in it. -/
def Separate (needle front back : Text) : Prop :=
  ∀ before after, front ++ back = before ++ needle ++ after → before.length < front.length →
    before.length + needle.length ≤ front.length

namespace Separate

theorem behind (start : Text) (separate : Separate needle (start ++ front) back) :
    Separate needle front back := by
  intro before after whole begins
  have further : start ++ front ++ back = start ++ before ++ needle ++ after := by
    simp only [List.append_assoc] at whole ⊢
    rw [whole]
  have within := separate (start ++ before) after further
  simp only [List.length_append] at within
  omega

theorem exists_eq_append_of_begins (separate : Separate needle front back)
    (whole : front ++ back = before ++ needle ++ after) (begins : before.length < front.length) :
    ∃ rest, front = before ++ needle ++ rest ∧ after = rest ++ back := by
  have within := separate before after whole begins
  rcases List.append_eq_append_iff.mp whole with ⟨others, split, rest⟩ | ⟨rest, split, tail⟩
  · have lengths := congrArg List.length split
    simp only [List.length_append] at lengths
    have empty : others = [] := List.length_eq_zero_iff.mp (by omega)
    subst empty
    exact ⟨[], by rw [split, List.append_nil, List.append_nil], by rw [rest]; rfl⟩
  · exact ⟨rest, split, tail⟩

theorem occurs (separate : Separate needle front back)
    (whole : front ++ back = before ++ needle ++ after) (begins : before.length < front.length) :
    needle <:+: front := by
  obtain ⟨rest, split, _⟩ := separate.exists_eq_append_of_begins whole begins
  exact ⟨before, rest, split.symm⟩

theorem exists_eq_append (separate : Separate needle front back) (notEmpty : front ≠ [])
    (begins : needle <+: front ++ back) : ∃ rest, front = needle ++ rest := by
  obtain ⟨after, whole⟩ := begins
  have atFront : front ++ back = [] ++ needle ++ after := whole.symm
  obtain ⟨rest, split, _⟩ :=
    separate.exists_eq_append_of_begins atFront (List.length_pos_iff.mpr notEmpty)
  exact ⟨rest, split⟩

theorem replaceAll_append (separate : Separate needle front back) (notEmpty : needle ≠ [])
    (replacement : Text) :
    replaceAll needle replacement (front ++ back) =
      replaceAll needle replacement front ++ replaceAll needle replacement back := by
  -- By induction on the length of the first text, from which a character or an occurrence is taken.
  induction measured : front.length using Nat.strongRecOn generalizing front with
  | _ size ih =>
      cases front with
      | nil => rw [replaceAll_nil notEmpty, List.nil_append, List.nil_append]
      | cons c front =>
          by_cases begins : needle <+: c :: front ++ back
          · obtain ⟨rest, split⟩ := separate.exists_eq_append (List.cons_ne_nil c front) begins
            rw [split] at separate measured
            have shorter : rest.length < size := by
              have positive := List.length_pos_iff.mpr notEmpty
              rw [← measured, List.length_append]
              omega
            rw [split, List.append_assoc, Text.replaceAll_append notEmpty,
              Text.replaceAll_append notEmpty, ih _ shorter (separate.behind _) rfl,
              List.append_assoc]
          · have alone : ¬needle <+: c :: front :=
              fun inFront => begins (inFront.trans (List.prefix_append _ _))
            have rest : Separate needle front back := separate.behind [c]
            rw [List.cons_append] at begins ⊢
            rw [replaceAll_cons notEmpty begins, replaceAll_cons notEmpty alone,
              ih front.length (by rw [← measured]; exact Nat.lt_succ_self _) rest rfl,
              List.cons_append]

end Separate

theorem replaceAll_of_unbegun (notEmpty : needle ≠ [])
    (unbegun : ∀ before after, front ++ back = before ++ needle ++ after →
      front.length ≤ before.length) (replacement : Text) :
    replaceAll needle replacement (front ++ back) = front ++ replaceAll needle replacement back := by
  have separate : Separate needle front back := by
    intro before after whole begins
    have beyond := unbegun before after whole
    omega
  have absent : ¬needle <:+: front := by
    rintro ⟨before, after, whole⟩
    have beyond := unbegun before (after ++ back) (by rw [← whole]; simp)
    have lengths := congrArg List.length whole
    have positive := List.length_pos_iff.mpr notEmpty
    simp only [List.length_append] at lengths
    omega
  rw [separate.replaceAll_append notEmpty, replaceAll_of_absent absent]

/-! ### Texts that do not run into one another -/

/-- No end of the first text is a beginning of the second, unless it is all of the first. -/
def Apart (first second : Text) : Prop :=
  ∀ front shared back, first = front ++ shared → second = shared ++ back → shared ≠ [] → front = []

theorem Apart.separate {first second : Text} (apart : Apart first second)
    (lengths : first.length ≤ second.length) (front back : Text) :
    Separate first front (second ++ back) := by
  intro before after whole begins
  rw [List.append_assoc] at whole
  rcases List.append_eq_append_iff.mp whole with ⟨beyond, equal, _⟩ | ⟨middle, equal, rest⟩
  · have sizes := congrArg List.length equal
    simp only [List.length_append] at sizes
    omega
  · subst equal
    rcases List.append_eq_append_iff.mp rest with ⟨left, inside, _⟩ | ⟨shared, overlap, tail⟩
    · subst inside
      simp
    · have sizes := congrArg List.length overlap
      simp only [List.length_append] at sizes begins ⊢
      have begun : shared <+: second ++ back := ⟨after, tail.symm⟩
      obtain ⟨others, split⟩ :=
        List.prefix_of_prefix_length_le begun (List.prefix_append second back) (by omega)
      by_cases empty : shared = []
      · simp only [empty, List.length_nil] at sizes
        omega
      · have none_before := apart middle shared others overlap split.symm empty
        simp only [none_before, List.length_nil] at begins
        omega

theorem Apart.replaceAll_append (apart : Apart needle needle) (notEmpty : needle ≠ [])
    (replacement front back : Text) :
    replaceAll needle replacement (front ++ needle ++ back) =
      replaceAll needle replacement front ++ replacement ++ replaceAll needle replacement back := by
  have separate := apart.separate (Nat.le_refl _) front back
  rw [List.append_assoc, separate.replaceAll_append notEmpty, Text.replaceAll_append notEmpty,
    List.append_assoc]

end TextTemplate.Text
