/-!
# Text and the occurrences of one text in another

Text is a list of characters. This file holds the searches that the templating operations are
built from: splitting a text at the first occurrence of another, replacing the first or every
occurrence, and dropping the line breaks at the front.

The main statements say that splitting loses nothing (`eq_append_of_cut?`) and that what follows
the occurrence is shorter than the text (`length_of_cut?`), on which the recursions of this
project rest.
-/

set_option autoImplicit false

namespace TextTemplate

abbrev Text := List Char

namespace Text

/-! ### Splitting at an occurrence -/

def after? : Text → Text → Option Text
  | [], text => some text
  | _ :: _, [] => none
  | c :: lead, d :: text => if c = d then after? lead text else none

theorem eq_append_of_after? {lead text rest : Text} (begins : after? lead text = some rest) :
    text = lead ++ rest := by
  induction lead generalizing text with
  | nil => exact Option.some.inj begins
  | cons c lead ih =>
      cases text with
      | nil => cases begins
      | cons d text =>
          unfold after? at begins
          split at begins
          · next same => rw [ih begins, same, List.cons_append]
          · cases begins

/-- Search for `needle`, holding the characters already passed in reverse order. -/
def cutFrom (needle passed : Text) : Text → Option (Text × Text)
  | [] => (after? needle []).map (passed.reverse, ·)
  | c :: text =>
      match after? needle (c :: text) with
      | some rest => some (passed.reverse, rest)
      | none => cutFrom needle (c :: passed) text

def cut? (needle text : Text) : Option (Text × Text) :=
  cutFrom needle [] text

theorem eq_append_of_cutFrom {needle passed text before rest : Text}
    (found : cutFrom needle passed text = some (before, rest)) :
    passed.reverse ++ text = before ++ needle ++ rest := by
  induction text generalizing passed with
  | nil =>
      obtain ⟨tail, atFront, equal⟩ := Option.map_eq_some_iff.mp found
      obtain ⟨rfl, rfl⟩ := Prod.mk.inj equal
      rw [List.append_assoc, ← eq_append_of_after? atFront]
  | cons c text ih =>
      unfold cutFrom at found
      split at found
      · next tail atFront =>
          obtain ⟨rfl, rfl⟩ := Prod.mk.inj (Option.some.inj found)
          rw [List.append_assoc, ← eq_append_of_after? atFront]
      · simpa using ih found

theorem eq_append_of_cut? {needle text before rest : Text}
    (found : cut? needle text = some (before, rest)) : text = before ++ needle ++ rest := by
  simpa using eq_append_of_cutFrom found

theorem length_of_cut? {needle text before rest : Text}
    (found : cut? needle text = some (before, rest)) :
    text.length = before.length + needle.length + rest.length := by
  rw [eq_append_of_cut? found]
  simp [Nat.add_assoc]

/-! ### Occurrence and replacement -/

def occursIn (needle text : Text) : Bool :=
  (cut? needle text).isSome

def replaceFirst (needle replacement text : Text) : Text :=
  match cut? needle text with
  | none => text
  | some (before, rest) => before ++ replacement ++ rest

/-- Replace every occurrence of a needle that is not empty, from left to right. What is put in is
not searched again. An empty needle leaves the text alone. -/
def replaceAll (needle replacement text : Text) : Text :=
  if needle.isEmpty then text
  else
    match _found : cut? needle text with
    | none => text
    | some (before, rest) => before ++ replacement ++ replaceAll needle replacement rest
  termination_by text.length
  decreasing_by
    rename_i notEmpty
    have whole := length_of_cut? _found
    have positive : 0 < needle.length := by
      cases needle with
      | nil => exact absurd rfl notEmpty
      | cons _ _ => exact Nat.succ_pos _
    omega

/-! ### Line breaks -/

def leadingBreaks (text : Text) : Text :=
  text.takeWhile (· == '\n')

def dropBreaks (text : Text) : Text :=
  text.dropWhile (· == '\n')

theorem leadingBreaks_append_dropBreaks (text : Text) :
    leadingBreaks text ++ dropBreaks text = text :=
  List.takeWhile_append_dropWhile

theorem length_dropBreaks_le (text : Text) : (dropBreaks text).length ≤ text.length := by
  have whole := congrArg List.length (leadingBreaks_append_dropBreaks text)
  simp only [List.length_append] at whole
  omega

end Text
end TextTemplate
