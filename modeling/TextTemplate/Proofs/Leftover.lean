import TextTemplate.Cleanup
import TextTemplate.Proofs.Search

/-!
# No tag is left over

What is removed begins at the first two opening braces there are. So what is kept in front of it has
no two of them, and does not end in one that could make two with what comes behind. Nothing new can
come about where texts are joined, and a second cleanup finds nothing to remove.
-/

set_option autoImplicit false

namespace TextTemplate.Cleanup

/-- Two opening braces, and anywhere behind them two closing ones. -/
def HasTag (text : Text) : Prop :=
  ∃ front content back, text = front ++ Tag.opening ++ content ++ Tag.closing ++ back

variable {text gap inside rest : Text}

/-! ### The text in front of the first tag -/

private theorem passes_of_cut? (found : Text.cut? Tag.opening text = some (gap, inside)) :
    Text.Passes Tag.opening gap := by
  induction gap generalizing text with
  | nil => exact Text.Passes.nil Tag.opening
  | cons c gap ih =>
      have whole : text = c :: (gap ++ Tag.opening ++ inside) := Text.eq_append_of_cut? found
      subst whole
      have notHere : ¬Tag.opening <+: c :: (gap ++ Tag.opening ++ inside) := by
        rintro ⟨tail, equal⟩
        rw [← equal, Text.cut?_append] at found
        cases found
      have later : Text.cut? Tag.opening (gap ++ Tag.opening ++ inside) = some (gap, inside) := by
        rw [Text.cut?_cons notHere] at found
        obtain ⟨⟨before, after⟩, within, equal⟩ := Option.map_eq_some_iff.mp found
        cases equal
        exact within
      intro behind
      apply (ih later).cut?_cons
      intro begins
      obtain ⟨same, second⟩ := List.cons_prefix_cons.mp begins
      apply notHere
      cases gap with
      | nil => exact List.cons_prefix_cons.mpr ⟨same, ⟨'{' :: inside, rfl⟩⟩
      | cons d gap =>
          obtain ⟨next, _⟩ := List.cons_prefix_cons.mp second
          exact List.cons_prefix_cons.mpr
            ⟨same, List.cons_prefix_cons.mpr ⟨next, List.nil_prefix⟩⟩

theorem nextTag?_inFront (passes : Text.Passes Tag.opening gap) (rest : Text) :
    nextTag? (gap ++ rest) = (nextTag? rest).map (Text.inFront gap) := by
  simp only [nextTag?, bind, passes rest]
  cases Text.cut? Tag.opening rest with
  | none => rfl
  | some parts =>
      obtain ⟨before, inside⟩ := parts
      simp only [Option.map_some, Text.inFront, Option.bind_some]
      cases Text.cut? Tag.closing inside with
      | none => rfl
      | some _ => rfl

theorem nextTag?_eq_some (taken : nextTag? text = some (gap, rest)) :
    ∃ inside, Text.cut? Tag.opening text = some (gap, inside) := by
  unfold nextTag? at taken
  simp only [bind, Option.bind_eq_some_iff, Prod.exists] at taken
  obtain ⟨before, inside, opened, content, after, closed, equal⟩ := taken
  cases equal
  exact ⟨inside, opened⟩

/-! ### Where nothing is left -/

private theorem nextTag?_removeTags (text : Text) : nextTag? (removeTags text) = none := by
  fun_induction removeTags text with
  | case1 text absent => exact absent
  | case2 text gap rest taken ih =>
      obtain ⟨inside, opened⟩ := nextTag?_eq_some taken
      rw [nextTag?_inFront (passes_of_cut? opened), ih]
      rfl

private theorem cut?_closing_eq_none (absent : nextTag? text = none)
    (opened : Text.cut? Tag.opening text = some (gap, inside)) :
    Text.cut? Tag.closing inside = none := by
  cases closed : Text.cut? Tag.closing inside with
  | none => rfl
  | some parts =>
      simp only [nextTag?, bind, opened, closed, Option.bind_some] at absent
      cases absent

private theorem not_hasTag_of_nextTag? (absent : nextTag? text = none) : ¬HasTag text := by
  rintro ⟨front, content, back, whole⟩
  have split : text = front ++ Tag.opening ++ (content ++ Tag.closing ++ back) := by
    rw [whole]
    simp only [List.append_assoc]
  cases opened : Text.cut? Tag.opening text with
  | none => exact Text.not_infix_of_cut?_eq_none opened ⟨front, _, split.symm⟩
  | some parts =>
      obtain ⟨gap, inside⟩ := parts
      apply Text.not_infix_of_cut?_eq_none (cut?_closing_eq_none absent opened)
      have within := Text.suffix_of_cut? opened split
      exact List.IsInfix.trans ⟨content, back, rfl⟩ within.isInfix

theorem removeTags_eq_self (absent : nextTag? text = none) : removeTags text = text := by
  rw [removeTags]
  split
  · rfl
  · next taken => rw [absent] at taken; cases taken

private theorem nextBlock?_eq_none (absent : nextTag? text = none) : nextBlock? text = none := by
  cases opened : Text.cut? Tag.opening text with
  | none => simp only [nextBlock?, bind, opened, Option.bind_none]
  | some parts =>
      have unclosed := cut?_closing_eq_none absent opened
      simp only [nextBlock?, bind, opened, unclosed, Option.bind_some, Option.bind_none]

theorem removeBlocks_eq_self (absent : nextBlock? text = none) : removeBlocks text = text := by
  rw [removeBlocks]
  split
  · rfl
  · next taken => rw [absent] at taken; cases taken

/-- A cleanup leaves no tag, and so a second one changes nothing. -/
theorem stripUnresolved_leaves_no_tag (text : Text) :
    ¬HasTag (stripUnresolved text) ∧
      stripUnresolved (stripUnresolved text) = stripUnresolved text := by
  have absent : nextTag? (stripUnresolved text) = none := nextTag?_removeTags (removeBlocks text)
  constructor
  · exact not_hasTag_of_nextTag? absent
  · calc stripUnresolved (stripUnresolved text)
        = removeTags (removeBlocks (stripUnresolved text)) := rfl
      _ = removeTags (stripUnresolved text) := by
          rw [removeBlocks_eq_self (nextBlock?_eq_none absent)]
      _ = stripUnresolved text := removeTags_eq_self absent

end TextTemplate.Cleanup
