import TextTemplate.Proofs.Flat

/-!
# Filling all tags at once

A context of scalars fills the tags of one name after the other, and searches all of the text again
for each. In a flat template, texts without braces bring no tag along and join none, so this comes to
looking at every token once and filling it with the text its content is bound to. What a name is
bound to does not hang on the order of the entries, and so neither does the outcome.
-/

set_option autoImplicit false

namespace TextTemplate

def Value.text? : Value → Option Text
  | .scalar text => some text
  | _ => none

def Entries.text? (scope : Context) (name : Text) : Option Text :=
  (scope.find? (fun entry => entry.1 = name)).bind fun entry => entry.2.text?

namespace Token

/-! ### One look at every token -/

/-- What stands in the place of a token when its content is looked up. -/
def filled (bound : Text → Option Text) : Token → Text
  | .char c _ => [c]
  | .escaped content _ => ((bound content).map Markup.escape).getD (Tag.escaped content)
  | .raw content _ _ => (bound content).getD (Tag.raw content)

def fillAll (bound : Text → Option Text) (tokens : List Token) : Text :=
  tokens.flatMap (filled bound)

variable {bound : Text → Option Text} {key text : Text}

private theorem fillAll_none (tokens : List Token) :
    fillAll (fun _ => none) tokens = printAll tokens := by
  have each : filled (fun _ => none) = print := by
    funext token
    cases token <;> rfl
  rw [fillAll, each, printAll]

/-! ### Filling the tags of one name -/

def ofText : (text : Text) → text.Plain → List Token
  | [], _ => []
  | c :: text, plain =>
      .char c (Text.plain_cons_iff.mp plain).1 :: ofText text (Text.plain_cons_iff.mp plain).2

private theorem printAll_ofText (plain : text.Plain) : printAll (ofText text plain) = text := by
  induction text with
  | nil => rfl
  | cons c text ih =>
      rw [ofText, printAll_cons, ih]
      rfl

private theorem fillAll_ofText (plain : text.Plain) : fillAll bound (ofText text plain) = text := by
  induction text with
  | nil => rfl
  | cons c text ih =>
      rw [ofText, fillAll, List.flatMap_cons]
      exact congrArg (c :: ·) (ih _)

def fillOne (key : Text) (text : Text) (plain : text.Plain) (token : Token) : List Token :=
  match token with
  | .char c notBrace => [.char c notBrace]
  | .escaped content contentPlain =>
      if content = key then ofText (Markup.escape text) (Flat.plain_escape plain)
      else [.escaped content contentPlain]
  | .raw content contentPlain unmarked =>
      if content = key then ofText text plain else [.raw content contentPlain unmarked]

private theorem fillOne_of_without {token : Token} (plain : text.Plain)
    (other : token.Without key) :
    fillOne key text plain token = [token] := by
  cases token with
  | char c notBrace => rfl
  | escaped content contentPlain => exact if_neg fun same => other (congrArg some same)
  | raw content contentPlain unmarked => exact if_neg fun same => other (congrArg some same)

private theorem passes_tag_of_plain (plain : text.Plain) (key : Text) :
    Text.Passes (Tag.escaped key) text :=
  Text.Passes.of_not_mem plain.1

private theorem fillScalar_cons (keyPlain : key.Plain) (plain : text.Plain) (token : Token)
    (rest : Text) :
    Substitution.fillScalar key text (token.print ++ rest) =
      printAll (fillOne key text plain token) ++ Substitution.fillScalar key text rest := by
  have rawTag : Tag.raw key ≠ [] := List.cons_ne_nil _ _
  have escapedTag : Tag.escaped key ≠ [] := List.cons_ne_nil _ _
  unfold Substitution.fillScalar
  by_cases other : token.Without key
  · have notRaw := not_isRaw_of_without other
    rw [fillOne_of_without plain other, (clear_raw keyPlain notRaw).passes.replaceAll_eq rawTag,
      (clear_escaped keyPlain other).passes.replaceAll_eq escapedTag]
    simp
  · cases token with
    | char c notBrace => exact absurd (Option.some_ne_none key).symm other
    | escaped content contentPlain =>
        have same : content = key := by simpa [Without, content?] using other
        subst same
        have notRaw : ¬(escaped content contentPlain).IsRaw content := id
        rw [(clear_raw keyPlain notRaw).passes.replaceAll_eq rawTag]
        simp only [print, fillOne, if_pos, printAll_ofText]
        rw [Text.replaceAll_append escapedTag]
    | raw content contentPlain unmarked =>
        have same : content = key := by simpa [Without, content?] using other
        subst same
        simp only [print, fillOne, if_pos, printAll_ofText]
        rw [Text.replaceAll_append rawTag,
          (passes_tag_of_plain plain content).replaceAll_eq escapedTag]

private theorem fillScalar_printAll (keyPlain : key.Plain) (plain : text.Plain)
    (tokens : List Token) :
    Substitution.fillScalar key text (printAll tokens) =
      printAll (tokens.flatMap (fillOne key text plain)) := by
  induction tokens with
  | nil =>
      have nothing : ∀ tag replacement, Text.cut? tag [] = none →
          Text.replaceAll tag replacement [] = [] :=
        fun _ replacement absent => Text.replaceAll_of_cut?_eq_none absent replacement
      simp only [printAll_nil, List.flatMap_nil, Substitution.fillScalar]
      rw [nothing _ _ rfl, nothing _ _ rfl]
  | cons token tokens ih =>
      rw [printAll_cons, fillScalar_cons keyPlain plain, ih, List.flatMap_cons, printAll_append]

private theorem fillAll_fillOne (plain : text.Plain) (tokens : List Token) :
    fillAll bound (tokens.flatMap (fillOne key text plain)) =
      fillAll (fun name => if name = key then some text else bound name) tokens := by
  have each : ∀ token, fillAll bound (fillOne key text plain token) =
      filled (fun name => if name = key then some text else bound name) token := by
    intro token
    cases token with
    | char c notBrace => rfl
    | escaped content contentPlain =>
        by_cases same : content = key
        · simp [fillOne, same, fillAll_ofText, filled]
        · simp [fillOne, same, fillAll, filled]
    | raw content contentPlain unmarked =>
        by_cases same : content = key
        · simp [fillOne, same, fillAll_ofText, filled]
        · simp [fillOne, same, fillAll, filled]
  induction tokens with
  | nil => rfl
  | cons token tokens ih =>
      have split : fillAll bound ((token :: tokens).flatMap (fillOne key text plain)) =
          fillAll bound (fillOne key text plain token) ++
            fillAll bound (tokens.flatMap (fillOne key text plain)) := by
        rw [List.flatMap_cons]
        exact List.flatMap_append
      rw [split, each, ih]
      rfl

end Token

/-! ### What a name is bound to -/

namespace Entries

variable {scope other : Context}

private theorem text?_cons (key text : Text) (scope : Context) :
    text? ((key, .scalar text) :: scope) =
      fun name => if name = key then some text else text? scope name := by
  funext name
  by_cases same : name = key
  · simp [text?, same, Value.text?]
  · have different : ¬key = name := fun equal => same equal.symm
    simp [text?, same, different]

private theorem text?_eq_of_perm (perm : scope.Perm other) (distinct : (scope.map Prod.fst).Nodup) :
    text? scope = text? other := by
  funext name
  unfold text?
  congr 1
  induction perm with
  | nil => rfl
  | cons entry _ ih =>
      rw [List.map_cons, List.nodup_cons] at distinct
      rw [List.find?_cons, List.find?_cons, ih distinct.2]
  | swap first second rest =>
      have apart : ¬second.1 = first.1 := by simp_all
      by_cases isFirst : first.1 = name
      · have notSecond : ¬second.1 = name := fun same => apart (same.trans isFirst.symm)
        simp [isFirst, notSecond]
      · simp [List.find?_cons, isFirst]
  | trans first _ ihFirst ihSecond =>
      have between := (first.map Prod.fst).nodup_iff.mp distinct
      rw [ihFirst distinct, ihSecond between]

end Entries

/-! ### Contexts of scalars -/

def Trail.noteScalars (trail : Trail) (scope : Context) : Trail :=
  scope.foldl (fun trail entry => trail.note (.substituting entry.1 .scalar)) trail

private theorem substituteWithin_of_scalars {scope : Context}
    (scalars : ∀ entry ∈ scope, entry.2.kind = .scalar)
    (plain : Entries.Every Text.Plain Text.Plain scope) (tokens : List Token) (depth : Nat)
    (root : Context) (trail : Trail) :
    substituteWithin depth (Token.printAll tokens) scope root trail =
      some (Token.fillAll (Entries.text? scope) tokens, trail.noteScalars scope) := by
  unfold substituteWithin
  -- By induction on the entries, for all tokens: what the first entry leaves are tokens again.
  induction scope generalizing tokens trail with
  | nil => exact congrArg (fun text => some (text, trail)) (Token.fillAll_none tokens).symm
  | cons entry scope ih =>
      obtain ⟨key, value⟩ := entry
      obtain ⟨⟨keyPlain, valuePlain⟩, restPlain⟩ := List.forall_mem_cons.mp plain
      obtain ⟨isScalar, restScalars⟩ := List.forall_mem_cons.mp scalars
      cases valuePlain with
      | @scalar text textPlain =>
          have rest := ih restScalars restPlain (tokens.flatMap (Token.fillOne key text textPlain))
            (trail.note (.substituting key .scalar))
          rw [← Token.fillScalar_printAll keyPlain textPlain, Token.fillAll_fillOne textPlain,
            ← Entries.text?_cons] at rest
          rw [List.foldlM_cons]
          exact rest
      | boolean truth => cases isScalar
      | list values => cases isScalar
      | map names values => cases isScalar
      | deferred produced => cases isScalar
      | unsupported => cases isScalar

/-- Scalars without braces fill a flat template as if all tags were filled at once, in whatever order
the context has them. -/
theorem scalars_filled_at_once_in_any_order {scope other : Context}
    (scalars : ∀ entry ∈ scope, entry.2.kind = .scalar)
    (plain : Entries.Every Text.Plain Text.Plain scope) (distinct : (scope.map Prod.fst).Nodup)
    (perm : other.Perm scope) (tokens : List Token) (depth : Nat) (root : Context)
    (trail : Trail) :
    substituteWithin depth (Token.printAll tokens) other root trail =
      some (Token.fillAll (Entries.text? scope) tokens, trail.noteScalars other) := by
  have otherScalars : ∀ entry ∈ other, entry.2.kind = .scalar :=
    fun entry among => scalars entry (perm.mem_iff.mp among)
  have otherPlain : Entries.Every Text.Plain Text.Plain other :=
    fun entry among => plain entry (perm.mem_iff.mp among)
  rw [substituteWithin_of_scalars otherScalars otherPlain,
    Entries.text?_eq_of_perm perm.symm distinct]

/-- A name that begins another, a text that is empty and a tag that opens a section, with the entries
in the other order. -/
theorem scalars_filled_at_once_of_shared_beginning :
    let scope : Context := [(['a'], .scalar ['<']), (['a', 'b'], .scalar [])]
    let tokens : List Token :=
      [.escaped ['a'] (by decide), .raw ['a', 'b'] (by decide) (by decide),
        .raw ['a'] (by decide) (by decide), .escaped ['#', 'a'] (by decide),
        .escaped ['c'] (by decide)]
    (∀ entry ∈ scope, entry.2.kind = .scalar) ∧ Entries.Every Text.Plain Text.Plain scope ∧
      (scope.map Prod.fst).Nodup ∧ scope.reverse.Perm scope ∧
      substituteWithin 0 (Token.printAll tokens) scope.reverse [] Trail.empty =
        some ("&lt;<{{#a}}{{c}}".toList, Trail.empty.noteScalars scope.reverse) := by
  intro scope tokens
  have scalars : ∀ entry ∈ scope, entry.2.kind = .scalar := by simp [scope, Value.kind]
  have plain : Entries.Every Text.Plain Text.Plain scope :=
    .cons (by decide) (.scalar (by decide)) (.cons (by decide) (.scalar (by decide)) .nil)
  have distinct : (scope.map Prod.fst).Nodup := by decide
  have perm : scope.reverse.Perm scope := List.reverse_perm scope
  exact ⟨scalars, plain, distinct, perm,
    scalars_filled_at_once_in_any_order scalars plain distinct perm tokens 0 [] Trail.empty⟩

end TextTemplate
