import TextTemplate.Proofs.Bindings
import TextTemplate.Proofs.Token

/-!
# Rendering flat templates

A flat template stays flat, whatever is done to it, if the names and texts it is rendered with have
no braces; and no tag comes about that was not there. So a property of all tags of a template is a
property of all tags of what it is rendered to.
-/

set_option autoImplicit false

namespace TextTemplate

/-- The text is made of characters that are no braces and of tags that are allowed. -/
def Flat (allowed : Token → Prop) (text : Text) : Prop :=
  ∃ tokens, (∀ token ∈ tokens, token.content? = none ∨ allowed token) ∧
    Token.printAll tokens = text

namespace Flat

variable {allowed other : Token → Prop} {front back text : Text}

theorem mono (flat : Flat allowed text) (weaker : ∀ token, allowed token → other token) :
    Flat other text := by
  obtain ⟨tokens, each, printed⟩ := flat
  exact ⟨tokens, fun token present => (each token present).imp id (weaker token), printed⟩

theorem nil (allowed : Token → Prop) : Flat allowed [] :=
  ⟨[], fun _ impossible => absurd impossible List.not_mem_nil, rfl⟩

theorem append (first : Flat allowed front) (second : Flat allowed back) :
    Flat allowed (front ++ back) := by
  obtain ⟨tokens, each, rfl⟩ := first
  obtain ⟨others, eachOther, rfl⟩ := second
  refine ⟨tokens ++ others, fun token present => ?_, Token.printAll_append tokens others⟩
  exact (List.mem_append.mp present).elim (each token) (eachOther token)

theorem of_plain (plain : text.Plain) : Flat allowed text := by
  induction text with
  | nil => exact nil allowed
  | cons c text ih =>
      obtain ⟨notBrace, restPlain⟩ := Text.plain_cons_iff.mp plain
      have single : Flat allowed [c] := by
        refine ⟨[.char c notBrace], fun token present => Or.inl ?_, rfl⟩
        cases List.mem_singleton.mp present
        rfl
      exact single.append (ih restPlain)

theorem flatten {texts : List Text} (each : ∀ text ∈ texts, Flat allowed text) :
    Flat allowed texts.flatten := by
  induction texts with
  | nil => exact nil allowed
  | cons text texts ih =>
      exact (each text List.mem_cons_self).append
        (ih fun later present => each later (List.mem_cons_of_mem text present))

private theorem behind (flat : Flat allowed (front ++ back)) (known : Flat other front) :
    Flat allowed back := by
  obtain ⟨frontTokens, _, rfl⟩ := known
  obtain ⟨tokens, each, printed⟩ := flat
  obtain ⟨backTokens, rfl, rfl⟩ := Token.exists_of_printAll_append printed
  exact ⟨backTokens, fun token present => each token (List.mem_append_right _ present), rfl⟩

theorem breaks_plain (breaks : ∀ c ∈ text, c = '\n') : text.Plain :=
  ⟨fun present => absurd (breaks _ present) (by decide),
    fun present => absurd (breaks _ present) (by decide)⟩

/-! ### Cutting at a section tag -/

theorem clear {content : Text} (plain : content.Plain)
    (flat : Flat (Token.Without content) text) :
    Text.Clear (Tag.escaped content) text := by
  obtain ⟨tokens, each, rfl⟩ := flat
  intro behind
  apply Token.passes_printAll
  intro token present
  have other := (each token present).elim Token.without_of_content?_eq_none id
  exact Token.clear_escaped plain other behind

theorem absent {content : Text} (plain : content.Plain)
    (flat : Flat (Token.Without content) text) : ¬Tag.escaped content <:+: text := by
  have nowhere := (flat.clear plain).passes []
  rw [List.append_nil] at nowhere
  exact Text.not_infix_of_cut?_eq_none nowhere

private theorem cut?_append {content left before rest : Text} (plain : content.Plain)
    (marked : Tag.Marked content) (flat : Flat allowed text)
    (found : Text.cut? (Tag.escaped content ++ left) text = some (before, rest)) :
    Flat allowed before ∧ Flat allowed (left ++ rest) := by
  obtain ⟨tokens, each, rfl⟩ := flat
  obtain ⟨frontTokens, backTokens, rfl, rfl, tails, _⟩ := Token.exists_of_cut?_escaped plain
    (fun token _ => Token.not_isRaw_of_marked marked token) found
  refine ⟨⟨frontTokens, fun token present => ?_, rfl⟩,
    ⟨backTokens, fun token present => ?_, tails⟩⟩
  · exact each token (List.mem_append_left _ present)
  · exact each token (List.mem_append_right _ (List.mem_cons_of_mem _ present))

private theorem cut? {content before rest : Text} (plain : content.Plain)
    (marked : Tag.Marked content)
    (flat : Flat allowed text)
    (found : Text.cut? (Tag.escaped content) text = some (before, rest)) :
    Flat (fun token => allowed token ∧ token.Without content) before ∧
      allowed (.escaped content plain) ∧ Flat allowed rest := by
  obtain ⟨tokens, each, rfl⟩ := flat
  rw [← List.append_nil (Tag.escaped content)] at found
  obtain ⟨frontTokens, backTokens, rfl, rfl, tails, first⟩ := Token.exists_of_cut?_escaped plain
    (fun token _ => Token.not_isRaw_of_marked marked token) found
  refine ⟨⟨frontTokens, fun token present => ?_, rfl⟩, ?_,
    ⟨backTokens, fun token present => ?_, tails⟩⟩
  · exact (each token (List.mem_append_left _ present)).imp id
      fun holds => ⟨holds, first rfl token present⟩
  · exact (each _ (List.mem_append_right _ List.mem_cons_self)).resolve_left (Option.some_ne_none _)
  · exact each token (List.mem_append_right _ (List.mem_cons_of_mem _ present))

/-! ### Sections -/

theorem marked_sigil (kind : SectionKind) (name : Text) : Tag.Marked (kind.sigil :: name) := by
  cases kind with
  | positive => exact Or.inl rfl
  | negative => exact Or.inr (Or.inl rfl)

theorem sigil_ne_slash (kind : SectionKind) : kind.sigil ≠ '/' := by
  cases kind with
  | positive => decide
  | negative => decide

theorem sigil_injective {first second : SectionKind} (same : first.sigil = second.sigil) :
    first = second := by
  cases first with
  | positive =>
      cases second with
      | positive => rfl
      | negative => exact absurd same (by decide)
  | negative =>
      cases second with
      | positive => exact absurd same (by decide)
      | negative => rfl

theorem marked_slash (name : Text) : Tag.Marked ('/' :: name) :=
  Or.inr (Or.inr rfl)

theorem plain_sigil (kind : SectionKind) {name : Text} (plain : name.Plain) :
    Text.Plain (kind.sigil :: name) := by
  cases kind with
  | positive => exact Text.plain_cons_iff.mpr ⟨by decide, plain⟩
  | negative => exact Text.plain_cons_iff.mpr ⟨by decide, plain⟩

theorem plain_slash {name : Text} (plain : name.Plain) : Text.Plain ('/' :: name) :=
  Text.plain_cons_iff.mpr ⟨by decide, plain⟩

/-- The tags of a flat template that is cut at its next section: none in the gap opens a section of
the name, and none in the body closes one. -/
private theorem next? {kind : SectionKind} {name gap rest : Text} {found : Section}
    (plain : name.Plain)
    (flat : Flat allowed text) (taken : Section.next? kind name text = some (gap, found, rest)) :
    Flat (fun token => allowed token ∧ token.Without (kind.sigil :: name)) gap ∧
      Flat (fun token => allowed token ∧ token.Without ('/' :: name)) found.body ∧
      allowed (.escaped ('/' :: name) (plain_slash plain)) ∧ Flat allowed rest := by
  obtain ⟨inside, after, opened, closed, _, rfl⟩ := Section.next?_eq_some taken
  obtain ⟨gapFlat, _, insideFlat⟩ := flat.cut? (plain_sigil kind plain) (marked_sigil kind name)
    opened
  obtain ⟨bodyFlat, closes, afterFlat⟩ := insideFlat.cut? (plain_slash plain) (marked_slash name)
    closed
  refine ⟨gapFlat, bodyFlat, closes, ?_⟩
  rw [← Text.leadingBreaks_append_dropBreaks after] at afterFlat
  have breaks : (Text.leadingBreaks after).Plain :=
    breaks_plain fun c present => Text.mem_leadingBreaks present
  exact afterFlat.behind (of_plain breaks : Flat allowed _)

theorem removeAll {kind : SectionKind} {name : Text} (plain : name.Plain)
    (flat : Flat allowed text) : Flat allowed (Section.removeAll kind name text) := by
  unfold Section.removeAll
  split
  · fun_induction Section.decompose kind name text with
    | case1 text absent => exact flat
    | case2 text gap found rest taken others ih =>
        obtain ⟨gapFlat, _, _, restFlat⟩ := flat.next? plain taken
        have joined := (gapFlat.mono fun token holds => holds.1).append (ih restFlat)
        rw [← List.append_assoc] at joined
        exact joined
  · exact flat

theorem body {kind : SectionKind} {name : Text} {found : Section} (plain : name.Plain)
    (flat : Flat allowed text) (present : found ∈ Section.findAll kind name text) :
    Flat (fun token => allowed token ∧ token.Without ('/' :: name)) found.body ∧
      allowed (.escaped ('/' :: name) (plain_slash plain)) := by
  unfold Section.findAll at present
  split at present
  · fun_induction Section.decompose kind name text with
    | case1 text absent => cases present
    | case2 text gap taken rest next others ih =>
        obtain ⟨_, bodyFlat, closes, restFlat⟩ := flat.next? plain next
        rcases List.mem_cons.mp present with rfl | later
        · exact ⟨bodyFlat, closes⟩
        · exact ih restFlat later
  · cases present

theorem gap {kind : SectionKind} {name : Text} {piece : Text × Section} (plain : name.Plain)
    (flat : Flat allowed text) (present : piece ∈ (Section.decompose kind name text).pieces) :
    Flat (fun token => allowed token ∧ token.Without (kind.sigil :: name)) piece.1 := by
  fun_induction Section.decompose kind name text with
  | case1 text absent => cases present
  | case2 text before taken rest next others ih =>
      obtain ⟨gapFlat, _, _, restFlat⟩ := flat.next? plain next
      rcases List.mem_cons.mp present with rfl | later
      · exact gapFlat
      · exact ih restFlat later

/-- Exchanging a section keeps a template flat, wherever the section's text is found in it. -/
theorem exchange {kind : SectionKind} {name base content : Text} {found : Section}
    (plain : name.Plain) (baseFlat : Flat other base)
    (present : found ∈ Section.findAll kind name base) (contentFlat : Flat allowed content)
    (flat : Flat allowed text) : Flat allowed (Text.replaceFirst found.full content text) := by
  obtain ⟨_, breaks, breaksOnly, full⟩ := Section.full_of_mem_findAll present
  obtain ⟨bodyFlat, closes⟩ := baseFlat.body plain present
  have shape : found.full = Tag.escaped (kind.sigil :: name) ++
      (found.body ++ (Tag.escaped ('/' :: name) ++ breaks)) := by
    rw [full]
    simp only [Tag.openSection, Tag.closeSection, Tag.escaped, List.append_assoc]
  have closing : Flat other (Tag.escaped ('/' :: name)) := by
    refine ⟨[.escaped ('/' :: name) (plain_slash plain)], fun token among => ?_,
      by simp [Token.print]⟩
    cases List.mem_singleton.mp among
    exact Or.inr closes
  have inside : Flat other (found.body ++ (Tag.escaped ('/' :: name) ++ breaks)) :=
    (bodyFlat.mono fun token holds => holds.1).append
      (closing.append (of_plain (breaks_plain breaksOnly)))
  -- The text may be found elsewhere than where the section was. What stands behind the opening
  -- tag there is `inside` and more, and what is more is flat as well.
  unfold Text.replaceFirst
  split
  · exact flat
  · next before rest taken =>
      rw [shape] at taken
      obtain ⟨beforeFlat, behindFlat⟩ :=
        flat.cut?_append (plain_sigil kind plain) (marked_sigil kind name) taken
      exact (beforeFlat.append contentFlat).append (behindFlat.behind inside)

/-! ### The body of a repeated section -/

private theorem dropLast {c : Char} (notBrace : c ≠ '}') (flat : Flat allowed (text ++ [c])) :
    Flat allowed text := by
  obtain ⟨tokens, each, printed⟩ := flat
  rcases List.eq_nil_or_concat tokens with rfl | ⟨front, token, rfl⟩
  · exact absurd printed.symm (List.append_ne_nil_of_right_ne_nil _ (List.cons_ne_nil _ _))
  · rw [List.concat_eq_append, Token.printAll_append, Token.printAll_cons, Token.printAll_nil,
      List.append_nil] at printed
    cases token with
    | char d plain =>
        obtain ⟨rfl, _⟩ := List.append_inj' printed rfl
        exact ⟨front, fun token present => each token (by simp [present]), rfl⟩
    | escaped content plain =>
        have ends : (Token.printAll front ++ ['{', '{'] ++ content ++ ['}']) ++ ['}'] =
            text ++ [c] := by
          rw [← printed]
          simp [Token.print, Tag.escaped, Tag.opening, Tag.closing]
        exact absurd (List.cons.inj (List.append_inj' ends rfl).2).1.symm notBrace
    | raw content plain unmarked =>
        have ends : (Token.printAll front ++ ['{', '{', '{'] ++ content ++ ['}', '}']) ++ ['}'] =
            text ++ [c] := by
          rw [← printed]
          simp [Token.print, Tag.raw, Tag.opening, Tag.closing]
        exact absurd (List.cons.inj (List.append_inj' ends rfl).2).1.symm notBrace

private theorem dropFinalBreaks (flat : Flat allowed text) :
    Flat allowed (Substitution.dropFinalBreaks text) := by
  have whole := List.reverse_reverse text
  unfold Substitution.dropFinalBreaks
  split
  · next earlier equal =>
      rw [equal, List.reverse_cons, List.reverse_cons] at whole
      rw [← whole] at flat
      exact (flat.dropLast (by decide)).dropLast (by decide)
  · next earlier _ equal =>
      rw [equal, List.reverse_cons] at whole
      rw [← whole] at flat
      exact flat.dropLast (by decide)
  · exact flat

theorem loopBody (flat : Flat allowed text) : Flat allowed (Substitution.loopBody text) := by
  have blanks : Text.Plain (text.takeWhile Substitution.isLeadingBlank) := by
    have each := List.all_eq_true.mp
      (List.all_takeWhile (p := Substitution.isLeadingBlank) (l := text))
    exact ⟨fun present => absurd (each _ present) (by decide),
      fun present => absurd (each _ present) (by decide)⟩
  rw [← List.takeWhile_append_dropWhile (p := Substitution.isLeadingBlank) (l := text)] at flat
  have trimmed := flat.behind (of_plain blanks : Flat allowed _)
  exact trimmed.dropFinalBreaks.append (of_plain (by decide))

/-! ### Filling tags -/

variable {key replacement : Text}

theorem cons {token : Token} (holds : token.content? = none ∨ allowed token)
    (flat : Flat allowed text) : Flat allowed (token.print ++ text) := by
  have single : Flat allowed token.print := by
    refine ⟨[token], fun other present => ?_, by simp⟩
    cases List.mem_singleton.mp present
    exact holds
  exact single.append flat

/-- If what is searched for is found as whole tokens, none of these tokens is left. -/
private theorem replaceAll {needle : Text} {hit : Token → Prop} (notEmpty : needle ≠ [])
    (absent : Text.cut? needle [] = none) (replacementPlain : replacement.Plain)
    (found : ∀ token, token.content? = none ∨ allowed token → hit token → token.print = needle)
    (missed : ∀ token, ¬hit token → Text.Passes needle token.print) (flat : Flat allowed text) :
    Flat (fun token => allowed token ∧ ¬hit token) (Text.replaceAll needle replacement text) := by
  obtain ⟨tokens, each, rfl⟩ := flat
  induction tokens with
  | nil =>
      rw [Token.printAll_nil, Text.replaceAll_of_cut?_eq_none absent]
      exact nil _
  | cons token tokens ih =>
      have rest := ih fun later present => each later (List.mem_cons_of_mem token present)
      have here := each token List.mem_cons_self
      rw [Token.printAll_cons]
      by_cases isHit : hit token
      · rw [found token here isHit, Text.replaceAll_append notEmpty]
        exact (of_plain replacementPlain).append rest
      · rw [(missed token isHit).replaceAll_eq notEmpty]
        exact rest.cons (here.imp id fun holds => ⟨holds, isHit⟩)

private theorem fillRaw (plain : key.Plain) (replacementPlain : replacement.Plain)
    (flat : Flat allowed text) :
    Flat (fun token => allowed token ∧ ¬token.IsRaw key)
      (Text.replaceAll (Tag.raw key) replacement text) := by
  refine flat.replaceAll (List.cons_ne_nil _ _) rfl replacementPlain ?_ ?_
  · intro token _ isRaw
    cases token with
    | char c notBrace => exact absurd isRaw id
    | escaped content contentPlain => exact absurd isRaw id
    | raw content contentPlain unmarked =>
        cases isRaw
        rfl
  · exact fun token notRaw => (Token.clear_raw plain notRaw).passes

private theorem fillEscaped (plain : key.Plain) (replacementPlain : replacement.Plain)
    (flat : Flat (fun token => allowed token ∧ ¬token.IsRaw key) text) :
    Flat (fun token => allowed token ∧ token.Without key)
      (Text.replaceAll (Tag.escaped key) replacement text) := by
  have filled : Flat (fun token => (allowed token ∧ ¬token.IsRaw key) ∧
      ¬token.content? = some key) (Text.replaceAll (Tag.escaped key) replacement text) := by
    refine flat.replaceAll (List.cons_ne_nil _ _) rfl replacementPlain ?_ ?_
    · intro token holds same
      cases token with
      | char c notBrace => cases same
      | escaped content contentPlain =>
          cases same
          rfl
      | raw content contentPlain unmarked =>
          have notRaw := (holds.resolve_left (Option.some_ne_none _)).2
          exact absurd (Option.some.inj same) notRaw
    · exact fun token other => (Token.clear_escaped plain other).passes
  exact filled.mono fun token holds => ⟨holds.1.1, holds.2⟩

theorem plain_escape (plain : text.Plain) : (Markup.escape text).Plain := by
  constructor
  · intro present
    obtain ⟨c, inText, inEntity⟩ := List.mem_flatMap.mp present
    exact Markup.not_mem_entity (.inl rfl) (fun same => plain.1 (same ▸ inText)) inEntity
  · intro present
    obtain ⟨c, inText, inEntity⟩ := List.mem_flatMap.mp present
    exact Markup.not_mem_entity (.inr rfl) (fun same => plain.2 (same ▸ inText)) inEntity

theorem fillScalar_eq (plain : key.Plain) (flat : Flat (Token.Without key) text)
    (value : Text) : Substitution.fillScalar key value text = text := by
  have noEscaped := flat.absent plain
  have noRaw : ¬Tag.raw key <:+: text := fun present =>
    noEscaped ((Tag.escaped_infix_raw key).trans present)
  rw [Substitution.fillScalar, Text.replaceAll_of_absent noRaw,
    Text.replaceAll_of_absent noEscaped]

theorem fillTags {raw escaped : Text} (plain : key.Plain) (rawPlain : raw.Plain)
    (escapedPlain : escaped.Plain) (flat : Flat allowed text) :
    Flat (fun token => allowed token ∧ token.Without key)
      (Substitution.fillTags key raw escaped text) :=
  (flat.fillRaw plain rawPlain).fillEscaped plain (plain_escape escapedPlain)

end Flat
end TextTemplate
