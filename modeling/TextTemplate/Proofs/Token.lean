import TextTemplate.Proofs.Sections

/-!
# Flat templates

A flat template is a run of tokens: characters that are no braces, and tags whose content has no
brace. Its sections may be unbalanced, interleaved or nested in one another under the same name. No
token is the beginning of another, so the tokens can be read off the text, and a search for a tag
finds whole tokens only. The one exception is an escaped tag within the raw tag of the same content.
-/

set_option autoImplicit false

namespace TextTemplate

/-- No braces. -/
def Text.Plain (text : Text) : Prop :=
  '{' ∉ text ∧ '}' ∉ text

instance (text : Text) : Decidable text.Plain :=
  inferInstanceAs (Decidable (_ ∧ _))

theorem Text.plain_cons_iff {c : Char} {text : Text} :
    Text.Plain (c :: text) ↔ (c ≠ '{' ∧ c ≠ '}') ∧ text.Plain := by
  simp only [Text.Plain, List.mem_cons, not_or, ne_eq, eq_comm (a := c)]
  exact and_and_and_comm

/-- The content of a section tag begins with one of three characters. -/
def Tag.Marked (content : Text) : Prop :=
  content.head? = some '#' ∨ content.head? = some '^' ∨ content.head? = some '/'

instance (content : Text) : Decidable (Tag.Marked content) :=
  inferInstanceAs (Decidable (_ ∨ _))

theorem Tag.escaped_infix_raw (name : Text) : Tag.escaped name <:+: Tag.raw name :=
  ⟨['{'], ['}'], by simp [Tag.escaped, Tag.raw, Tag.opening, Tag.closing]⟩

/-- A longer run of text is one character after the other. -/
inductive Token where
  | char (c : Char) (plain : c ≠ '{' ∧ c ≠ '}')
  | escaped (content : Text) (plain : content.Plain)
  | raw (content : Text) (plain : content.Plain) (unmarked : ¬Tag.Marked content)

namespace Token

def print : Token → Text
  | .char c _ => [c]
  | .escaped content _ => Tag.escaped content
  | .raw content _ _ => Tag.raw content

def printAll (tokens : List Token) : Text :=
  tokens.flatMap print

def content? : Token → Option Text
  | .char _ _ => none
  | .escaped content _ => some content
  | .raw content _ _ => some content

def Without (content : Text) (token : Token) : Prop :=
  token.content? ≠ some content

def IsRaw (content : Text) : Token → Prop
  | .raw found _ _ => found = content
  | _ => False

@[simp] theorem printAll_nil : printAll [] = [] := rfl

@[simp] theorem printAll_cons (token : Token) (tokens : List Token) :
    printAll (token :: tokens) = token.print ++ printAll tokens := rfl

@[simp] theorem printAll_append (front back : List Token) :
    printAll (front ++ back) = printAll front ++ printAll back :=
  List.flatMap_append

theorem not_isRaw_of_marked {content : Text} (marked : Tag.Marked content) (token : Token) :
    ¬token.IsRaw content := by
  cases token with
  | char c plain => exact id
  | escaped found plain => exact id
  | raw found plain unmarked =>
      intro same
      exact unmarked (same ▸ marked)

theorem without_of_content?_eq_none {content : Text} {token : Token}
    (noTag : token.content? = none) : token.Without content := by
  intro same
  rw [noTag] at same
  cases same

theorem not_isRaw_of_without {content : Text} {token : Token} (other : token.Without content) :
    ¬token.IsRaw content := by
  intro same
  cases token with
  | char c notBrace => exact same
  | escaped found foundPlain => exact same
  | raw found foundPlain unmarked => exact other (congrArg some same)

end Token

/-! ### Reading tokens off a text -/

namespace Text

variable {content found left right : Text}

private theorem append_cons_inj {c : Char} {front other : Text} (absent : c ∉ front)
    (otherAbsent : c ∉ other) (equal : front ++ c :: left = other ++ c :: right) :
    front = other ∧ left = right := by
  induction front generalizing other with
  | nil =>
      cases other with
      | nil => exact ⟨rfl, (List.cons.inj equal).2⟩
      | cons d other =>
          have same := (List.cons.inj equal).1
          exact absurd (same ▸ List.mem_cons_self) otherAbsent
  | cons d front ih =>
      cases other with
      | nil =>
          have same := (List.cons.inj equal).1
          exact absurd (same ▸ List.mem_cons_self) absent
      | cons e other =>
          obtain ⟨rfl, rest⟩ := List.cons.inj equal
          obtain ⟨rfl, tails⟩ := ih (fun present => absent (List.mem_cons_of_mem d present))
            (fun present => otherAbsent (List.mem_cons_of_mem d present)) rest
          exact ⟨rfl, tails⟩

theorem ne_brace_of_plain {c : Char} (plain : content.Plain)
    (equal : content ++ '}' :: left = c :: right) : c ≠ '{' := by
  rintro rfl
  cases content with
  | nil =>
      have impossible := (List.cons.inj equal).1
      exact absurd impossible (by decide)
  | cons d content =>
      obtain ⟨rfl, _⟩ := List.cons.inj equal
      exact plain.1 List.mem_cons_self

end Text

namespace Token

variable {content left right : Text} {token : Token}

private theorem eq_escaped_of_append (plain : content.Plain)
    (equal : Tag.escaped content ++ left = token.print ++ right) :
    token = .escaped content plain ∧ left = right := by
  cases token with
  | char c other =>
      have brace := (List.cons.inj equal).1
      exact absurd brace.symm other.1
  | escaped found foundPlain =>
      have inner : content ++ '}' :: ('}' :: left) = found ++ '}' :: ('}' :: right) := by
        simpa [Tag.escaped, Tag.opening, Tag.closing, print] using equal
      obtain ⟨rfl, tails⟩ := Text.append_cons_inj plain.2 foundPlain.2 inner
      exact ⟨rfl, (List.cons.inj tails).2⟩
  | raw found foundPlain unmarked =>
      have inner : content ++ '}' :: ('}' :: left) =
          '{' :: (found ++ '}' :: ('}' :: ('}' :: right))) := by
        simpa [Tag.escaped, Tag.raw, Tag.opening, Tag.closing, print] using equal
      exact absurd rfl (Text.ne_brace_of_plain plain inner)

private theorem eq_raw_of_append (plain : content.Plain)
    (equal : Tag.raw content ++ left = token.print ++ right) :
    token.IsRaw content ∧ left = right := by
  cases token with
  | char c other =>
      have brace := (List.cons.inj equal).1
      exact absurd brace.symm other.1
  | escaped found foundPlain =>
      have inner : found ++ '}' :: ('}' :: right) =
          '{' :: (content ++ '}' :: ('}' :: ('}' :: left))) := by
        simpa [Tag.escaped, Tag.raw, Tag.opening, Tag.closing, print] using equal.symm
      exact absurd rfl (Text.ne_brace_of_plain foundPlain inner)
  | raw found foundPlain unmarked =>
      have inner : content ++ '}' :: ('}' :: ('}' :: left)) =
          found ++ '}' :: ('}' :: ('}' :: right)) := by
        simpa [Tag.raw, Tag.opening, Tag.closing, print] using equal
      obtain ⟨rfl, tails⟩ := Text.append_cons_inj plain.2 foundPlain.2 inner
      exact ⟨rfl, (List.cons.inj (List.cons.inj tails).2).2⟩

private theorem print_append_inj {first second : Token}
    (equal : first.print ++ left = second.print ++ right) : first = second ∧ left = right := by
  cases first with
  | char c plain =>
      cases second with
      | char d other =>
          obtain ⟨rfl, tails⟩ := List.cons.inj equal
          exact ⟨rfl, tails⟩
      | escaped found other => exact absurd (List.cons.inj equal).1 plain.1
      | raw found other unmarked => exact absurd (List.cons.inj equal).1 plain.1
  | escaped content plain =>
      obtain ⟨rfl, tails⟩ := eq_escaped_of_append plain equal
      exact ⟨rfl, tails⟩
  | raw content plain unmarked =>
      obtain ⟨same, tails⟩ := eq_raw_of_append plain equal
      cases second with
      | char d other => exact absurd same id
      | escaped found other => exact absurd same id
      | raw found other otherUnmarked =>
          cases same
          exact ⟨rfl, tails⟩

private theorem print_ne_nil (token : Token) : token.print ≠ [] := by
  cases token with
  | char c plain => exact List.cons_ne_nil _ _
  | escaped content plain => exact List.cons_ne_nil _ _
  | raw content plain unmarked => exact List.cons_ne_nil _ _

theorem exists_of_printAll_append {front tokens : List Token}
    (equal : printAll tokens = printAll front ++ left) :
    ∃ back, tokens = front ++ back ∧ left = printAll back := by
  induction front generalizing tokens with
  | nil => exact ⟨tokens, rfl, equal.symm⟩
  | cons token front ih =>
      cases tokens with
      | nil =>
          have empty := List.append_eq_nil_iff.mp equal.symm
          exact absurd (List.append_eq_nil_iff.mp empty.1).1 (print_ne_nil token)
      | cons other tokens =>
          rw [printAll_cons, printAll_cons, List.append_assoc] at equal
          obtain ⟨rfl, tails⟩ := print_append_inj equal
          obtain ⟨back, rfl, rest⟩ := ih tails
          exact ⟨back, rfl, rest⟩

/-! ### Searching for a tag -/

theorem passes_brace {needle text : Text} (empty : text ≠ []) (absent : '{' ∉ text) :
    Text.Passes ('{' :: '{' :: needle) ('{' :: text) := by
  intro rest
  apply (Text.Passes.of_not_mem absent).cut?_cons
  intro begins
  obtain ⟨c, others, rfl⟩ := List.exists_cons_of_ne_nil empty
  have same := (List.cons_prefix_cons.mp (List.cons_prefix_cons.mp begins).2).1
  exact absent (same ▸ List.mem_cons_self)

theorem brace_not_mem_append (plain : content.Plain) {closing : Text} (braces : '{' ∉ closing) :
    '{' ∉ content ++ closing := by
  intro present
  rcases List.mem_append.mp present with inside | behind
  · exact plain.1 inside
  · exact braces behind

/-- A search that fails at a token goes on behind that token, unless it is for an escaped tag and
the token is the raw tag of the same content. -/
private theorem cut?_print {needle rest : Text} (plain : content.Plain)
    (form : needle = Tag.raw content ++ left ∨
      needle = Tag.escaped content ++ left ∧ ¬token.IsRaw content)
    (other : ¬needle <+: token.print ++ rest) :
    Text.cut? needle (token.print ++ rest) =
      (Text.cut? needle rest).map (Text.inFront token.print) := by
  obtain ⟨behind, shape⟩ : ∃ behind, needle = '{' :: '{' :: behind := by
    rcases form with rfl | ⟨rfl, _⟩
    · exact ⟨_, rfl⟩
    · exact ⟨_, rfl⟩
  cases token with
  | char c notBrace => exact Text.cut?_cons other
  | escaped found foundPlain =>
      have inner : Text.Passes needle ('{' :: (found ++ Tag.closing)) := by
        rw [shape]
        exact passes_brace (by simp [Tag.closing]) (brace_not_mem_append foundPlain (by decide))
      exact inner.cut?_cons other
  | raw found foundPlain unmarked =>
      have last : Text.Passes needle ('{' :: (found ++ '}' :: Tag.closing)) := by
        rw [shape]
        exact passes_brace (by simp) (brace_not_mem_append foundPlain (by decide))
      have inner : Text.Passes needle ('{' :: '{' :: (found ++ '}' :: Tag.closing)) := by
        intro after
        apply last.cut?_cons
        rintro ⟨tail, equal⟩
        rcases form with rfl | ⟨rfl, different⟩
        · have third : found ++ '}' :: (Tag.closing ++ after) =
              '{' :: (content ++ '}' :: Tag.closing ++ left ++ tail) := by
            simpa [Tag.raw, Tag.opening] using equal.symm
          exact Text.ne_brace_of_plain foundPlain third rfl
        · have contents : content ++ '}' :: ('}' :: (left ++ tail)) =
              found ++ '}' :: (Tag.closing ++ after) := by
            simpa [Tag.escaped, Tag.opening, Tag.closing] using equal
          exact different (Text.append_cons_inj plain.2 foundPlain.2 contents).1.symm
      exact inner.cut?_cons other

theorem exists_of_cut?_escaped {tokens : List Token} {before rest : Text} (plain : content.Plain)
    (noRaw : ∀ token ∈ tokens, ¬token.IsRaw content)
    (found : Text.cut? (Tag.escaped content ++ left) (printAll tokens) = some (before, rest)) :
    ∃ front back, tokens = front ++ .escaped content plain :: back ∧ before = printAll front ∧
      printAll back = left ++ rest ∧ (left = [] → ∀ token ∈ front, token.Without content) := by
  induction tokens generalizing before with
  | nil => cases found
  | cons token tokens ih =>
      have noRawLater : ∀ token ∈ tokens, ¬token.IsRaw content :=
        fun later present => noRaw later (List.mem_cons_of_mem token present)
      rw [printAll_cons] at found
      by_cases begins : Tag.escaped content ++ left <+: token.print ++ printAll tokens
      · obtain ⟨tail, equal⟩ := begins
        rw [← equal, Text.cut?_append] at found
        cases found
        rw [List.append_assoc] at equal
        obtain ⟨rfl, tails⟩ := eq_escaped_of_append plain equal
        exact ⟨[], tokens, rfl, rfl, tails.symm, fun _ _ impossible =>
          absurd impossible List.not_mem_nil⟩
      · rw [cut?_print plain (.inr ⟨rfl, noRaw token List.mem_cons_self⟩) begins] at found
        obtain ⟨⟨earlier, later⟩, within, equal⟩ := Option.map_eq_some_iff.mp found
        cases equal
        obtain ⟨front, back, rfl, rfl, tails, first⟩ := ih noRawLater within
        refine ⟨token :: front, back, rfl, rfl, tails, ?_⟩
        intro alone other present
        rcases List.mem_cons.mp present with rfl | inFront
        · intro same
          subst alone
          apply begins
          cases other with
          | char c notBrace => cases same
          | escaped found foundPlain =>
              cases same
              rw [List.append_nil]
              exact List.prefix_append _ _
          | raw found foundPlain unmarked =>
              exact absurd (Option.some.inj same) (noRaw _ List.mem_cons_self)
        · exact first alone other inFront

/-! ### Tokens that a search passes over -/

theorem clear_escaped (plain : content.Plain) (other : token.Without content) :
    Text.Clear (Tag.escaped content) token.print := by
  intro left rest
  apply cut?_print plain (.inr ⟨rfl, not_isRaw_of_without other⟩)
  rintro ⟨tail, equal⟩
  rw [List.append_assoc] at equal
  obtain ⟨rfl, _⟩ := eq_escaped_of_append plain equal
  exact other rfl

theorem clear_raw (plain : content.Plain) (other : ¬token.IsRaw content) :
    Text.Clear (Tag.raw content) token.print := by
  intro left rest
  apply cut?_print plain (.inl rfl)
  rintro ⟨tail, equal⟩
  rw [List.append_assoc] at equal
  exact other (eq_raw_of_append plain equal).1

theorem passes_printAll {needle : Text} {tokens : List Token}
    (each : ∀ token ∈ tokens, Text.Passes needle token.print) :
    Text.Passes needle (printAll tokens) := by
  induction tokens with
  | nil => exact Text.Passes.nil needle
  | cons token tokens ih =>
      exact (each token List.mem_cons_self).append
        (ih fun later present => each later (List.mem_cons_of_mem token present))

end Token
end TextTemplate
