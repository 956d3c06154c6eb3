import TextTemplate.Context

/-!
# Which documents are contexts

Whether a document is a context is decided on the value it has become, and there what is missing, a
number and a text have become alike. A number is never written as the empty text, so it is not taken
for what is missing; the empty text is. All else that is no mapping is refused, and told by its kind.
-/

set_option autoImplicit false

namespace TextTemplate

/-! ### Numbers have a text -/

namespace Number.Layout

private theorem digits_ne_nil (n : Nat) : digits n ≠ [] :=
  Nat.toDigits_ne_nil

private theorem integer_ne_nil (n : Int) : integer n ≠ [] := by
  unfold integer
  split
  · exact List.cons_ne_nil _ _
  · exact digits_ne_nil _

private theorem writePositional_ne_nil (layout : Layout) (d : Decimal) :
    layout.writePositional d ≠ [] := by
  unfold writePositional
  dsimp only
  split
  · intro empty
    exact digits_ne_nil _ (List.append_eq_nil_iff.mp (List.append_eq_nil_iff.mp empty).1).1
  · split
    · exact List.cons_ne_nil _ _
    · exact List.append_ne_nil_of_right_ne_nil _ (List.cons_ne_nil _ _)

private theorem writeExponent_ne_nil (d : Decimal) (power : Int) : writeExponent d power ≠ [] :=
  List.append_ne_nil_of_right_ne_nil _ (List.cons_ne_nil _ _)

private theorem write_ne_nil (layout : Layout) (format : BinaryFormat) (number : Binary) :
    layout.write format number ≠ [] := by
  cases number with
  | notANumber => exact List.cons_ne_nil _ _
  | infinite negative => exact List.append_ne_nil_of_right_ne_nil _ (List.cons_ne_nil _ _)
  | finite negative mantissa exponent =>
      apply List.append_ne_nil_of_right_ne_nil
      split
      · exact writePositional_ne_nil layout _
      · exact writeExponent_ne_nil _ _

end Number.Layout

private theorem DocumentNumber.text_ne_nil (number : DocumentNumber) : number.text ≠ [] := by
  cases number with
  | whole n => exact Number.Layout.integer_ne_nil n
  | fractional number => exact Number.Layout.write_ne_nil _ _ number

namespace Document

variable {text : Text} {document : Document} {context : Context} {failure : Failure}

/-! ### The document of a text -/

/-- What a text is read as: the YAML reader is asked for what the JSON reader refuses. -/
inductive ReadFrom (text : Text) : Document → Prop
  | json {document : Document} (read : Json.read? text = some document) : ReadFrom text document
  | yaml {document : Document} (refused : Json.read? text = none)
      (read : Yaml.read? text = some document) : ReadFrom text document

private theorem read?_eq_some_iff : read? text = some document ↔ ReadFrom text document := by
  unfold read?
  cases first : Json.read? text with
  | some found =>
      constructor
      · intro read
        cases read
        exact .json first
      · intro read
        cases read with
        | json read => exact first.symm.trans read
        | yaml refused read =>
            rw [first] at refused
            cases refused
  | none =>
      constructor
      · intro read
        exact .yaml first read
      · intro read
        cases read with
        | json read =>
            rw [first] at read
            cases read
        | yaml refused read => exact read

private theorem read?_eq_none_iff : read? text = none ↔ ∀ document, ¬ReadFrom text document := by
  rw [Option.eq_none_iff_forall_ne_some]
  exact forall_congr' fun document => not_congr read?_eq_some_iff

/-! ### The context of a document -/

/-- The documents that are contexts, and the contexts they are. -/
inductive IsContext : Document → Context → Prop
  | null : IsContext .null []
  | emptyText : IsContext (.text []) []
  | mapping (entries : List (Text × Document)) :
      IsContext (.mapping entries)
        (entries.map fun entry => (entry.1, Value.ofDocument entry.2))

/-- The documents that are no contexts, each with the kind of value it has become. -/
inductive IsRefused : Document → Value.Kind → Prop
  | boolean (truth : Bool) : IsRefused (.boolean truth) .boolean
  | number (number : DocumentNumber) : IsRefused (.number number) .scalar
  | text {text : Text} (notEmpty : text ≠ []) : IsRefused (.text text) .scalar
  | sequence (items : List Document) : IsRefused (.sequence items) .list

theorem ofEntries_eq_map (entries : List (Text × Document)) :
    Value.ofEntries entries = entries.map fun entry => (entry.1, Value.ofDocument entry.2) := by
  induction entries with
  | nil => rw [Value.ofEntries, List.map_nil]
  | cons entry entries ih => rw [Value.ofEntries, List.map_cons, ih]

private theorem ofValue_of_isContext (accepted : IsContext document context) :
    Context.ofValue (Value.ofDocument document) = .ok context := by
  cases accepted with
  | null => rw [Value.ofDocument, Context.ofValue]
  | emptyText => rw [Value.ofDocument, Context.ofValue]
  | mapping entries => rw [Value.ofDocument, Context.ofValue, ofEntries_eq_map]

private theorem ofValue_scalar (notEmpty : text ≠ []) :
    Context.ofValue (.scalar text) = .error (.context (.noMapping .scalar)) := by
  cases text with
  | nil => exact absurd rfl notEmpty
  | cons c text => rfl

private theorem ofValue_of_isRefused {kind : Value.Kind} (refused : IsRefused document kind) :
    Context.ofValue (Value.ofDocument document) = .error (.context (.noMapping kind)) := by
  cases refused with
  | boolean truth => rw [Value.ofDocument]; rfl
  | number number => rw [Value.ofDocument, ofValue_scalar number.text_ne_nil]
  | text notEmpty => rw [Value.ofDocument, ofValue_scalar notEmpty]
  | sequence items => rw [Value.ofDocument]; rfl

private theorem isContext_or_isRefused (document : Document) :
    (∃ context, IsContext document context) ∨ ∃ kind, IsRefused document kind := by
  cases document with
  | null => exact .inl ⟨[], .null⟩
  | boolean truth => exact .inr ⟨.boolean, .boolean truth⟩
  | number number => exact .inr ⟨.scalar, .number number⟩
  | text text =>
      cases text with
      | nil => exact .inl ⟨[], .emptyText⟩
      | cons c text => exact .inr ⟨.scalar, .text (List.cons_ne_nil c text)⟩
  | sequence items => exact .inr ⟨.list, .sequence items⟩
  | mapping entries => exact .inl ⟨_, .mapping entries⟩

private theorem ofValue_eq_ok_iff :
    Context.ofValue (Value.ofDocument document) = .ok context ↔ IsContext document context := by
  refine ⟨fun taken => ?_, ofValue_of_isContext⟩
  rcases isContext_or_isRefused document with ⟨found, accepted⟩ | ⟨kind, refused⟩
  · rw [ofValue_of_isContext accepted] at taken
    cases taken
    exact accepted
  · rw [ofValue_of_isRefused refused] at taken
    cases taken

private theorem ofValue_eq_error_iff :
    Context.ofValue (Value.ofDocument document) = .error failure ↔
      ∃ kind, IsRefused document kind ∧ failure = .context (.noMapping kind) := by
  constructor
  · intro failed
    rcases isContext_or_isRefused document with ⟨found, accepted⟩ | ⟨kind, refused⟩
    · rw [ofValue_of_isContext accepted] at failed
      cases failed
    · rw [ofValue_of_isRefused refused] at failed
      cases failed
      exact ⟨kind, refused, rfl⟩
  · rintro ⟨kind, refused, rfl⟩
    exact ofValue_of_isRefused refused

end Document

namespace Context

open Document

variable {text : Text} {context : Context} {failure : Failure}

private theorem isBlank_iff : isBlank text = true ↔ ∀ c ∈ text, CharSet.blank.contains c = true :=
  List.all_eq_true

private theorem parse_of_isBlank (blank : isBlank text = true) : parse text = .ok [] :=
  if_pos blank

private theorem parse_of_readFrom (notBlank : ¬isBlank text = true) {document : Document}
    (read : ReadFrom text document) : parse text = ofValue (Value.ofDocument document) := by
  rw [parse, if_neg notBlank, read?_eq_some_iff.mpr read]

private theorem parse_of_unread (notBlank : ¬isBlank text = true)
    (unread : ∀ document, ¬ReadFrom text document) : parse text = .error (.context .malformed) := by
  rw [parse, if_neg notBlank, read?_eq_none_iff.mpr unread]

private theorem unread_or_readFrom (text : Text) :
    (∀ document, ¬ReadFrom text document) ∨ ∃ document, ReadFrom text document := by
  cases read : read? text with
  | none => exact .inl (read?_eq_none_iff.mp read)
  | some document => exact .inr ⟨document, read?_eq_some_iff.mp read⟩

private theorem parse_eq_iff (text : Text) (outcome : Except Failure Context) :
    parse text = outcome ↔
      isBlank text = true ∧ outcome = .ok [] ∨
        ¬isBlank text = true ∧
          ((∀ document, ¬ReadFrom text document) ∧ outcome = .error (.context .malformed) ∨
            ∃ document, ReadFrom text document ∧
              ofValue (Value.ofDocument document) = outcome) := by
  constructor
  · rintro rfl
    by_cases blank : isBlank text = true
    · exact .inl ⟨blank, parse_of_isBlank blank⟩
    · rcases unread_or_readFrom text with unread | ⟨document, read⟩
      · exact .inr ⟨blank, .inl ⟨unread, parse_of_unread blank unread⟩⟩
      · exact .inr ⟨blank, .inr ⟨document, read, (parse_of_readFrom blank read).symm⟩⟩
  · rintro (⟨blank, rfl⟩ | ⟨notBlank, ⟨unread, rfl⟩ | ⟨document, read, rfl⟩⟩)
    · exact parse_of_isBlank blank
    · exact parse_of_unread notBlank unread
    · exact parse_of_readFrom notBlank read

private theorem parse_eq_ok_iff (text : Text) (context : Context) :
    parse text = .ok context ↔
      isBlank text = true ∧ context = [] ∨
        ¬isBlank text = true ∧ ∃ document, ReadFrom text document ∧ IsContext document context := by
  rw [parse_eq_iff]
  simp only [ofValue_eq_ok_iff, Except.ok.injEq, reduceCtorEq, and_false, false_or]

private theorem parse_eq_error_iff (text : Text) (failure : Failure) :
    parse text = .error failure ↔
      ¬isBlank text = true ∧
        ((∀ document, ¬ReadFrom text document) ∧ failure = .context .malformed ∨
          ∃ document kind, ReadFrom text document ∧ IsRefused document kind ∧
            failure = .context (.noMapping kind)) := by
  rw [parse_eq_iff]
  simp only [ofValue_eq_error_iff, Except.error.injEq, reduceCtorEq, and_false, false_or,
    exists_and_left]

/-- A text is a context if it is blank, or if it is read as nothing, as the empty text or as a
mapping, whose names it then binds in their order. It is refused if neither reader takes it, or if
what is read is a truth value, a number, a text that is not empty or a sequence. -/
theorem parse_accepts_and_refuses_exactly (text : Text) :
    (∀ context, parse text = .ok context ↔
      (∀ c ∈ text, CharSet.blank.contains c = true) ∧ context = [] ∨
        (¬∀ c ∈ text, CharSet.blank.contains c = true) ∧
          ∃ document, ReadFrom text document ∧ IsContext document context) ∧
    ∀ failure, parse text = .error failure ↔
      (¬∀ c ∈ text, CharSet.blank.contains c = true) ∧
        ((∀ document, ¬ReadFrom text document) ∧ failure = .context .malformed ∨
          ∃ document kind, ReadFrom text document ∧ IsRefused document kind ∧
            failure = .context (.noMapping kind)) := by
  rw [← isBlank_iff]
  exact ⟨parse_eq_ok_iff text, parse_eq_error_iff text⟩

/-- Two quotation marks are a text, which is no mapping, and count as the empty context. -/
theorem parse_accepts_empty_text :
    ReadFrom "\"\"".toList (.text []) ∧ parse "\"\"".toList = .ok [] := by
  have read : ReadFrom "\"\"".toList (.text []) := .json rfl
  have notBlank : ¬∀ c ∈ "\"\"".toList, CharSet.blank.contains c = true := by
    rw [← isBlank_iff]
    decide
  exact ⟨read, ((parse_accepts_and_refuses_exactly "\"\"".toList).1 []).mpr
    (.inr ⟨notBlank, .text [], read, .emptyText⟩)⟩

end Context
end TextTemplate
