import Mathlib.Data.List.Nodup
import TextTemplate.Proofs.Acceptance

/-!
# Documents and the values they become

A value in which only texts, truth values, lists and maps are, at any depth, can be written as a
document, and the document becomes that value again. What is missing and a number become texts, and
nothing else is lost: two documents become the same value exactly if they are the same once both
are replaced by their texts.
-/

set_option autoImplicit false

namespace TextTemplate

/-! ### Names that are given once -/

namespace Entries

variable {α : Type} {entries given : Entries α} {name : Text}

private theorem insert_of_absent (absent : name ∉ entries.map Prod.fst) (meaning : α) :
    entries.insert name meaning = entries ++ [(name, meaning)] := by
  induction entries with
  | nil => rfl
  | cons entry entries ih =>
      rw [List.map_cons, List.mem_cons, not_or] at absent
      rw [insert, if_neg (Ne.symm absent.1), ih absent.2, List.cons_append]

private theorem foldl_insert (distinct : ((entries ++ given).map Prod.fst).Nodup) :
    given.foldl (fun entries entry => insert entries entry.1 entry.2) entries =
      entries ++ given := by
  induction given generalizing entries with
  | nil => exact (List.append_nil entries).symm
  | cons entry given ih =>
      have absent : entry.1 ∉ entries.map Prod.fst := by
        rw [List.map_append, List.map_cons] at distinct
        intro present
        exact (List.nodup_append.mp distinct).2.2 _ present _ List.mem_cons_self rfl
      rw [List.append_cons] at distinct
      rw [List.foldl_cons, insert_of_absent absent, ih distinct, ← List.append_cons]

private theorem ofList_of_nodup (distinct : (given.map Prod.fst).Nodup) : ofList given = given :=
  foldl_insert distinct

end Entries

namespace Document

mutual

/-- The document with what is missing replaced by the empty text and every number by its text, at
any depth. -/
def inTexts : Document → Document
  | .null => .text []
  | .boolean truth => .boolean truth
  | .number written => .text written.text
  | .text written => .text written
  | .sequence items => .sequence (itemsInTexts items)
  | .mapping entries => .mapping (entriesInTexts entries)

def itemsInTexts : List Document → List Document
  | [] => []
  | item :: items => inTexts item :: itemsInTexts items

def entriesInTexts : List (Text × Document) → List (Text × Document)
  | [] => []
  | (name, entry) :: entries => (name, inTexts entry) :: entriesInTexts entries

end

end Document

namespace Value

/-- Only texts, truth values, lists and maps are in it, at any depth. -/
inductive Writable : Value → Prop
  | scalar (text : Text) : Writable (.scalar text)
  | boolean (truth : Bool) : Writable (.boolean truth)
  | list {items : List Value} (values : ∀ item ∈ items, Writable item) : Writable (.list items)
  | map {entries : Context} (values : ∀ entry ∈ entries, Writable entry.2) :
      Writable (.map entries)

mutual

/-- The document that a value is written as: its texts as texts, and its items and entries in their
order. A deferred text and what is not supported cannot be written. -/
def toDocument? : Value → Option Document
  | .scalar text => some (.text text)
  | .boolean truth => some (.boolean truth)
  | .list items => (toItems? items).map .sequence
  | .map entries => (toEntries? entries).map .mapping
  | .deferred _ => none
  | .unsupported => none

def toItems? : List Value → Option (List Document)
  | [] => some []
  | item :: items => do
      let first ← toDocument? item
      let others ← toItems? items
      pure (first :: others)

def toEntries? : List (Text × Value) → Option (List (Text × Document))
  | [] => some []
  | (name, entry) :: entries => do
      let first ← toDocument? entry
      let others ← toEntries? entries
      pure ((name, first) :: others)

end

/-! ### From a document to a value and back -/

mutual

private theorem toDocument?_ofDocument (document : Document) :
    toDocument? (ofDocument document) = some document.inTexts := by
  cases document with
  | null => rfl
  | boolean truth => rfl
  | number number => rfl
  | text text => rfl
  | sequence items =>
      rw [ofDocument, toDocument?, toItems?_ofItems items, Option.map_some, Document.inTexts]
  | mapping entries =>
      rw [ofDocument, toDocument?, toEntries?_ofEntries entries, Option.map_some, Document.inTexts]

theorem toItems?_ofItems (items : List Document) :
    toItems? (ofItems items) = some (Document.itemsInTexts items) := by
  cases items with
  | nil => rfl
  | cons item items =>
      rw [ofItems, toItems?, toDocument?_ofDocument item, toItems?_ofItems items]
      rfl

theorem toEntries?_ofEntries (entries : List (Text × Document)) :
    toEntries? (ofEntries entries) = some (Document.entriesInTexts entries) := by
  cases entries with
  | nil => rfl
  | cons entry entries =>
      obtain ⟨name, document⟩ := entry
      rw [ofEntries, toEntries?, toDocument?_ofDocument document, toEntries?_ofEntries entries]
      rfl

end

mutual

private theorem ofDocument_of_toDocument? {value : Value} {document : Document}
    (written : toDocument? value = some document) : ofDocument document = value := by
  cases value with
  | scalar text =>
      cases written
      rfl
  | boolean truth =>
      cases written
      rfl
  | list items =>
      rw [toDocument?] at written
      obtain ⟨documents, itemsWritten, rfl⟩ := Option.map_eq_some_iff.mp written
      rw [ofDocument, ofItems_of_toItems? itemsWritten]
  | map entries =>
      rw [toDocument?] at written
      obtain ⟨documents, entriesWritten, rfl⟩ := Option.map_eq_some_iff.mp written
      rw [ofDocument, ofEntries_of_toEntries? entriesWritten]
  | deferred source => cases written
  | unsupported => cases written

theorem ofItems_of_toItems? {items : List Value} {documents : List Document}
    (written : toItems? items = some documents) : ofItems documents = items := by
  cases items with
  | nil =>
      cases written
      rfl
  | cons item items =>
      rw [toItems?] at written
      obtain ⟨first, firstWritten, written⟩ := Option.bind_eq_some_iff.mp written
      obtain ⟨others, othersWritten, written⟩ := Option.bind_eq_some_iff.mp written
      cases written
      rw [ofItems, ofDocument_of_toDocument? firstWritten, ofItems_of_toItems? othersWritten]

theorem ofEntries_of_toEntries? {entries : List (Text × Value)}
    {documents : List (Text × Document)} (written : toEntries? entries = some documents) :
    ofEntries documents = entries := by
  cases entries with
  | nil =>
      cases written
      rfl
  | cons entry entries =>
      obtain ⟨name, value⟩ := entry
      rw [toEntries?] at written
      obtain ⟨first, firstWritten, written⟩ := Option.bind_eq_some_iff.mp written
      obtain ⟨others, othersWritten, written⟩ := Option.bind_eq_some_iff.mp written
      cases written
      rw [ofEntries, ofDocument_of_toDocument? firstWritten, ofEntries_of_toEntries? othersWritten]

end

/-! ### Values that documents become -/

private theorem toItems?_of_forall {items : List Value}
    (written : ∀ item ∈ items, ∃ document, toDocument? item = some document) :
    ∃ documents, toItems? items = some documents := by
  induction items with
  | nil => exact ⟨[], rfl⟩
  | cons item items ih =>
      obtain ⟨itemWritten, itemsWritten⟩ := List.forall_mem_cons.mp written
      obtain ⟨first, firstWritten⟩ := itemWritten
      obtain ⟨others, othersWritten⟩ := ih itemsWritten
      rw [toItems?, firstWritten, othersWritten]
      exact ⟨first :: others, rfl⟩

private theorem toEntries?_of_forall {entries : Context}
    (written : ∀ entry ∈ entries, ∃ document, toDocument? entry.2 = some document) :
    ∃ documents, toEntries? entries = some documents := by
  induction entries with
  | nil => exact ⟨[], rfl⟩
  | cons entry entries ih =>
      obtain ⟨entryWritten, entriesWritten⟩ := List.forall_mem_cons.mp written
      obtain ⟨first, firstWritten⟩ := entryWritten
      obtain ⟨others, othersWritten⟩ := ih entriesWritten
      rw [toEntries?, firstWritten, othersWritten]
      exact ⟨(entry.1, first) :: others, rfl⟩

private theorem Writable.toDocument? {value : Value} (writable : value.Writable) :
    ∃ document, value.toDocument? = some document := by
  induction writable with
  | scalar text => exact ⟨.text text, rfl⟩
  | boolean truth => exact ⟨.boolean truth, rfl⟩
  | list _ ih =>
      obtain ⟨documents, written⟩ := toItems?_of_forall ih
      rw [Value.toDocument?, written]
      exact ⟨.sequence documents, rfl⟩
  | map _ ih =>
      obtain ⟨documents, written⟩ := toEntries?_of_forall ih
      rw [Value.toDocument?, written]
      exact ⟨.mapping documents, rfl⟩

mutual

private theorem writable_ofDocument (document : Document) : (ofDocument document).Writable :=
  match document with
  | .null => .scalar []
  | .boolean truth => .boolean truth
  | .number number => .scalar number.text
  | .text text => .scalar text
  | .sequence items => .list (writable_ofItems items)
  | .mapping entries => .map (writable_ofEntries entries)

theorem writable_ofItems (items : List Document) : ∀ item ∈ ofItems items, Writable item :=
  match items with
  | [] => fun _ impossible => absurd impossible List.not_mem_nil
  | item :: items => List.forall_mem_cons.mpr ⟨writable_ofDocument item, writable_ofItems items⟩

theorem writable_ofEntries (entries : List (Text × Document)) :
    ∀ entry ∈ ofEntries entries, Writable entry.2 :=
  match entries with
  | [] => fun _ impossible => absurd impossible List.not_mem_nil
  | (_, entry) :: entries =>
      List.forall_mem_cons.mpr ⟨writable_ofDocument entry, writable_ofEntries entries⟩

end

/-! ### What is lost -/

private theorem ofDocument_inTexts (document : Document) :
    ofDocument document.inTexts = ofDocument document :=
  ofDocument_of_toDocument? (toDocument?_ofDocument document)

private theorem ofDocument_eq_iff (document other : Document) :
    ofDocument document = ofDocument other ↔ document.inTexts = other.inTexts := by
  constructor
  · intro same
    have written := toDocument?_ofDocument document
    rw [same, toDocument?_ofDocument other] at written
    exact (Option.some.inj written).symm
  · intro same
    rw [← ofDocument_inTexts document, same, ofDocument_inTexts other]

private theorem ofDocument_mapping {entries : Entries Document}
    (distinct : (entries.map Prod.fst).Nodup) :
    ofDocument (.mapping entries) =
      .map (Entries.ofList (entries.map fun entry => (entry.1, ofDocument entry.2))) := by
  have names : ((entries.map fun entry => (entry.1, ofDocument entry.2)).map Prod.fst).Nodup := by
    rw [List.map_map]
    exact distinct
  rw [Entries.ofList_of_nodup names, ofDocument, Document.ofEntries_eq_map]

/-- A value that can be written as a document is what the document becomes. Every document becomes
such a value, and two become the same exactly if they are the same in texts. The names of a mapping
are entered in their order. -/
theorem conversion_exact_on_structure :
    (∀ value : Value, value.Writable →
      ∃ document, toDocument? value = some document ∧ ofDocument document = value) ∧
    (∀ document, (ofDocument document).Writable) ∧
    (∀ document other,
      ofDocument document = ofDocument other ↔ document.inTexts = other.inTexts) ∧
    ∀ entries : Entries Document, (entries.map Prod.fst).Nodup →
      ofDocument (.mapping entries) =
        .map (Entries.ofList (entries.map fun entry => (entry.1, ofDocument entry.2))) := by
  refine ⟨?_, writable_ofDocument, ofDocument_eq_iff, fun entries => ofDocument_mapping⟩
  intro value writable
  obtain ⟨document, written⟩ := writable.toDocument?
  exact ⟨document, written, ofDocument_of_toDocument? written⟩

/-- Names that are not in the order of the alphabet, a map within a list, the empty text and what is
missing. -/
theorem conversion_exact_on_structure_of_nested :
    (∃ value : Value,
      value = .map [(['z'], .list [.map [(['y'], .scalar [])], .boolean true]), (['a'], .list [])] ∧
        value.Writable ∧
        ∃ document, toDocument? value = some document ∧ ofDocument document = value) ∧
    ∃ entries : Entries Document,
      entries = [(['z'], .null), (['a'], .number (.whole 1))] ∧
        (entries.map Prod.fst).Nodup ∧
        ofDocument (.mapping entries) =
          .map (Entries.ofList (entries.map fun entry => (entry.1, ofDocument entry.2))) := by
  obtain ⟨back, _, _, entered⟩ := conversion_exact_on_structure
  have writable := writable_ofDocument
    (.mapping [(['z'], .sequence [.mapping [(['y'], .null)], .boolean true]), (['a'], .sequence [])])
  have distinct : ([(['z'], .null), (['a'], .number (.whole 1))].map
      (Prod.fst : Text × Document → Text)).Nodup := by
    decide
  exact ⟨⟨_, rfl, writable, back _ writable⟩, _, rfl, distinct, entered _ distinct⟩

end Value
end TextTemplate
