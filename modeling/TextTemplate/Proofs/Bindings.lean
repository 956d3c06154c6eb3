import TextTemplate.Proofs.Placement

/-!
# What one binding does

A binding fills the tags of its name, or removes sections of its name, or replaces them. A property
of templates that each of these keeps is kept by the binding, and one that every binding keeps is
kept by a whole rendering. A rendering answers if the renderings of the bodies it meets do, and the
answer does not change when more nesting is allowed.
-/

set_option autoImplicit false

namespace TextTemplate

private theorem Value.sizeOf_lt_of_mem_entries {entry : Text × Value} {entries : Context}
    (present : entry ∈ entries) : sizeOf entry.2 < 1 + sizeOf entries := by
  have whole := List.sizeOf_lt_of_mem present
  obtain ⟨key, value⟩ := entry
  rw [Prod.mk.sizeOf_spec] at whole
  change sizeOf value < _
  omega

@[elab_as_elim]
theorem Value.inductOn {motive : Value → Prop} (value : Value)
    (scalar : ∀ text, motive (.scalar text)) (boolean : ∀ truth, motive (.boolean truth))
    (list : ∀ items, (∀ item ∈ items, motive item) → motive (.list items))
    (map : ∀ entries : Context, (∀ entry ∈ entries, motive entry.2) → motive (.map entries))
    (deferred : ∀ source, motive (.deferred source)) (unsupported : motive .unsupported) :
    motive value :=
  match value with
  | .scalar text => scalar text
  | .boolean truth => boolean truth
  | .list items =>
      list items fun item _ => inductOn item scalar boolean list map deferred unsupported
  | .map entries =>
      map entries fun entry among =>
        have _smaller := sizeOf_lt_of_mem_entries among
        inductOn entry.2 scalar boolean list map deferred unsupported
  | .deferred source => deferred source
  | .unsupported => unsupported

/-- Every name and every text in a value, at any depth, is as `name` and `text` say. Of a deferred
text that means what each of its invocations yields. -/
inductive Value.Every (name text : Text → Prop) : Value → Prop
  | scalar {written : Text} (holds : text written) : Every name text (.scalar written)
  | boolean (truth : Bool) : Every name text (.boolean truth)
  | list {items : List Value} (values : ∀ item ∈ items, Every name text item) :
      Every name text (.list items)
  | map {entries : Context} (names : ∀ entry ∈ entries, name entry.1)
      (values : ∀ entry ∈ entries, Every name text entry.2) : Every name text (.map entries)
  | deferred {source : Deferred} (holds : ∀ count, text (source.produce count)) :
      Every name text (.deferred source)
  | unsupported : Every name text .unsupported

def Entries.Every (name text : Text → Prop) (scope : Context) : Prop :=
  ∀ entry ∈ scope, name entry.1 ∧ entry.2.Every name text

theorem Entries.Every.nil {name text : Text → Prop} : Entries.Every name text [] :=
  fun _ impossible => absurd impossible List.not_mem_nil

theorem Entries.Every.cons {name text : Text → Prop} {entry : Text × Value} {scope : Context}
    (key : name entry.1) (value : entry.2.Every name text)
    (others : Entries.Every name text scope) :
    Entries.Every name text (entry :: scope) :=
  List.forall_mem_cons.mpr ⟨⟨key, value⟩, others⟩

theorem Value.Every.mono {name other text : Text → Prop} (weaker : ∀ key, name key → other key)
    {value : Value} (holds : value.Every name text) : value.Every other text := by
  induction holds with
  | scalar written => exact .scalar written
  | boolean truth => exact .boolean truth
  | list _ ih => exact .list ih
  | map names _ ih => exact .map (fun entry present => weaker _ (names entry present)) ih
  | deferred produced => exact .deferred produced
  | unsupported => exact .unsupported

theorem Entries.Every.mono {name other text : Text → Prop} (weaker : ∀ key, name key → other key)
    {scope : Context} (holds : Entries.Every name text scope) : Entries.Every other text scope :=
  fun entry present => ⟨weaker _ (holds entry present).1, (holds entry present).2.mono weaker⟩

/-- The scopes within a value that sections are rendered in. A truth value has none of its own: it
has its sections rendered in the root context. -/
def Value.scopes : Value → List Context
  | .list items => items.map Substitution.itemScope
  | .map entries => [entries]
  | _ => []

theorem Markup.not_mem_entity {c brace : Char} (isBrace : brace = '{' ∨ brace = '}')
    (other : c ≠ brace) : brace ∉ Markup.entity c := by
  unfold Markup.entity
  rcases isBrace with rfl | rfl
  · split <;> simp_all [eq_comm]
  · split <;> simp_all [eq_comm]

namespace Substitution

open Rendering

variable {name text : Text → Prop}

theorem itemScope_cases (item : Value) :
    (∃ entries, item = .map entries) ∨ item = .list [] ∨ itemScope item = [(itemName, item)] := by
  cases item with
  | map entries => exact .inl ⟨entries, rfl⟩
  | list items =>
      cases items with
      | nil => exact .inr (.inl rfl)
      | cons item items => exact .inr (.inr rfl)
  | scalar text => exact .inr (.inr rfl)
  | boolean truth => exact .inr (.inr rfl)
  | deferred source => exact .inr (.inr rfl)
  | unsupported => exact .inr (.inr rfl)

private theorem forall_mem_itemScope {holds : Value → Prop} {bound : Text × Value → Prop}
    (maps : ∀ entries, holds (.map entries) → ∀ entry ∈ entries, bound entry)
    (alone : ∀ value, holds value → bound (itemName, value)) {item : Value}
    (itemHolds : holds item) : ∀ entry ∈ itemScope item, bound entry := by
  rcases itemScope_cases item with ⟨entries, rfl⟩ | rfl | wrapped
  · exact maps entries itemHolds
  · exact fun _ impossible => absurd impossible List.not_mem_nil
  · rw [wrapped]
    exact List.forall_mem_singleton.mpr (alone item itemHolds)

theorem forall_mem_scopes {holds : Value → Prop} {bound : Text × Value → Prop}
    (lists : ∀ items, holds (.list items) → ∀ item ∈ items, holds item)
    (maps : ∀ entries, holds (.map entries) → ∀ entry ∈ entries, bound entry)
    (alone : ∀ value, holds value → bound (itemName, value)) {value : Value}
    (valueHolds : holds value) : ∀ scope ∈ value.scopes, ∀ entry ∈ scope, bound entry := by
  intro scope present
  cases value with
  | list items =>
      obtain ⟨item, among, rfl⟩ := List.mem_map.mp present
      exact forall_mem_itemScope maps alone (lists items valueHolds item among)
  | map entries =>
      cases List.mem_singleton.mp present
      exact maps _ valueHolds
  | scalar _ => cases present
  | boolean _ => cases present
  | deferred _ => cases present
  | unsupported => cases present

private theorem every_entries {entries : Context} (holds : (Value.map entries).Every name text) :
    Entries.Every name text entries := by
  cases holds with
  | map names values => exact fun entry present => ⟨names entry present, values entry present⟩

theorem every_itemScope (itemHolds : name itemName) {item : Value} (holds : item.Every name text) :
    Entries.Every name text (itemScope item) :=
  forall_mem_itemScope (fun _ => every_entries) (fun _ alone => ⟨itemHolds, alone⟩) holds

theorem every_scopes (itemHolds : name itemName) {value : Value} (holds : value.Every name text) :
    ∀ scope ∈ value.scopes, Entries.Every name text scope := by
  refine forall_mem_scopes ?_ (fun _ => every_entries) (fun _ alone => ⟨itemHolds, alone⟩) holds
  intro items holds
  cases holds with
  | list values => exact values

/-! ### Filling tags -/

/-- Fill raw tags with one text and the other tags with another, made safe for markup. -/
def fillTags (key raw escaped template : Text) : Text :=
  Text.replaceAll (Tag.escaped key) (Markup.escape escaped)
    (Text.replaceAll (Tag.raw key) raw template)

def fillForm (tag : Text) (written : Text → Text) (source : Deferred) (template : Text) :
    Rendering Text :=
  if Text.occursIn tag template then do
    let text ← invoke source
    pure (Text.replaceAll tag (written text) template)
  else pure template

theorem fillDeferred_eq (key : Text) (source : Deferred) (template : Text) :
    fillDeferred key source template =
      fillForm (Tag.raw key) id source template >>=
        fillForm (Tag.escaped key) Markup.escape source := by
  unfold fillDeferred fillForm
  split
  · rw [bind_assoc]
    rfl
  · rfl

theorem invoke_yields {source : Deferred} (holds : ∀ count, text (source.produce count)) :
    Yields text (invoke source) := by
  intro trail result after done
  cases done
  exact holds _

private theorem fillForm_yields {source : Deferred} (holds : ∀ count, text (source.produce count))
    (tag : Text) (written : Text → Text) (template : Text) :
    Yields (fun filled => ∃ value, text value ∧
      filled = Text.replaceAll tag (written value) template)
      (fillForm tag written source template) := by
  unfold fillForm
  split
  · exact (invoke_yields holds).bind fun value valueHolds => Yields.pure ⟨value, valueHolds, rfl⟩
  · next missing =>
      refine Yields.pure ⟨source.produce 0, holds 0, ?_⟩
      rw [Text.replaceAll_of_not_occursIn missing]

theorem fillDeferred_yields {source : Deferred} (holds : ∀ count, text (source.produce count))
    (key template : Text) :
    Yields (fun filled => ∃ raw escaped, text raw ∧ text escaped ∧
      filled = fillTags key raw escaped template) (fillDeferred key source template) := by
  rw [fillDeferred_eq]
  refine (fillForm_yields holds _ _ template).bind ?_
  rintro between ⟨raw, rawHolds, rfl⟩
  refine (fillForm_yields holds _ _ _).mono ?_
  rintro result ⟨escaped, escapedHolds, rfl⟩
  exact ⟨raw, escaped, rawHolds, escapedHolds, rfl⟩

private theorem fillForm_completes (tag : Text) (written : Text → Text) (source : Deferred)
    (template : Text) : Completes (fillForm tag written source template) := by
  unfold fillForm
  split
  · have invoked : Completes (invoke source) := fun trail => ⟨_, rfl⟩
    exact invoked.bind_of_all fun _ => Completes.pure _
  · exact Completes.pure _

private theorem fillDeferred_completes (key : Text) (source : Deferred) (template : Text) :
    Completes (fillDeferred key source template) := by
  rw [fillDeferred_eq]
  exact (fillForm_completes _ _ _ _).bind_of_all fun _ => fillForm_completes _ _ _ _

/-! ### One binding -/

variable {nested : Text → Context → Rendering Text} {root : Context} {key : Text} {value : Value}

theorem noted_yields {goal : Text → Prop} {notice : Notice} {activity : Rendering Text}
    (yields : Yields goal activity) : Yields goal (note notice >>= fun _ => activity) :=
  Yields.bind_of_all fun _ => yields

/-- A property of templates that is kept by filling tags, by removing sections and by exchanging a
section for a content, is kept by a binding. `body` holds of the bodies, `post` of the contents. -/
theorem applyBinding_yields (goal body post : Text → Prop)
    (bound : value.Every name text) (rootBound : Entries.Every name text root)
    (filled : ∀ raw escaped template, text raw → text escaped → goal template →
      goal (fillTags key raw escaped template))
    (removed : ∀ kind template, goal template → goal (Section.removeAll kind key template))
    (bodies : ∀ kind template, ∀ found ∈ Section.findAll kind key template,
      goal template → body found.body)
    (exchanged : ∀ kind template, ∀ found ∈ Section.findAll kind key template,
      ∀ content current, goal template → post content → goal current →
        goal (Text.replaceFirst found.full (content ++ ['\n']) current))
    (rendered : ∀ inner scope, body inner → Entries.Every name text scope →
      Yields post (nested inner scope))
    (repeated : ∀ inner items, body inner → (∀ item ∈ items, Value.Every name text item) →
      Yields post (itemsContent nested items inner))
    {template : Text} (holds : goal template) :
    Yields goal (applyBinding nested root template (key, value)) := by
  have removes : ∀ kind, Yields goal (removeSections kind key template) :=
    fun kind => removeSections_yields (removed kind template holds)
  have splices : ∀ content kind base, goal base →
      (∀ found ∈ Section.findAll kind key base, Yields post (content found.body)) →
      Yields goal (spliceSections content kind key base) := by
    intro content kind base baseHolds contents
    apply spliceSections_yields baseHolds contents
    intro found present text current textHolds currentHolds
    exact exchanged kind base found present text current baseHolds textHolds currentHolds
  apply noted_yields
  cases bound with
  | scalar written => exact Yields.pure (filled _ _ template written written holds)
  | boolean truth =>
      refine (removes (SectionKind.ofTruth truth).opposite).bind fun base baseHolds => ?_
      apply splices _ _ base baseHolds
      intro found present
      exact rendered found.body root (bodies _ base found present baseHolds) rootBound
  | @list items values =>
      cases items with
      | nil => exact removes .positive
      | cons item items =>
          apply splices _ .positive template holds
          intro found present
          exact repeated found.body _ (bodies _ template found present holds) values
  | @map entries names values =>
      cases entries with
      | nil => exact removes .positive
      | cons entry entries =>
          apply splices _ .positive template holds
          intro found present
          exact rendered found.body _ (bodies _ template found present holds)
            fun entry present => ⟨names entry present, values entry present⟩
  | deferred produced =>
      refine (fillDeferred_yields produced key template).mono ?_
      rintro result ⟨raw, escaped, rawHolds, escapedHolds, rfl⟩
      exact filled raw escaped template rawHolds escapedHolds holds
  | unsupported => exact noted_yields (Yields.pure holds)

theorem applyBinding_completes (goal body : Text → Prop)
    (removed : ∀ kind template, goal template → goal (Section.removeAll kind key template))
    (bodies : ∀ kind template, ∀ found ∈ Section.findAll kind key template, goal template →
      body found.body ∧ body (loopBody found.body))
    (rendered : ∀ inner, body inner → ∀ scope ∈ value.scopes, Completes (nested inner scope))
    (rooted : value.kind = .boolean → ∀ inner, body inner → Completes (nested inner root))
    {template : Text} (holds : goal template) :
    Completes (applyBinding nested root template (key, value)) := by
  have noted : ∀ notice, Completes (note notice) := fun _ trail => ⟨_, rfl⟩
  refine (noted _).bind_of_all fun _ => ?_
  cases value with
  | scalar written => exact Completes.pure _
  | boolean truth =>
      have base := removed (SectionKind.ofTruth truth).opposite template holds
      refine removeSections_completes.bind (removeSections_yields base) fun kept keptHolds => ?_
      apply spliceSections_completes
      intro found present
      exact rooted rfl found.body (bodies _ kept found present keptHolds).1
  | list items =>
      cases items with
      | nil => exact removeSections_completes
      | cons item items =>
          apply spliceSections_completes
          intro found present
          have repeated := (bodies _ template found present holds).2
          refine (Completes.mapM fun item among => ?_).bind_of_all fun _ => Completes.pure _
          exact rendered _ repeated _ (List.mem_map_of_mem among)
  | map entries =>
      cases entries with
      | nil => exact removeSections_completes
      | cons entry entries =>
          apply spliceSections_completes
          intro found present
          exact rendered _ (bodies _ template found present holds).1 _ (List.mem_singleton.mpr rfl)
  | deferred source => exact fillDeferred_completes key _ template
  | unsupported => exact (noted _).bind_of_all fun _ => Completes.pure _

/-! ### Allowing more nesting -/

theorem tooDeep_extends {α : Type} (activity : Rendering α) : Extends activity tooDeep := by
  intro trail answer impossible
  cases impossible

private theorem spliceSections_extends {large small : Text → Rendering Text}
    (each : ∀ inner, Extends (large inner) (small inner)) (kind : SectionKind)
    (key template : Text) :
    Extends (spliceSections large kind key template) (spliceSections small kind key template) := by
  refine (Extends.refl _).bind fun _ => Extends.foldlM _ ?_ template
  intro current found
  exact (each found.body).bind fun _ => Extends.refl _

private theorem applyBinding_extends {large small : Text → Context → Rendering Text}
    (each : ∀ inner scope, Extends (large inner scope) (small inner scope)) (root : Context)
    (template : Text) (binding : Text × Value) :
    Extends (applyBinding large root template binding)
      (applyBinding small root template binding) := by
  obtain ⟨key, value⟩ := binding
  refine (Extends.refl _).bind fun _ => ?_
  cases value with
  | scalar written => exact Extends.refl _
  | boolean truth =>
      refine (Extends.refl _).bind fun base => ?_
      exact spliceSections_extends (fun inner => each inner root) _ key base
  | list items =>
      cases items with
      | nil => exact Extends.refl _
      | cons item items =>
          refine spliceSections_extends (fun inner => ?_) _ key template
          refine Extends.bind (Extends.mapM _ fun item => ?_) fun _ => Extends.refl _
          exact each (loopBody inner) (itemScope item)
  | map entries =>
      cases entries with
      | nil => exact Extends.refl _
      | cons entry entries =>
          exact spliceSections_extends (fun inner => each inner _) _ key template
  | deferred source => exact Extends.refl _
  | unsupported => exact Extends.refl _

theorem substituteWithin_extends {small large : Nat} (deeper : small ≤ large)
    (template : Text) (scope root : Context) :
    Extends (substituteWithin large template scope root)
      (substituteWithin small template scope root) := by
  -- What is too deep for the smaller depth has no answer there, so any will do for the larger.
  induction small generalizing large template scope with
  | zero =>
      unfold substituteWithin
      refine Extends.foldlM scope (fun current binding => ?_) template
      exact applyBinding_extends (fun _ _ => tooDeep_extends _) root current binding
  | succ small ih =>
      obtain ⟨larger, rfl⟩ := Nat.exists_eq_add_one_of_ne_zero (Nat.ne_zero_of_lt deeper)
      unfold substituteWithin
      refine Extends.foldlM scope (fun current binding => ?_) template
      apply applyBinding_extends
      exact fun inner innerScope => ih (Nat.le_of_succ_le_succ deeper) inner innerScope

theorem tooDeep_yields {α : Type} (goal : α → Prop) : Yields goal tooDeep := by
  intro trail result after impossible
  cases impossible

end Substitution
end TextTemplate
