import Mathlib.Data.List.Forall2
import TextTemplate.Proofs.Nesting

/-!
# Renderings in step

Two renderings of one template are run side by side, in scopes that differ. They agree if they yield
the same text, or neither yields any, and if trails that are related at the start are related at the
end. Agreement is kept by sequencing, and by folding and mapping over lists of the same length, so
that scopes are compared binding by binding.
-/

set_option autoImplicit false

namespace TextTemplate

structure Trail.Noting (related : Trail → Trail → Prop) : Prop where
  note {trail other : Trail} (notice : Notice) (alike : related trail other) :
    related (trail.note notice) (other.note notice)

/-- Doing the same keeps trails related, and related trails give the same when they are asked. -/
structure Trail.Steady (related : Trail → Trail → Prop) : Prop extends Trail.Noting related where
  invoke {trail other : Trail} (source : Deferred) (alike : related trail other) :
    (trail.invoke source).1 = (other.invoke source).1 ∧
      related (trail.invoke source).2 (other.invoke source).2

theorem Trail.steady_eq : Trail.Steady (· = ·) where
  note := by
    rintro trail _ notice rfl
    rfl
  invoke := by
    rintro trail _ source rfl
    exact ⟨rfl, rfl⟩

namespace Rendering

variable {α β γ : Type} {related : Trail → Trail → Prop}

/-- The activities do the same on related trails, as far as `related` tells. -/
def Agree (related : Trail → Trail → Prop) (first second : Rendering α) : Prop :=
  ∀ trail other, related trail other →
    Option.Rel (fun answer twin => answer.1 = twin.1 ∧ related answer.2 twin.2)
      (first trail) (second other)

namespace Agree

theorem pure (value : α) : Agree related (pure value) (pure value) :=
  fun _ _ alike => .some ⟨rfl, alike⟩

theorem outcome {first second : Rendering α} {trail other : Trail}
    (agree : Agree related first second) (alike : related trail other) :
    (first trail = none ∧ second other = none) ∨
      ∃ result after twinAfter, first trail = some (result, after) ∧
        second other = some (result, twinAfter) ∧ related after twinAfter := by
  have both := agree trail other alike
  generalize first trail = answer, second other = twin at both ⊢
  cases both with
  | none => exact .inl ⟨rfl, rfl⟩
  | @some answer twin same =>
      obtain ⟨result, after⟩ := answer
      obtain ⟨_, twinAfter⟩ := twin
      obtain ⟨rfl, stillAlike⟩ := same
      exact .inr ⟨_, after, twinAfter, rfl, rfl, stillAlike⟩

theorem bind {post : α → Prop} {first second : Rendering α} {next twin : α → Rendering β}
    (before : Agree related first second) (yields : Yields post first)
    (after : ∀ result, post result → Agree related (next result) (twin result)) :
    Agree related (first >>= next) (second >>= twin) := by
  intro trail other alike
  change Option.Rel _ ((first trail).bind fun step => next step.1 step.2)
    ((second other).bind fun step => twin step.1 step.2)
  rcases before.outcome alike with
    ⟨stuck, twinStuck⟩ | ⟨result, between, twinBetween, done, twinDone, stillAlike⟩
  · rw [stuck, twinStuck]
    exact .none
  · rw [done, twinDone]
    exact after result (yields trail result between done) between twinBetween stillAlike

theorem bind_of_all {first second : Rendering α} {next twin : α → Rendering β}
    (before : Agree related first second)
    (after : ∀ result, Agree related (next result) (twin result)) :
    Agree related (first >>= next) (second >>= twin) := by
  have yields : Yields (fun _ => True) first := Yields.of_forall fun _ => trivial
  exact before.bind yields fun result _ => after result

theorem foldlM {goal : β → Prop} {twins : α → γ → Prop} {step : β → α → Rendering β}
    {twin : β → γ → Rendering β} {items : List α} {others : List γ} {start : β}
    (pairs : List.Forall₂ twins items others) (holds : goal start)
    (preserved : ∀ state, ∀ item ∈ items, goal state → Yields goal (step state item))
    (each : ∀ state item other, item ∈ items → twins item other → goal state →
      Agree related (step state item) (twin state other)) :
    Agree related (items.foldlM step start) (others.foldlM twin start) := by
  induction pairs generalizing start with
  | nil => exact pure start
  | @cons item other items others here pairs ih =>
      rw [List.foldlM_cons, List.foldlM_cons]
      refine (each start item other List.mem_cons_self here holds).bind
        (preserved start item List.mem_cons_self holds) fun state stillHolds => ?_
      exact ih stillHolds
        (fun current later present => preserved current later (List.mem_cons_of_mem _ present))
        (fun current later twin present =>
          each current later twin (List.mem_cons_of_mem _ present))

theorem foldlM_of_all {twins : α → γ → Prop} {step : β → α → Rendering β}
    {twin : β → γ → Rendering β} {items : List α} {others : List γ} {start : β}
    (pairs : List.Forall₂ twins items others)
    (each : ∀ state item other, item ∈ items → twins item other →
      Agree related (step state item) (twin state other)) :
    Agree related (items.foldlM step start) (others.foldlM twin start) := by
  have holds : (fun _ : β => True) start := trivial
  exact foldlM pairs holds (fun _ _ _ _ => Yields.of_forall fun _ => trivial)
    fun state item other present here _ => each state item other present here

theorem mapM {step : α → Rendering β} {twin : γ → Rendering β} {items : List α}
    {others : List γ}
    (each : List.Forall₂ (fun item other => Agree related (step item) (twin other)) items others) :
    Agree related (items.mapM step) (others.mapM twin) := by
  induction each with
  | nil => exact pure []
  | cons here each ih =>
      rw [List.mapM_cons, List.mapM_cons]
      exact here.bind_of_all fun result => ih.bind_of_all fun results => pure (result :: results)

/-- Activities that agree look the same to whoever cannot tell related trails apart. -/
theorem map_eq {first second : Rendering α} {trail other : Trail} {view : α × Trail → β}
    (agree : Agree related first second) (alike : related trail other)
    (same : ∀ result trail other, related trail other →
      view (result, trail) = view (result, other)) :
    (first trail).map view = (second other).map view := by
  rcases agree.outcome alike with
    ⟨stuck, twinStuck⟩ | ⟨result, after, twinAfter, done, twinDone, stillAlike⟩
  · rw [stuck, twinStuck]
  · rw [done, twinDone]
    exact congrArg some (same result after twinAfter stillAlike)

theorem eq {first second : Rendering α} (agree : Agree (· = ·) first second) :
    first = second := by
  funext trail
  rcases agree.outcome rfl with ⟨stuck, twinStuck⟩ | ⟨result, after, _, done, twinDone, rfl⟩
  · exact stuck.trans twinStuck.symm
  · exact done.trans twinDone.symm

end Agree
end Rendering

/-- Values that bindings treat alike, if scopes that are related are rendered alike. -/
inductive Value.Alike (related : Context → Context → Prop) : Value → Value → Prop
  | scalar (text : Text) : Alike related (.scalar text) (.scalar text)
  | boolean (truth : Bool) : Alike related (.boolean truth) (.boolean truth)
  | list {items others : List Value}
      (scopes : List.Forall₂ (fun item other =>
        related (Substitution.itemScope item) (Substitution.itemScope other)) items others) :
      Alike related (.list items) (.list others)
  | map {entries others : Context} (empty : entries = [] ↔ others = [])
      (scopes : related entries others) : Alike related (.map entries) (.map others)
  | deferred (source : Deferred) : Alike related (.deferred source) (.deferred source)
  | unsupported : Alike related .unsupported .unsupported

private theorem Value.Alike.kind_eq {related : Context → Context → Prop} {value other : Value}
    (alike : value.Alike related other) : value.kind = other.kind := by
  cases alike with
  | scalar text => rfl
  | boolean truth => rfl
  | list scopes => rfl
  | map empty scopes => rfl
  | deferred source => rfl
  | unsupported => rfl

theorem Value.Alike.imp {related closer : Context → Context → Prop} {value other : Value}
    (alike : value.Alike related other)
    (each : ∀ scope ∈ value.scopes, ∀ twin, related scope twin → closer scope twin) :
    value.Alike closer other := by
  cases alike with
  | scalar text => exact .scalar text
  | boolean truth => exact .boolean truth
  | @list items others scopes =>
      have among : ∀ item ∈ items, Substitution.itemScope item ∈ (Value.list items).scopes :=
        fun item present => List.mem_map_of_mem present
      have pairs := (List.forall₂_and_left _ _).mpr ⟨among, scopes⟩
      exact .list (pairs.imp fun item other both => each _ both.1 _ both.2)
  | map empty scopes => exact .map empty (each _ (List.mem_singleton.mpr rfl) _ scopes)
  | deferred source => exact .deferred source
  | unsupported => exact .unsupported

theorem Value.Alike.of_scopes {related : Context → Context → Prop} {value : Value}
    (reflexive : ∀ scope ∈ value.scopes, related scope scope) : value.Alike related value := by
  cases value with
  | scalar text => exact .scalar text
  | boolean truth => exact .boolean truth
  | list items =>
      refine .list (List.forall₂_same.mpr fun item present => ?_)
      exact reflexive _ (List.mem_map_of_mem present)
  | map entries => exact .map Iff.rfl (reflexive entries (List.mem_singleton.mpr rfl))
  | deferred source => exact .deferred source
  | unsupported => exact .unsupported

theorem Value.Alike.refl {related : Context → Context → Prop} {name text : Text → Prop}
    {value : Value} (itemHolds : name Substitution.itemName)
    (reflexive : ∀ scope, Entries.Every name text scope → related scope scope)
    (holds : value.Every name text) : value.Alike related value :=
  .of_scopes fun scope among =>
    reflexive scope (Substitution.every_scopes itemHolds holds scope among)

namespace Substitution

open Rendering

variable {trails : Trail → Trail → Prop} {kind : SectionKind} {name template : Text}

theorem note_agree (noting : Trail.Noting trails) (notice : Notice) :
    Agree trails (note notice) (note notice) :=
  fun _ _ alike => .some ⟨rfl, noting.note notice alike⟩

theorem invoke_agree (steady : Trail.Steady trails) (source : Deferred) :
    Agree trails (invoke source) (invoke source) :=
  fun _ _ alike => .some (steady.invoke source alike)

private theorem noteRefusal_agree (noting : Trail.Noting trails) (name : Text) :
    Agree trails (noteRefusal name) (noteRefusal name) := by
  unfold noteRefusal
  split
  · exact Agree.pure ()
  · exact note_agree noting _

private theorem removeSections_agree (noting : Trail.Noting trails) :
    Agree trails (removeSections kind name template) (removeSections kind name template) :=
  (noteRefusal_agree noting name).bind_of_all fun _ => Agree.pure _

private theorem spliceSections_agree {content twin : Text → Rendering Text}
    (noting : Trail.Noting trails)
    (contents : ∀ found ∈ Section.findAll kind name template,
      Agree trails (content found.body) (twin found.body)) :
    Agree trails (spliceSections content kind name template)
      (spliceSections twin kind name template) := by
  refine (noteRefusal_agree noting name).bind_of_all fun _ => ?_
  rw [foldlM_spliceSection, foldlM_spliceSection]
  exact (Agree.mapM (List.forall₂_same.mpr contents)).bind_of_all fun _ => Agree.pure _

private theorem fillForm_agree {source : Deferred}
    (asked : Agree trails (invoke source) (invoke source))
    (tag : Text) (written : Text → Text) (template : Text) :
    Agree trails (fillForm tag written source template) (fillForm tag written source template) := by
  unfold fillForm
  split
  · exact asked.bind_of_all fun _ => Agree.pure _
  · exact Agree.pure _

private theorem fillDeferred_agree {source : Deferred}
    (asked : Agree trails (invoke source) (invoke source)) (key template : Text) :
    Agree trails (fillDeferred key source template) (fillDeferred key source template) := by
  rw [fillDeferred_eq]
  exact (fillForm_agree asked _ _ template).bind_of_all fun between =>
    fillForm_agree asked _ _ between

/-! ### One binding -/

/-- Bodies of which `body` holds are rendered alike in related scopes. -/
def InStep (trails : Trail → Trail → Prop) (body : Text → Prop)
    (scopes : Context → Context → Prop) (nested twin : Text → Context → Rendering Text) : Prop :=
  ∀ inner scope twinScope, body inner → scopes scope twinScope →
    Agree trails (nested inner scope) (twin inner twinScope)

variable {nested twin : Text → Context → Rendering Text} {root twinRoot : Context} {key : Text}
variable {value other : Value} {scopes : Context → Context → Prop}

theorem tooDeep_inStep {body : Text → Prop} :
    InStep trails body scopes (fun _ _ => tooDeep) (fun _ _ => tooDeep) :=
  fun _ _ _ _ _ _ _ _ => .none

/-- Bindings of a name to values that are alike agree. The root contexts matter only to a truth
value, and what trails answer when they are asked only to a deferred text. -/
private theorem applyBinding_agree (noting : Trail.Noting trails)
    (asked : ∀ source, value = .deferred source → Agree trails (invoke source) (invoke source))
    (goal body : Text → Prop) (alike : value.Alike scopes other)
    (roots : value.kind = .boolean → scopes root twinRoot)
    (removed : ∀ kind template, goal template → goal (Section.removeAll kind key template))
    (bodies : ∀ kind template, ∀ found ∈ Section.findAll kind key template, goal template →
      body found.body ∧ body (loopBody found.body))
    (rendered : InStep trails body scopes nested twin) {template : Text} (holds : goal template) :
    Agree trails (applyBinding nested root template (key, value))
      (applyBinding twin twinRoot template (key, other)) := by
  unfold applyBinding
  rw [← alike.kind_eq]
  apply (note_agree noting _).bind_of_all
  intro _
  cases alike with
  | scalar text => exact Agree.pure _
  | boolean truth =>
      have base := removed (SectionKind.ofTruth truth).opposite template holds
      apply (removeSections_agree noting).bind (removeSections_yields base)
      intro kept keptHolds
      apply spliceSections_agree noting
      intro found present
      exact rendered _ _ _ (bodies _ kept found present keptHolds).1 (roots rfl)
  | @list items others itemScopes =>
      have copies : ∀ inner, body inner →
          Agree trails (items.mapM fun item => nested inner (itemScope item))
            (others.mapM fun other => twin inner (itemScope other)) := by
        intro inner innerHolds
        apply Agree.mapM
        exact itemScopes.imp fun item other related => rendered inner _ _ innerHolds related
      cases itemScopes with
      | nil => exact removeSections_agree noting
      | cons here itemScopes =>
          apply spliceSections_agree noting
          intro found present
          have repeated := (bodies _ template found present holds).2
          exact (copies _ repeated).bind_of_all fun _ => Agree.pure _
  | @map entries others empty related =>
      cases entries with
      | nil =>
          rw [empty.mp rfl]
          exact removeSections_agree noting
      | cons entry entries =>
          cases others with
          | nil => exact absurd (empty.mpr rfl) (List.cons_ne_nil _ _)
          | cons other others =>
              apply spliceSections_agree noting
              intro found present
              exact rendered _ _ _ (bodies _ template found present holds).1 related
  | deferred source => exact fillDeferred_agree (asked source rfl) key template
  | unsupported => exact (note_agree noting _).bind_of_all fun _ => Agree.pure _

theorem applyBinding_agree_of_all (noting : Trail.Noting trails)
    (asked : ∀ source, value = .deferred source → Agree trails (invoke source) (invoke source))
    (alike : value.Alike scopes other) (roots : value.kind = .boolean → scopes root twinRoot)
    (rendered : InStep trails (fun _ => True) scopes nested twin) (template : Text) :
    Agree trails (applyBinding nested root template (key, value))
      (applyBinding twin twinRoot template (key, other)) :=
  applyBinding_agree noting asked (fun _ => True) (fun _ => True) alike roots
    (fun _ _ _ => trivial) (fun _ _ _ _ _ => ⟨trivial, trivial⟩) rendered trivial

theorem applyBinding_agree_of_flat {allowed : Token → Prop} (steady : Trail.Steady trails)
    (plain : key.Plain) (alike : value.Alike scopes other)
    (roots : value.kind = .boolean → scopes root twinRoot)
    (rendered : InStep trails (Flat allowed) scopes nested twin) (flat : Flat allowed template) :
    Agree trails (applyBinding nested root template (key, value))
      (applyBinding twin twinRoot template (key, other)) := by
  apply applyBinding_agree steady.toNoting (fun source _ => invoke_agree steady source)
    (Flat allowed) (Flat allowed) alike roots _ _ rendered flat
  · intro kind template flat
    exact flat.removeAll plain
  · intro kind template found present flat
    have body := (flat.body plain present).1.mono fun token holds => holds.1
    exact ⟨body, body.loopBody⟩

/-! ### Whole renderings -/

theorem substituteWithin_inStep {body : Text → Prop}
    (keeps : ∀ depth inner scope twinScope, body inner → scopes scope twinScope →
      Yields body (substituteWithin depth inner scope root))
    (bindings : ∀ nested twin, InStep trails body scopes nested twin →
      (∀ inner scope twinScope, body inner → scopes scope twinScope →
        Yields body (nested inner scope)) →
      InStep trails body scopes
        (fun template scope => scope.foldlM (applyBinding nested root) template)
        (fun template scope => scope.foldlM (applyBinding twin twinRoot) template))
    (depth : Nat) :
    InStep trails body scopes (fun template scope => substituteWithin depth template scope root)
      (fun template scope => substituteWithin depth template scope twinRoot) := by
  induction depth with
  | zero => exact bindings _ _ tooDeep_inStep fun _ _ _ _ _ => tooDeep_yields body
  | succ depth ih => exact bindings _ _ ih (keeps depth)

theorem substituteWithin_inStep_of_all
    (bindings : ∀ nested twin, InStep trails (fun _ => True) scopes nested twin →
      ∀ template scope twinScope, scopes scope twinScope →
        Agree trails (scope.foldlM (applyBinding nested root) template)
          (twinScope.foldlM (applyBinding twin twinRoot) template))
    {scope twinScope : Context} (related : scopes scope twinScope) (depth : Nat)
    (template : Text) :
    Agree trails (substituteWithin depth template scope root)
      (substituteWithin depth template twinScope twinRoot) := by
  refine substituteWithin_inStep (fun _ _ _ _ _ _ => Yields.of_forall fun _ => trivial) ?_ depth
    template scope twinScope trivial related
  exact fun nested twin rendered _ inner scope twinScope _ related =>
    bindings nested twin rendered inner scope twinScope related

end Substitution
end TextTemplate
