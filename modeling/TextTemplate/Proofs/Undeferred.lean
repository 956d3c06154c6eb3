import TextTemplate.Context
import TextTemplate.Proofs.Agreement

/-!
# Scopes without deferred texts

The trail of a rendering is only asked when a deferred text is invoked. In a scope that has none at
any depth, and a root context that has none, a rendering yields the same text, or none, on every
trail. No document holds a deferred text, and so no context does that was written as one.
-/

set_option autoImplicit false

namespace TextTemplate

namespace Value

/-- No deferred text is in it, at any depth. -/
inductive Undeferred : Value → Prop
  | scalar (text : Text) : Undeferred (.scalar text)
  | boolean (truth : Bool) : Undeferred (.boolean truth)
  | list {items : List Value} (values : ∀ item ∈ items, Undeferred item) : Undeferred (.list items)
  | map {entries : Context} (values : ∀ entry ∈ entries, Undeferred entry.2) :
      Undeferred (.map entries)
  | unsupported : Undeferred .unsupported

end Value

def Entries.Undeferred (scope : Context) : Prop :=
  ∀ entry ∈ scope, entry.2.Undeferred

/-! ### Documents -/

namespace Value

mutual

private theorem undeferred_ofDocument (document : Document) : (ofDocument document).Undeferred :=
  match document with
  | .null => .scalar []
  | .boolean truth => .boolean truth
  | .number number => .scalar number.text
  | .text text => .scalar text
  | .sequence items => .list (undeferred_ofItems items)
  | .mapping entries => .map (undeferred_ofEntries entries)

theorem undeferred_ofItems (items : List Document) :
    ∀ item ∈ ofItems items, Undeferred item :=
  match items with
  | [] => fun _ impossible => absurd impossible List.not_mem_nil
  | item :: items =>
      List.forall_mem_cons.mpr ⟨undeferred_ofDocument item, undeferred_ofItems items⟩

theorem undeferred_ofEntries (entries : List (Text × Document)) :
    ∀ entry ∈ ofEntries entries, entry.2.Undeferred :=
  match entries with
  | [] => fun _ impossible => absurd impossible List.not_mem_nil
  | (_, entry) :: entries =>
      List.forall_mem_cons.mpr ⟨undeferred_ofDocument entry, undeferred_ofEntries entries⟩

end

end Value

theorem Context.undeferred_of_parse {text : Text} {context : Context}
    (parsed : Context.parse text = .ok context) : Entries.Undeferred context := by
  have empty : Entries.Undeferred [] := fun _ impossible => absurd impossible List.not_mem_nil
  unfold parse at parsed
  split at parsed
  · cases parsed
    exact empty
  · split at parsed
    · cases parsed
    · next document _ =>
        have undeferred := Value.undeferred_ofDocument document
        unfold ofValue at parsed
        split at parsed
        · next entries isMap =>
            cases parsed
            rw [isMap] at undeferred
            cases undeferred with
            | map values => exact values
        · cases parsed
          exact empty
        · cases parsed

/-! ### Renderings -/

section

open Value Substitution Rendering

variable {value : Value} {scope root : Context} {template : Text}
variable {nested twin : Text → Context → Rendering Text}

private theorem undeferred_scopes (undeferred : value.Undeferred) :
    ∀ scope ∈ value.scopes, Entries.Undeferred scope := by
  refine forall_mem_scopes ?_ ?_ (fun _ alone => alone) undeferred
  · intro items holds
    cases holds with
    | list values => exact values
  · intro entries holds
    cases holds with
    | map values => exact values

def Trail.Any (_trail _other : Trail) : Prop :=
  True

private theorem Trail.noting_any : Trail.Noting Trail.Any :=
  ⟨fun _ _ => trivial⟩

def SameUndeferred (scope twin : Context) : Prop :=
  scope = twin ∧ Entries.Undeferred scope

private theorem bindings_agree_of_undeferred (undeferred : Entries.Undeferred scope)
    (rootUndeferred : Entries.Undeferred root)
    (rendered : InStep Trail.Any (fun _ => True) SameUndeferred nested twin) :
    Agree Trail.Any (scope.foldlM (applyBinding nested root) template)
      (scope.foldlM (applyBinding twin root) template) := by
  apply Agree.foldlM_of_all (List.forall₂_same.mpr fun _ _ => rfl)
  rintro state ⟨key, value⟩ _ bound rfl
  have valueUndeferred := undeferred _ bound
  have alike : value.Alike SameUndeferred value :=
    .of_scopes fun within among => ⟨rfl, undeferred_scopes valueUndeferred within among⟩
  refine applyBinding_agree_of_all Trail.noting_any ?_ alike (fun _ => ⟨rfl, rootUndeferred⟩)
    rendered state
  rintro source rfl
  cases valueUndeferred

/-- Without deferred texts the trail makes no difference to what is rendered. -/
theorem substituteWithin_agree_of_undeferred (undeferred : Entries.Undeferred scope)
    (rootUndeferred : Entries.Undeferred root) (depth : Nat) (template : Text) :
    Agree Trail.Any (substituteWithin depth template scope root)
      (substituteWithin depth template scope root) := by
  have same : SameUndeferred scope scope := ⟨rfl, undeferred⟩
  refine substituteWithin_inStep_of_all ?_ same depth template
  rintro nested twin rendered inner within _ ⟨rfl, withinUndeferred⟩
  exact bindings_agree_of_undeferred withinUndeferred rootUndeferred rendered

end

end TextTemplate
