import TextTemplate.Proofs.Agreement

/-!
# Entries that make no difference

A context is compared with one that has more entries, between its own and in the maps and lists
within it. If each entry that is added does nothing but note, then templates are rendered in both
alike, with the same invocations: only the journals differ. Entries that are not supported are of
this kind, whatever the template is.
-/

set_option autoImplicit false

namespace TextTemplate

/-- The larger context has more entries, each as `extra` says, at any place and at any depth. Where
a name is bound to a map, entries are added only if the map has some. A list item is compared by the
scope that it is rendered in. -/
inductive Entries.Padded (extra : Text × Value → Prop) : Context → Context → Prop
  | nil : Padded extra [] []
  | keep {key : Text} {value other : Value} {scope larger : Context}
      (alike : value.Alike (Padded extra) other) (rest : Padded extra scope larger) :
      Padded extra ((key, value) :: scope) ((key, other) :: larger)
  | insert {entry : Text × Value} {scope larger : Context} (holds : extra entry)
      (rest : Padded extra scope larger) : Padded extra scope (entry :: larger)

namespace Entries.Padded

open Substitution

variable {extra : Text × Value → Prop} {value other : Value} {scope larger : Context}

theorem append {front largerFront : Context} (first : Padded extra front largerFront)
    (second : Padded extra scope larger) :
    Padded extra (front ++ scope) (largerFront ++ larger) := by
  induction largerFront generalizing front with
  | nil =>
      cases first with
      | nil => exact second
  | cons entry largerFront ih =>
      cases first with
      | keep alike rest => exact .keep alike (ih rest)
      | insert holds rest => exact .insert holds (ih rest)

private theorem itemScope (alike : value.Alike (Padded extra) other) :
    Padded extra (itemScope value) (itemScope other) := by
  have wrapped : Padded extra [(itemName, value)] [(itemName, other)] := .keep alike .nil
  cases alike with
  | map empty scopes => exact scopes
  | list scopes =>
      cases scopes with
      | nil => exact .nil
      | cons here scopes => exact wrapped
  | scalar text => exact wrapped
  | boolean truth => exact wrapped
  | deferred source => exact wrapped
  | unsupported => exact wrapped

private theorem of_alike (each : ∀ entry ∈ scope, entry.2.Alike (Padded extra) entry.2) :
    Padded extra scope scope := by
  induction scope with
  | nil => exact .nil
  | cons entry scope ih =>
      exact .keep (each entry List.mem_cons_self)
        (ih fun other present => each other (List.mem_cons_of_mem entry present))

private theorem alike_self (value : Value) : value.Alike (Padded extra) value := by
  induction value using Value.inductOn with
  | scalar text => exact .scalar text
  | boolean truth => exact .boolean truth
  | list items ih =>
      exact .list (List.forall₂_same.mpr fun item present => itemScope (ih item present))
  | map entries ih => exact .map Iff.rfl (of_alike ih)
  | deferred source => exact .deferred source
  | unsupported => exact .unsupported

theorem refl (scope : Context) : Padded extra scope scope :=
  of_alike fun entry _ => alike_self entry.2

end Entries.Padded

/-! ### Apart from the journal -/

def Trail.SameInvocations (trail other : Trail) : Prop :=
  trail.invoked = other.invoked

theorem Trail.steady_sameInvocations : Trail.Steady Trail.SameInvocations where
  note := fun _ same => same
  invoke := by
    intro trail other source same
    have counts : trail.invocations source.source = other.invocations source.source :=
      congrArg (List.count source.source) same
    exact ⟨congrArg source.produce counts, congrArg (source.source :: ·) same⟩

namespace Rendering

variable {α β : Type}

/-- What comes of an activity apart from the journal: the result, and the sources of the deferred
texts that have been invoked, newest first. -/
def observed (activity : Rendering α) (trail : Trail) : Option (α × List Nat) :=
  (activity trail).map (Prod.map id Trail.invoked)

theorem Agree.observed_eq {first second : Rendering α}
    (agree : Agree Trail.SameInvocations first second) (trail : Trail) :
    observed first trail = observed second trail :=
  agree.map_eq rfl fun result _ _ same => congrArg (result, ·) same

def OnlyNotes (result : α) (activity : Rendering α) : Prop :=
  ∀ trail, ∃ notices, activity trail = some (result, { trail with notices := notices })

namespace OnlyNotes

theorem pure (result : α) : OnlyNotes result (pure result) :=
  fun trail => ⟨trail.notices, rfl⟩

theorem note (notice : Notice) : OnlyNotes () (note notice) :=
  fun trail => ⟨notice :: trail.notices, rfl⟩

theorem bind {between : α} {result : β} {activity : Rendering α} {next : α → Rendering β}
    (first : OnlyNotes between activity) (second : OnlyNotes result (next between)) :
    OnlyNotes result (activity >>= next) := by
  intro trail
  obtain ⟨earlier, firstDone⟩ := first trail
  obtain ⟨notices, secondDone⟩ := second { trail with notices := earlier }
  exact ⟨notices, bind_eq_some_iff.mpr ⟨between, _, firstDone, secondDone⟩⟩

theorem agree {result : α} {activity : Rendering α} (quiet : OnlyNotes result activity) :
    Agree Trail.SameInvocations (Pure.pure result) activity := by
  intro trail other same
  obtain ⟨notices, done⟩ := quiet other
  rw [done]
  exact .some ⟨rfl, same⟩

end OnlyNotes

/-- Folding over more entries agrees with folding over fewer, if those that are added do nothing but
note. -/
theorem Agree.foldlM_padded {extra : Text × Value → Prop} {goal : β → Prop}
    {step twin : β → Text × Value → Rendering β} {scope larger : Context} {start : β}
    (padded : Entries.Padded extra scope larger) (holds : goal start)
    (preserved : ∀ state, ∀ entry ∈ scope, goal state → Yields goal (step state entry))
    (idle : ∀ state entry, extra entry → goal state → OnlyNotes state (twin state entry))
    (each : ∀ state key value other, (key, value) ∈ scope →
      value.Alike (Entries.Padded extra) other → goal state →
        Agree Trail.SameInvocations (step state (key, value)) (twin state (key, other))) :
    Agree Trail.SameInvocations (scope.foldlM step start) (larger.foldlM twin start) := by
  induction larger generalizing scope start with
  | nil =>
      cases padded with
      | nil => exact Agree.pure start
  | cons entry larger ih =>
      rw [List.foldlM_cons]
      cases padded with
      | insert isExtra rest =>
          rw [← pure_bind start fun state => scope.foldlM step state]
          refine (idle start entry isExtra holds).agree.bind (Yields.pure holds) ?_
          exact fun state stillHolds => ih rest stillHolds preserved each
      | @keep key value other scope _ alike rest =>
          rw [List.foldlM_cons]
          refine (each start key value other List.mem_cons_self alike holds).bind
            (preserved start _ List.mem_cons_self holds) fun state stillHolds => ?_
          exact ih rest stillHolds
            (fun current later present => preserved current later (List.mem_cons_of_mem _ present))
            (fun current key value other present =>
              each current key value other (List.mem_cons_of_mem _ present))

end Rendering

/-! ### Entries that are not supported -/

def Entries.Unsupported (entry : Text × Value) : Prop :=
  entry.2 = .unsupported

namespace Substitution

open Rendering Entries

variable {template : Text} {scope larger root largerRoot : Context}
variable {nested twin : Text → Context → Rendering Text}

private theorem applyBinding_unsupported (nested : Text → Context → Rendering Text) (root : Context)
    (template : Text) {entry : Text × Value} (unsupported : Unsupported entry) :
    OnlyNotes template (applyBinding nested root template entry) := by
  obtain ⟨key, value⟩ := entry
  cases unsupported
  exact (OnlyNotes.note _).bind ((OnlyNotes.note _).bind (OnlyNotes.pure template))

private theorem bindings_agree_of_unsupported (scopes : Padded Unsupported scope larger)
    (roots : Padded Unsupported root largerRoot)
    (rendered : InStep Trail.SameInvocations (fun _ => True) (Padded Unsupported) nested twin) :
    Agree Trail.SameInvocations (scope.foldlM (applyBinding nested root) template)
      (larger.foldlM (applyBinding twin largerRoot) template) := by
  have holds : (fun _ : Text => True) template := trivial
  refine Agree.foldlM_padded scopes holds (fun _ _ _ _ => Yields.of_forall fun _ => trivial) ?_ ?_
  · intro state entry unsupported _
    exact applyBinding_unsupported twin largerRoot state unsupported
  · intro state key value other _ alike _
    have steady := Trail.steady_sameInvocations
    exact applyBinding_agree_of_all steady.toNoting (fun source _ => invoke_agree steady source)
      alike (fun _ => roots) rendered state

private theorem substituteWithin_agree_of_unsupported (scopes : Padded Unsupported scope larger)
    (roots : Padded Unsupported root largerRoot) (depth : Nat) (template : Text) :
    Agree Trail.SameInvocations (substituteWithin depth template scope root)
      (substituteWithin depth template larger largerRoot) :=
  substituteWithin_inStep_of_all
    (fun _ _ rendered _ _ _ scopes => bindings_agree_of_unsupported scopes roots rendered) scopes
    depth template

private theorem alike_list_unsupported {idle : Value}
    (isIdle : idle ∈ [Value.list [], Value.map []])
    (items others : List Value) :
    (Value.list (items ++ idle :: others)).Alike (Padded Unsupported)
      (.list (items ++ .unsupported :: others)) := by
  have empty : itemScope idle = [] := by
    rcases List.mem_cons.mp isIdle with rfl | last
    · rfl
    · rw [List.mem_singleton.mp last]
      rfl
  have exchanged : Padded Unsupported (itemScope idle) (itemScope .unsupported) := by
    rw [empty]
    exact .insert rfl .nil
  have same : ∀ items : List Value, List.Forall₂ (fun item other =>
      Padded Unsupported (itemScope item) (itemScope other)) items items :=
    fun items => List.forall₂_same.mpr fun item _ => Padded.refl (itemScope item)
  exact .list (List.rel_append (same items) (.cons exchanged (same others)))

/-- Entries that are not supported may be taken out of the scope and of the root context, at any
depth, as long as no map that a name is bound to loses its last entry: what is rendered and what is
invoked stays the same. A list item that is not supported is rendered as an empty list or map is. -/
theorem rendering_ignores_unsupported (scopes : Padded Unsupported scope larger)
    (roots : Padded Unsupported root largerRoot) (depth : Nat) (template : Text) (trail : Trail) :
    observed (substituteWithin depth template scope root) trail =
      observed (substituteWithin depth template larger largerRoot) trail ∧
    ∀ idle ∈ [Value.list [], Value.map []], ∀ front back name items others,
      observed (substituteWithin depth template
          (front ++ (name, .list (items ++ idle :: others)) :: back) root) trail =
        observed (substituteWithin depth template
          (front ++ (name, .list (items ++ .unsupported :: others)) :: back) largerRoot) trail := by
  constructor
  · exact (substituteWithin_agree_of_unsupported scopes roots depth template).observed_eq trail
  · intro idle isIdle front back name items others
    have exchanged : Padded Unsupported (front ++ (name, .list (items ++ idle :: others)) :: back)
        (front ++ (name, .list (items ++ .unsupported :: others)) :: back) :=
      (Padded.refl front).append
        (.keep (alike_list_unsupported isIdle items others) (Padded.refl back))
    exact (substituteWithin_agree_of_unsupported exchanged roots depth template).observed_eq trail

/-- Entries that are not supported are taken out of the outer level, of a map that keeps an entry,
and of a list item that keeps none. -/
theorem rendering_ignores_unsupported_at_any_depth :
    let context : Context → Context → Value → Context := fun front inner item =>
      front ++ [(['m'], .map (inner ++ [(['x'], .scalar ['1'])])),
        (['l'], .list [.map inner, item]), (['b'], .boolean true)]
    let scope := context [] [] (.list [])
    let larger := context [(['o'], .unsupported)] [(['o'], .unsupported)] .unsupported
    let template := "{{#b}}{{#l}}{{x}}{{/l}}{{/b}}{{#m}}{{x}}{{o}}{{/m}}".toList
    observed (substituteWithin 1 template scope scope) Trail.empty =
        some ("{{x}}\n{{x}}\n\n\n1{{o}}\n".toList, []) ∧
      (∀ depth trail, observed (substituteWithin depth template scope scope) trail =
        observed (substituteWithin depth template larger larger) trail) ∧
      ∀ depth trail name, observed (substituteWithin depth template
          [(name, .list [.map []])] scope) trail =
        observed (substituteWithin depth template [(name, .list [.unsupported])] larger) trail := by
  intro context scope larger template
  have inner : ∀ entries, Padded Unsupported entries ((['o'], .unsupported) :: entries) :=
    fun entries => .insert rfl (Padded.refl entries)
  have scopes : Padded Unsupported scope larger :=
    .insert rfl (.keep (.map (by simp) (inner _))
      (.keep (.list (.cons (inner []) (.cons (.insert rfl .nil) .nil))) (Padded.refl _)))
  refine ⟨by decide +kernel,
    fun depth trail => (rendering_ignores_unsupported scopes scopes depth template trail).1,
    fun depth trail name => ?_⟩
  exact (rendering_ignores_unsupported scopes scopes depth template trail).2 (.map [])
    (by simp) [] [] name [] []

/-- A map that loses its last entry has its sections removed. -/
example :
    observed (substituteWithin 0 "{{#m}}{{/m}}".toList [(['m'], .map [])] []) Trail.empty ≠
      observed (substituteWithin 1 "{{#m}}{{/m}}".toList
        [(['m'], .map [(['o'], .unsupported)])] []) Trail.empty := by
  decide +kernel

end Substitution
end TextTemplate
