import TextTemplate.Proofs.Agreement

/-!
# Scopes without truth values

Only a truth value has its sections rendered in the root context. A scope that has none at any depth
has every section rendered in a scope within it, where fewer lists and maps are inside one another.
So the rendering ends, whatever tags the texts of the scope put into the template, and the root
context makes no difference to it. With a truth value it need not end.
-/

set_option autoImplicit false

namespace TextTemplate

namespace Value

/-- No truth value is in it, at any depth. -/
inductive Truthless : Value → Prop
  | scalar (text : Text) : Truthless (.scalar text)
  | list {items : List Value} (values : ∀ item ∈ items, Truthless item) : Truthless (.list items)
  | map {entries : Context} (values : ∀ entry ∈ entries, Truthless entry.2) :
      Truthless (.map entries)
  | deferred (source : Deferred) : Truthless (.deferred source)
  | unsupported : Truthless .unsupported

mutual

/-- How many lists and maps are inside one another in the value. -/
def nesting : Value → Nat
  | .list items => nestingItems items + 1
  | .map entries => nestingEntries entries + 1
  | _ => 0

def nestingItems : List Value → Nat
  | [] => 0
  | item :: others => max item.nesting (nestingItems others)

def nestingEntries : List (Text × Value) → Nat
  | [] => 0
  | (_, value) :: others => max value.nesting (nestingEntries others)

end

variable {value : Value}

private theorem nesting_le_of_mem_items {items : List Value} (present : value ∈ items) :
    value.nesting ≤ nestingItems items := by
  induction items with
  | nil => cases present
  | cons item items ih =>
      rw [nestingItems]
      rcases List.mem_cons.mp present with rfl | later
      · exact Nat.le_max_left _ _
      · exact Nat.le_trans (ih later) (Nat.le_max_right _ _)

private theorem nestingEntries_eq (entries : Context) :
    nestingEntries entries = nestingItems (entries.map Prod.snd) := by
  induction entries with
  | nil => rfl
  | cons entry entries ih => rw [nestingEntries, ih, List.map_cons, nestingItems]

private theorem nesting_le_of_mem_entries {entry : Text × Value} {entries : Context}
    (present : entry ∈ entries) : entry.2.nesting ≤ nestingEntries entries := by
  rw [nestingEntries_eq]
  exact nesting_le_of_mem_items (List.mem_map_of_mem present)

private theorem Truthless.kind_ne (truthless : value.Truthless) : value.kind ≠ .boolean := by
  cases truthless with
  | scalar text => exact nofun
  | list values => exact nofun
  | map values => exact nofun
  | deferred source => exact nofun
  | unsupported => exact nofun

end Value

def Entries.Truthless (scope : Context) : Prop :=
  ∀ entry ∈ scope, entry.2.Truthless

/-! ### The scopes within a value -/

section

open Value Substitution

variable {value : Value}

private theorem nesting_itemScope_le (value : Value) :
    nestingEntries (itemScope value) ≤ value.nesting := by
  rcases itemScope_cases value with ⟨entries, rfl⟩ | rfl | wrapped
  · exact Nat.le_succ _
  · exact Nat.zero_le _
  · rw [wrapped, nestingEntries, nestingEntries]
    omega

private theorem truthless_scopes (truthless : value.Truthless) :
    ∀ scope ∈ value.scopes, Entries.Truthless scope := by
  refine forall_mem_scopes ?_ ?_ (fun _ alone => alone) truthless
  · intro items holds
    cases holds with
    | list values => exact values
  · intro entries holds
    cases holds with
    | map values => exact values

/-- Going into a value takes one list or map away. A list item is put into a scope of its own again,
but the list that it was an item of is gone. -/
private theorem nesting_scopes_lt {scope : Context} (present : scope ∈ value.scopes) :
    nestingEntries scope < value.nesting := by
  cases value with
  | list items =>
      obtain ⟨item, among, rfl⟩ := List.mem_map.mp present
      have inner := nesting_itemScope_le item
      have outer := nesting_le_of_mem_items among
      rw [nesting]
      omega
  | map entries =>
      cases List.mem_singleton.mp present
      exact Nat.lt_succ_self _
  | scalar text => cases present
  | boolean truth => cases present
  | deferred source => cases present
  | unsupported => cases present

end

/-! ### Renderings -/

section

open Value Substitution Rendering

variable {template : Text} {scope root twinRoot : Context}
variable {nested : Text → Context → Rendering Text}

/-! #### They end -/

private theorem bindings_complete_of_truthless (truthless : Entries.Truthless scope)
    (rendered : ∀ inner within, Entries.Truthless within →
      nestingEntries within < nestingEntries scope → Completes (nested inner within)) :
    Completes (scope.foldlM (applyBinding nested root) template) := by
  apply Completes.foldlM_of_all
  rintro state ⟨key, value⟩ bound
  have valueTruthless := truthless _ bound
  refine applyBinding_completes (fun _ => True) (fun _ => True) (fun _ _ _ => trivial)
    (fun _ _ _ _ _ => ⟨trivial, trivial⟩) ?_ ?_ trivial
  · intro inner _ within among
    have deeper := nesting_scopes_lt among
    have atMost := nesting_le_of_mem_entries bound
    exact rendered inner within (truthless_scopes valueTruthless within among)
      (Nat.lt_of_lt_of_le deeper atMost)
  · exact fun isTruth => absurd isTruth valueTruthless.kind_ne

theorem substituteWithin_completes_of_truthless {depth : Nat}
    (truthless : Entries.Truthless scope) (enough : nestingEntries scope ≤ depth) :
    Completes (substituteWithin depth template scope root) := by
  induction depth generalizing template scope with
  | zero =>
      apply bindings_complete_of_truthless truthless
      intro inner within _ deeper
      omega
  | succ depth ih =>
      apply bindings_complete_of_truthless truthless
      intro inner within withinTruthless deeper
      exact ih withinTruthless (by omega)

/-! #### They are the same in every root context -/

def SameTruthless (scope twin : Context) : Prop :=
  scope = twin ∧ Entries.Truthless scope

private theorem bindings_agree_of_truthless {twin : Text → Context → Rendering Text}
    (truthless : Entries.Truthless scope)
    (rendered : InStep (· = ·) (fun _ => True) SameTruthless nested twin) :
    Agree (· = ·) (scope.foldlM (applyBinding nested root) template)
      (scope.foldlM (applyBinding twin twinRoot) template) := by
  apply Agree.foldlM_of_all (List.forall₂_same.mpr fun _ _ => rfl)
  rintro state ⟨key, value⟩ _ bound rfl
  have valueTruthless := truthless _ bound
  have alike : value.Alike SameTruthless value :=
    .of_scopes fun within among => ⟨rfl, truthless_scopes valueTruthless within among⟩
  exact applyBinding_agree_of_all Trail.steady_eq.toNoting
    (fun source _ => invoke_agree Trail.steady_eq source) alike
    (fun isTruth => absurd isTruth valueTruthless.kind_ne) rendered state

private theorem substituteWithin_eq_of_truthless (truthless : Entries.Truthless scope) (depth : Nat)
    (template : Text) (root twinRoot : Context) :
    substituteWithin depth template scope root =
      substituteWithin depth template scope twinRoot := by
  have same : SameTruthless scope scope := ⟨rfl, truthless⟩
  refine (substituteWithin_inStep_of_all ?_ same depth template).eq
  rintro nested twin rendered inner within _ ⟨rfl, withinTruthless⟩
  exact bindings_agree_of_truthless withinTruthless rendered

/-- In a scope without truth values a rendering is the same whatever the root context is, and it
ends: no rendering of a body is inside more others than lists and maps of the scope are. -/
theorem rendering_without_truth_values (template : Text) (truthless : Entries.Truthless scope) :
    (∀ depth root twinRoot, substituteWithin depth template scope root =
      substituteWithin depth template scope twinRoot) ∧
    ∀ trail, ∃ output after, ∀ depth root, nestingEntries scope ≤ depth →
      substituteWithin depth template scope root trail = some (output, after) := by
  have same := fun depth => substituteWithin_eq_of_truthless truthless depth template
  have completes : Completes (substituteWithin (nestingEntries scope) template scope []) :=
    substituteWithin_completes_of_truthless truthless (Nat.le_refl _)
  refine ⟨same, fun trail => ?_⟩
  obtain ⟨⟨output, after⟩, done⟩ := completes trail
  refine ⟨output, after, fun depth root enough => ?_⟩
  rw [same depth root []]
  exact substituteWithin_extends enough template scope [] trail _ done

/-- A list of lists whose texts open sections of the next name, in a template with a section left
open. Two renderings inside the outermost are needed, and enough in any root context. -/
theorem rendering_without_truth_values_of_tags :
    let template := "{{#l}}{{#_}}{{{_}}}{{/_}}{{/l}}{{#m}}{{x}}{{/m}}{{/m}}{{#l}}".toList
    let scope : Context :=
      [(['l'], .list [.list [.scalar "{{#m}}".toList], .unsupported]),
        (['m'], .map [(['x'], .scalar "{{/m}}".toList)])]
    nestingEntries scope = 2 ∧ substituteWithin 1 template scope [] Trail.empty = none ∧
      (∀ depth root twinRoot, substituteWithin depth template scope root =
        substituteWithin depth template scope twinRoot) ∧
      ∀ trail, ∃ output after, ∀ depth root, nestingEntries scope ≤ depth →
        substituteWithin depth template scope root trail = some (output, after) := by
  intro template scope
  have inner : Truthless (.list [.scalar "{{#m}}".toList]) :=
    .list (List.forall_mem_singleton.mpr (.scalar _))
  have items : Truthless (.list [.list [.scalar "{{#m}}".toList], .unsupported]) :=
    .list (List.forall_mem_cons.mpr ⟨inner, List.forall_mem_singleton.mpr .unsupported⟩)
  have entries : Truthless (.map [(['x'], .scalar "{{/m}}".toList)]) :=
    .map (List.forall_mem_singleton.mpr (.scalar _))
  have truthless : Entries.Truthless scope :=
    List.forall_mem_cons.mpr ⟨items, List.forall_mem_singleton.mpr entries⟩
  exact ⟨by decide +kernel, by decide +kernel, rendering_without_truth_values template truthless⟩

end

/-! ### A truth value that restores its section -/

section

open Rendering Substitution

variable {name template : Text} {truth : Bool} {front behind root : Context}

private theorem applyBinding_never_ends {nested : Text → Context → Rendering Text} {current : Text}
    {found : Section}
    (present : found ∈ Section.findAll (.ofTruth truth) name
      (Section.removeAll (SectionKind.ofTruth truth).opposite name current))
    (endless : Yields (fun _ => False) (nested found.body root)) :
    Yields (fun _ => False) (applyBinding nested root current (name, .boolean truth)) := by
  have removed : Yields (fun kept => found ∈ Section.findAll (.ofTruth truth) name kept)
      (removeSections (SectionKind.ofTruth truth).opposite name current) :=
    removeSections_yields present
  refine Yields.bind_of_all fun _ => removed.bind fun kept stillPresent => ?_
  refine Yields.bind_of_all fun _ => ?_
  have anything : ∀ state, ∀ other ∈ Section.findAll (.ofTruth truth) name kept, True →
      Yields (fun _ => True) (spliceSection (fun body => nested body root) state other) :=
    fun _ _ _ _ => Yields.of_forall fun _ => trivial
  refine Yields.foldlM_of_mem stillPresent trivial anything ?_ ?_
  · exact fun _ _ => endless.bind fun _ impossible => impossible.elim
  · exact fun _ _ _ impossible => impossible.elim

/-- Where the texts of a context put a section around the template that is being rendered, and a
truth value keeps this section, all is to be done over again inside, and no depth is enough. -/
theorem rendering_never_ends (bound : root = front ++ (name, .boolean truth) :: behind)
    (restored : ∀ nested : Text → Context → Rendering Text,
      Yields (fun current => ∃ found ∈ Section.findAll (.ofTruth truth) name
        (Section.removeAll (SectionKind.ofTruth truth).opposite name current),
          found.body = template)
        (front.foldlM (applyBinding nested root) template)) (depth : Nat) :
    Yields (fun _ => False) (substituteWithin depth template root root) := by
  have again : ∀ nested : Text → Context → Rendering Text,
      Yields (fun _ => False) (nested template root) →
        Yields (fun _ => False) (root.foldlM (applyBinding nested root) template) := by
    intro nested endless
    subst bound
    rw [List.foldlM_append]
    refine (restored nested).bind fun current reached => ?_
    obtain ⟨found, present, body⟩ := reached
    rw [← body] at endless
    rw [List.foldlM_cons]
    exact (applyBinding_never_ends present endless).bind fun _ impossible => impossible.elim
  induction depth with
  | zero => exact again _ (tooDeep_yields _)
  | succ depth ih => exact again _ ih

end

end TextTemplate
