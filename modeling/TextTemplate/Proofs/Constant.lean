import TextTemplate.Proofs.Agreement

/-!
# Deferred texts that never change

A deferred text is asked for when a tag that it fills is there, once for each form of tag. A text is
put into all tags, there or not. If each invocation yields that text, the two come to the same on
every template, also where one form of tag is made or broken by what was put in place of the other.
What other deferred texts yield may depend on how often they were invoked, and these are invoked
equally often.
-/

set_option autoImplicit false

namespace TextTemplate

def Deferred.Always (text : Text) (source : Deferred) : Prop :=
  ∀ count, source.produce count = text

/-- The second context has some texts of the first deferred, at any depth, to sources that always
yield them. `added` holds of the identities of these sources. Copies of one source share its count,
so a source that was there before may have such an identity only if it always yields one text as
well. A list item is compared by the scope that it is rendered in. -/
inductive Entries.Deferring (added : Nat → Prop) : Context → Context → Prop
  | nil : Deferring added [] []
  | keep {key : Text} {value other : Value} {scope twin : Context}
      (apart : ∀ source, value = .deferred source → added source.source →
        ∃ text, source.Always text)
      (alike : value.Alike (Deferring added) other) (rest : Deferring added scope twin) :
      Deferring added ((key, value) :: scope) ((key, other) :: twin)
  | defer {key text : Text} {source : Deferred} {scope twin : Context}
      (isAdded : added source.source) (always : source.Always text)
      (rest : Deferring added scope twin) :
      Deferring added ((key, .scalar text) :: scope) ((key, .deferred source) :: twin)

/-- All sources but those that were added were invoked equally often. -/
def Trail.SameCounts (added : Nat → Prop) (trail other : Trail) : Prop :=
  ∀ identity, added identity ∨ trail.invocations identity = other.invocations identity

namespace Substitution

open Rendering Entries Trail

variable {added : Nat → Prop} {source : Deferred} {key text template : Text}

/-! ### Invocations -/

private theorem noting_sameCounts : Trail.Noting (SameCounts added) where
  note := fun _ same => same

private theorem invocations_invoke (trail : Trail) (source : Deferred) (identity : Nat) :
    (trail.invoke source).2.invocations identity =
      trail.invocations identity + if source.source = identity then 1 else 0 := by
  change (source.source :: trail.invoked).count identity = _
  rw [List.count_cons, Trail.invocations]
  simp only [beq_iff_eq]

private theorem invoke_agree_of_apart (apart : added source.source → ∃ text, source.Always text) :
    Agree (SameCounts added) (invoke source) (invoke source) := by
  intro trail other same
  refine .some ⟨?_, fun identity => ?_⟩
  · change source.produce (trail.invocations source.source) =
      source.produce (other.invocations source.source)
    rcases same source.source with isAdded | counts
    · obtain ⟨text, always⟩ := apart isAdded
      rw [always, always]
    · rw [counts]
  · rcases same identity with isAdded | counts
    · exact .inl isAdded
    · right
      rw [invocations_invoke, invocations_invoke, counts]

private theorem invoke_agree_of_always (isAdded : added source.source)
    (always : source.Always text) :
    Agree (SameCounts added) (pure text) (invoke source) := by
  intro trail other same
  refine .some ⟨(always _).symm, fun identity => ?_⟩
  by_cases asked : source.source = identity
  · left
    rwa [← asked]
  · rcases same identity with isAdded | counts
    · exact .inl isAdded
    · right
      rw [invocations_invoke, if_neg asked, Nat.add_zero, counts]

/-! ### Bindings -/

private theorem fillForm_agree_of_always (isAdded : added source.source)
    (always : source.Always text) (tag : Text) (written : Text → Text)
    (template : Text) :
    Agree (SameCounts added) (pure (Text.replaceAll tag (written text) template))
      (fillForm tag written source template) := by
  unfold fillForm
  split
  · rw [← pure_bind text fun value => pure (Text.replaceAll tag (written value) template)]
    exact (invoke_agree_of_always isAdded always).bind_of_all fun _ => Agree.pure _
  · next missing =>
      rw [Text.replaceAll_of_not_occursIn missing]
      exact Agree.pure template

private theorem fillDeferred_agree_of_always (isAdded : added source.source)
    (always : source.Always text) (key template : Text) :
    Agree (SameCounts added) (pure (fillScalar key text template))
      (fillDeferred key source template) := by
  rw [fillDeferred_eq, fillScalar,
    ← pure_bind (Text.replaceAll (Tag.raw key) text template) fun between =>
      pure (Text.replaceAll (Tag.escaped key) (Markup.escape text) between)]
  exact (fillForm_agree_of_always isAdded always _ id template).bind_of_all fun between =>
    fillForm_agree_of_always isAdded always _ Markup.escape between

variable {scope twinScope root twinRoot : Context}
variable {nested twin : Text → Context → Rendering Text}

private theorem applyBinding_agree_of_always (isAdded : added source.source)
    (always : source.Always text) (template : Text) :
    Agree (SameCounts added) (applyBinding nested root template (key, .scalar text))
      (applyBinding twin twinRoot template (key, .deferred source)) := by
  have noted : Agree (SameCounts added) (note (.substituting key .scalar))
      (note (.substituting key .deferred)) := fun _ _ same => .some ⟨rfl, same⟩
  exact noted.bind_of_all fun _ => fillDeferred_agree_of_always isAdded always key template

private theorem bindings_agree_of_deferring (scopes : Deferring added scope twinScope)
    (roots : Deferring added root twinRoot)
    (rendered : InStep (SameCounts added) (fun _ => True) (Deferring added) nested twin)
    (template : Text) :
    Agree (SameCounts added) (scope.foldlM (applyBinding nested root) template)
      (twinScope.foldlM (applyBinding twin twinRoot) template) := by
  induction scope generalizing template twinScope with
  | nil =>
      cases scopes with
      | nil => exact Agree.pure template
  | cons entry scope ih =>
      cases scopes with
      | keep apart alike rest =>
          rw [List.foldlM_cons, List.foldlM_cons]
          refine Agree.bind_of_all ?_ fun between => ih rest between
          exact applyBinding_agree_of_all noting_sameCounts
            (fun source same => invoke_agree_of_apart (apart source same)) alike (fun _ => roots)
            rendered template
      | defer isAdded always rest =>
          rw [List.foldlM_cons, List.foldlM_cons]
          exact (applyBinding_agree_of_always isAdded always template).bind_of_all
            fun between => ih rest between

/-! ### Whole renderings -/

/-- Texts of the scope and of the root context may be deferred, at any depth, to sources that yield
them each time: the same text is rendered. -/
theorem rendering_defers_constants (scopes : Deferring added scope twinScope)
    (roots : Deferring added root twinRoot) (depth : Nat) (template : Text) (trail : Trail) :
    (substituteWithin depth template scope root trail).map Prod.fst =
      (substituteWithin depth template twinScope twinRoot trail).map Prod.fst := by
  have agree : Agree (SameCounts added) (substituteWithin depth template scope root)
      (substituteWithin depth template twinScope twinRoot) :=
    substituteWithin_inStep_of_all
      (fun _ _ rendered inner _ _ scopes => bindings_agree_of_deferring scopes roots rendered inner)
      scopes depth template
  have same : SameCounts added trail trail := fun _ => .inr rfl
  exact agree.map_eq same fun _ _ _ _ => rfl

/-- A text that looks like the tag of its own name is deferred on the outer level, as a list item
and in a map, and other tags are filled by a source that tells how often it was invoked. -/
theorem rendering_defers_constants_of_tag :
    let context : Value → Context := fun value =>
      [(['b'], .boolean true), (['l'], .list [value, .map [(['a'], value)]]),
        (['c'], .deferred ⟨0, fun count => List.replicate count '|'⟩), (['a'], value)]
    let texts := context (.scalar (Tag.escaped ['a']))
    let sources := context (.deferred ⟨1, fun _ => Tag.escaped ['a']⟩)
    let template :=
      "{{#l}}{{a}}{{{_}}}{{/l}}{{#b}}{{{c}}}{{{a}}}{{/b}}{{{c}}}{{c}}{{/b}}".toList
    (substituteWithin 1 template texts texts Trail.empty).map Prod.fst =
        some "{{a}}{{a}}\n{{a}}{{{_}}}\n\n{{a}}\n|||{{/b}}".toList ∧
      ∀ depth trail, (substituteWithin depth template texts texts trail).map Prod.fst =
        (substituteWithin depth template sources sources trail).map Prod.fst := by
  intro context texts sources template
  have deferred : ∀ key, Deferring (· = 1) [(key, .scalar (Tag.escaped ['a']))]
      [(key, .deferred ⟨1, fun _ => Tag.escaped ['a']⟩)] :=
    fun key => .defer rfl (fun _ => rfl) .nil
  have counting : ∀ source, Value.deferred ⟨0, fun count => List.replicate count '|'⟩ =
      .deferred source → source.source = 1 → ∃ text, source.Always text := by
    rintro source ⟨⟩ impossible
    cases impossible
  have scopes : Deferring (· = 1) texts sources :=
    .keep nofun (.boolean true)
      (.keep nofun (.list (.cons (deferred itemName) (.cons (deferred ['a']) .nil)))
        (.keep counting (.deferred _) (deferred ['a'])))
  exact ⟨by decide +kernel,
    fun depth trail => rendering_defers_constants scopes scopes depth template trail⟩

end Substitution
end TextTemplate
