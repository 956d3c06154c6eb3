import TextTemplate.Proofs.Padding

/-!
# Names that a template does not mention

A binding works on the tags of its name. A flat template without such tags has none at any time of
its rendering, in no body and after no exchange, if the names and texts that it is rendered with
have no braces. So a value that is bound to the name never comes to bear, whatever tags its own
texts are full of.
-/

set_option autoImplicit false

namespace TextTemplate

/-- The token is a tag that inserts the name, or that opens or closes a section of it. -/
def Token.Mentions (name : Text) (token : Token) : Prop :=
  ∃ content ∈ [name, '#' :: name, '^' :: name, '/' :: name], token.content? = some content

instance (name : Text) (token : Token) : Decidable (token.Mentions name) :=
  inferInstanceAs (Decidable (∃ content ∈ _, _))

namespace Flat

variable {name text : Text}

/-- No tag of a flat template mentions the name. -/
abbrev Unmentioning (name : Text) : Text → Prop :=
  Flat fun token => ¬token.Mentions name

private theorem not_escaped_infix (plain : name.Plain) (flat : Unmentioning name text) :
    ¬Tag.escaped name <:+: text := by
  apply absent plain
  apply flat.mono
  intro token unmentioned same
  exact unmentioned ⟨name, List.mem_cons_self, same⟩

private theorem next?_eq_none (plain : name.Plain) (flat : Unmentioning name text)
    (kind : SectionKind) :
    Section.next? kind name text = none := by
  apply Section.next?_of_absent
  change ¬Tag.escaped (kind.sigil :: name) <:+: text
  apply absent (plain_sigil kind plain)
  apply flat.mono
  intro token unmentioned same
  refine unmentioned ⟨kind.sigil :: name, ?_, same⟩
  cases kind with
  | positive => simp [SectionKind.sigil]
  | negative => simp [SectionKind.sigil]

end Flat

/-- The entry binds the name. -/
def Entries.Binds (name : Text) (entry : Text × Value) : Prop :=
  entry.1 = name

/-- The larger context has more bindings of the name than one without braces. -/
structure Entries.Enlarged (name : Text) (scope larger : Context) : Prop where
  plain : Entries.Every Text.Plain Text.Plain scope
  padded : Entries.Padded (Entries.Binds name) scope larger

namespace Substitution

open Rendering Entries

variable {name template : Text} {kind : SectionKind} {content : Text → Rendering Text}

/-! ### A binding that finds nothing to do -/

private theorem noteRefusal_onlyNotes (name : Text) : OnlyNotes () (noteRefusal name) := by
  unfold noteRefusal
  split
  · exact OnlyNotes.pure ()
  · exact OnlyNotes.note _

private theorem removeSections_onlyNotes (absent : Section.next? kind name template = none) :
    OnlyNotes template (removeSections kind name template) := by
  refine (noteRefusal_onlyNotes name).bind ?_
  rw [Section.removeAll_of_none absent]
  exact OnlyNotes.pure template

private theorem spliceSections_onlyNotes (absent : Section.next? kind name template = none) :
    OnlyNotes template (spliceSections content kind name template) := by
  refine (noteRefusal_onlyNotes name).bind ?_
  rw [Section.findAll_of_none absent]
  exact OnlyNotes.pure template

private theorem fillForm_onlyNotes {tag : Text} (absent : ¬tag <:+: template)
    (written : Text → Text)
    (source : Deferred) : OnlyNotes template (fillForm tag written source template) := by
  have missing : Text.occursIn tag template = false := by
    rw [Text.occursIn, Text.cut?_eq_none absent]
    rfl
  rw [fillForm, missing]
  exact OnlyNotes.pure template

private theorem applyBinding_onlyNotes (noTag : ¬Tag.escaped name <:+: template)
    (noSection : ∀ kind, Section.next? kind name template = none)
    (nested : Text → Context → Rendering Text) (root : Context) (value : Value) :
    OnlyNotes template (applyBinding nested root template (name, value)) := by
  have noRaw : ¬Tag.raw name <:+: template := fun present =>
    noTag ((Tag.escaped_infix_raw name).trans present)
  refine (OnlyNotes.note _).bind ?_
  cases value with
  | scalar text =>
      change OnlyNotes template (pure (fillScalar name text template))
      rw [fillScalar, Text.replaceAll_of_absent noRaw, Text.replaceAll_of_absent noTag]
      exact OnlyNotes.pure template
  | boolean truth =>
      exact (removeSections_onlyNotes (noSection _)).bind (spliceSections_onlyNotes (noSection _))
  | list items =>
      cases items with
      | nil => exact removeSections_onlyNotes (noSection .positive)
      | cons item items => exact spliceSections_onlyNotes (noSection .positive)
  | map entries =>
      cases entries with
      | nil => exact removeSections_onlyNotes (noSection .positive)
      | cons entry entries => exact spliceSections_onlyNotes (noSection .positive)
  | deferred source =>
      change OnlyNotes template (fillDeferred name source template)
      rw [fillDeferred_eq]
      exact (fillForm_onlyNotes noRaw _ source).bind (fillForm_onlyNotes noTag _ source)
  | unsupported => exact (OnlyNotes.note _).bind (OnlyNotes.pure template)

/-! ### Whole renderings -/

variable {scope larger root largerRoot : Context}
variable {nested twin : Text → Context → Rendering Text}

private theorem bindings_agree_of_enlarged (namePlain : name.Plain)
    (scopes : Enlarged name scope larger)
    (roots : Enlarged name root largerRoot)
    (rendered : InStep Trail.SameInvocations (Flat.Unmentioning name) (Enlarged name) nested twin)
    (keeps : ∀ inner scope, Flat.Unmentioning name inner →
      Entries.Every Text.Plain Text.Plain scope →
        Yields (Flat.Unmentioning name) (nested inner scope))
    (flat : Flat.Unmentioning name template) :
    Agree Trail.SameInvocations (scope.foldlM (applyBinding nested root) template)
      (larger.foldlM (applyBinding twin largerRoot) template) := by
  refine Agree.foldlM_padded scopes.padded flat ?_ ?_ ?_
  · exact fun state entry bound flat => bindings_flat roots.plain scopes.plain keeps bound flat
  · rintro state ⟨_, value⟩ rfl flat
    exact applyBinding_onlyNotes (flat.not_escaped_infix namePlain) (flat.next?_eq_none namePlain)
      twin largerRoot value
  · intro state key value other bound alike flat
    obtain ⟨keyPlain, valuePlain⟩ := scopes.plain _ bound
    have scopesPlain := every_scopes (by decide) valuePlain
    have closer : value.Alike (Enlarged name) other :=
      alike.imp fun within among _ padded => ⟨scopesPlain within among, padded⟩
    exact applyBinding_agree_of_flat Trail.steady_sameInvocations keyPlain closer (fun _ => roots)
      rendered flat

private theorem substituteWithin_agree_of_enlarged (namePlain : name.Plain)
    (scopes : Enlarged name scope larger) (roots : Enlarged name root largerRoot) (depth : Nat)
    (flat : Flat.Unmentioning name template) :
    Agree Trail.SameInvocations (substituteWithin depth template scope root)
      (substituteWithin depth template larger largerRoot) := by
  refine substituteWithin_inStep ?_ ?_ depth template scope larger flat scopes
  · exact fun depth inner scope _ flat scopes =>
      substituteWithin_flat depth roots.plain scopes.plain flat
  · intro nested twin rendered keeps inner scope larger flat scopes
    refine bindings_agree_of_enlarged namePlain scopes roots rendered ?_ flat
    exact fun inner scope flat plain => keeps inner scope scope flat ⟨plain, Padded.refl scope⟩

/-- More bindings of a name that a flat template does not mention, in the scope, in the root context
or in what these hold, change nothing: the same text is rendered, and the same deferred texts are
invoked in the same order, so that none is invoked for the sake of the name. -/
theorem rendering_ignores_unmentioned {tokens : List Token} (namePlain : name.Plain)
    (unmentioned : ∀ token ∈ tokens, ¬token.Mentions name)
    (scopePlain : Entries.Every Text.Plain Text.Plain scope)
    (rootPlain : Entries.Every Text.Plain Text.Plain root)
    (scopes : Padded (Binds name) scope larger) (roots : Padded (Binds name) root largerRoot)
    (trail : Trail) :
    (∀ depth, observed (substituteWithin depth (Token.printAll tokens) scope root) trail =
      observed (substituteWithin depth (Token.printAll tokens) larger largerRoot) trail) ∧
    ∃ output invoked, ∀ depth, (Token.closedNames tokens).card ≤ depth →
      observed (substituteWithin depth (Token.printAll tokens) larger largerRoot) trail =
        some (output, invoked) := by
  have flat : Flat.Unmentioning name (Token.printAll tokens) :=
    ⟨tokens, fun token present => Or.inr (unmentioned token present), rfl⟩
  have same : ∀ depth, observed (substituteWithin depth (Token.printAll tokens) scope root) trail =
      observed (substituteWithin depth (Token.printAll tokens) larger largerRoot) trail :=
    fun depth => (substituteWithin_agree_of_enlarged namePlain ⟨scopePlain, scopes⟩
      ⟨rootPlain, roots⟩ depth flat).observed_eq trail
  refine ⟨same, ?_⟩
  have completes := substituteWithin_completes (Nat.le_refl _) rootPlain scopePlain
    (flat_printAll tokens)
  obtain ⟨⟨output, after⟩, done⟩ := completes trail
  refine ⟨output, after.invoked, fun depth enough => ?_⟩
  rw [← same, observed, substituteWithin_extends enough _ scope root trail _ done]
  rfl

/-- The name is bound to a deferred text in front of the scope, to tags in a map and to a truth
value at the end of the root context, and the template mentions others only. -/
theorem rendering_ignores_unmentioned_among_others :
    let tokens : List Token :=
      [.escaped ['#', 'b'] (by decide), .escaped ['#', 'm'] (by decide),
        .escaped ['x'] (by decide), .escaped ['/', 'm'] (by decide),
        .escaped ['/', 'b'] (by decide), .escaped ['#', 'm'] (by decide),
        .raw ['x'] (by decide) (by decide), .escaped ['/', 'm'] (by decide)]
    let context : Context → Context → Context → Context := fun front inner back =>
      front ++ [(['m'], .map (inner ++ [(['x'], .scalar ['1'])])), (['b'], .boolean true)] ++ back
    let plain := context [] [] []
    let tags : Context := [(['n'], .scalar "{{x}}{{/m}}".toList)]
    let scope := context [(['n'], .deferred ⟨0, fun _ => "{{#n}}".toList⟩)] tags []
    let root := context [] tags [(['n'], .boolean true)]
    observed (substituteWithin 2 (Token.printAll tokens) plain plain) Trail.empty =
        some ("1\n\n1\n".toList, []) ∧
      ∀ trail,
        (∀ depth, observed (substituteWithin depth (Token.printAll tokens) plain plain) trail =
          observed (substituteWithin depth (Token.printAll tokens) scope root) trail) ∧
        ∃ output invoked, ∀ depth, (Token.closedNames tokens).card ≤ depth →
          observed (substituteWithin depth (Token.printAll tokens) scope root) trail =
            some (output, invoked) := by
  intro tokens context plain tags scope root
  have every : Entries.Every Text.Plain Text.Plain plain :=
    .cons (by decide)
      (.map (List.forall_mem_singleton.mpr (by decide))
        (List.forall_mem_singleton.mpr (.scalar (by decide))))
      (.cons (by decide) (.boolean true) .nil)
  have inner : Value.Alike (Padded (Binds ['n'])) (.map [(['x'], .scalar ['1'])])
      (.map (tags ++ [(['x'], .scalar ['1'])])) :=
    .map (by simp) (.insert rfl (Padded.refl _))
  have scopes : Padded (Binds ['n']) plain scope := .insert rfl (.keep inner (Padded.refl _))
  have roots : Padded (Binds ['n']) plain root :=
    .keep inner (.keep (.boolean true) (.insert rfl .nil))
  exact ⟨by decide +kernel, fun trail =>
    rendering_ignores_unmentioned (by decide) (by decide) every every scopes roots trail⟩

end Substitution
end TextTemplate
