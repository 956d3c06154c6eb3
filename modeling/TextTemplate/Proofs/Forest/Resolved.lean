import TextTemplate.Proofs.Forest.Refinement

/-!
# No bound tag is left

A binding leaves no tag that its value answers. A text fills every tag of its name; a list, a map or
a truth value takes every section of its name away, because in a balanced template no opening tag is
without its section. What comes after brings no tag back, as a flat template gets no new ones. But
the sections of a name that is too long to be searched for stay, whatever the name is bound to.
-/

set_option autoImplicit false

namespace TextTemplate.Forest

open Rendering

variable {forest : Forest} {kind : SectionKind} {name text : Text} {scope root : Context}

/-! ### Blocks of a kind and name -/

def hasBlock (kind : SectionKind) (name : Text) : Forest → Bool
  | .nil => false
  | .char _ rest => rest.hasBlock kind name
  | .tag _ _ rest => rest.hasBlock kind name
  | .block other key body rest =>
      (other = kind ∧ key = name) || (body.hasBlock kind name || rest.hasBlock kind name)

private theorem hasBlock_append (front behind : Forest) :
    (front ++ behind).hasBlock kind name =
      (front.hasBlock kind name || behind.hasBlock kind name) := by
  induction front with
  | nil => rfl
  | char c rest ih => exact ih
  | tag form key rest ih => exact ih
  | block other key body rest _ ih =>
      change (_ || (_ || (rest ++ behind).hasBlock kind name)) = _
      rw [ih, hasBlock, Bool.or_assoc, Bool.or_assoc]

private theorem hasBlock_of_notMem (absent : name ∉ forest.names) :
    forest.hasBlock kind name = false := by
  induction forest with
  | nil => rfl
  | char c rest ih => exact ih absent
  | tag form key rest ih => exact ih absent
  | block other key body rest ihBody ihRest =>
      obtain ⟨notKey, inside⟩ := not_or.mp (mt List.mem_cons.mpr absent)
      obtain ⟨notBody, notRest⟩ := not_or.mp (mt List.mem_append.mpr inside)
      have different : ¬(other = kind ∧ key = name) := fun same => notKey same.2.symm
      rw [hasBlock, ihBody notBody, ihRest notRest, decide_eq_false different, Bool.or_false,
        Bool.or_false]

private theorem unopened_print (balanced : forest.Balanced)
    (absent : forest.hasBlock kind name = false) :
    Flat (Token.Without (kind.sigil :: name)) forest.print := by
  induction forest with
  | nil => exact Flat.nil _
  | char c rest ih =>
      have node : (Token.char c balanced.1).content? = none := rfl
      exact (ih balanced.2 absent).cons (.inl node)
  | tag form key rest ih =>
      obtain ⟨named, restBalanced⟩ := balanced
      have other : (form.token key named).Without (kind.sigil :: name) := by
        intro same
        rw [form.content?_token] at same
        exact named.unmarked (Option.some.inj same ▸ Flat.marked_sigil kind name)
      rw [print, ← form.print_token named]
      exact (ih restBalanced absent).cons (.inr other)
  | block other key body rest ihBody ihRest =>
      obtain ⟨named, _, bodyBalanced, restBalanced⟩ := balanced
      obtain ⟨here, inside⟩ := Bool.or_eq_false_iff.mp absent
      obtain ⟨noneInBody, noneInRest⟩ := Bool.or_eq_false_iff.mp inside
      have different := of_decide_eq_false here
      have opens : (Token.escaped (other.sigil :: key)
          (Flat.plain_sigil other named.plain)).Without (kind.sigil :: name) := by
        intro same
        obtain ⟨sigils, names⟩ := List.cons.inj (Option.some.inj same)
        exact different ⟨Flat.sigil_injective sigils, names⟩
      have closes : (Token.escaped ('/' :: key) (Flat.plain_slash named.plain)).Without
          (kind.sigil :: name) := by
        intro same
        exact Flat.sigil_ne_slash kind (List.cons.inj (Option.some.inj same)).1.symm
      have closing := (ihRest restBalanced noneInRest).cons (.inr closes)
      exact ((ihBody bodyBalanced noneInBody).append closing).cons (.inr opens)

private theorem unblocked_replaceBlocks {put : Forest → Rendering Forest}
    (balanced : forest.Balanced)
    (each : ∀ body : Forest, body.Balanced → Yields (Within body) (put body)) (behind : Bool) :
    Yields (fun result => result.hasBlock kind name = false)
      (forest.replaceBlocks put kind name behind) := by
  induction forest generalizing behind with
  | nil => exact Yields.pure rfl
  | char c rest ih =>
      rw [replaceBlocks]
      split
      · exact ih balanced.2 true
      · exact (ih balanced.2 false).bind fun result gone => Yields.pure gone
  | tag form key rest ih =>
      rw [replaceBlocks]
      exact (ih balanced.2 false).bind fun result gone => Yields.pure gone
  | block other key body rest ihBody ihRest =>
      obtain ⟨_, apart, bodyBalanced, restBalanced⟩ := balanced
      rw [replaceBlocks]
      split
      · next same =>
          refine (each body bodyBalanced).bind fun content within => ?_
          refine (ihRest restBalanced true).bind fun result gone => Yields.pure ?_
          have absent : name ∉ content.names := fun present =>
            apart (same.2 ▸ within.names present)
          rw [hasBlock_append, hasBlock_of_notMem absent, gone, Bool.or_false]
      · next different =>
          refine (ihBody bodyBalanced false).bind fun inner innerGone => ?_
          refine (ihRest restBalanced false).bind fun result gone => Yields.pure ?_
          rw [hasBlock, innerGone, gone, decide_eq_false different, Bool.or_false, Bool.or_false]

/-! ### Texts that are printed from a forest -/

def Prints (forest : Forest) (text : Text) : Prop :=
  ∃ result, Within forest result ∧ text = result.print

namespace Prints

theorem refl (balanced : forest.Balanced) : Prints forest forest.print :=
  ⟨forest, Within.refl balanced, rfl⟩

private theorem of_within {between : Forest} (within : Within forest between)
    (prints : Prints between text) : Prints forest text := by
  obtain ⟨result, later, printed⟩ := prints
  exact ⟨result, within.trans later, printed⟩

theorem flatten {texts : List Text} (each : ∀ text ∈ texts, Prints forest text) :
    Prints forest texts.flatten := by
  induction texts with
  | nil => exact ⟨.nil, Within.nil, rfl⟩
  | cons text texts ih =>
      obtain ⟨first, firstWithin, rfl⟩ := each text List.mem_cons_self
      obtain ⟨others, othersWithin, printed⟩ :=
        ih fun later present => each later (List.mem_cons_of_mem _ present)
      refine ⟨first ++ others, firstWithin.append othersWithin, ?_⟩
      rw [List.flatten_cons, printed, print_append]

end Prints

/-- What is left of a forest once its sections of a kind and name were gone through. -/
structure Swept (kind : SectionKind) (name : Text) (forest : Forest) (text : Text) : Prop where
  prints : Prints forest text
  unopened : Section.searchable name → Flat (Token.Without (kind.sigil :: name)) text

section

open Substitution

private theorem swept_of_replaceBlocks {activity : Rendering Text} {put : Forest → Rendering Forest}
    (balanced : forest.Balanced)
    (each : ∀ body : Forest, body.Balanced → Yields (Within body) (put body))
    (carries : CarriesOut print (Within forest) activity
      (forest.replaceBlocks put kind name false)) :
    Yields (Swept kind name forest) activity := by
  rw [carries.same]
  refine (carries.yields.and (unblocked_replaceBlocks balanced each false)).bind ?_
  rintro result ⟨within, gone⟩
  exact Yields.pure ⟨⟨result, within, rfl⟩, fun _ => unopened_print within.balanced gone⟩

private theorem swept_of_unsearchable (unsearchable : ¬Section.searchable name)
    (balanced : forest.Balanced) : Swept kind name forest forest.print :=
  ⟨Prints.refl balanced, fun searchable => absurd searchable unsearchable⟩

private theorem removeSections_swept (named : Tag.IsName name) (balanced : forest.Balanced)
    (kind : SectionKind) :
    Yields (Swept kind name forest) (removeSections kind name forest.print) := by
  by_cases searchable : Section.searchable name
  · exact swept_of_replaceBlocks balanced (fun _ _ => Yields.pure Within.nil)
      (removeSections_carriesOut named searchable balanced kind)
  · apply removeSections_yields
    rw [Section.removeAll, if_neg searchable]
    exact swept_of_unsearchable searchable balanced

private theorem spliceSections_swept {content : Text → Rendering Text} (kind : SectionKind)
    (named : Tag.IsName name) (balanced : forest.Balanced)
    (each : ∀ body : Forest, body.Balanced → Yields (Prints body) (content body.print))
    (unopened : ∀ body, Flat (Token.Without (kind.sigil :: name)) body →
      Yields (Flat (Token.Without (kind.sigil :: name))) (content body)) :
    Yields (Swept kind name forest) (spliceSections content kind name forest.print) := by
  by_cases searchable : Section.searchable name
  · have planned : ∀ body : Forest, ∃ plan, body.Balanced →
        CarriesOut print (Within body) (content body.print) plan := by
      intro body
      by_cases bodyBalanced : body.Balanced
      · obtain ⟨plan, carries⟩ := CarriesOut.exists_of_yields (each body bodyBalanced)
        exact ⟨plan, fun _ => carries⟩
      · exact ⟨pure body, fun holds => absurd holds bodyBalanced⟩
    choose plan carries using planned
    refine swept_of_replaceBlocks balanced ?_
      (spliceSections_carriesOut named searchable balanced carries unopened)
    intro body bodyBalanced
    refine (carries body bodyBalanced).yields.bind fun result within => Yields.pure ?_
    exact within.append (Within.of_text (by decide))
  · have left : Swept kind name forest forest.print := swept_of_unsearchable searchable balanced
    have nothing : ∀ found, found ∉ Section.findAll kind name forest.print := by
      intro found
      rw [Section.findAll, if_neg searchable]
      exact List.not_mem_nil
    have contents : ∀ found ∈ Section.findAll kind name forest.print,
        Yields (fun _ => True) (content found.body) := fun found present =>
      absurd present (nothing found)
    exact spliceSections_yields left contents fun found present => absurd present (nothing found)

/-! ### One binding -/

def Answers (name content : Text) : Value → Prop
  | .scalar _ => content = name
  | .deferred _ => content = name
  | .list _ => Section.searchable name ∧ content = SectionKind.positive.sigil :: name
  | .map _ => Section.searchable name ∧ content = SectionKind.positive.sigil :: name
  | .boolean _ => Section.searchable name ∧ ∃ kind : SectionKind, content = kind.sigil :: name
  | .unsupported => False

variable {nested : Text → Context → Rendering Text}

private theorem itemsContent_prints {items : List Value}
    (values : ∀ item ∈ items, item.Every Tag.IsName Text.Plain)
    (each : ∀ (body : Forest) inner, body.Balanced → Entries.Every Tag.IsName Text.Plain inner →
      Yields (Prints body) (nested body.print inner))
    (balanced : forest.Balanced) :
    Yields (Prints forest) (itemsContent nested items forest.print) := by
  have trimmed := within_loopBody balanced
  have texts : Yields (fun texts => ∀ text ∈ texts, Prints forest text)
      (items.mapM fun item => nested (Substitution.loopBody forest.print) (itemScope item)) := by
    rw [← print_loopBody balanced]
    refine Yields.mapM fun item present => ?_
    have inner := every_itemScope (by decide) (values item present)
    exact (each _ _ trimmed.balanced inner).mono fun text prints => prints.of_within trimmed
  exact texts.bind fun texts prints => Yields.pure (Prints.flatten prints)

/-- What a binding makes of a printed forest: printed from a forest again, and without the tags that
its value answers. -/
structure Answered (name : Text) (value : Value) (forest : Forest) (text : Text) : Prop where
  prints : Prints forest text
  gone : ∀ content, Answers name content value → Flat (Token.Without content) text

private theorem Swept.answered {value : Value} (swept : Swept kind name forest text)
    (only : ∀ content, Answers name content value →
      Section.searchable name ∧ content = kind.sigil :: name) :
    Answered name value forest text := by
  refine ⟨swept.prints, fun content answers => ?_⟩
  obtain ⟨searchable, rfl⟩ := only content answers
  exact swept.unopened searchable

private theorem Answered.of_within {value : Value} {between : Forest}
    (within : Within forest between)
    (answered : Answered name value between text) : Answered name value forest text :=
  ⟨answered.prints.of_within within, answered.gone⟩

private theorem applyCondition_answered {truth : Bool} (named : Tag.IsName name)
    (each : ∀ body : Forest, body.Balanced → Yields (Prints body) (nested body.print root))
    (flat : ∀ (allowed : Token → Prop) body, Flat allowed body →
      Yields (Flat allowed) (nested body root))
    (balanced : forest.Balanced) :
    Yields (Answered name (.boolean truth) forest)
      (applyCondition nested root name truth forest.print) := by
  refine (removeSections_swept named balanced _).bind ?_
  rintro _ ⟨⟨between, within, rfl⟩, dropped⟩
  have kept := spliceSections_swept (SectionKind.ofTruth truth) named within.balanced each (flat _)
  -- The sections that contradict the truth value are gone before the others are rendered, and none
  -- comes back with what these are rendered to.
  have opposite : Yields (fun text => Section.searchable name →
      Flat (Token.Without ((SectionKind.ofTruth truth).opposite.sigil :: name)) text)
      (spliceSections (fun body => nested body root) (SectionKind.ofTruth truth) name
        between.print) := by
    intro trail result after done searchable
    exact spliceSections_flat named.plain (flat _) (dropped searchable) trail result after done
  refine (kept.and opposite).mono ?_
  rintro text ⟨swept, stillDropped⟩
  refine ⟨swept.prints.of_within within, ?_⟩
  rintro content ⟨searchable, kind, rfl⟩
  have either : kind = SectionKind.ofTruth truth ∨ kind = (SectionKind.ofTruth truth).opposite := by
    cases truth <;> cases kind <;> decide
  rcases either with rfl | rfl
  · exact swept.unopened searchable
  · exact stillDropped searchable

private theorem applyBinding_answered (rootBound : Entries.Every Tag.IsName Text.Plain root)
    (scopeBound : Entries.Every Tag.IsName Text.Plain scope)
    (each : ∀ (body : Forest) inner, body.Balanced → Entries.Every Tag.IsName Text.Plain inner →
      Yields (Prints body) (nested body.print inner))
    (flat : ∀ (allowed : Token → Prop) body inner, Flat allowed body →
      Entries.Every Tag.IsName Text.Plain inner → Yields (Flat allowed) (nested body inner))
    {binding : Text × Value} (bound : binding ∈ scope) (balanced : forest.Balanced) :
    Yields (Answered binding.1 binding.2 forest)
      (Substitution.applyBinding nested root forest.print binding) := by
  obtain ⟨key, value⟩ := binding
  obtain ⟨named, valueBound⟩ := scopeBound _ bound
  have tokens : Flat (fun _ => True) forest.print :=
    flat_print balanced (fun _ _ _ _ => trivial) fun _ _ _ => ⟨fun _ => trivial, trivial⟩
  apply noted_yields
  cases valueBound with
  | scalar plain =>
      have filled := tokens.fillTags named.plain plain plain
      refine Yields.pure ⟨⟨_, within_fillScalar plain balanced,
        print_fillScalar named plain balanced⟩, ?_⟩
      rintro content rfl
      exact filled.mono fun token holds => holds.2
  | boolean truth =>
      apply applyCondition_answered named _ _ balanced
      · exact fun body bodyBalanced => each body root bodyBalanced rootBound
      · exact fun allowed body bodyFlat => flat allowed body root bodyFlat rootBound
  | @list items values =>
      cases items with
      | nil =>
          exact (removeSections_swept named balanced .positive).mono fun text swept =>
            swept.answered fun _ answers => answers
      | cons item items =>
          refine (spliceSections_swept .positive named balanced ?_ ?_).mono
            fun text swept => swept.answered fun _ answers => answers
          · exact fun body bodyBalanced => itemsContent_prints values each bodyBalanced
          · exact fun body bodyFlat =>
              itemsContent_flat (by decide) values (flat _) bodyFlat
  | @map entries names values =>
      cases entries with
      | nil =>
          exact (removeSections_swept named balanced .positive).mono fun text swept =>
            swept.answered fun _ answers => answers
      | cons entry entries =>
          have inner : Entries.Every Tag.IsName Text.Plain (entry :: entries) :=
            fun other present => ⟨names other present, values other present⟩
          refine (spliceSections_swept .positive named balanced ?_ ?_).mono
            fun text swept => swept.answered fun _ answers => answers
          · exact fun body bodyBalanced => each body _ bodyBalanced inner
          · exact fun body bodyFlat => flat _ body _ bodyFlat inner
  | @deferred source produced =>
      have prints := (fillDeferred_carriesOut named produced balanced).yields_view
      have filled := fillDeferred_yields produced key forest.print
      refine (prints.and filled).mono ?_
      rintro text ⟨printed, raw, escaped, rawPlain, escapedPlain, rfl⟩
      refine ⟨printed, ?_⟩
      rintro content rfl
      exact (tokens.fillTags named.plain rawPlain escapedPlain).mono fun token holds => holds.2
  | unsupported =>
      refine noted_yields (Yields.pure ⟨Prints.refl balanced, ?_⟩)
      intro content impossible
      exact absurd impossible id

/-! ### Whole renderings -/

private theorem plain_of_isName (bound : Entries.Every Tag.IsName Text.Plain scope) :
    Entries.Every Text.Plain Text.Plain scope :=
  bound.mono fun _ named => named.plain

structure Settled (scope : Context) (forest : Forest) (text : Text) : Prop where
  prints : Prints forest text
  gone : ∀ binding ∈ scope, ∀ content, Answers binding.1 content binding.2 →
    Flat (Token.Without content) text

private theorem bindings_settled (rootBound : Entries.Every Tag.IsName Text.Plain root)
    (scopeBound : Entries.Every Tag.IsName Text.Plain scope)
    (each : ∀ (body : Forest) inner, body.Balanced → Entries.Every Tag.IsName Text.Plain inner →
      Yields (Prints body) (nested body.print inner))
    (flat : ∀ (allowed : Token → Prop) body inner, Flat allowed body →
      Entries.Every Text.Plain Text.Plain inner → Yields (Flat allowed) (nested body inner))
    (balanced : forest.Balanced) :
    Yields (Settled scope forest)
      (scope.foldlM (Substitution.applyBinding nested root) forest.print) := by
  have answered : ∀ state, ∀ binding ∈ scope, Prints forest state →
      Yields (Answered binding.1 binding.2 forest)
        (Substitution.applyBinding nested root state binding) := by
    rintro _ binding bound ⟨between, within, rfl⟩
    refine (applyBinding_answered rootBound scopeBound each ?_ bound within.balanced).mono
      fun text answered => answered.of_within within
    exact fun allowed body inner bodyFlat innerBound =>
      flat allowed body inner bodyFlat (plain_of_isName innerBound)
  have printed : ∀ state, ∀ binding ∈ scope, Prints forest state →
      Yields (Prints forest) (Substitution.applyBinding nested root state binding) :=
    fun state binding bound prints => (answered state binding bound prints).mono
      fun text answered => answered.prints
  intro trail result after done
  refine ⟨Yields.foldlM (Prints.refl balanced) printed trail result after done, ?_⟩
  intro binding bound content answers
  -- What a binding answers is gone right behind it, and no later binding brings a tag back.
  have gone : Yields (Flat (Token.Without content))
      (scope.foldlM (Substitution.applyBinding nested root) forest.print) := by
    refine Yields.foldlM_of_mem bound (Prints.refl balanced) printed ?_ ?_
    · exact fun state prints => (answered state binding bound prints).mono
        fun text answered => answered.gone content answers
    · exact fun state later among stays => bindings_flat (plain_of_isName rootBound)
        (plain_of_isName scopeBound) (flat (Token.Without content)) among stays
  exact gone trail result after done

private theorem substituteWithin_settled (depth : Nat)
    (rootBound : Entries.Every Tag.IsName Text.Plain root)
    (scopeBound : Entries.Every Tag.IsName Text.Plain scope) (balanced : forest.Balanced) :
    Yields (Settled scope forest) (substituteWithin depth forest.print scope root) := by
  induction depth generalizing forest scope with
  | zero =>
      apply bindings_settled rootBound scopeBound _ _ balanced
      · exact fun _ _ _ _ => tooDeep_yields _
      · exact fun _ _ _ _ _ => tooDeep_yields _
  | succ depth ih =>
      apply bindings_settled rootBound scopeBound _ _ balanced
      · exact fun body inner bodyBalanced innerBound =>
          (ih innerBound bodyBalanced).mono fun text settled => settled.prints
      · exact fun allowed body inner bodyFlat innerPlain =>
          substituteWithin_flat depth (plain_of_isName rootBound) innerPlain bodyFlat

end

def Resolved (text name : Text) : Value → Prop
  | .scalar _ => ¬Tag.escaped name <:+: text ∧ ¬Tag.raw name <:+: text
  | .deferred _ => ¬Tag.escaped name <:+: text ∧ ¬Tag.raw name <:+: text
  | .list _ => ¬Tag.openSection .positive name <:+: text
  | .map _ => ¬Tag.openSection .positive name <:+: text
  | .boolean _ => ∀ kind, ¬Tag.openSection kind name <:+: text
  | .unsupported => True

/-- Tags are always searched for, and sections unless their name is too long. -/
def Sought (name : Text) (value : Value) : Prop :=
  value.kind = .scalar ∨ value.kind = .deferred ∨ Section.searchable name

private theorem Settled.resolved {binding : Text × Value} (settled : Settled scope forest text)
    (bound : binding ∈ scope) (plain : binding.1.Plain) (sought : Sought binding.1 binding.2) :
    Resolved text binding.1 binding.2 := by
  obtain ⟨key, value⟩ := binding
  have gone := settled.gone _ bound
  have filled : (∀ content, content = key → Flat (Token.Without content) text) →
      ¬Tag.escaped key <:+: text ∧ ¬Tag.raw key <:+: text := by
    intro all
    have absent := (all key rfl).absent plain
    exact ⟨absent, fun present => absent ((Tag.escaped_infix_raw key).trans present)⟩
  have swept : ∀ kind : SectionKind, Flat (Token.Without (kind.sigil :: key)) text →
      ¬Tag.openSection kind key <:+: text :=
    fun kind flat => flat.absent (Flat.plain_sigil kind plain)
  cases value with
  | scalar written => exact filled gone
  | deferred source => exact filled gone
  | list items =>
      have searchable := sought.elim (nomatch ·) (·.elim (nomatch ·) id)
      exact swept .positive (gone _ ⟨searchable, rfl⟩)
  | map entries =>
      have searchable := sought.elim (nomatch ·) (·.elim (nomatch ·) id)
      exact swept .positive (gone _ ⟨searchable, rfl⟩)
  | boolean truth =>
      have searchable := sought.elim (nomatch ·) (·.elim (nomatch ·) id)
      exact fun kind => swept kind (gone _ ⟨searchable, kind, rfl⟩)
  | unsupported => trivial

/-- A balanced template is rendered, and none of the tags that a bound name answers is left, in
whatever order the names are bound and however deep in sections the tags stood. -/
theorem rendering_leaves_no_bound_tag (balanced : forest.Balanced)
    (scopeBound : Entries.Every Tag.IsName Text.Plain scope)
    (rootBound : Entries.Every Tag.IsName Text.Plain root) (trail : Trail) :
    ∃ output after,
      (∀ depth, forest.names.toFinset.card ≤ depth →
        substituteWithin depth forest.print scope root trail = some (output, after)) ∧
      ∀ binding ∈ scope, Sought binding.1 binding.2 → Resolved output binding.1 binding.2 := by
  have completes := substituteWithin_completes (Nat.le_refl _) (plain_of_isName rootBound)
    (plain_of_isName scopeBound) (closes_print balanced)
  obtain ⟨⟨output, after⟩, rendered⟩ := completes trail
  have settled := substituteWithin_settled _ rootBound scopeBound balanced trail output after
    rendered
  refine ⟨output, after, fun depth enough => ?_, fun binding bound sought => ?_⟩
  · exact Substitution.substituteWithin_extends enough _ scope root trail _ rendered
  · exact settled.resolved bound (scopeBound binding bound).1.plain sought

/-- A truth value before the list and the text whose tags its section holds: the section is rendered
in the whole context first. -/
theorem rendering_leaves_no_bound_tag_of_nested :
    let forest : Forest :=
      .block .positive ['b']
        (.block .positive ['l'] (.tag .escaped ['x'] (.tag .raw ['_'] .nil)) .nil)
        (.block .negative ['b'] (.char 'n' .nil) (.tag .raw ['x'] .nil))
    let scope : Context :=
      [(['b'], .boolean true), (['l'], .list [.scalar ['i'], .scalar ['j']]),
        (['x'], .scalar ['<'])]
    (substituteWithin 2 forest.print scope scope Trail.empty).map Prod.fst =
        some "&lt;i\n&lt;j\n\n\n<".toList ∧
      ∃ output after,
        (∀ depth, forest.names.toFinset.card ≤ depth →
          substituteWithin depth forest.print scope scope Trail.empty = some (output, after)) ∧
        ∀ binding ∈ scope, Sought binding.1 binding.2 → Resolved output binding.1 binding.2 := by
  intro forest scope
  have items : ∀ item ∈ [Value.scalar ['i'], .scalar ['j']], item.Every Tag.IsName Text.Plain :=
    List.forall_mem_cons.mpr ⟨.scalar (by decide),
      List.forall_mem_singleton.mpr (.scalar (by decide))⟩
  have bound : Entries.Every Tag.IsName Text.Plain scope :=
    .cons (by decide) (.boolean true)
      (.cons (by decide) (.list items) (.cons (by decide) (.scalar (by decide)) .nil))
  have balanced : forest.Balanced := by decide
  exact ⟨by decide +kernel, rendering_leaves_no_bound_tag balanced bound bound Trail.empty⟩

/-! ### Names that are too long -/

private theorem not_resolved_of_unsearchable (unsearchable : ¬Section.searchable name) (depth : Nat)
    (rest : Forest) :
    Yields (fun output => ¬Resolved output name (.list []))
      (substituteWithin depth (block .positive name .nil rest).print [(name, .list [])]
        [(name, .list [])]) := by
  have kept : ∀ template, Section.removeAll .positive name template = template :=
    fun template => if_neg unsearchable
  have same : Yields (fun output => output = (block .positive name .nil rest).print)
      (substituteWithin depth (block .positive name .nil rest).print [(name, .list [])]
        [(name, .list [])]) := by
    unfold substituteWithin
    refine Yields.foldlM rfl fun state binding bound unchanged => ?_
    cases List.mem_singleton.mp bound
    apply Substitution.noted_yields
    exact Substitution.removeSections_yields ((kept state).trans unchanged)
  refine same.mono ?_
  rintro output rfl resolved
  exact resolved ⟨[], Tag.closeSection name ++ rest.print, rfl⟩

private theorem isName_replicate (count : Nat) : Tag.IsName (List.replicate count 'a') := by
  have only : ∀ c ∈ List.replicate count 'a', c = 'a' := fun c present =>
    (List.mem_replicate.mp present).2
  refine ⟨⟨fun present => ?_, fun present => ?_⟩, ?_⟩
  · exact absurd (only _ present) (by decide)
  · exact absurd (only _ present) (by decide)
  · cases count with
    | zero => exact (by decide : ¬Tag.Marked [])
    | succ count =>
        rw [List.replicate_succ]
        rintro (mark | mark | mark) <;> exact absurd (Option.some.inj mark) (by decide)

private theorem unsearchable_replicate {count : Nat} (long : Section.nameLimit < count) :
    ¬Section.searchable (List.replicate count 'a') := by
  have size : ((List.replicate count 'a').map Char.utf8Size).sum = count := by
    rw [List.map_replicate, List.sum_replicate_nat]
    exact Nat.mul_one count
  intro searchable
  have short : ((List.replicate count 'a').map Char.utf8Size).sum ≤ Section.nameLimit :=
    of_decide_eq_true searchable
  omega

/-- The length of a name matters: the section of a long one stays. -/
theorem not_resolved_of_long_name :
    ¬∀ (forest : Forest) (scope : Context) (trail : Trail), forest.Balanced →
      Entries.Every Tag.IsName Text.Plain scope →
      ∃ output after,
        (∀ depth, forest.names.toFinset.card ≤ depth →
          substituteWithin depth forest.print scope scope trail = some (output, after)) ∧
        ∀ binding ∈ scope, Resolved output binding.1 binding.2 := by
  intro resolves
  have named := isName_replicate 200000
  have unsearchable : ¬Section.searchable (List.replicate 200000 'a') :=
    unsearchable_replicate (by decide)
  generalize List.replicate 200000 'a' = name at named unsearchable
  have balanced : (block .positive name .nil .nil).Balanced :=
    ⟨named, List.not_mem_nil, trivial, trivial⟩
  have bound : Entries.Every Tag.IsName Text.Plain [(name, .list [])] :=
    .cons named (.list fun item impossible => absurd impossible List.not_mem_nil) .nil
  obtain ⟨output, after, rendered, resolved⟩ := resolves _ _ Trail.empty balanced bound
  exact not_resolved_of_unsearchable unsearchable _ .nil Trail.empty output after
    (rendered _ (Nat.le_refl _)) (resolved _ List.mem_cons_self)

end TextTemplate.Forest
