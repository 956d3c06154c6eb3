import TextTemplate.Proofs.Forest.Blocks

/-!
# Rendering a balanced template interprets its forest

Each binding does to the printed forest what it does to the forest, whatever was done before: the
forest stays balanced, its tags stay apart, and its blocks are found one by one. So a rendering is
the interpretation of the forest, printed, with the same trail.
-/

set_option autoImplicit false

namespace TextTemplate

open Rendering

/-- A name that can be bound: one that stands in tags, with sections that are searched for. -/
structure Tag.IsKey (name : Text) : Prop where
  named : Tag.IsName name
  searchable : Section.searchable name

namespace Forest

variable {forest : Forest} {scope root : Context} {name text : Text}

/-! ### Filling tags -/

private theorem ready_raw (name : Text) (forest : Forest) : Ready .raw name forest := by
  intro impossible
  cases impossible

theorem print_fillScalar (named : Tag.IsName name) (plain : text.Plain)
    (balanced : forest.Balanced) :
    Substitution.fillScalar name text forest.print = (forest.fillScalar name text).print := by
  have first := print_fill named balanced (ready_raw name forest) text
  have ready : Ready .escaped name (forest.fill .raw name text) := fun _ => hasTag_fill _ _ _ _
  have second := print_fill named (balanced_fill plain balanced) ready (Markup.escape text)
  change Text.replaceAll (TagForm.escaped.tag name) _
    (Text.replaceAll (TagForm.raw.tag name) _ _) = _
  rw [first, second, fillScalar]

theorem within_fillScalar (plain : text.Plain) (balanced : forest.Balanced) :
    Within forest (forest.fillScalar name text) := by
  have first : Within forest (forest.fill .raw name text) := within_fill plain balanced
  exact first.trans (within_fill (Flat.plain_escape plain) first.balanced)

private theorem fillForm_carriesOut (form : TagForm) {source : Deferred} (named : Tag.IsName name)
    (plain : ∀ count, (source.produce count).Plain) (balanced : forest.Balanced)
    (ready : Ready form name forest) :
    CarriesOut print (fun result => Within forest result ∧ result.hasTag form name = false)
      (Substitution.fillForm (form.tag name) form.written source forest.print)
      (forest.fillForm form name source) := by
  have invoked : CarriesOut id Text.Plain (invoke source) (invoke source) :=
    ⟨(bind_pure _).symm, Substitution.invoke_yields plain⟩
  have writtenPlain : ∀ value : Text, value.Plain → (form.written value).Plain := by
    cases form with
    | raw => exact fun value valuePlain => valuePlain
    | escaped => exact fun value valuePlain => Flat.plain_escape valuePlain
  unfold Substitution.fillForm fillForm
  rw [occursIn_print_eq named balanced ready]
  by_cases present : forest.hasTag form name
  · rw [if_pos present, if_pos present]
    refine invoked.bind fun value valuePlain => ?_
    have filled : Within forest (forest.fill form name (form.written value)) :=
      within_fill (writtenPlain value valuePlain) balanced
    rw [id, print_fill named balanced ready]
    exact CarriesOut.pure ⟨filled, hasTag_fill _ _ _ _⟩
  · rw [if_neg present, if_neg present]
    exact CarriesOut.pure ⟨Within.refl balanced, Bool.eq_false_of_not_eq_true present⟩

theorem fillDeferred_carriesOut {source : Deferred} (named : Tag.IsName name)
    (plain : ∀ count, (source.produce count).Plain) (balanced : forest.Balanced) :
    CarriesOut print (Within forest) (Substitution.fillDeferred name source forest.print)
      (forest.fillDeferred name source) := by
  rw [Substitution.fillDeferred_eq]
  refine (fillForm_carriesOut .raw named plain balanced (ready_raw name forest)).bind ?_
  -- With no raw tag left, what looks like an escaped tag is one.
  rintro between ⟨within, noRaw⟩
  refine (fillForm_carriesOut .escaped named plain within.balanced fun _ => noRaw).mono ?_
  exact fun result holds => within.trans holds.1

/-! ### One binding -/

section

open Substitution

variable {nested : Text → Context → Rendering Text} {plan : Forest → Context → Rendering Forest}

private theorem copies_carriesOut {items : List Value}
    (values : ∀ item ∈ items, item.Every Tag.IsKey Text.Plain)
    (each : ∀ (body : Forest) scope, body.Balanced → Entries.Every Tag.IsKey Text.Plain scope →
      CarriesOut print (Within body) (nested body.print scope) (plan body scope))
    (balanced : forest.Balanced) :
    CarriesOut print (Within forest) (itemsContent nested items forest.print)
      (copies plan items forest) := by
  have trimmed := within_loopBody balanced
  have item : Tag.IsKey itemName := ⟨by decide, by decide⟩
  have rendered : CarriesOut (List.map print) (fun forests => ∀ result ∈ forests,
      Within forest.loopBody result)
      (items.mapM fun item => nested (Substitution.loopBody forest.print) (itemScope item))
      (items.mapM fun item => plan forest.loopBody (scopeOf item)) := by
    rw [← print_loopBody balanced]
    refine CarriesOut.mapM fun value present => ?_
    rw [scopeOf_eq]
    exact each _ _ trimmed.balanced (every_itemScope item (values value present))
  refine rendered.bind fun forests within => ?_
  rw [← print_join]
  exact CarriesOut.pure (Within.join fun result present => trimmed.trans (within result present))

private theorem condition_carriesOut (named : Tag.IsName name)
    (searchable : Section.searchable name)
    (balanced : forest.Balanced) (dropped kept : SectionKind)
    (each : ∀ body : Forest, body.Balanced →
      CarriesOut print (Within body) (nested body.print root) (plan body root))
    (flat : ∀ (allowed : Token → Prop) body, Flat allowed body →
      Yields (Flat allowed) (nested body root)) :
    CarriesOut print (Within forest)
      (removeSections dropped name forest.print >>= fun template =>
        spliceSections (fun body => nested body root) kept name template)
      (forest.condition plan root dropped kept name) := by
  refine (removeSections_carriesOut named searchable balanced dropped).bind fun between within => ?_
  refine (spliceSections_carriesOut named searchable within.balanced each ?_).mono ?_
  · exact fun body bodyFlat => flat _ body bodyFlat
  · exact fun result later => within.trans later

private theorem applyBinding_carriesOut (rootBound : Entries.Every Tag.IsKey Text.Plain root)
    (scopeBound : Entries.Every Tag.IsKey Text.Plain scope)
    (each : ∀ (body : Forest) scope, body.Balanced → Entries.Every Tag.IsKey Text.Plain scope →
      CarriesOut print (Within body) (nested body.print scope) (plan body scope))
    (flat : ∀ (allowed : Token → Prop) inner scope, Flat allowed inner →
      Entries.Every Tag.IsKey Text.Plain scope → Yields (Flat allowed) (nested inner scope))
    {binding : Text × Value} (bound : binding ∈ scope) (balanced : forest.Balanced) :
    CarriesOut print (Within forest) (Substitution.applyBinding nested root forest.print binding)
      (forest.applyBinding plan root binding) := by
  obtain ⟨key, value⟩ := binding
  obtain ⟨⟨named, searchable⟩, valueBound⟩ := scopeBound _ bound
  have item : Tag.IsKey itemName := ⟨by decide, by decide⟩
  refine CarriesOut.after _ fun _ => ?_
  cases valueBound with
  | scalar plain =>
      change CarriesOut print _ (pure (Substitution.fillScalar key _ forest.print)) _
      rw [print_fillScalar named plain balanced]
      exact CarriesOut.pure (within_fillScalar plain balanced)
  | boolean truth =>
      have whole : ∀ body : Forest, body.Balanced →
          CarriesOut print (Within body) (nested body.print root) (plan body root) :=
        fun body bodyBalanced => each body root bodyBalanced rootBound
      cases truth with
      | true =>
          exact condition_carriesOut named searchable balanced .negative .positive whole
            fun allowed body bodyFlat => flat allowed body root bodyFlat rootBound
      | false =>
          exact condition_carriesOut named searchable balanced .positive .negative whole
            fun allowed body bodyFlat => flat allowed body root bodyFlat rootBound
  | @list items values =>
      cases items with
      | nil => exact removeSections_carriesOut named searchable balanced _
      | cons first items =>
          apply spliceSections_carriesOut named searchable balanced
          · exact fun body bodyBalanced => copies_carriesOut values each bodyBalanced
          · exact fun body bodyFlat => itemsContent_flat item values (flat _) bodyFlat
  | @map entries names values =>
      cases entries with
      | nil => exact removeSections_carriesOut named searchable balanced _
      | cons entry entries =>
          have inner : Entries.Every Tag.IsKey Text.Plain (entry :: entries) :=
            fun other present => ⟨names other present, values other present⟩
          apply spliceSections_carriesOut named searchable balanced
          · exact fun body bodyBalanced => each body _ bodyBalanced inner
          · exact fun body bodyFlat => flat _ body _ bodyFlat inner
  | deferred plain => exact fillDeferred_carriesOut named plain balanced
  | unsupported =>
      exact CarriesOut.after _ fun _ => CarriesOut.pure (Within.refl balanced)

end

/-! ### Whole renderings -/

private theorem plain_of_isKey (bound : Entries.Every Tag.IsKey Text.Plain scope) :
    Entries.Every Text.Plain Text.Plain scope :=
  bound.mono fun _ key => key.named.plain

private theorem substituteWithin_carriesOut (depth : Nat)
    (rootBound : Entries.Every Tag.IsKey Text.Plain root)
    (scopeBound : Entries.Every Tag.IsKey Text.Plain scope) (balanced : forest.Balanced) :
    CarriesOut print (Within forest) (substituteWithin depth forest.print scope root)
      (forest.interpretWithin depth scope root) := by
  induction depth generalizing forest scope with
  | zero =>
      refine CarriesOut.foldlM (Within.refl balanced) fun state binding bound within => ?_
      refine (applyBinding_carriesOut rootBound scopeBound ?_ ?_ bound within.balanced).mono
        fun result later => within.trans later
      · exact fun body inner _ _ => ⟨rfl, Substitution.tooDeep_yields _⟩
      · exact fun _ _ _ _ _ => Substitution.tooDeep_yields _
  | succ depth ih =>
      refine CarriesOut.foldlM (Within.refl balanced) fun state binding bound within => ?_
      refine (applyBinding_carriesOut rootBound scopeBound ?_ ?_ bound within.balanced).mono
        fun result later => within.trans later
      · exact fun body inner bodyBalanced innerBound => ih innerBound bodyBalanced
      · exact fun allowed inner innerScope flat innerBound => substituteWithin_flat depth
          (plain_of_isKey rootBound) (plain_of_isKey innerBound) flat

private theorem replaceBlocks_extends {large small : Forest → Rendering Forest} {kind : SectionKind}
    (each : ∀ body, Extends (large body) (small body)) (forest : Forest) (behind : Bool) :
    Extends (forest.replaceBlocks large kind name behind)
      (forest.replaceBlocks small kind name behind) := by
  induction forest generalizing behind with
  | nil => exact Extends.refl _
  | char c rest ih =>
      unfold replaceBlocks
      split
      · exact ih true
      · exact (ih false).bind fun _ => Extends.refl _
  | tag form key rest ih => exact (ih false).bind fun _ => Extends.refl _
  | block other key body rest ihBody ihRest =>
      unfold replaceBlocks
      split
      · exact (each body).bind fun _ => (ihRest true).bind fun _ => Extends.refl _
      · exact (ihBody false).bind fun _ => (ihRest false).bind fun _ => Extends.refl _

private theorem spliceBlocks_extends {large small : Forest → Rendering Forest}
    (each : ∀ body, Extends (large body) (small body)) (kind : SectionKind) (name : Text)
    (forest : Forest) :
    Extends (forest.spliceBlocks large kind name) (forest.spliceBlocks small kind name) :=
  replaceBlocks_extends (fun body => (each body).bind fun _ => Extends.refl _) forest false

private theorem condition_extends {large small : Forest → Context → Rendering Forest}
    (each : ∀ body inner, Extends (large body inner) (small body inner)) (root : Context)
    (dropped kept : SectionKind) (name : Text) (forest : Forest) :
    Extends (forest.condition large root dropped kept name)
      (forest.condition small root dropped kept name) :=
  (Extends.refl _).bind fun between =>
    spliceBlocks_extends (fun body => each body root) kept name between

private theorem applyBinding_extends {large small : Forest → Context → Rendering Forest}
    (each : ∀ body inner, Extends (large body inner) (small body inner)) (root : Context)
    (forest : Forest) (binding : Text × Value) :
    Extends (forest.applyBinding large root binding) (forest.applyBinding small root binding) := by
  obtain ⟨key, value⟩ := binding
  refine (Extends.refl _).bind fun _ => ?_
  cases value with
  | scalar written => exact Extends.refl _
  | boolean truth =>
      cases truth with
      | true => exact condition_extends each root .negative .positive key forest
      | false => exact condition_extends each root .positive .negative key forest
  | list items =>
      cases items with
      | nil => exact Extends.refl _
      | cons item items =>
          refine spliceBlocks_extends (fun body => ?_) _ key forest
          refine Extends.bind (Extends.mapM _ fun value => ?_) fun _ => Extends.refl _
          exact each body.loopBody (scopeOf value)
  | map entries =>
      cases entries with
      | nil => exact Extends.refl _
      | cons entry entries => exact spliceBlocks_extends (fun body => each body _) _ key forest
  | deferred source => exact Extends.refl _
  | unsupported => exact Extends.refl _

private theorem interpretWithin_extends {small large : Nat} (deeper : small ≤ large)
    (forest : Forest)
    (scope root : Context) :
    Extends (forest.interpretWithin large scope root)
      (forest.interpretWithin small scope root) := by
  induction small generalizing large forest scope with
  | zero =>
      unfold interpretWithin
      refine Extends.foldlM scope (fun current binding => ?_) forest
      exact applyBinding_extends (fun _ _ => Substitution.tooDeep_extends _) root current binding
  | succ small ih =>
      obtain ⟨larger, rfl⟩ := Nat.exists_eq_add_one_of_ne_zero (Nat.ne_zero_of_lt deeper)
      unfold interpretWithin
      refine Extends.foldlM scope (fun current binding => ?_) forest
      apply applyBinding_extends
      exact fun body inner => ih (Nat.le_of_succ_le_succ deeper) body inner

theorem closes_print (balanced : forest.Balanced) :
    Flat (Token.Closes forest.names.toFinset) forest.print := by
  apply flat_print balanced
  · intro token key content unmarked name closing
    have same := Option.some.inj (content.symm.trans closing)
    exact absurd (Flat.marked_slash name) (same ▸ unmarked)
  · intro key plain present
    constructor
    · intro kind name closing
      have slash := (List.cons.inj (Option.some.inj closing)).1
      exact absurd slash (Flat.sigil_ne_slash kind)
    · intro name closing
      obtain ⟨_, rfl⟩ := List.cons.inj (Option.some.inj closing)
      exact List.mem_toFinset.mpr present

/-- A balanced template is rendered to the print of what its forest is interpreted as, with the same
trail. As many renderings inside one another as there are names of blocks are enough. -/
theorem rendering_prints_interpretation (balanced : forest.Balanced)
    (scopeBound : Entries.Every Tag.IsKey Text.Plain scope)
    (rootBound : Entries.Every Tag.IsKey Text.Plain root) (trail : Trail) :
    ∃ result after, result.Balanced ∧ ∀ depth, forest.names.toFinset.card ≤ depth →
      forest.interpretWithin depth scope root trail = some (result, after) ∧
      substituteWithin depth forest.print scope root trail = some (result.print, after) := by
  have completes := substituteWithin_completes (Nat.le_refl _) (plain_of_isKey rootBound)
    (plain_of_isKey scopeBound) (closes_print balanced)
  obtain ⟨⟨output, after⟩, rendered⟩ := completes trail
  have carries := substituteWithin_carriesOut forest.names.toFinset.card rootBound scopeBound
    balanced
  have planned := rendered
  rw [carries.same] at planned
  obtain ⟨result, between, interpreted, shown⟩ := bind_eq_some_iff.mp planned
  cases pure_eq_some_iff.mp shown
  have within := carries.yields trail result after interpreted
  refine ⟨result, after, within.balanced, fun depth enough => ⟨?_, ?_⟩⟩
  · exact interpretWithin_extends enough forest scope root trail _ interpreted
  · exact Substitution.substituteWithin_extends enough _ scope root trail _ rendered

/-- A list, and a raw tag behind its section: the line feed between them goes with the section. -/
theorem rendering_prints_interpretation_of_list :
    let forest : Forest :=
      .block .positive ['a'] (.tag .escaped ['_'] .nil) (.char '\n' (.tag .raw ['b'] .nil))
    let scope : Context := [(['a'], .list [.scalar ['<'], .scalar ['y']]), (['b'], .scalar ['<'])]
    (substituteWithin 1 forest.print scope [] Trail.empty).map Prod.fst =
        some "&lt;\ny\n\n<".toList ∧
      ∃ result after, result.Balanced ∧ ∀ depth, forest.names.toFinset.card ≤ depth →
        forest.interpretWithin depth scope [] Trail.empty = some (result, after) ∧
        substituteWithin depth forest.print scope [] Trail.empty = some (result.print, after) := by
  intro forest scope
  have items : ∀ item ∈ [Value.scalar ['<'], .scalar ['y']], item.Every Tag.IsKey Text.Plain :=
    List.forall_mem_cons.mpr ⟨.scalar (by decide),
      List.forall_mem_singleton.mpr (.scalar (by decide))⟩
  have bound : Entries.Every Tag.IsKey Text.Plain scope :=
    .cons ⟨by decide, by decide⟩ (.list items)
      (.cons ⟨by decide, by decide⟩ (.scalar (by decide)) .nil)
  have balanced : forest.Balanced := by decide
  exact ⟨by decide +kernel, rendering_prints_interpretation balanced bound .nil Trail.empty⟩

end Forest
end TextTemplate
