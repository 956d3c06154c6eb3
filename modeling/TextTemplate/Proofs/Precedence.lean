import TextTemplate.Proofs.Agreement

/-!
# An outer binding wins over inner ones

Once a name is bound to a text on the outer level, all tags of the name are filled, and none comes
about later. So it makes no difference what text the name is bound to in a list item or a nested map
that comes after, nor in the root context that truth values start again from: there, too, the outer
binding comes first.
-/

set_option autoImplicit false

namespace TextTemplate

/-! ### Blanking the texts of a name -/

namespace Value

mutual

/-- The value with every text blanked that the name is bound to in a map in it. -/
def blank (name : Text) : Value → Value
  | .scalar text => .scalar text
  | .boolean truth => .boolean truth
  | .list items => .list (blankItems name items)
  | .map entries => .map (blankEntries name entries)
  | .deferred source => .deferred source
  | .unsupported => .unsupported

def blankItems (name : Text) : List Value → List Value
  | [] => []
  | item :: others => blank name item :: blankItems name others

/-- The entries with every text blanked that the name is bound to, at any depth. -/
def blankEntries (name : Text) : List (Text × Value) → List (Text × Value)
  | [] => []
  | (key, value) :: others =>
      (key, if key = name ∧ value.kind = .scalar then .scalar [] else blank name value) ::
        blankEntries name others

end

def blankEntry (name : Text) (entry : Text × Value) : Text × Value :=
  (entry.1, if entry.1 = name ∧ entry.2.kind = .scalar then .scalar [] else entry.2.blank name)

variable {name : Text} {value other : Value}

private theorem blankItems_eq_map (name : Text) (items : List Value) :
    blankItems name items = items.map (blank name) := by
  induction items with
  | nil => rfl
  | cons item items ih => exact congrArg (blank name item :: ·) ih

private theorem blankEntries_eq_map (name : Text) (entries : Context) :
    blankEntries name entries = entries.map (blankEntry name) := by
  induction entries with
  | nil => rfl
  | cons entry entries ih => exact congrArg (blankEntry name entry :: ·) ih

private theorem kind_blank (name : Text) (value : Value) :
    (value.blank name).kind = value.kind := by
  cases value with
  | scalar text => rfl
  | boolean truth => rfl
  | list items => rfl
  | map entries => rfl
  | deferred source => rfl
  | unsupported => rfl

private theorem eq_scalar_of_kind (isText : value.kind = .scalar) :
    ∃ text, value = .scalar text := by
  cases value with
  | scalar text => exact ⟨text, rfl⟩
  | _ => cases isText

private theorem blankEntries_singleton {key : Text} (noText : value.kind ≠ .scalar) :
    blankEntries name [(key, value)] = [(key, value.blank name)] := by
  rw [blankEntries, if_neg fun both => noText both.2, blankEntries]

private theorem blank_cases (same : value.blank name = other.blank name) :
    value = other ∨
      (∃ items others, value = .list items ∧ other = .list others ∧
        items.map (blank name) = others.map (blank name)) ∨
      ∃ entries others, value = .map entries ∧ other = .map others ∧
        blankEntries name entries = blankEntries name others := by
  cases value with
  | scalar text =>
      cases other with
      | scalar written => exact .inl same
      | _ => cases same
  | boolean truth =>
      cases other with
      | boolean twin => exact .inl same
      | _ => cases same
  | list items =>
      cases other with
      | list others =>
          have blanked := Value.list.inj same
          rw [blankItems_eq_map, blankItems_eq_map] at blanked
          exact .inr (.inl ⟨items, others, rfl, rfl, blanked⟩)
      | _ => cases same
  | map entries =>
      cases other with
      | map others => exact .inr (.inr ⟨entries, others, rfl, rfl, Value.map.inj same⟩)
      | _ => cases same
  | deferred source =>
      cases other with
      | deferred twin => exact .inl same
      | _ => cases same
  | unsupported =>
      cases other with
      | unsupported => exact .inl rfl
      | _ => cases same

private theorem blankEntry_cases {entry twin : Text × Value}
    (same : blankEntry name entry = blankEntry name twin) :
    entry.1 = twin.1 ∧
      ((entry.1 = name ∧ ∃ text written, entry.2 = .scalar text ∧ twin.2 = .scalar written) ∨
        entry.2.blank name = twin.2.blank name) := by
  have kept : ∀ entry : Text × Value, (blankEntry name entry).2.kind = entry.2.kind := by
    intro entry
    unfold blankEntry
    split
    · next bound => exact bound.2.symm
    · exact kind_blank name entry.2
  have kinds : entry.2.kind = twin.2.kind := by rw [← kept entry, ← kept twin, same]
  obtain ⟨keys, values⟩ := Prod.mk.inj same
  refine ⟨keys, ?_⟩
  by_cases bound : entry.1 = name ∧ entry.2.kind = .scalar
  · obtain ⟨text, first⟩ := eq_scalar_of_kind bound.2
    obtain ⟨written, second⟩ := eq_scalar_of_kind (kinds.symm.trans bound.2)
    exact .inl ⟨bound.1, text, written, first, second⟩
  · have twinBound : ¬(twin.1 = name ∧ twin.2.kind = .scalar) := by rwa [← keys, ← kinds]
    rw [if_neg bound, if_neg twinBound] at values
    exact .inr values

end Value

/-- Contexts that are equal but for the texts that the name is bound to in them. -/
structure Entries.EqualBut (name : Text) (scope other : Context) : Prop where
  plain : Entries.Every Text.Plain Text.Plain scope
  same : Value.blankEntries name scope = Value.blankEntries name other

private theorem forall₂_of_map_eq {α β : Type} {f : α → β} {items others : List α}
    (same : items.map f = others.map f) :
    List.Forall₂ (fun item other => f item = f other) items others := by
  rwa [← List.forall₂_eq_eq_eq, List.forall₂_map_left_iff, List.forall₂_map_right_iff] at same

namespace Substitution

open Value Rendering

variable {name text template : Text} {value other : Value} {scope twinScope root twinRoot : Context}
variable {nested twin : Text → Context → Rendering Text} {trails : Trail → Trail → Prop}

private theorem blankEntries_itemScope (same : value.blank name = other.blank name) :
    blankEntries name (itemScope value) = blankEntries name (itemScope other) := by
  rcases blank_cases same with rfl | ⟨items, others, rfl, rfl, blanked⟩ |
    ⟨entries, others, rfl, rfl, blanked⟩
  · rfl
  · cases items with
    | nil => rw [List.map_eq_nil_iff.mp blanked.symm]
    | cons item items =>
        cases others with
        | nil => cases blanked
        | cons other others =>
            have noText : ∀ items, (Value.list items).kind ≠ .scalar := fun _ => nofun
            change blankEntries name [(itemName, _)] = blankEntries name [(itemName, _)]
            rw [blankEntries_singleton (noText _), blankEntries_singleton (noText _), same]
  · exact blanked

private theorem alike_of_blank (plain : value.Every Text.Plain Text.Plain)
    (same : value.blank name = other.blank name) :
    value.Alike (Entries.EqualBut name) other := by
  rcases blank_cases same with rfl | ⟨items, others, rfl, rfl, blanked⟩ |
    ⟨entries, others, rfl, rfl, blanked⟩
  · exact Alike.refl (by decide) (fun scope plain => ⟨plain, rfl⟩) plain
  · cases plain with
    | list values =>
        have pairs := (List.forall₂_and_left _ _).mpr ⟨values, forall₂_of_map_eq blanked⟩
        refine .list (pairs.imp fun item other both => ?_)
        exact ⟨every_itemScope (by decide) both.1, blankEntries_itemScope both.2⟩
  · cases plain with
    | map names values =>
        refine .map ?_ ⟨fun entry present => ⟨names entry present, values entry present⟩, blanked⟩
        rw [blankEntries_eq_map, blankEntries_eq_map] at blanked
        rw [← List.map_eq_nil_iff (f := blankEntry name), blanked, List.map_eq_nil_iff]

/-! ### Once the tags of the name are gone -/

private theorem binding_agree_of_equalBut (steady : Trail.Steady trails)
    {entry twinEntry : Text × Value} (keyPlain : entry.1.Plain)
    (valuePlain : entry.2.Every Text.Plain Text.Plain)
    (same : blankEntry name entry = blankEntry name twinEntry)
    (roots : Entries.EqualBut name root twinRoot)
    (rendered : InStep trails (Flat (Token.Without name)) (Entries.EqualBut name) nested twin)
    (flat : Flat (Token.Without name) template) :
    Agree trails (applyBinding nested root template entry)
      (applyBinding twin twinRoot template twinEntry) := by
  obtain ⟨key, value⟩ := entry
  obtain ⟨twinKey, other⟩ := twinEntry
  obtain ⟨rfl, ⟨rfl, text, written, rfl, rfl⟩ | blanked⟩ := blankEntry_cases same
  · apply (note_agree steady.toNoting _).bind_of_all
    intro _
    change Agree trails (pure (fillScalar key text template))
      (pure (fillScalar key written template))
    rw [flat.fillScalar_eq keyPlain, flat.fillScalar_eq keyPlain]
    exact Agree.pure template
  · exact applyBinding_agree_of_flat steady keyPlain (alike_of_blank valuePlain blanked)
      (fun _ => roots) rendered flat

private theorem bindings_agree_of_equalBut (steady : Trail.Steady trails)
    (scopes : Entries.EqualBut name scope twinScope) (roots : Entries.EqualBut name root twinRoot)
    (rendered : InStep trails (Flat (Token.Without name)) (Entries.EqualBut name) nested twin)
    (keeps : ∀ inner scope, Flat (Token.Without name) inner →
      Entries.Every Text.Plain Text.Plain scope →
      Yields (Flat (Token.Without name)) (nested inner scope))
    (flat : Flat (Token.Without name) template) :
    Agree trails (scope.foldlM (applyBinding nested root) template)
      (twinScope.foldlM (applyBinding twin twinRoot) template) := by
  have same := scopes.same
  rw [blankEntries_eq_map, blankEntries_eq_map] at same
  refine Agree.foldlM (forall₂_of_map_eq same) flat ?_ ?_
  · exact fun state binding bound holds => bindings_flat roots.plain scopes.plain keeps bound holds
  · intro state entry twinEntry bound blanked holds
    obtain ⟨keyPlain, valuePlain⟩ := scopes.plain entry bound
    exact binding_agree_of_equalBut steady keyPlain valuePlain blanked roots rendered holds

private theorem substituteWithin_agree_of_equalBut (steady : Trail.Steady trails) (depth : Nat)
    (scopes : Entries.EqualBut name scope twinScope) (roots : Entries.EqualBut name root twinRoot)
    (flat : Flat (Token.Without name) template) :
    Agree trails (substituteWithin depth template scope root)
      (substituteWithin depth template twinScope twinRoot) := by
  induction depth generalizing template scope twinScope with
  | zero =>
      apply bindings_agree_of_equalBut steady scopes roots _ _ flat
      · exact tooDeep_inStep
      · exact fun _ _ _ _ => tooDeep_yields _
  | succ depth ih =>
      apply bindings_agree_of_equalBut steady scopes roots _ _ flat
      · exact fun inner scope twinScope flat scopes => ih scopes flat
      · exact fun inner scope flat plain => substituteWithin_flat depth roots.plain plain flat

/-! ### Before the tags of the name are gone -/

structure SameOrRoots (root twinRoot scope twinScope : Context) : Prop where
  plain : Entries.Every Text.Plain Text.Plain scope
  either : scope = twinScope ∨ scope = root ∧ twinScope = twinRoot

private theorem bindings_agree_of_same (steady : Trail.Steady trails)
    (scopePlain : Entries.Every Text.Plain Text.Plain scope)
    (rootPlain : Entries.Every Text.Plain Text.Plain root)
    (rendered : InStep trails (Flat fun _ => True) (SameOrRoots root twinRoot) nested twin)
    (keeps : ∀ inner scope, Flat (fun _ => True) inner →
      Entries.Every Text.Plain Text.Plain scope → Yields (Flat fun _ => True) (nested inner scope))
    (flat : Flat (fun _ => True) template) :
    Agree trails (scope.foldlM (applyBinding nested root) template)
      (scope.foldlM (applyBinding twin twinRoot) template) := by
  refine Agree.foldlM (List.forall₂_same.mpr fun _ _ => rfl) flat ?_ ?_
  · exact fun state binding bound holds => bindings_flat rootPlain scopePlain keeps bound holds
  · rintro state ⟨key, value⟩ _ bound rfl holds
    obtain ⟨keyPlain, valuePlain⟩ := scopePlain _ bound
    have alike : value.Alike (SameOrRoots root twinRoot) value :=
      Alike.refl (by decide) (fun scope plain => ⟨plain, .inl rfl⟩) valuePlain
    exact applyBinding_agree_of_flat steady keyPlain alike
      (fun _ => ⟨rootPlain, .inr ⟨rfl, rfl⟩⟩) rendered holds

private theorem bindings_yield_without
    (scopePlain : Entries.Every Text.Plain Text.Plain scope)
    (rootPlain : Entries.Every Text.Plain Text.Plain root) (bound : (name, .scalar text) ∈ scope)
    (keeps : ∀ (allowed : Token → Prop) inner scope, Flat allowed inner →
      Entries.Every Text.Plain Text.Plain scope → Yields (Flat allowed) (nested inner scope))
    (flat : Flat (fun _ => True) template) :
    Yields (Flat (Token.Without name)) (scope.foldlM (applyBinding nested root) template) := by
  obtain ⟨namePlain, valuePlain⟩ := scopePlain _ bound
  refine Yields.foldlM_of_mem bound flat ?_ ?_ ?_
  · exact fun state other among holds => bindings_flat rootPlain scopePlain (keeps _) among holds
  · intro state holds
    cases valuePlain with
    | scalar textPlain =>
        have filled := Flat.fillTags namePlain textPlain textPlain holds
        exact noted_yields (Yields.pure (filled.mono fun token both => both.2))
  · exact fun state other among stays => bindings_flat rootPlain scopePlain (keeps _) among stays

/-! ### Whole renderings -/

variable {front back twinBack : Context}

private theorem equalBut_append (plain : Entries.Every Text.Plain Text.Plain (front ++ back))
    (same : blankEntries name back = blankEntries name twinBack) :
    Entries.EqualBut name (front ++ back) (front ++ twinBack) := by
  refine ⟨plain, ?_⟩
  simp only [blankEntries_eq_map, List.map_append] at same ⊢
  rw [same]

private theorem bindings_agree (steady : Trail.Steady trails) (bound : (name, .scalar text) ∈ front)
    (rootPlain : Entries.Every Text.Plain Text.Plain (front ++ back))
    (same : blankEntries name back = blankEntries name twinBack)
    (scopes : SameOrRoots (front ++ back) (front ++ twinBack) scope twinScope)
    (rendered : InStep trails (Flat fun _ => True)
      (SameOrRoots (front ++ back) (front ++ twinBack)) nested twin)
    (renderedBut : InStep trails (Flat (Token.Without name)) (Entries.EqualBut name) nested twin)
    (keeps : ∀ (allowed : Token → Prop) inner scope, Flat allowed inner →
      Entries.Every Text.Plain Text.Plain scope → Yields (Flat allowed) (nested inner scope))
    (flat : Flat (fun _ => True) template) :
    Agree trails (scope.foldlM (applyBinding nested (front ++ back)) template)
      (twinScope.foldlM (applyBinding twin (front ++ twinBack)) template) := by
  obtain ⟨scopePlain, rfl | ⟨rfl, rfl⟩⟩ := scopes
  · exact bindings_agree_of_same steady scopePlain rootPlain rendered (keeps _) flat
  · have frontPlain : Entries.Every Text.Plain Text.Plain front := fun entry present =>
      rootPlain entry (List.mem_append_left _ present)
    have backPlain : Entries.Every Text.Plain Text.Plain back := fun entry present =>
      rootPlain entry (List.mem_append_right _ present)
    rw [List.foldlM_append, List.foldlM_append]
    -- In front the scopes are the same. Behind the front no tag of the name is left.
    refine (bindings_agree_of_same steady frontPlain rootPlain rendered (keeps _) flat).bind
      (bindings_yield_without frontPlain rootPlain bound keeps flat) fun between clean => ?_
    exact bindings_agree_of_equalBut steady ⟨backPlain, same⟩ (equalBut_append rootPlain same)
      renderedBut (keeps _) clean

private theorem substituteWithin_agree (steady : Trail.Steady trails) (depth : Nat)
    (bound : (name, .scalar text) ∈ front)
    (rootPlain : Entries.Every Text.Plain Text.Plain (front ++ back))
    (same : blankEntries name back = blankEntries name twinBack)
    (scopes : SameOrRoots (front ++ back) (front ++ twinBack) scope twinScope)
    (flat : Flat (fun _ => True) template) :
    Agree trails (substituteWithin depth template scope (front ++ back))
      (substituteWithin depth template twinScope (front ++ twinBack)) := by
  -- A body is met in front of the text or behind it, and only in front may it have tags of the name.
  induction depth generalizing template scope twinScope with
  | zero =>
      apply bindings_agree steady bound rootPlain same scopes _ _ _ flat
      · exact tooDeep_inStep
      · exact tooDeep_inStep
      · exact fun _ _ _ _ _ => tooDeep_yields _
  | succ depth ih =>
      apply bindings_agree steady bound rootPlain same scopes _ _ _ flat
      · exact fun inner scope twinScope flat scopes => ih scopes flat
      · exact fun inner scope twinScope flat scopes => substituteWithin_agree_of_equalBut steady
          depth scopes (equalBut_append rootPlain same) flat
      · exact fun allowed inner scope flat plain => substituteWithin_flat depth rootPlain plain flat

/-- Contexts that bind a name to the same text on the outer level, and differ only in the texts that
it is bound to deeper in what comes after, render a flat template in the same way. -/
theorem rendering_keeps_outer_binding {pre post twinPost : Context} {name text : Text}
    (tokens : List Token)
    (plain : Entries.Every Text.Plain Text.Plain (pre ++ (name, .scalar text) :: post))
    (same : Value.blankEntries name post = Value.blankEntries name twinPost) (depth : Nat) :
    let context := pre ++ (name, .scalar text) :: post
    let twin := pre ++ (name, .scalar text) :: twinPost
    substituteWithin depth (Token.printAll tokens) context context =
      substituteWithin depth (Token.printAll tokens) twin twin := by
  intro context twin
  have regroup : ∀ back, pre ++ (name, Value.scalar text) :: back =
      (pre ++ [(name, .scalar text)]) ++ back := fun back => by
    rw [List.append_assoc, List.singleton_append]
  have bound : (name, Value.scalar text) ∈ pre ++ [(name, .scalar text)] :=
    List.mem_append_right _ (List.mem_singleton.mpr rfl)
  have flat : Flat (fun _ => True) (Token.printAll tokens) :=
    ⟨tokens, fun _ _ => Or.inr trivial, rfl⟩
  rw [regroup post] at plain
  change substituteWithin depth _ (pre ++ _ :: post) (pre ++ _ :: post) =
    substituteWithin depth _ (pre ++ _ :: twinPost) (pre ++ _ :: twinPost)
  rw [regroup post, regroup twinPost]
  exact (substituteWithin_agree Trail.steady_eq depth bound plain same
    ⟨plain, .inr ⟨rfl, rfl⟩⟩ flat).eq

/-- A truth value that renders the whole context again, and a list and a map whose own text for the
name comes too late. -/
theorem rendering_keeps_outer_binding_over_items :
    let tokens : List Token :=
      [.escaped ['#', 'b'] (by decide), .escaped ['#', 'm'] (by decide),
        .escaped ['x'] (by decide), .escaped ['/', 'm'] (by decide),
        .escaped ['/', 'b'] (by decide), .escaped ['#', 'l'] (by decide),
        .raw ['x'] (by decide) (by decide), .escaped ['/', 'l'] (by decide)]
    let deeper : Text → Context := fun text =>
      [(['m'], .map [(['x'], .scalar text)]), (['l'], .list [.map [(['x'], .scalar text)]])]
    let context : Text → Context := fun text =>
      [(['b'], .boolean true)] ++ (['x'], .scalar ['o']) :: deeper text
    (substituteWithin 2 (Token.printAll tokens) (context ['i']) (context ['i']) Trail.empty).map
        Prod.fst = some "o\n\no\n\n".toList ∧
      ∀ depth, substituteWithin depth (Token.printAll tokens) (context ['i']) (context ['i']) =
        substituteWithin depth (Token.printAll tokens) (context ['j']) (context ['j']) := by
  intro tokens deeper context
  have inner : Value.Every Text.Plain Text.Plain (.map [(['x'], .scalar ['i'])]) :=
    .map (List.forall_mem_singleton.mpr (by decide))
      (List.forall_mem_singleton.mpr (.scalar (by decide)))
  have plain : Entries.Every Text.Plain Text.Plain (context ['i']) :=
    .cons (by decide) (.boolean true) (.cons (by decide) (.scalar (by decide))
      (.cons (by decide) inner
        (.cons (by decide) (.list (List.forall_mem_singleton.mpr inner)) .nil)))
  have same : Value.blankEntries ['x'] (deeper ['i']) = Value.blankEntries ['x'] (deeper ['j']) :=
    rfl
  exact ⟨by decide +kernel, rendering_keeps_outer_binding tokens plain same⟩

end Substitution
end TextTemplate
