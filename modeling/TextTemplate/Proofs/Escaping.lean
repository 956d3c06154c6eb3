import TextTemplate.Proofs.Bindings

/-!
# Markup that values bring in

A template without raw tags fills its tags with texts made safe for markup. But what is filled in is
searched again for the tags of later names, so a value can bring in a raw tag, or the brace that
makes one of a tag beside it. If no value has three opening braces in a row or ends in one, no raw
tag ever comes about, and no character of markup gets out.
-/

set_option autoImplicit false

namespace TextTemplate.Markup

def special : List Char := ['<', '>', '"', '\'']

def rawOpening : Text := ['{', '{', '{']

/-- A text that opens no raw tag, whatever stands behind it. -/
def Harmless (text : Text) : Prop :=
  ¬rawOpening <:+: text ∧ text.getLast? ≠ some '{'

/-- No markup in the text, and no raw tag opened in it or where `behind` follows. -/
structure Inert (behind text : Text) : Prop where
  plain : ∀ c ∈ text, c ∉ special
  unopened : ¬rawOpening <:+: text ++ behind

/-! ### Three braces in a row -/

private theorem unopened_cons {c : Char} {text : Text}
    (other : c ≠ '{') (rest : ¬rawOpening <:+: text) :
    ¬rawOpening <:+: c :: text := by
  intro opened
  rcases List.infix_cons_iff.mp opened with front | later
  · exact other (List.cons_prefix_cons.mp front).1.symm
  · exact rest later

private theorem unopened_append_of_not_mem {front text : Text} (absent : '{' ∉ front)
    (rest : ¬rawOpening <:+: text) : ¬rawOpening <:+: front ++ text := by
  induction front with
  | nil => exact rest
  | cons c front ih =>
      have other : c ≠ '{' := fun same => absent (same ▸ List.mem_cons_self)
      exact unopened_cons other (ih fun present => absent (List.mem_cons_of_mem c present))

private theorem unopened_append {front text : Text} (closed : ¬rawOpening <:+: front ++ ['{', '{'])
    (rest : ¬rawOpening <:+: text) : ¬rawOpening <:+: front ++ text := by
  induction front with
  | nil => exact rest
  | cons c front ih =>
      intro opened
      rw [List.cons_append] at closed opened
      rcases List.infix_cons_iff.mp opened with begins | later
      · apply closed
        apply List.IsPrefix.isInfix
        rcases front with _ | ⟨d, _ | ⟨e, front⟩⟩
        · simp only [rawOpening, List.nil_append, List.cons_prefix_cons] at begins ⊢
          exact ⟨begins.1, trivial, trivial, List.nil_prefix⟩
        · simp only [rawOpening, List.cons_append, List.nil_append, List.cons_prefix_cons]
            at begins ⊢
          exact ⟨begins.1, begins.2.1, trivial, List.nil_prefix⟩
        · simp only [rawOpening, List.cons_append, List.cons_prefix_cons] at begins ⊢
          exact ⟨begins.1, begins.2.1, begins.2.2.1, List.nil_prefix⟩
      · exact ih (fun earlier => closed (List.infix_cons earlier)) later

private theorem unopened_append_cons {front text : Text} {c : Char} (other : c ≠ '{')
    (closed : ¬rawOpening <:+: front) (rest : ¬rawOpening <:+: text) :
    ¬rawOpening <:+: front ++ c :: text := by
  induction front with
  | nil => exact unopened_cons other rest
  | cons d front ih =>
      intro opened
      rw [List.cons_append] at opened
      rcases List.infix_cons_iff.mp opened with begins | later
      · rcases front with _ | ⟨e, _ | ⟨f, front⟩⟩
        · simp only [rawOpening, List.nil_append, List.cons_prefix_cons] at begins
          exact other begins.2.1.symm
        · simp only [rawOpening, List.cons_append, List.nil_append, List.cons_prefix_cons]
            at begins
          exact other begins.2.2.1.symm
        · apply closed
          apply List.IsPrefix.isInfix
          simp only [rawOpening, List.cons_append, List.cons_prefix_cons] at begins ⊢
          exact ⟨begins.1, begins.2.1, begins.2.2.1, List.nil_prefix⟩
      · exact ih (fun earlier => closed (List.infix_cons earlier)) later

private theorem Harmless.unopened {text : Text} (harmless : Harmless text) :
    ¬rawOpening <:+: text ++ ['{', '{'] := by
  obtain ⟨closed, last⟩ := harmless
  rcases List.eq_nil_or_concat text with rfl | ⟨front, c, rfl⟩
  · decide
  · rw [List.concat_eq_append] at closed last ⊢
    have other : c ≠ '{' := by simpa using last
    rw [List.append_assoc, List.singleton_append]
    refine unopened_append_cons other (fun opened => closed ?_) (by decide)
    exact opened.trans (List.prefix_append front [c]).isInfix

/-! ### Escaping -/

theorem entity_plain (c : Char) : ∀ d ∈ entity c, d ∉ special := by
  unfold entity
  split <;> simp_all [special]

private theorem entity_ne_nil (c : Char) : entity c ≠ [] := by
  unfold entity
  split <;> simp

private theorem braces_prefix_of_escape (count : Nat) {text behind : Text}
    (begins : List.replicate count '{' <+: escape text ++ behind) :
    List.replicate count '{' <+: text ++ behind := by
  induction text generalizing count with
  | nil => exact begins
  | cons c text ih =>
      cases count with
      | zero => exact List.nil_prefix
      | succ count =>
          rw [escape, List.flatMap_cons, List.append_assoc] at begins
          by_cases brace : c = '{'
          · subst brace
            exact List.cons_prefix_cons.mpr ⟨rfl, ih count (List.cons_prefix_cons.mp begins).2⟩
          · obtain ⟨d, others, entityEq⟩ := List.exists_cons_of_ne_nil (entity_ne_nil c)
            rw [entityEq] at begins
            have same := (List.cons_prefix_cons.mp begins).1
            have absent := not_mem_entity (.inl rfl) brace
            rw [entityEq, ← same] at absent
            exact absurd List.mem_cons_self absent

private theorem unopened_escape {text behind : Text} (closed : ¬rawOpening <:+: text ++ behind) :
    ¬rawOpening <:+: escape text ++ behind := by
  induction text with
  | nil => exact closed
  | cons c text ih =>
      have rest := ih fun later => closed (List.infix_cons later)
      rw [escape, List.flatMap_cons, List.append_assoc]
      by_cases brace : c = '{'
      · subst brace
        intro opened
        rcases List.infix_cons_iff.mp opened with begins | later
        · have two := (List.cons_prefix_cons.mp begins).2
          have front := braces_prefix_of_escape 2 two
          exact closed (List.cons_prefix_cons.mpr ⟨rfl, front⟩).isInfix
        · exact rest later
      · exact unopened_append_of_not_mem (not_mem_entity (.inl rfl) brace) rest

/-! ### Inert templates -/

namespace Inert

variable {behind text : Text}

theorem mono (front back : Text) (inert : Inert behind (front ++ text ++ back)) :
    Inert [] text where
  plain c present := inert.plain c (by simp [present])
  unopened opened := inert.unopened (opened.trans ⟨front, back ++ behind, by simp⟩)

theorem rest {front : Text} (inert : Inert behind (front ++ text)) : Inert behind text where
  plain c present := inert.plain c (List.mem_append_right front present)
  unopened opened := inert.unopened (opened.trans ⟨front, [], by simp⟩)

private theorem exchange {before tag after content later : Text}
    (inert : Inert behind (before ++ ('{' :: '{' :: tag) ++ after))
    (contentInert : Inert ['{', '{'] content) (laterInert : Inert behind later) :
    Inert behind (before ++ content ++ later) where
  plain c present := by
    rcases List.mem_append.mp present with front | back
    · rcases List.mem_append.mp front with kept | new
      · exact inert.plain c (by simp [kept])
      · exact contentInert.plain c new
    · exact laterInert.plain c back
  unopened := by
    rw [List.append_assoc, List.append_assoc]
    refine unopened_append (fun opened => inert.unopened ?_)
      (unopened_append contentInert.unopened laterInert.unopened)
    exact opened.trans ⟨[], tag ++ after ++ behind, by simp⟩

private theorem ended (inert : Inert [] text) : Inert ['{', '{'] (text ++ ['\n']) where
  plain c present := by
    rcases List.mem_append.mp present with kept | new
    · exact inert.plain c kept
    · cases List.mem_singleton.mp new
      decide
  unopened := by
    have closed := inert.unopened
    rw [List.append_nil] at closed
    rw [List.append_assoc, List.singleton_append]
    exact unopened_append_cons (by decide) closed (by decide)

theorem nil : Inert ['{', '{'] [] :=
  ⟨fun _ impossible => absurd impossible List.not_mem_nil, by decide⟩

theorem flatten {texts : List Text} (each : ∀ text ∈ texts, Inert ['{', '{'] text) :
    Inert [] texts.flatten := by
  induction texts with
  | nil => exact mono [] [] nil
  | cons text texts ih =>
      have first := each text List.mem_cons_self
      have others := ih fun later present => each later (List.mem_cons_of_mem text present)
      refine ⟨fun c present => ?_, ?_⟩
      · rcases List.mem_append.mp present with front | later
        · exact first.plain c front
        · exact others.plain c later
      · rw [List.flatten_cons, List.append_assoc]
        exact unopened_append first.unopened others.unopened

private theorem escape {written : Text} (harmless : Harmless written) :
    Inert ['{', '{'] (Markup.escape written) where
  plain c present := by
    obtain ⟨d, _, written⟩ := List.mem_flatMap.mp present
    exact entity_plain d c written
  unopened := unopened_escape harmless.unopened

private theorem loopBody (inert : Inert [] text) :
    Inert ['{', '{'] (Substitution.loopBody text) := by
  have kept : ∀ trimmed, Substitution.dropFinalBreaks trimmed <+: trimmed := by
    intro trimmed
    have whole := List.reverse_reverse trimmed
    unfold Substitution.dropFinalBreaks
    split
    · next earlier equal =>
        rw [equal] at whole
        exact ⟨['\n', '\n'], by rw [← whole]; simp⟩
    · next earlier _ equal =>
        rw [equal] at whole
        exact ⟨['\n'], by rw [← whole]; simp⟩
    · exact List.prefix_rfl
  obtain ⟨front, whole⟩ := List.dropWhile_suffix (p := Substitution.isLeadingBlank) (l := text)
  obtain ⟨back, trimmed⟩ := kept (text.dropWhile Substitution.isLeadingBlank)
  apply ended
  apply mono front back
  rw [List.append_assoc, trimmed, whole]
  exact inert

private theorem replaceAll {tag replacement : Text} (inert : Inert behind text)
    (replacementInert : Inert ['{', '{'] replacement) :
    Inert behind (Text.replaceAll ('{' :: '{' :: tag) replacement text) := by
  fun_induction Text.replaceAll ('{' :: '{' :: tag) replacement text with
  | case1 => exact inert
  | case2 => exact inert
  | case3 text notEmpty before rest found ih =>
      have whole := Text.eq_append_of_cut? found
      rw [whole] at inert
      exact inert.exchange replacementInert (ih inert.rest)

private theorem fillTags {key raw escaped : Text} (harmless : Harmless escaped)
    (inert : Inert behind text) : Inert behind (Substitution.fillTags key raw escaped text) := by
  have absent : ¬Tag.raw key <:+: text := by
    intro present
    apply inert.unopened
    have within := present.trans (List.prefix_append text behind).isInfix
    exact List.IsInfix.trans ⟨[], key ++ '}' :: Tag.closing, rfl⟩ within
  rw [Substitution.fillTags, Text.replaceAll_of_absent absent]
  exact replaceAll inert (Inert.escape harmless)

private theorem removeAll {kind : SectionKind} {key : Text} (inert : Inert behind text) :
    Inert behind (Section.removeAll kind key text) := by
  unfold Section.removeAll
  split
  · fun_induction Section.decompose kind key text with
    | case1 => exact inert
    | case2 text gap found rest taken others ih =>
        obtain ⟨inside, after, _, _, full, _⟩ := Section.next?_eq_some taken
        have whole := Section.eq_append_of_next? taken
        rw [whole] at inert
        have later := ih inert.rest
        rw [full] at inert
        have removed := inert.exchange nil later
        rw [List.append_nil] at removed
        change Inert behind ((gap ++ others.pieces.flatMap Prod.fst) ++ others.last)
        rw [List.append_assoc]
        exact removed
  · exact inert

private theorem replaceFirst {tag replacement : Text} (inert : Inert behind text)
    (replacementInert : Inert ['{', '{'] replacement) :
    Inert behind (Text.replaceFirst ('{' :: '{' :: tag) replacement text) := by
  unfold Text.replaceFirst
  split
  · exact inert
  · next before rest found =>
      rw [Text.eq_append_of_cut? found] at inert
      exact inert.exchange replacementInert inert.rest

end Inert

/-! ### Renderings -/

section

open Substitution Rendering

variable {behind template : Text} {scope root : Context}

private theorem bindings_inert {nested : Text → Context → Rendering Text}
    (rootBound : Entries.Every (fun _ => True) Harmless root)
    (bound : Entries.Every (fun _ => True) Harmless scope)
    (rendered : ∀ behind inner scope, Inert behind inner →
      Entries.Every (fun _ => True) Harmless scope → Yields (Inert behind) (nested inner scope))
    (inert : Inert behind template) :
    Yields (Inert behind) (scope.foldlM (applyBinding nested root) template) := by
  refine Yields.foldlM inert fun current binding present currentInert => ?_
  refine applyBinding_yields (Inert behind) (Inert []) (Inert []) (bound binding present).2
    rootBound ?_ ?_ ?_ ?_ ?_ ?_ currentInert
  · intro raw escaped template _ harmless inert
    exact inert.fillTags harmless
  · intro kind template inert
    exact inert.removeAll
  · intro kind template found among inert
    obtain ⟨front, back, whole⟩ := Section.body_infix_of_mem_findAll among
    rw [← whole] at inert
    exact inert.mono front back
  · intro kind template found among content current _ contentInert currentInert
    obtain ⟨_, breaks, _, full⟩ := Section.full_of_mem_findAll among
    rw [full]
    exact currentInert.replaceFirst contentInert.ended
  · intro inner scope inert bound
    exact rendered [] inner scope inert bound
  · intro inner items inert values
    refine (Yields.mapM fun item among => ?_).bind fun texts each =>
      Yields.pure (Inert.flatten each)
    -- The line feed that ends a repeated body is what keeps its renderings apart.
    exact rendered ['{', '{'] (loopBody inner) (itemScope item) inert.loopBody
      (every_itemScope trivial (values item among))

private theorem substituteWithin_inert (depth : Nat)
    (rootBound : Entries.Every (fun _ => True) Harmless root)
    (bound : Entries.Every (fun _ => True) Harmless scope) (inert : Inert behind template) :
    Yields (Inert behind) (substituteWithin depth template scope root) := by
  induction depth generalizing behind template scope with
  | zero =>
      exact bindings_inert rootBound bound (fun _ _ _ _ _ => tooDeep_yields _) inert
  | succ depth ih =>
      exact bindings_inert rootBound bound (fun _ _ _ inert bound => ih bound inert) inert

end

/-- A template without raw tags and markup keeps markup out, if no text that it is rendered with has
three opening braces in a row or ends in one. -/
theorem rendering_without_markup {depth : Nat} {template output : Text} {scope root : Context}
    {trail after : Trail} (noRawTag : ¬rawOpening <:+: template)
    (noMarkup : ∀ c ∈ template, c ∉ special)
    (scopeHarmless : Entries.Every (fun _ => True) Harmless scope)
    (rootHarmless : Entries.Every (fun _ => True) Harmless root)
    (rendered : substituteWithin depth template scope root trail = some (output, after)) :
    ∀ c ∈ output, c ∉ special := by
  have inert : Inert [] template := ⟨noMarkup, by rwa [List.append_nil]⟩
  exact (substituteWithin_inert depth rootHarmless scopeHarmless inert trail output after
    rendered).plain

/-! ### Values that bring markup in -/

/-- Two names bound to texts. -/
def pair (first second : Text) : Context :=
  [(['a'], .scalar first), (['b'], .scalar second)]

private theorem every_pair {written : Text → Prop} {first second : Text}
    (firstHolds : written first)
    (secondHolds : written second) : Entries.Every (fun _ => True) written (pair first second) :=
  .cons trivial (.scalar firstHolds) (.cons trivial (.scalar secondHolds) .nil)

/-- A value may look like the tag of a later name, and is then filled in its turn. -/
theorem rendering_without_markup_of_tag :
    let scope := pair (Tag.escaped ['b'] ++ ['<']) ['"']
    substituteWithin 0 (Tag.escaped ['a']) scope scope Trail.empty =
        some ("&quot;&lt;".toList,
          ⟨[], [.substituting ['b'] .scalar, .substituting ['a'] .scalar]⟩) ∧
      ∀ c ∈ "&quot;&lt;".toList, c ∉ special := by
  intro scope
  have bound : Entries.Every (fun _ => True) Harmless scope :=
    every_pair ⟨by decide, by decide⟩ ⟨by decide, by decide⟩
  have rendered : substituteWithin 0 (Tag.escaped ['a']) scope scope Trail.empty =
      some ("&quot;&lt;".toList,
        ⟨[], [.substituting ['b'] .scalar, .substituting ['a'] .scalar]⟩) := by
    decide +kernel
  have noMarkup : ∀ c ∈ Tag.escaped ['a'], c ∉ special := by
    simp [Tag.escaped, Tag.opening, Tag.closing, special]
  exact ⟨rendered, rendering_without_markup (by decide) noMarkup bound bound rendered⟩

/-- The promise, for values whose texts are as `written` says. -/
def KeepsMarkupOut (written : Text → Prop) : Prop :=
  ∀ (depth : Nat) (template output : Text) (scope root : Context) (trail after : Trail),
    ¬rawOpening <:+: template → (∀ c ∈ template, c ∉ special) →
    Entries.Every (fun _ => True) written scope → Entries.Every (fun _ => True) written root →
    substituteWithin depth template scope root trail = some (output, after) →
    ∀ c ∈ output, c ∉ special

/-- Without a condition on the values the promise is broken, and so it is when either half of the
condition goes: a raw tag among the values is filled in its turn, and a value that ends in a brace
makes a raw tag of the tag behind it. -/
theorem not_keepsMarkupOut :
    ¬KeepsMarkupOut (fun _ => True) ∧
    ¬KeepsMarkupOut (fun written => written.getLast? ≠ some '{') ∧
    ¬KeepsMarkupOut (fun written => ¬rawOpening <:+: written) := by
  have broken : ∀ {written : Text → Prop} {template first : Text}, written first →
      written ['<'] → ¬rawOpening <:+: template → (∀ c ∈ template, c ∉ special) →
      substituteWithin 0 template (pair first ['<']) (pair first ['<']) Trail.empty =
        some (['<'], ⟨[], [.substituting ['b'] .scalar, .substituting ['a'] .scalar]⟩) →
      ¬KeepsMarkupOut written := by
    intro written template first firstHolds secondHolds noRawTag noMarkup rendered keeps
    have bound := every_pair firstHolds secondHolds
    have clean := keeps 0 template ['<'] _ _ Trail.empty _ noRawTag noMarkup bound bound rendered
    exact clean '<' (List.mem_singleton.mpr rfl) (by decide)
  have rawTag : substituteWithin 0 (Tag.escaped ['a']) (pair (Tag.raw ['b']) ['<'])
      (pair (Tag.raw ['b']) ['<']) Trail.empty =
        some (['<'], ⟨[], [.substituting ['b'] .scalar, .substituting ['a'] .scalar]⟩) := by
    decide +kernel
  have brace : substituteWithin 0 (Tag.escaped ['a'] ++ Tag.escaped ['b'] ++ ['}'])
      (pair ['{'] ['<']) (pair ['{'] ['<']) Trail.empty =
        some (['<'], ⟨[], [.substituting ['b'] .scalar, .substituting ['a'] .scalar]⟩) := by
    decide +kernel
  have tagPlain : ∀ c ∈ Tag.escaped ['a'], c ∉ special := by
    simp [Tag.escaped, Tag.opening, Tag.closing, special]
  have bracePlain : ∀ c ∈ Tag.escaped ['a'] ++ Tag.escaped ['b'] ++ ['}'], c ∉ special := by
    simp [Tag.escaped, Tag.opening, Tag.closing, special]
  exact ⟨broken trivial trivial (by decide) tagPlain rawTag,
    broken (by decide) (by decide) (by decide) tagPlain rawTag,
    broken (by decide) (by decide) (by decide) bracePlain brace⟩

end TextTemplate.Markup
