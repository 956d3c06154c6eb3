import TextTemplate.Proofs.Nesting
import TextTemplate.Proofs.Forest.Tags

/-!
# The blocks of a forest as the sections of its text

The sections that are found in a printed forest are its blocks of that kind and name, and the text
of each is the first of its kind when it is replaced. So replacing sections of the text replaces
blocks of the forest.
-/

set_option autoImplicit false

namespace TextTemplate

open Substitution Rendering

variable {kind : SectionKind} {name : Text}

/-! ### Replacing in place -/

namespace Flat

variable {allowed : Token → Prop} {template : Text}

private theorem inPlace_planOf {texts : List Text} (plain : name.Plain)
    (searchable : Section.searchable name) (flat : Flat allowed template)
    (textsFlat : ∀ text ∈ texts, Flat (Token.Without (kind.sigil :: name)) text) :
    Replacement.InPlace (Section.decompose kind name template).last []
      (Replacement.planOf (Section.decompose kind name template) texts) := by
  have opening := plain_sigil kind plain
  apply Replacement.inPlace_of_clear (fun behind => Text.Passes.nil _)
  intro item present
  obtain ⟨pair, among, rfl⟩ := List.mem_map.mp present
  obtain ⟨pieceAmong, textAmong⟩ := List.of_mem_zip among
  have gapFlat := (flat.gap plain pieceAmong).mono fun token holds => holds.2
  have line := (textsFlat pair.2 textAmong).append (of_plain (by decide : Text.Plain ['\n']))
  have found : pair.1.2 ∈ Section.findAll kind name template := by
    rw [Section.findAll, if_pos searchable]
    exact List.mem_map_of_mem pieceAmong
  obtain ⟨_, breaks, _, full⟩ := Section.full_of_mem_findAll found
  refine ⟨gapFlat.clear opening, line.clear opening, ?_⟩
  rw [full, List.append_assoc, List.append_assoc]
  exact List.prefix_append _ _

private theorem spliceSections_eq {content : Text → Rendering Text} (plain : name.Plain)
    (searchable : Section.searchable name) (flat : Flat allowed template)
    (contents : ∀ found ∈ Section.findAll kind name template,
      Yields (Flat (Token.Without (kind.sigil :: name)))
        (content found.body)) :
    spliceSections content kind name template =
      replaceParts (fun body => content body >>= fun text => pure (text ++ ['\n']))
        (Section.decompose kind name template) := by
  have whole : Section.parts kind name template = Section.decompose kind name template :=
    if_pos searchable
  have quiet : noteRefusal name = pure () := if_pos searchable
  have sections := Section.findAll_eq_parts kind name template
  rw [whole] at sections
  have rendered : renderBodies content kind name template =
      ((Section.decompose kind name template).pieces.map Prod.snd).mapM
        (fun found => content found.body) := by
    rw [renderBodies, quiet, pure_bind, sections]
  have lengths : Yields
      (fun texts => texts.length = (Section.parts kind name template).pieces.length)
      (renderBodies content kind name template) := renderBodies_yields_length content
  have flats : Yields (fun texts => ∀ text ∈ texts,
      Flat (Token.Without (kind.sigil :: name)) text)
      (renderBodies content kind name template) := by
    rw [rendered, ← sections]
    exact Yields.mapM contents
  rw [spliceSections_eq_run, ← mapM_results_eq, ← rendered]
  apply (lengths.and flats).bind_congr
  rintro texts ⟨each, textsFlat⟩
  have sources := (Replacement.sources_planOf each).trans (Section.text_parts kind name template)
  have ran := Replacement.run_of_inPlace (inPlace_planOf plain searchable flat textsFlat)
  rw [whole] at sources ⊢
  rw [List.nil_append, List.nil_append, sources] at ran
  rw [ran]

end Flat

/-! ### The tags of a printed forest -/

namespace Forest

variable {forest : Forest}

theorem flat_print {allowed : Token → Prop} (balanced : forest.Balanced)
    (tags : ∀ token key, token.content? = some key → ¬Tag.Marked key → allowed token)
    (blocks : ∀ key (plain : key.Plain), key ∈ forest.names →
      (∀ kind, allowed (.escaped (kind.sigil :: key) (Flat.plain_sigil kind plain))) ∧
        allowed (.escaped ('/' :: key) (Flat.plain_slash plain))) :
    Flat allowed forest.print := by
  induction forest with
  | nil => exact Flat.nil allowed
  | char c rest ih =>
      have node : (Token.char c balanced.1).content? = none := rfl
      exact (ih balanced.2 blocks).cons (.inl node)
  | tag form key rest ih =>
      rw [print, ← form.print_token balanced.1]
      have node := tags _ key (form.content?_token balanced.1) balanced.1.unmarked
      exact (ih balanced.2 blocks).cons (.inr node)
  | block kind key body rest ihBody ihRest =>
      obtain ⟨named, _, bodyBalanced, restBalanced⟩ := balanced
      obtain ⟨opens, closes⟩ := blocks key named.plain List.mem_cons_self
      have bodyFlat := ihBody bodyBalanced fun other plain present =>
        blocks other plain (List.mem_cons_of_mem key (List.mem_append_left _ present))
      have restFlat := ihRest restBalanced fun other plain present =>
        blocks other plain (List.mem_cons_of_mem key (List.mem_append_right _ present))
      have closing := restFlat.cons (.inr closes)
      exact (bodyFlat.append closing).cons (.inr (opens kind))

private theorem unmarked_print {mark : Char} (balanced : forest.Balanced)
    (absent : name ∉ forest.names)
    (marked : Tag.Marked (mark :: name)) :
    Flat (Token.Without (mark :: name)) forest.print := by
  have other : ∀ key ∈ forest.names, ∀ sign : Char,
      some (sign :: key) ≠ some (mark :: name) := by
    intro key present sign same
    obtain ⟨_, rfl⟩ := List.cons.inj (Option.some.inj same)
    exact absent present
  apply flat_print balanced
  · intro token key content unmarked same
    exact unmarked (Option.some.inj (content.symm.trans same) ▸ marked)
  · intro key plain present
    exact ⟨fun kind => other key present kind.sigil, other key present '/'⟩

/-! ### Where the sections are -/

private theorem openSection_passes {token : Token} (plain : name.Plain)
    (other : token.content? ≠ some (kind.sigil :: name)) :
    Text.Passes (Tag.openSection kind name) token.print :=
  (Token.clear_escaped (Flat.plain_sigil kind plain) other).passes

private theorem openSection_passes_tag {key : Text} (plain : name.Plain) (form : TagForm)
    (keyNamed : Tag.IsName key) : Text.Passes (Tag.openSection kind name) (form.tag key) := by
  have other : (form.token key keyNamed).content? ≠ some (kind.sigil :: name) := by
    rw [form.content?_token]
    intro same
    exact keyNamed.unmarked (Option.some.inj same ▸ Flat.marked_sigil kind name)
  have passes := openSection_passes plain other
  rwa [form.print_token] at passes

private theorem openSection_passes_openSection {other : SectionKind} {key : Text}
    (plain : name.Plain)
    (keyPlain : key.Plain) (different : ¬(other = kind ∧ key = name)) :
    Text.Passes (Tag.openSection kind name) (Tag.openSection other key) := by
  have unlike : (Token.escaped (other.sigil :: key) (Flat.plain_sigil other keyPlain)).content? ≠
      some (kind.sigil :: name) := by
    intro equal
    obtain ⟨sigils, names⟩ := List.cons.inj (Option.some.inj equal)
    exact different ⟨Flat.sigil_injective sigils, names⟩
  exact openSection_passes plain unlike

private theorem openSection_passes_closeSection {key : Text} (plain : name.Plain)
    (keyPlain : key.Plain) :
    Text.Passes (Tag.openSection kind name) (Tag.closeSection key) := by
  have unlike : (Token.escaped ('/' :: key) (Flat.plain_slash keyPlain)).content? ≠
      some (kind.sigil :: name) := by
    intro equal
    exact Flat.sigil_ne_slash kind (List.cons.inj (Option.some.inj equal)).1.symm
  exact openSection_passes plain unlike

/-- How a forest is cut at its blocks of a kind and name, if what is printed behind it is cut into
`tail`. Line feeds at the front are left out `behind` such a block. -/
inductive Cut (kind : SectionKind) (name : Text) :
    (behind : Bool) → Forest → (tail parts : Decomposition) → Prop
  | nil {behind : Bool} {tail : Decomposition} : Cut kind name behind .nil tail tail
  | skip {rest : Forest} {tail parts : Decomposition} (cut : Cut kind name true rest tail parts) :
      Cut kind name true (.char '\n' rest) tail parts
  | char {behind : Bool} {c : Char} {rest : Forest} {tail parts : Decomposition}
      (kept : ¬(behind ∧ c = '\n')) (cut : Cut kind name false rest tail parts) :
      Cut kind name behind (.char c rest) tail (parts.inFront [c])
  | tag {behind : Bool} {form : TagForm} {key : Text} {rest : Forest} {tail parts : Decomposition}
      (cut : Cut kind name false rest tail parts) :
      Cut kind name behind (.tag form key rest) tail (parts.inFront (form.tag key))
  | found {behind : Bool} {body rest : Forest} {tail parts : Decomposition} {full : Text}
      (balanced : body.Balanced) (apart : name ∉ body.names)
      (cut : Cut kind name true rest tail parts) :
      Cut kind name behind (.block kind name body rest) tail
        ⟨([], ⟨full, body.print⟩) :: parts.pieces, parts.last⟩
  | other {behind : Bool} {other : SectionKind} {key : Text} {body rest : Forest}
      {tail between parts : Decomposition} (different : ¬(other = kind ∧ key = name))
      (cutRest : Cut kind name false rest tail between)
      (cutBody : Cut kind name false body (between.inFront (Tag.closeSection key)) parts) :
      Cut kind name behind (.block other key body rest) tail
        (parts.inFront (Tag.openSection other key))

def unbroken (behind : Bool) (text : Text) : Text :=
  if behind then Text.dropBreaks text else text

private theorem unbroken_eq {behind : Bool} {text : Text} (noBreak : text.head? ≠ some '\n') :
    unbroken behind text = text := by
  cases behind with
  | false => rfl
  | true => exact (Text.breaks_append (fun c among => absurd among List.not_mem_nil) noBreak).2

private theorem cut_print (named : Tag.IsName name) (balanced : forest.Balanced) (behind : Bool)
    {suffix : Text} (noBreak : suffix.head? ≠ some '\n') :
    Cut kind name behind forest (Section.decompose kind name suffix)
      (Section.decompose kind name (unbroken behind (forest.print ++ suffix))) := by
  have brace : some '{' ≠ some '\n' := by decide
  -- By induction on the forest, for every suffix: a body is followed by its closing tag. Only line
  -- feeds right behind a block of the kind and name are left out, which `behind` keeps track of.
  induction forest generalizing behind suffix with
  | nil =>
      rw [print, List.nil_append, unbroken_eq noBreak]
      exact Cut.nil
  | char c rest ih =>
      by_cases dropped : behind ∧ c = '\n'
      · obtain ⟨rfl, rfl⟩ := dropped
        exact Cut.skip (ih balanced.2 true noBreak)
      · have kept : unbroken behind (c :: (rest.print ++ suffix)) =
            [c] ++ (rest.print ++ suffix) := by
          cases behind with
          | false => rfl
          | true => exact unbroken_eq fun same => dropped ⟨rfl, Option.some.inj same⟩
        have unlike : (Token.char c balanced.1).content? ≠ some (kind.sigil :: name) :=
          (Option.some_ne_none _).symm
        have single : Text.Passes (Tag.openSection kind name) [c] :=
          openSection_passes named.plain unlike
        rw [print, List.cons_append, kept, Section.decompose_inFront single]
        exact Cut.char dropped (ih balanced.2 false noBreak)
  | tag form key rest ih =>
      obtain ⟨keyNamed, restBalanced⟩ := balanced
      have kept : unbroken behind (form.tag key ++ (rest.print ++ suffix)) =
          form.tag key ++ (rest.print ++ suffix) := by
        cases form with
        | raw => exact unbroken_eq brace
        | escaped => exact unbroken_eq brace
      have passes : Text.Passes (Tag.openSection kind name) (form.tag key) :=
        openSection_passes_tag named.plain form keyNamed
      rw [print, List.append_assoc, kept, Section.decompose_inFront passes]
      exact Cut.tag (ih restBalanced false noBreak)
  | block other key body rest ihBody ihRest =>
      obtain ⟨keyNamed, apart, bodyBalanced, restBalanced⟩ := balanced
      have kept : unbroken behind ((block other key body rest).print ++ suffix) =
          Tag.openSection other key ++
            (body.print ++ (Tag.closeSection key ++ (rest.print ++ suffix))) := by
        rw [print_block, List.append_assoc, List.append_assoc, List.append_assoc]
        exact unbroken_eq brace
      rw [kept]
      by_cases same : other = kind ∧ key = name
      · obtain ⟨rfl, rfl⟩ := same
        have closing := Flat.plain_slash named.plain
        have within := (unmarked_print bodyBalanced apart (Flat.marked_slash key)).clear closing
        rw [Section.decompose_section within.passes]
        exact Cut.found bodyBalanced apart (ihRest restBalanced true noBreak)
      · have opening : Text.Passes (Tag.openSection kind name) (Tag.openSection other key) :=
          openSection_passes_openSection named.plain keyNamed.plain same
        have closing : Text.Passes (Tag.openSection kind name) (Tag.closeSection key) :=
          openSection_passes_closeSection named.plain keyNamed.plain
        have inner : Cut kind name false body
            (Section.decompose kind name (Tag.closeSection key ++ (rest.print ++ suffix))) _ :=
          ihBody bodyBalanced false brace
        rw [Section.decompose_inFront closing] at inner
        rw [Section.decompose_inFront opening]
        exact Cut.other same (ihRest restBalanced false noBreak) inner

namespace Cut

variable {behind : Bool} {tail parts : Decomposition}

private theorem sections_inFront (front : Text) (parts : Decomposition) :
    (parts.inFront front).pieces.map Prod.snd = parts.pieces.map Prod.snd := by
  obtain ⟨pieces, last⟩ := parts
  cases pieces with
  | nil => rfl
  | cons piece pieces => rfl

private theorem body {found : Section} (cut : Cut kind name behind forest tail parts)
    (present : found ∈ parts.pieces.map Prod.snd) :
    found ∈ tail.pieces.map Prod.snd ∨
      ∃ body : Forest, body.Balanced ∧ name ∉ body.names ∧ found.body = body.print := by
  induction cut with
  | nil => exact Or.inl present
  | skip cut ih => exact ih present
  | char kept cut ih =>
      rw [sections_inFront] at present
      exact ih present
  | tag cut ih =>
      rw [sections_inFront] at present
      exact ih present
  | found balanced apart cut ih =>
      rcases List.mem_cons.mp present with rfl | later
      · exact Or.inr ⟨_, balanced, apart, rfl⟩
      · exact ih later
  | other different cutRest cutBody ihRest ihBody =>
      rw [sections_inFront] at present
      rcases ihBody present with later | inside
      · rw [sections_inFront] at later
        exact ihRest later
      · exact Or.inr inside

/-- Replacing the sections replaces the blocks, and goes on behind the forest. -/
private theorem replaceParts_eq {put : Text → Rendering Text} {plan : Forest → Rendering Forest}
    (each : ∀ body : Forest, body.Balanced → name ∉ body.names →
      put body.print = plan body >>= fun result => pure result.print)
    (cut : Cut kind name behind forest tail parts) :
    replaceParts put parts =
      forest.replaceBlocks plan kind name behind >>= fun result =>
        replaceParts put tail >>= fun rest => pure (result.print ++ rest) := by
  induction cut with
  | nil => simp only [replaceBlocks, pure_bind, print, List.nil_append, bind_pure]
  | skip cut ih =>
      rw [ih, replaceBlocks, if_pos ⟨rfl, rfl⟩]
  | char kept cut ih =>
      rw [replaceParts_inFront, ih, replaceBlocks, if_neg kept]
      simp only [bind_assoc, pure_bind, print, List.cons_append, List.nil_append]
  | tag cut ih =>
      rw [replaceParts_inFront, ih, replaceBlocks]
      simp only [bind_assoc, pure_bind, print, List.append_assoc]
  | found balanced apart cut ih =>
      rw [replaceParts_cons, each _ balanced apart, ih, replaceBlocks, if_pos ⟨rfl, rfl⟩]
      simp only [bind_assoc, pure_bind, print_append, List.nil_append, List.append_assoc]
  | other different cutRest cutBody ihRest ihBody =>
      rw [replaceParts_inFront, ihBody, replaceParts_inFront, ihRest, replaceBlocks,
        if_neg different]
      simp only [bind_assoc, pure_bind, print_block, List.append_assoc]

end Cut

/-! ### Replacing the blocks of a forest -/

private theorem within_replaceBlocks {put : Forest → Rendering Forest} (balanced : forest.Balanced)
    (each : ∀ body : Forest, body.Balanced → Yields (Within body) (put body)) (behind : Bool) :
    Yields (Within forest) (forest.replaceBlocks put kind name behind) := by
  induction forest generalizing behind with
  | nil => exact Yields.pure (Within.refl balanced)
  | char c rest ih =>
      rw [replaceBlocks]
      split
      · exact (ih balanced.2 true).mono fun result within => ⟨within.balanced, within.names⟩
      · refine (ih balanced.2 false).bind fun result within => Yields.pure ?_
        exact ⟨⟨balanced.1, within.balanced⟩, within.names⟩
  | tag form key rest ih =>
      rw [replaceBlocks]
      refine (ih balanced.2 false).bind fun result within => Yields.pure ?_
      exact ⟨⟨balanced.1, within.balanced⟩, within.names⟩
  | block other key body rest ihBody ihRest =>
      obtain ⟨named, apart, bodyBalanced, restBalanced⟩ := balanced
      have inBody : body.names ⊆ (block other key body rest).names := fun found present =>
        List.mem_cons_of_mem key (List.mem_append_left _ present)
      have inRest : rest.names ⊆ (block other key body rest).names := fun found present =>
        List.mem_cons_of_mem key (List.mem_append_right _ present)
      rw [replaceBlocks]
      split
      · refine (each body bodyBalanced).bind fun content contentWithin => ?_
        refine (ihRest restBalanced true).bind fun result within => Yields.pure ?_
        have first : Within (block other key body rest) content :=
          ⟨contentWithin.balanced, List.Subset.trans contentWithin.names inBody⟩
        exact first.append ⟨within.balanced, List.Subset.trans within.names inRest⟩
      · refine (ihBody bodyBalanced false).bind fun inner innerWithin => ?_
        refine (ihRest restBalanced false).bind fun result within => Yields.pure ?_
        constructor
        · exact ⟨named, fun present => apart (innerWithin.names present), innerWithin.balanced,
            within.balanced⟩
        · exact List.cons_subset_cons key
            (List.append_subset.mpr
              ⟨List.Subset.trans innerWithin.names (List.subset_append_left _ _),
                List.Subset.trans within.names (List.subset_append_right _ _)⟩)

private theorem cut_whole (named : Tag.IsName name) (balanced : forest.Balanced)
    (kind : SectionKind) :
    Cut kind name false forest ⟨[], []⟩ (Section.decompose kind name forest.print) := by
  have cut : Cut kind name false forest _ _ :=
    cut_print named balanced false (by decide : ([] : Text).head? ≠ some '\n')
  rwa [List.append_nil, Section.decompose_of_none rfl] at cut

private theorem replaceParts_print {put : Text → Rendering Text} {plan : Forest → Rendering Forest}
    (named : Tag.IsName name) (balanced : forest.Balanced)
    (each : ∀ body : Forest, body.Balanced → name ∉ body.names →
      put body.print = plan body >>= fun result => pure result.print) (kind : SectionKind) :
    replaceParts put (Section.decompose kind name forest.print) =
      forest.replaceBlocks plan kind name false >>= fun result => pure result.print := by
  have nothing : replaceParts put ⟨[], []⟩ = pure [] := rfl
  rw [(cut_whole named balanced kind).replaceParts_eq each]
  simp only [nothing, pure_bind, List.append_nil]

theorem removeSections_carriesOut (named : Tag.IsName name) (searchable : Section.searchable name)
    (balanced : forest.Balanced) (kind : SectionKind) :
    CarriesOut print (Within forest) (removeSections kind name forest.print)
      (forest.removeBlocks kind name) := by
  have quiet : noteRefusal name = pure () := if_pos searchable
  have gone : ∀ pieces last, replaceParts (fun _ => pure []) ⟨pieces, last⟩ =
      pure (pieces.flatMap Prod.fst ++ last) := by
    intro pieces last
    induction pieces with
    | nil => rfl
    | cons piece pieces ih =>
        rw [replaceParts_cons, ih]
        simp only [pure_bind, List.nil_append, List.flatMap_cons, List.append_assoc]
  have printed : replaceParts (fun _ => pure []) (Section.decompose kind name forest.print) =
      forest.removeBlocks kind name >>= fun result => pure result.print :=
    replaceParts_print named balanced (fun _ _ _ => rfl) kind
  constructor
  · rw [removeSections, quiet, pure_bind, Section.removeAll, if_pos searchable, ← printed]
    exact (gone _ _).symm
  · exact within_replaceBlocks balanced (fun _ _ => Yields.pure Within.nil) false

theorem spliceSections_carriesOut {content : Text → Rendering Text}
    {plan : Forest → Rendering Forest} (named : Tag.IsName name)
    (searchable : Section.searchable name) (balanced : forest.Balanced)
    (each : ∀ body : Forest, body.Balanced →
      CarriesOut print (Within body) (content body.print) (plan body))
    (unopened : ∀ body, Flat (Token.Without (kind.sigil :: name)) body →
      Yields (Flat (Token.Without (kind.sigil :: name))) (content body)) :
    CarriesOut print (Within forest) (spliceSections content kind name forest.print)
      (forest.spliceBlocks plan kind name) := by
  have flat : Flat (fun _ => True) forest.print :=
    flat_print balanced (fun _ _ _ _ => trivial) fun _ _ _ => ⟨fun _ => trivial, trivial⟩
  have contents : ∀ found ∈ Section.findAll kind name forest.print,
      Yields (Flat (Token.Without (kind.sigil :: name)))
        (content found.body) := by
    intro found present
    rw [Section.findAll, if_pos searchable] at present
    rcases (cut_whole named balanced kind).body present with impossible | inside
    · cases impossible
    · obtain ⟨body, bodyBalanced, absent, printed⟩ := inside
      rw [printed]
      exact unopened _ (unmarked_print bodyBalanced absent (Flat.marked_sigil kind name))
  constructor
  · rw [Flat.spliceSections_eq named.plain searchable flat contents, spliceBlocks]
    apply replaceParts_print named balanced
    intro body bodyBalanced _
    rw [(each body bodyBalanced).same]
    simp only [bind_assoc, pure_bind, print_append, print_ofText]
  · apply within_replaceBlocks balanced
    intro body bodyBalanced
    refine (each body bodyBalanced).yields.bind fun text within => Yields.pure ?_
    exact within.append (Within.of_text (by decide))

end Forest
end TextTemplate
