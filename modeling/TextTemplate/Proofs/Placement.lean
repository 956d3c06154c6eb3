import TextTemplate.Proofs.Sections

/-!
# Where the contents of sections go

The sections of a template are found once, and then each is replaced by exchanging the first text
equal to it for its content. That is the section itself only if no equal text stands before it, and
what was put in for earlier sections may well be such a text. The main result says exactly that: as
long as every section comes first, each content takes the place of its own section and all else is
unchanged; and the first section that does not come first has its content put into what was already
produced, while the section itself stays.
-/

set_option autoImplicit false

namespace TextTemplate

/-- A section, the gap before it, and the text that is to take its place. -/
structure Replacement where
  gap : Text
  found : Section
  content : Text

namespace Replacement

def sources (plan : List Replacement) (last : Text) : Text :=
  plan.flatMap (fun item => item.gap ++ item.found.full) ++ last

def results (plan : List Replacement) (last : Text) : Text :=
  plan.flatMap (fun item => item.gap ++ item.content) ++ last

/-- One exchange after the other, each of the first text that is equal to the section. -/
def run (plan : List Replacement) (text : Text) : Text :=
  plan.foldl (fun current item => Text.replaceFirst item.found.full item.content current) text

/-- Behind `produced`, each section is the first text equal to it by the time it is replaced. -/
def InPlace (last : Text) : Text → List Replacement → Prop
  | _, [] => True
  | produced, item :: plan =>
      Text.cut? item.found.full
          (produced ++ item.gap ++ item.found.full ++ sources plan last) =
        some (produced ++ item.gap, sources plan last) ∧
      InPlace last (produced ++ item.gap ++ item.content) plan

/-- All sections up to `item` are replaced in place, and then the content of `item` is put in
earlier than where `item` stands. -/
def Displaced (plan : List Replacement) (last result : Text) : Prop :=
  ∃ earlier item later before rest,
    plan = earlier ++ item :: later ∧
    InPlace (sources (item :: later) last) [] earlier ∧
    Text.cut? item.found.full (results earlier (sources (item :: later) last)) =
      some (before, rest) ∧
    before.length < (results earlier item.gap).length ∧
    result = run later (before ++ item.content ++ rest)

private theorem sources_cons (item : Replacement) (plan : List Replacement) (last : Text) :
    sources (item :: plan) last = item.gap ++ item.found.full ++ sources plan last := by
  simp only [sources, List.flatMap_cons, List.append_assoc]

private theorem results_cons (item : Replacement) (plan : List Replacement) (last : Text) :
    results (item :: plan) last = item.gap ++ item.content ++ results plan last := by
  simp only [results, List.flatMap_cons, List.append_assoc]

private theorem run_cons (item : Replacement) (plan : List Replacement) (text : Text) :
    run (item :: plan) text = run plan (Text.replaceFirst item.found.full item.content text) :=
  rfl

theorem run_of_inPlace {plan : List Replacement} {last produced : Text}
    (inPlace : InPlace last produced plan) :
    run plan (produced ++ sources plan last) = produced ++ results plan last := by
  induction plan generalizing produced with
  | nil => rfl
  | cons item plan ih =>
      obtain ⟨first, others⟩ := inPlace
      rw [sources_cons, run_cons, results_cons]
      simp only [← List.append_assoc]
      rw [Text.replaceFirst, first, ih others]

theorem inPlace_of_clear {lead last produced : Text} {plan : List Replacement}
    (clear : Text.Clear lead produced)
    (each : ∀ item ∈ plan,
      Text.Clear lead item.gap ∧ Text.Clear lead item.content ∧ lead <+: item.found.full) :
    InPlace last produced plan := by
  induction plan generalizing produced with
  | nil => trivial
  | cons item plan ih =>
      obtain ⟨gapClear, contentClear, behind, full⟩ := each item List.mem_cons_self
      have before := clear.append gapClear
      constructor
      · rw [← full]
        exact (before behind).cut?_eq _
      · exact ih (before.append contentClear) fun later present =>
          each later (List.mem_cons_of_mem item present)

private theorem displaced_of_not_inPlace {plan : List Replacement} {last produced : Text}
    (displaced : ¬InPlace last produced plan) :
    ∃ earlier item later before rest,
      plan = earlier ++ item :: later ∧
      InPlace (sources (item :: later) last) produced earlier ∧
      Text.cut? item.found.full (produced ++ results earlier (sources (item :: later) last)) =
        some (before, rest) ∧
      before.length < (produced ++ results earlier item.gap).length ∧
      run plan (produced ++ sources plan last) = run later (before ++ item.content ++ rest) := by
  induction plan generalizing produced with
  | nil => exact absurd trivial displaced
  | cons item plan ih =>
      rcases Text.cut?_eq_or_length_lt item.found.full (produced ++ item.gap)
          (sources plan last) with first | ⟨before, rest, found, shorter⟩
      · have others : ¬InPlace last (produced ++ item.gap ++ item.content) plan :=
          fun inPlace => displaced ⟨first, inPlace⟩
        obtain ⟨earlier, culprit, later, before, rest, split, inPlace, found, shorter, ran⟩ :=
          ih others
        have whole : sources plan last =
            sources earlier (sources (culprit :: later) last) := by
          rw [split]
          simp only [sources, List.flatMap_append, List.append_assoc]
        refine ⟨item :: earlier, culprit, later, before, rest, ?_, ⟨?_, inPlace⟩, ?_, ?_, ?_⟩
        · rw [split, List.cons_append]
        · rw [← whole]
          exact first
        · rw [results_cons]
          simp only [← List.append_assoc]
          exact found
        · rw [results_cons]
          simp only [← List.append_assoc]
          exact shorter
        · rw [sources_cons, run_cons, ← ran]
          simp only [← List.append_assoc]
          rw [Text.replaceFirst, first]
      · refine ⟨[], item, plan, before, rest, rfl, trivial, ?_, shorter, ?_⟩
        · change Text.cut? item.found.full (produced ++ sources (item :: plan) last) = _
          rw [sources_cons]
          simp only [← List.append_assoc]
          exact found
        · rw [sources_cons, run_cons]
          simp only [← List.append_assoc]
          rw [Text.replaceFirst, found]

end Replacement

/-! ### The plan of a template -/

namespace Section

def parts (kind : SectionKind) (name template : Text) : Decomposition :=
  if searchable name then decompose kind name template else ⟨[], template⟩

theorem text_parts (kind : SectionKind) (name template : Text) :
    (parts kind name template).text = template := by
  unfold parts
  split
  · exact text_decompose kind name template
  · rfl

theorem findAll_eq_parts (kind : SectionKind) (name template : Text) :
    findAll kind name template = (parts kind name template).pieces.map Prod.snd := by
  unfold findAll parts
  split <;> rfl

end Section

namespace Replacement

def planOf (parts : Decomposition) (texts : List Text) : List Replacement :=
  (parts.pieces.zip texts).map fun pair => ⟨pair.1.1, pair.1.2, pair.2 ++ ['\n']⟩

theorem sources_planOf {parts : Decomposition} {texts : List Text}
    (each : texts.length = parts.pieces.length) :
    sources (planOf parts texts) parts.last = parts.text := by
  have firsts : (parts.pieces.zip texts).map Prod.fst = parts.pieces :=
    List.map_fst_zip (Nat.le_of_eq each.symm)
  calc sources (planOf parts texts) parts.last
      = (parts.pieces.zip texts).flatMap (fun pair => pair.1.1 ++ pair.1.2.full) ++
          parts.last := by
        rw [sources, planOf, List.flatMap_map]
    _ = ((parts.pieces.zip texts).map Prod.fst).flatMap (fun piece => piece.1 ++ piece.2.full) ++
          parts.last := by
        rw [List.flatMap_map]
    _ = parts.text := by
        rw [firsts]
        rfl

private theorem found_planOf {parts : Decomposition} {texts : List Text}
    (each : texts.length = parts.pieces.length) :
    (planOf parts texts).map Replacement.found = parts.pieces.map Prod.snd := by
  have firsts : (parts.pieces.zip texts).map Prod.fst = parts.pieces :=
    List.map_fst_zip (Nat.le_of_eq each.symm)
  calc (planOf parts texts).map Replacement.found
      = ((parts.pieces.zip texts).map Prod.fst).map Prod.snd := by
        rw [planOf, List.map_map, List.map_map]
        rfl
    _ = parts.pieces.map Prod.snd := by rw [firsts]

private theorem run_planOf (parts : Decomposition) (texts : List Text) (text : Text) :
    run (planOf parts texts) text =
      ((parts.pieces.map Prod.snd).zip texts).foldl
        (fun current exchange =>
          Text.replaceFirst exchange.1.full (exchange.2 ++ ['\n']) current) text := by
  unfold run planOf
  rw [List.zip_map_left, List.foldl_map, List.foldl_map]
  rfl

end Replacement

/-! ### What replacing the sections yields -/

namespace Substitution

open Rendering

variable {kind : SectionKind} {name template : Text}

def renderBodies (content : Text → Rendering Text) (kind : SectionKind) (name template : Text) :
    Rendering (List Text) := do
  noteRefusal name
  (Section.findAll kind name template).mapM (fun found => content found.body)

def itemsContent (nested : Text → Context → Rendering Text) (items : List Value) (body : Text) :
    Rendering Text := do
  let texts ← items.mapM (fun item => nested (loopBody body) (itemScope item))
  pure texts.flatten

/-- The outcome of replacing the sections of `template`. The bodies are rendered as they stand
there. If every section is in place, the template has each content and a line feed at the place of
its section and is otherwise unchanged; if not, the first that is not is displaced. -/
def Spliced (content : Text → Rendering Text) (kind : SectionKind) (name template : Text)
    (trail : Trail) (result : Text) (after : Trail) : Prop :=
  ∃ texts, renderBodies content kind name template trail = some (texts, after) ∧
    let last := (Section.parts kind name template).last
    let plan := Replacement.planOf (Section.parts kind name template) texts
    plan.map Replacement.found = Section.findAll kind name template ∧
    Replacement.sources plan last = template ∧
    (Replacement.InPlace last [] plan → result = Replacement.results plan last) ∧
    (¬Replacement.InPlace last [] plan → Replacement.Displaced plan last result)

theorem spliceSections_eq_run (content : Text → Rendering Text) (kind : SectionKind)
    (name template : Text) :
    spliceSections content kind name template =
      renderBodies content kind name template >>= fun texts =>
        pure (Replacement.run (Replacement.planOf (Section.parts kind name template) texts)
          template) := by
  simp only [spliceSections, renderBodies, foldlM_spliceSection, Replacement.run_planOf,
    ← Section.findAll_eq_parts, bind_assoc]

def replacePieces (put : Text → Rendering Text) (last : Text) :
    List (Text × Section) → Rendering Text
  | [] => pure last
  | (gap, found) :: pieces => do
      let content ← put found.body
      let rest ← replacePieces put last pieces
      pure (gap ++ content ++ rest)

def replaceParts (put : Text → Rendering Text) (parts : Decomposition) : Rendering Text :=
  replacePieces put parts.last parts.pieces

theorem replaceParts_cons (put : Text → Rendering Text) (gap last : Text) (found : Section)
    (pieces : List (Text × Section)) :
    replaceParts put ⟨(gap, found) :: pieces, last⟩ =
      put found.body >>= fun content => replaceParts put ⟨pieces, last⟩ >>= fun rest =>
        pure (gap ++ content ++ rest) :=
  rfl

theorem replaceParts_inFront (put : Text → Rendering Text) (front : Text) (parts : Decomposition) :
    replaceParts put (parts.inFront front) =
      replaceParts put parts >>= fun text => pure (front ++ text) := by
  obtain ⟨pieces, last⟩ := parts
  cases pieces with
  | nil => rfl
  | cons piece pieces =>
      obtain ⟨gap, found⟩ := piece
      simp only [replaceParts, Decomposition.inFront, replacePieces, bind_assoc, pure_bind,
        List.append_assoc]

theorem mapM_results_eq (content : Text → Rendering Text) (last : Text)
    (pieces : List (Text × Section)) :
    ((pieces.map Prod.snd).mapM (fun found => content found.body) >>= fun texts =>
      pure (Replacement.results (Replacement.planOf ⟨pieces, last⟩ texts) last)) =
      replaceParts (fun body => content body >>= fun text => pure (text ++ ['\n']))
        ⟨pieces, last⟩ := by
  induction pieces with
  | nil => rfl
  | cons piece pieces ih =>
      obtain ⟨gap, found⟩ := piece
      rw [replaceParts_cons, ← ih, List.map_cons, List.mapM_cons]
      simp only [bind_assoc, pure_bind, Replacement.planOf, List.zip_cons_cons, List.map_cons,
        Replacement.results_cons]

theorem renderBodies_yields_length (content : Text → Rendering Text) :
    Yields (fun texts => texts.length = (Section.parts kind name template).pieces.length)
      (renderBodies content kind name template) := by
  refine Yields.bind_of_all fun _ => Yields.length_mapM.mono ?_
  intro texts each
  rw [each, Section.findAll_eq_parts, List.length_map]

private theorem spliced_of_spliceSections {content : Text → Rendering Text} {trail after : Trail}
    {result : Text}
    (done : spliceSections content kind name template trail = some (result, after)) :
    Spliced content kind name template trail result after := by
  rw [spliceSections_eq_run] at done
  obtain ⟨texts, between, rendered, placed⟩ := bind_eq_some_iff.mp done
  cases pure_eq_some_iff.mp placed
  have each := renderBodies_yields_length content trail texts after rendered
  have whole := (Replacement.sources_planOf each).trans (Section.text_parts kind name template)
  refine ⟨texts, rendered, ?_, whole, ?_, ?_⟩
  · rw [Replacement.found_planOf each, Section.findAll_eq_parts]
  · intro inPlace
    have ran := Replacement.run_of_inPlace inPlace
    rw [List.nil_append, List.nil_append, whole] at ran
    exact ran
  · intro displaced
    obtain ⟨earlier, item, later, before, rest, split, first, found, shorter, ran⟩ :=
      Replacement.displaced_of_not_inPlace displaced
    rw [List.nil_append, whole] at ran
    exact ⟨earlier, item, later, before, rest, split, first, found, shorter, ran⟩

/-- Lists, maps and truth values replace each section of the template at its own place exactly as
long as no text equal to a section stands before it by the time it is replaced. A truth value first
drops the sections that contradict it. -/
theorem sections_replaced_in_place_or_displaced (nested : Text → Context → Rendering Text)
    (root entries : Context) (items : List Value) (truth : Bool) (name template : Text)
    (trail after : Trail) (result : Text) :
    (expandList nested name items template trail = some (result, after) →
      Spliced (itemsContent nested items) .positive name template trail result after) ∧
    (expandMap nested name entries template trail = some (result, after) →
      Spliced (fun body => nested body entries) .positive name template trail result after) ∧
    (applyCondition nested root name truth template trail = some (result, after) →
      ∃ between,
        removeSections (SectionKind.ofTruth truth).opposite name template trail =
          some (Section.removeAll (SectionKind.ofTruth truth).opposite name template, between) ∧
        Spliced (fun body => nested body root) (SectionKind.ofTruth truth) name
          (Section.removeAll (SectionKind.ofTruth truth).opposite name template)
          between result after) := by
  refine ⟨fun done => spliced_of_spliceSections done, fun done => spliced_of_spliceSections done,
    ?_⟩
  intro done
  obtain ⟨kept, between, removed, spliced⟩ := bind_eq_some_iff.mp done
  have same : Section.removeAll (SectionKind.ofTruth truth).opposite name template = kept :=
    removeSections_yields rfl trail kept between removed
  subst same
  exact ⟨between, removed, spliced_of_spliceSections spliced⟩

/-- A value that looks like the second section takes its place: the second body is rendered into
what the first section was replaced by, and the second section stays. -/
theorem second_section_displaced :
    let opened := Tag.openSection .positive ['a']
    let closed := Tag.closeSection ['a']
    let second := opened ++ ['y'] ++ closed
    Spliced (fun body => substituteWithin 0 body [(['x'], .scalar second)] []) .positive ['a']
      (opened ++ Tag.raw ['x'] ++ closed ++ second) Trail.empty
      (['y', '\n', '\n'] ++ second)
      ⟨[], [.substituting ['x'] .scalar, .substituting ['x'] .scalar]⟩ :=
  (sections_replaced_in_place_or_displaced (fun body inner => substituteWithin 0 body inner []) []
    [(['x'], .scalar (Tag.openSection .positive ['a'] ++ ['y'] ++ Tag.closeSection ['a']))]
    [] true ['a'] _ Trail.empty _ _).2.1 (by decide +kernel)

end Substitution
end TextTemplate
