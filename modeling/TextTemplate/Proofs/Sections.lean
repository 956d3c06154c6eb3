import TextTemplate.Proofs.Rendering
import TextTemplate.Proofs.Search

/-!
# The sections that are found

A template is its gaps and sections put together again, each section begins at the first opening tag
left, and its body is as short as it can be. Replacing sections falls into two parts: first all
bodies are rendered, in order, and then texts are exchanged, which leaves no trail.
-/

set_option autoImplicit false

namespace TextTemplate

def Decomposition.text (parts : Decomposition) : Text :=
  parts.pieces.flatMap (fun piece => piece.1 ++ piece.2.full) ++ parts.last

/-- The same sections, with more text in front of the first. -/
def Decomposition.inFront (front : Text) : Decomposition → Decomposition
  | ⟨[], last⟩ => ⟨[], front ++ last⟩
  | ⟨(gap, found) :: pieces, last⟩ => ⟨(front ++ gap, found) :: pieces, last⟩

namespace Section

/-! ### One section -/

theorem next?_eq_some {kind : SectionKind} {name template gap rest : Text} {found : Section}
    (taken : next? kind name template = some (gap, found, rest)) :
    ∃ inside after,
      Text.cut? (Tag.openSection kind name) template = some (gap, inside) ∧
      Text.cut? (Tag.closeSection name) inside = some (found.body, after) ∧
      found.full = Tag.openSection kind name ++ found.body ++ Tag.closeSection name ++
        Text.leadingBreaks after ∧
      rest = Text.dropBreaks after := by
  unfold next? at taken
  simp only [bind, Option.bind_eq_some_iff, Prod.exists] at taken
  obtain ⟨before, inside, opened, body, after, closed, equal⟩ := taken
  simp only [Option.some.injEq, Prod.mk.injEq] at equal
  obtain ⟨rfl, rfl, rfl⟩ := equal
  exact ⟨inside, after, opened, closed, rfl, rfl⟩

theorem eq_append_of_next? {kind : SectionKind} {name template gap rest : Text} {found : Section}
    (taken : next? kind name template = some (gap, found, rest)) :
    template = gap ++ found.full ++ rest := by
  obtain ⟨inside, after, opened, closed, full, rfl⟩ := next?_eq_some taken
  calc template
      = gap ++ Tag.openSection kind name ++ inside := Text.eq_append_of_cut? opened
    _ = gap ++ Tag.openSection kind name ++ (found.body ++ Tag.closeSection name ++ after) := by
        rw [← Text.eq_append_of_cut? closed]
    _ = gap ++ Tag.openSection kind name ++ (found.body ++ Tag.closeSection name ++
          (Text.leadingBreaks after ++ Text.dropBreaks after)) := by
        rw [Text.leadingBreaks_append_dropBreaks]
    _ = gap ++ found.full ++ Text.dropBreaks after := by
        rw [full]
        simp only [List.append_assoc]

private theorem next?_inFront {kind : SectionKind} {name front : Text}
    (passes : Text.Passes (Tag.openSection kind name) front) (rest : Text) :
    next? kind name (front ++ rest) =
      (next? kind name rest).map (fun parts => (front ++ parts.1, parts.2)) := by
  simp only [next?, bind, passes rest]
  cases Text.cut? (Tag.openSection kind name) rest with
  | none => rfl
  | some parts =>
      obtain ⟨gap, inside⟩ := parts
      simp only [Option.map_some, Text.inFront, Option.bind_some]
      cases Text.cut? (Tag.closeSection name) inside <;> rfl

theorem next?_of_absent {kind : SectionKind} {name template : Text}
    (absent : ¬Tag.openSection kind name <:+: template) : next? kind name template = none := by
  simp only [next?, bind, Text.cut?_eq_none absent, Option.bind_none]

/-! ### All sections -/

theorem decompose_of_none {kind : SectionKind} {name template : Text}
    (absent : next? kind name template = none) : decompose kind name template = ⟨[], template⟩ := by
  rw [decompose]
  split
  · rfl
  · next taken => rw [absent] at taken; cases taken

theorem decompose_of_some {kind : SectionKind} {name template gap rest : Text} {found : Section}
    (taken : next? kind name template = some (gap, found, rest)) :
    decompose kind name template =
      ⟨(gap, found) :: (decompose kind name rest).pieces, (decompose kind name rest).last⟩ := by
  rw [decompose]
  split
  · next absent => rw [absent] at taken; cases taken
  · next again =>
      rw [taken] at again
      cases again
      rfl

theorem findAll_of_none {kind : SectionKind} {name template : Text}
    (absent : next? kind name template = none) : findAll kind name template = [] := by
  unfold findAll
  split
  · rw [decompose_of_none absent]
    rfl
  · rfl

theorem removeAll_of_none {kind : SectionKind} {name template : Text}
    (absent : next? kind name template = none) : removeAll kind name template = template := by
  unfold removeAll
  split
  · rw [decompose_of_none absent]
    rfl
  · rfl

theorem text_decompose (kind : SectionKind) (name template : Text) :
    (decompose kind name template).text = template := by
  fun_induction decompose kind name template with
  | case1 template absent => rfl
  | case2 template gap found rest taken others ih =>
      change (gap ++ found.full ++ others.pieces.flatMap _) ++ others.last = template
      rw [List.append_assoc (gap ++ found.full)]
      change gap ++ found.full ++ others.text = template
      rw [ih, ← eq_append_of_next? taken]

theorem decompose_inFront {kind : SectionKind} {name front : Text}
    (passes : Text.Passes (Tag.openSection kind name) front) (rest : Text) :
    decompose kind name (front ++ rest) = (decompose kind name rest).inFront front := by
  have ahead := next?_inFront passes rest
  cases taken : next? kind name rest with
  | none =>
      rw [taken] at ahead
      rw [decompose_of_none taken, decompose_of_none ahead]
      rfl
  | some parts =>
      obtain ⟨gap, found, after⟩ := parts
      rw [taken] at ahead
      rw [decompose_of_some taken, decompose_of_some ahead]
      rfl

theorem decompose_section {kind : SectionKind} {name body : Text}
    (passes : Text.Passes (Tag.closeSection name) body) (after : Text) :
    decompose kind name
        (Tag.openSection kind name ++ (body ++ (Tag.closeSection name ++ after))) =
      ⟨([], ⟨Tag.openSection kind name ++ body ++ Tag.closeSection name ++
          Text.leadingBreaks after, body⟩) :: (decompose kind name (Text.dropBreaks after)).pieces,
        (decompose kind name (Text.dropBreaks after)).last⟩ := by
  apply decompose_of_some
  rw [← List.append_assoc body]
  simp only [next?, bind, Text.cut?_append, Option.bind_some, passes.cut?_eq]

theorem full_of_mem_findAll {kind : SectionKind} {name template : Text} {found : Section}
    (present : found ∈ findAll kind name template) :
    found.full <:+: template ∧
      ∃ breaks, (∀ c ∈ breaks, c = '\n') ∧ found.full =
        Tag.openSection kind name ++ found.body ++ Tag.closeSection name ++ breaks := by
  unfold findAll at present
  split at present
  · fun_induction decompose kind name template with
    | case1 template absent => cases present
    | case2 template gap taken rest next others ih =>
        have whole := eq_append_of_next? next
        rcases List.mem_cons.mp present with rfl | later
        · obtain ⟨inside, after, _, _, full, _⟩ := next?_eq_some next
          exact ⟨⟨gap, rest, whole.symm⟩, Text.leadingBreaks after,
            fun c among => Text.mem_leadingBreaks among, full⟩
        · obtain ⟨within, made⟩ := ih later
          refine ⟨within.trans ⟨gap ++ taken.full, [], ?_⟩, made⟩
          rw [List.append_nil, whole]
  · cases present

theorem body_infix_of_mem_findAll {kind : SectionKind} {name template : Text} {found : Section}
    (present : found ∈ findAll kind name template) : found.body <:+: template := by
  obtain ⟨within, breaks, _, full⟩ := full_of_mem_findAll present
  refine List.IsInfix.trans ⟨Tag.openSection kind name, Tag.closeSection name ++ breaks, ?_⟩ within
  rw [full]
  simp only [List.append_assoc]

end Section

/-! ### Rendering and exchanging -/

namespace Substitution

open Rendering

variable {content : Text → Rendering Text} {kind : SectionKind} {name template : Text}

/-- All bodies are rendered before any text is exchanged, and exchanging leaves no trail. -/
theorem foldlM_spliceSection (content : Text → Rendering Text) (sections : List Section)
    (template : Text) :
    sections.foldlM (spliceSection content) template =
      sections.mapM (fun found => content found.body) >>= fun texts =>
        pure ((sections.zip texts).foldl
          (fun current exchange =>
            Text.replaceFirst exchange.1.full (exchange.2 ++ ['\n']) current) template) := by
  induction sections generalizing template with
  | nil => rfl
  | cons found sections ih =>
      rw [List.foldlM_cons, List.mapM_cons]
      simp only [spliceSection, ih, bind_assoc, pure_bind, List.zip_cons_cons, List.foldl_cons]

private theorem noteRefusal_completes (name : Text) : Completes (noteRefusal name) := by
  unfold noteRefusal
  split
  · exact Completes.pure ()
  · exact fun trail => ⟨_, rfl⟩

theorem removeSections_yields {post : Text → Prop}
    (holds : post (Section.removeAll kind name template)) :
    Yields post (removeSections kind name template) :=
  Yields.bind_of_all fun _ => Yields.pure holds

theorem removeSections_completes : Completes (removeSections kind name template) :=
  (noteRefusal_completes name).bind_of_all fun _ => Completes.pure _

theorem spliceSections_yields {post goal : Text → Prop} (holds : goal template)
    (contents : ∀ found ∈ Section.findAll kind name template, Yields post (content found.body))
    (exchanged : ∀ found ∈ Section.findAll kind name template, ∀ text current, post text →
      goal current → goal (Text.replaceFirst found.full (text ++ ['\n']) current)) :
    Yields goal (spliceSections content kind name template) := by
  refine Yields.bind_of_all fun _ => Yields.foldlM holds ?_
  intro current found present currentHolds
  refine (contents found present).bind fun text textHolds => Yields.pure ?_
  exact exchanged found present text current textHolds currentHolds

theorem spliceSections_completes
    (contents : ∀ found ∈ Section.findAll kind name template, Completes (content found.body)) :
    Completes (spliceSections content kind name template) := by
  refine (noteRefusal_completes name).bind_of_all fun _ => ?_
  rw [foldlM_spliceSection]
  exact (Completes.mapM contents).bind_of_all fun _ => Completes.pure _

end Substitution
end TextTemplate
