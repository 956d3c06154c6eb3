import TextTemplate.Proofs.Sections

/-!
# The sections of a template are leftmost and shortest

A template may hold opening and closing tags in any order, and its names any characters. What a
search for sections does with it is told here without a search: the template is gaps and sections in
turn, where no opening tag begins before the one of the section, no closing tag ends before the one
of the section, all line feeds behind the section belong to it, and after the last section nothing is
left that could be one. Exactly one decomposition is like that. Finding gives its sections, and
removing gives its gaps.
-/

set_option autoImplicit false

namespace TextTemplate

namespace Text

/-! ### The first occurrence in a text -/

/-- In the text `needle` stands right behind `before`, and nowhere earlier. -/
structure FirstBehind (needle before text : Text) : Prop where
  occurs : before ++ needle <+: text
  first : ∀ front, front ++ needle <+: text → before.length ≤ front.length

variable {needle before text rest : Text}

theorem FirstBehind.append (first : FirstBehind needle before text) (more : Text) :
    FirstBehind needle before (text ++ more) := by
  refine ⟨first.occurs.trans (List.prefix_append text more), ?_⟩
  intro front occurs
  by_cases within : (front ++ needle).length ≤ text.length
  · exact first.first front
      (List.prefix_of_prefix_length_le occurs (List.prefix_append text more) within)
  · have inText := first.occurs.length_le
    simp only [List.length_append] at within inText
    omega

private theorem FirstBehind.cut?_eq (first : FirstBehind needle before text)
    (whole : text = before ++ needle ++ rest) : cut? needle text = some (before, rest) := by
  subst whole
  rcases cut?_eq_or_length_lt needle before rest with found | ⟨front, back, found, shorter⟩
  · exact found
  · have split := eq_append_of_cut? found
    have atMost := first.first front ⟨back, split.symm⟩
    omega

private theorem firstBehind_of_cut? {part : Text} (found : cut? needle text = some (before, rest))
    (occurs : before ++ needle <+: part) (within : part <+: text) :
    FirstBehind needle before part := by
  refine ⟨occurs, fun front earlier => ?_⟩
  obtain ⟨back, whole⟩ := earlier.trans within
  exact length_le_of_cut? found whole.symm

end Text

/-! ### What a decomposition may be like -/

/-- The texts between the sections, with the one before the first and the one behind the last. -/
def Decomposition.gaps (parts : Decomposition) : List Text :=
  parts.pieces.map Prod.fst ++ [parts.last]

/-- A section of `name` with the shortest body, and with line feeds behind its closing tag. -/
structure Section.Shortest (kind : SectionKind) (name : Text) (found : Section) : Prop where
  full : ∃ breaks, (∀ c ∈ breaks, c = '\n') ∧
    found.full = Tag.openSection kind name ++ found.body ++ Tag.closeSection name ++ breaks
  body : Text.FirstBehind (Tag.closeSection name) found.body
    (found.body ++ Tag.closeSection name)

/-- The template cut into gaps and shortest sections, with the sections as far to the left and with
as many line feeds behind them as there can be, and nothing left that could be a section. -/
structure Decomposition.Leftmost (kind : SectionKind) (name template : Text)
    (parts : Decomposition) : Prop where
  text : parts.text = template
  shortest : ∀ piece ∈ parts.pieces, piece.2.Shortest kind name
  first : ∀ piece ∈ parts.pieces,
    Text.FirstBehind (Tag.openSection kind name) piece.1 (piece.1 ++ piece.2.full)
  unbroken : ∀ gap ∈ parts.gaps.tail, gap.head? ≠ some '\n'
  last : ∀ front body back,
    parts.last ≠ front ++ Tag.openSection kind name ++ body ++ Tag.closeSection name ++ back

namespace Section

variable {kind : SectionKind} {name template gap rest last : Text} {found : Section}
variable {parts : Decomposition} {pieces : List (Text × Section)}

private theorem text_cons (gap last : Text) (found : Section) (pieces : List (Text × Section)) :
    Decomposition.text ⟨(gap, found) :: pieces, last⟩ =
      gap ++ found.full ++ Decomposition.text ⟨pieces, last⟩ := by
  simp only [Decomposition.text, List.flatMap_cons, List.append_assoc]

/-! ### What a search finds is like that -/

private theorem shortest_of_next? (taken : next? kind name template = some (gap, found, rest)) :
    found.Shortest kind name ∧
      Text.FirstBehind (Tag.openSection kind name) gap (gap ++ found.full) ∧
      rest.head? ≠ some '\n' := by
  have whole := eq_append_of_next? taken
  obtain ⟨inside, after, opened, closed, full, rfl⟩ := next?_eq_some taken
  refine ⟨⟨⟨Text.leadingBreaks after, fun c among => Text.mem_leadingBreaks among, full⟩, ?_⟩, ?_,
    Text.head?_dropBreaks_ne after⟩
  · have split := Text.eq_append_of_cut? closed
    exact Text.firstBehind_of_cut? closed (List.prefix_refl _) ⟨after, split.symm⟩
  · apply Text.firstBehind_of_cut? opened _ ⟨Text.dropBreaks after, whole.symm⟩
    rw [full]
    simp only [List.append_assoc, List.prefix_append_right_inj, List.prefix_append]

private theorem last_of_next?_eq_none (absent : next? kind name template = none)
    (front body back : Text) :
    template ≠ front ++ Tag.openSection kind name ++ body ++ Tag.closeSection name ++ back := by
  intro whole
  have split : template = front ++ Tag.openSection kind name ++
      (body ++ Tag.closeSection name ++ back) := by
    rw [whole]
    simp only [List.append_assoc]
  cases opened : Text.cut? (Tag.openSection kind name) template with
  | none => exact Text.not_infix_of_cut?_eq_none opened ⟨front, _, split.symm⟩
  | some parts =>
      obtain ⟨gap, inside⟩ := parts
      have within := Text.suffix_of_cut? opened split
      cases closed : Text.cut? (Tag.closeSection name) inside with
      | none =>
          apply Text.not_infix_of_cut?_eq_none closed
          exact List.IsInfix.trans ⟨body, back, rfl⟩ within.isInfix
      | some parts =>
          simp only [next?, bind, opened, closed, Option.bind_some] at absent
          cases absent

private theorem gaps_cons (gap last : Text) (found : Section) (pieces : List (Text × Section)) :
    Decomposition.gaps ⟨(gap, found) :: pieces, last⟩ = gap :: Decomposition.gaps ⟨pieces, last⟩ :=
  rfl

private theorem head_gaps_prefix (parts : Decomposition) :
    ∃ gap gaps, parts.gaps = gap :: gaps ∧ gap <+: parts.text := by
  obtain ⟨pieces, last⟩ := parts
  cases pieces with
  | nil => exact ⟨last, [], rfl, List.prefix_refl last⟩
  | cons piece pieces =>
      obtain ⟨gap, found⟩ := piece
      refine ⟨gap, _, gaps_cons gap last found pieces, ?_⟩
      rw [text_cons, List.append_assoc]
      exact List.prefix_append gap _

private theorem head?_ne_of_begins {front text : Text} {c : Char} (begins : front <+: text)
    (other : text.head? ≠ some c) : front.head? ≠ some c := by
  obtain ⟨rest, rfl⟩ := begins
  cases front with
  | nil => exact (Option.some_ne_none c).symm
  | cons d front => exact other

private theorem leftmost_decompose (kind : SectionKind) (name template : Text) :
    (decompose kind name template).Leftmost kind name template := by
  fun_induction decompose kind name template with
  | case1 template absent =>
      refine ⟨rfl, ?_, ?_, ?_, last_of_next?_eq_none absent⟩
      · exact fun piece impossible => absurd impossible List.not_mem_nil
      · exact fun piece impossible => absurd impossible List.not_mem_nil
      · exact fun gap impossible => absurd impossible List.not_mem_nil
  | case2 template gap found rest taken others ih =>
      obtain ⟨shortest, first, noBreak⟩ := shortest_of_next? taken
      refine ⟨?_, ?_, ?_, ?_, ih.last⟩
      · rw [text_cons]
        change gap ++ found.full ++ others.text = template
        rw [ih.text, ← eq_append_of_next? taken]
      · exact List.forall_mem_cons.mpr ⟨shortest, ih.shortest⟩
      · exact List.forall_mem_cons.mpr ⟨first, ih.first⟩
      · obtain ⟨next, gaps, whole, begins⟩ := head_gaps_prefix others
        have unbroken := ih.unbroken
        rw [ih.text] at begins
        rw [gaps_cons, List.tail_cons]
        change ∀ gap ∈ others.gaps, _
        rw [whole] at unbroken ⊢
        exact List.forall_mem_cons.mpr ⟨head?_ne_of_begins begins noBreak, unbroken⟩

/-! ### Nothing else is like that -/

private theorem head?_text_ne (shortest : ∀ piece ∈ pieces, piece.2.Shortest kind name)
    (unbroken : ∀ gap ∈ Decomposition.gaps ⟨pieces, last⟩, gap.head? ≠ some '\n') :
    (Decomposition.text ⟨pieces, last⟩).head? ≠ some '\n' := by
  cases pieces with
  | nil => exact unbroken last (List.mem_singleton.mpr rfl)
  | cons piece pieces =>
      obtain ⟨gap, found⟩ := piece
      have first := unbroken gap List.mem_cons_self
      rw [text_cons]
      cases gap with
      | nil =>
          obtain ⟨⟨breaks, _, full⟩, _⟩ := shortest _ List.mem_cons_self
          rw [List.nil_append, full]
          exact fun begins => absurd (Option.some.inj begins) (by decide)
      | cons c gap => exact first

private theorem leftmost_rest
    (leftmost : Decomposition.Leftmost kind name template ⟨(gap, found) :: pieces, last⟩) :
    Decomposition.Leftmost kind name (Decomposition.text ⟨pieces, last⟩) ⟨pieces, last⟩ := by
  obtain ⟨_, shortest, first, unbroken, unfinished⟩ := leftmost
  refine ⟨rfl, (List.forall_mem_cons.mp shortest).2, (List.forall_mem_cons.mp first).2, ?_,
    unfinished⟩
  exact fun other among => unbroken other (List.mem_of_mem_tail among)

private theorem next?_of_leftmost
    (leftmost : Decomposition.Leftmost kind name template ⟨(gap, found) :: pieces, last⟩) :
    next? kind name template = some (gap, found, Decomposition.text ⟨pieces, last⟩) := by
  obtain ⟨whole, shortest, first, unbroken, _⟩ := leftmost
  obtain ⟨⟨⟨breaks, areBreaks, full⟩, body⟩, others⟩ := List.forall_mem_cons.mp shortest
  have noBreak := head?_text_ne others unbroken
  have before : Text.FirstBehind (Tag.openSection kind name) gap (gap ++ found.full) :=
    (List.forall_mem_cons.mp first).1
  rw [text_cons] at whole
  generalize Decomposition.text ⟨pieces, last⟩ = rest at whole noBreak ⊢
  have opened : Text.cut? (Tag.openSection kind name) template =
      some (gap, found.body ++ Tag.closeSection name ++ (breaks ++ rest)) := by
    rw [← whole]
    apply (before.append rest).cut?_eq
    rw [full]
    simp only [List.append_assoc]
  have closed := (body.append (breaks ++ rest)).cut?_eq rfl
  obtain ⟨taken, left⟩ := Text.breaks_append areBreaks noBreak
  simp only [next?, bind, opened, closed, Option.bind_some, taken, left, ← full]

private theorem next?_eq_none_of_leftmost
    (leftmost : Decomposition.Leftmost kind name template ⟨[], last⟩) :
    next? kind name template = none := by
  cases taken : next? kind name template with
  | none => rfl
  | some parts =>
      obtain ⟨gap, found, rest⟩ := parts
      have whole := eq_append_of_next? taken
      obtain ⟨⟨⟨breaks, _, full⟩, _⟩, _⟩ := shortest_of_next? taken
      have same : last = template := leftmost.text
      refine absurd ?_ (leftmost.last gap found.body (breaks ++ rest))
      calc last
          = gap ++ found.full ++ rest := same.trans whole
        _ = gap ++ Tag.openSection kind name ++ found.body ++ Tag.closeSection name ++
              (breaks ++ rest) := by
            rw [full]
            simp only [List.append_assoc]

private theorem eq_decompose_of_leftmost (leftmost : parts.Leftmost kind name template) :
    parts = decompose kind name template := by
  obtain ⟨pieces, last⟩ := parts
  induction pieces generalizing template with
  | nil =>
      have same : last = template := leftmost.text
      rw [decompose_of_none (next?_eq_none_of_leftmost leftmost), same]
  | cons piece pieces ih =>
      obtain ⟨gap, found⟩ := piece
      rw [decompose_of_some (next?_of_leftmost leftmost), ← ih (leftmost_rest leftmost)]

/-- Every template is cut into gaps and sections in one way only that is leftmost and shortest; the
sections of that cut are what is found, and its gaps are what is left when sections are removed. -/
theorem exactly_one_leftmost_decomposition (kind : SectionKind) (name template : Text)
    (searched : searchable name = true) :
    ∃ parts : Decomposition,
      (∀ other, other.Leftmost kind name template ↔ other = parts) ∧
      findAll kind name template = parts.pieces.map Prod.snd ∧
      removeAll kind name template = parts.gaps.flatten := by
  refine ⟨decompose kind name template, fun other => ⟨eq_decompose_of_leftmost, ?_⟩, ?_, ?_⟩
  · rintro rfl
    exact leftmost_decompose kind name template
  · rw [findAll, if_pos searched]
  · rw [removeAll, if_pos searched, Decomposition.gaps, List.flatten_append, List.flatten_singleton,
      ← List.flatMap_def]

/-- Opening tags inside one another, a closing tag too many and an opening one, and a name whose
closing tag overlaps itself. -/
theorem exactly_one_leftmost_decomposition_of_overlap :
    let name := 'a' :: Tag.closing ++ Tag.opening ++ ['/', 'a']
    let opened := Tag.openSection .positive name
    let closed := Tag.closeSection name
    let template := '-' :: opened ++ opened ++ 'x' :: closed ++ '\n' :: "{{/a}}y".toList ++ closed ++
      opened
    searchable name = true ∧
      findAll .positive name template =
        [⟨opened ++ opened ++ 'x' :: closed ++ ['\n'], opened ++ ['x']⟩] ∧
      removeAll .positive name template = '-' :: "{{/a}}y".toList ++ closed ++ opened ∧
      ∃ parts : Decomposition,
        (∀ other, other.Leftmost .positive name template ↔ other = parts) ∧
        findAll .positive name template = parts.pieces.map Prod.snd ∧
        removeAll .positive name template = parts.gaps.flatten := by
  intro name opened closed template
  have searched : searchable name = true := by decide
  exact ⟨searched, by decide +kernel, by decide +kernel,
    exactly_one_leftmost_decomposition .positive name template searched⟩

end Section
end TextTemplate
