import TextTemplate.Proofs.Flat
import TextTemplate.Proofs.Forest

/-!
# Tags and bodies of forests as they are printed

Searching a printed forest for a tag finds the nodes that are such tags, and nothing else. So
filling the text fills the nodes. Trimming the body of a block as a text trims its nodes.
-/

set_option autoImplicit false

namespace TextTemplate

/-! ### Searching for a tag -/

namespace TagForm

variable {form other : TagForm} {name key : Text}

def token (form : TagForm) (name : Text) (named : Tag.IsName name) : Token :=
  match form with
  | .raw => .raw name named.plain named.unmarked
  | .escaped => .escaped name named.plain

theorem print_token (form : TagForm) (named : Tag.IsName name) :
    (form.token name named).print = form.tag name := by
  cases form with
  | raw => rfl
  | escaped => rfl

theorem content?_token (form : TagForm) (named : Tag.IsName name) :
    (form.token name named).content? = some name := by
  cases form with
  | raw => rfl
  | escaped => rfl

private theorem tag_ne_nil (form : TagForm) (name : Text) : form.tag name ≠ [] := by
  cases form with
  | raw => exact List.cons_ne_nil _ _
  | escaped => exact List.cons_ne_nil _ _

private theorem cut?_tag_nil (form : TagForm) (name : Text) :
    Text.cut? (form.tag name) [] = none := by
  cases form with
  | raw => rfl
  | escaped => rfl

private theorem passes_token {token : Token} (plain : name.Plain)
    (different : token.Without name ∨ form = .raw ∧ ¬token.IsRaw name) :
    Text.Passes (form.tag name) token.print := by
  cases form with
  | raw =>
      have notRaw : ¬token.IsRaw name :=
        different.elim Token.not_isRaw_of_without And.right
      exact (Token.clear_raw plain notRaw).passes
  | escaped =>
      have unlike : token.Without name :=
        different.resolve_right fun impossible => by cases impossible.1
      exact (Token.clear_escaped plain unlike).passes

private theorem passes_char {c : Char} (plain : name.Plain) (notBrace : c ≠ '{' ∧ c ≠ '}') :
    Text.Passes (form.tag name) [c] := by
  have passes : Text.Passes (form.tag name) (Token.char c notBrace).print :=
    passes_token plain (.inl (Option.some_ne_none name).symm)
  exact passes

private theorem passes_marked {content : Text} (named : Tag.IsName name) (plain : content.Plain)
    (marked : Tag.Marked content) : Text.Passes (form.tag name) (Tag.escaped content) := by
  have unlike : (Token.escaped content plain).Without name := by
    intro same
    exact named.unmarked (Option.some.inj same ▸ marked)
  exact passes_token named.plain (.inl unlike)

private theorem passes_openSection (named : Tag.IsName name) (kind : SectionKind)
    (keyPlain : key.Plain) :
    Text.Passes (form.tag name) (Tag.openSection kind key) :=
  passes_marked named (Flat.plain_sigil kind keyPlain) (Flat.marked_sigil kind key)

private theorem passes_closeSection (named : Tag.IsName name) (keyPlain : key.Plain) :
    Text.Passes (form.tag name) (Tag.closeSection key) :=
  passes_marked named (Flat.plain_slash keyPlain) (Flat.marked_slash key)

end TagForm

namespace Forest

open TagForm

variable {form : TagForm} {name text : Text} {forest : Forest}

/-- An escaped tag is found in the raw tag of its name too, so that one has to be gone first. -/
def Ready (form : TagForm) (name : Text) (forest : Forest) : Prop :=
  form = .escaped → forest.hasTag .raw name = false

namespace Ready

private theorem of_tag {other : TagForm} {key : Text} {rest : Forest}
    (ready : Ready form name (.tag other key rest)) : Ready form name rest := by
  intro escaped
  exact (Bool.or_eq_false_iff.mp (ready escaped)).2

private theorem of_block {kind : SectionKind} {key : Text} {body rest : Forest}
    (ready : Ready form name (.block kind key body rest)) :
    Ready form name body ∧ Ready form name rest :=
  ⟨fun escaped => (Bool.or_eq_false_iff.mp (ready escaped)).1,
    fun escaped => (Bool.or_eq_false_iff.mp (ready escaped)).2⟩

private theorem passes {other : TagForm} {key : Text} {rest : Forest} (named : Tag.IsName name)
    (keyNamed : Tag.IsName key) (ready : Ready form name (.tag other key rest))
    (different : ¬(other = form ∧ key = name)) : Text.Passes (form.tag name) (other.tag key) := by
  rw [← other.print_token keyNamed]
  apply passes_token named.plain
  cases other with
  | escaped =>
      cases form with
      | escaped =>
          refine Or.inl fun same => different ⟨rfl, Option.some.inj same⟩
      | raw => exact Or.inr ⟨rfl, id⟩
  | raw =>
      cases form with
      | escaped =>
          refine Or.inl fun same => ?_
          have absent := (Bool.or_eq_false_iff.mp (ready rfl)).1
          exact of_decide_eq_false absent ⟨rfl, Option.some.inj same⟩
      | raw => exact Or.inr ⟨rfl, fun same => different ⟨rfl, same⟩⟩

end Ready

private theorem replaceAll_print (named : Tag.IsName name) (balanced : forest.Balanced)
    (ready : Ready form name forest) (text suffix : Text) :
    Text.replaceAll (form.tag name) text (forest.print ++ suffix) =
      (forest.fill form name text).print ++ Text.replaceAll (form.tag name) text suffix := by
  have notEmpty := form.tag_ne_nil name
  -- The body of a block is followed by its closing tag, so any `suffix` has to be allowed for.
  induction forest generalizing suffix with
  | nil => rfl
  | char c rest ih =>
      have passes : Text.Passes (form.tag name) [c] := passes_char named.plain balanced.1
      change Text.replaceAll _ text ([c] ++ (rest.print ++ suffix)) = [c] ++ (_ ++ _)
      rw [passes.replaceAll_eq notEmpty, ih balanced.2 ready]
  | tag other key rest ih =>
      have later := ih balanced.2 ready.of_tag suffix
      rw [print, List.append_assoc, fill]
      split
      · next same =>
          rw [same.1, same.2, Text.replaceAll_append notEmpty, later, print_append, print_ofText,
            List.append_assoc]
      · next different =>
          rw [(ready.passes named balanced.1 different).replaceAll_eq notEmpty, later, print,
            List.append_assoc]
  | block kind key body rest ihBody ihRest =>
      obtain ⟨keyNamed, _, bodyBalanced, restBalanced⟩ := balanced
      have opening : Text.Passes (form.tag name) (Tag.openSection kind key) :=
        passes_openSection named kind keyNamed.plain
      have closing : Text.Passes (form.tag name) (Tag.closeSection key) :=
        passes_closeSection named keyNamed.plain
      rw [fill, print_block, print_block]
      simp only [List.append_assoc]
      rw [opening.replaceAll_eq notEmpty, ihBody bodyBalanced ready.of_block.1,
        closing.replaceAll_eq notEmpty, ihRest restBalanced ready.of_block.2]

private theorem occursIn_print (named : Tag.IsName name) (balanced : forest.Balanced)
    (ready : Ready form name forest) (suffix : Text) :
    Text.occursIn (form.tag name) (forest.print ++ suffix) =
      (forest.hasTag form name || Text.occursIn (form.tag name) suffix) := by
  induction forest generalizing suffix with
  | nil => rfl
  | char c rest ih =>
      have passes : Text.Passes (form.tag name) [c] := passes_char named.plain balanced.1
      change Text.occursIn _ ([c] ++ (rest.print ++ suffix)) = _
      rw [passes.occursIn_eq, ih balanced.2 ready]
      rfl
  | tag other key rest ih =>
      rw [print, List.append_assoc, hasTag]
      by_cases same : other = form ∧ key = name
      · rw [same.1, same.2, Text.occursIn_append]
        simp
      · rw [(ready.passes named balanced.1 same).occursIn_eq, ih balanced.2 ready.of_tag,
          decide_eq_false same, Bool.false_or]
  | block kind key body rest ihBody ihRest =>
      obtain ⟨keyNamed, _, bodyBalanced, restBalanced⟩ := balanced
      have opening : Text.Passes (form.tag name) (Tag.openSection kind key) :=
        passes_openSection named kind keyNamed.plain
      have closing : Text.Passes (form.tag name) (Tag.closeSection key) :=
        passes_closeSection named keyNamed.plain
      rw [print_block, hasTag]
      simp only [List.append_assoc]
      rw [opening.occursIn_eq, ihBody bodyBalanced ready.of_block.1, closing.occursIn_eq,
        ihRest restBalanced ready.of_block.2, Bool.or_assoc]

/-! ### Filling tags -/

private theorem names_fill (form : TagForm) (name text : Text) (forest : Forest) :
    (forest.fill form name text).names = forest.names := by
  induction forest with
  | nil => rfl
  | char c rest ih => exact ih
  | tag other key rest ih =>
      rw [fill]
      split
      · rw [names_append, names_ofText, List.nil_append]
        exact ih
      · exact ih
  | block kind key body rest ihBody ihRest => rw [fill, names, names, ihBody, ihRest]

theorem balanced_fill (plain : text.Plain) (balanced : forest.Balanced) :
    (forest.fill form name text).Balanced := by
  induction forest with
  | nil => trivial
  | char c rest ih => exact ⟨balanced.1, ih balanced.2⟩
  | tag other key rest ih =>
      rw [fill]
      split
      · exact (balanced_ofText plain).append (ih balanced.2)
      · exact ⟨balanced.1, ih balanced.2⟩
  | block kind key body rest ihBody ihRest =>
      obtain ⟨keyNamed, apart, bodyBalanced, restBalanced⟩ := balanced
      refine ⟨keyNamed, ?_, ihBody bodyBalanced, ihRest restBalanced⟩
      rwa [names_fill]

theorem within_fill (plain : text.Plain) (balanced : forest.Balanced) :
    Within forest (forest.fill form name text) := by
  refine ⟨balanced_fill plain balanced, ?_⟩
  rw [names_fill]
  exact List.Subset.refl _

private theorem hasTag_append (front behind : Forest) :
    (front ++ behind).hasTag form name = (front.hasTag form name || behind.hasTag form name) := by
  induction front with
  | nil => rfl
  | char c rest ih => exact ih
  | tag other key rest ih =>
      change (_ || (rest ++ behind).hasTag form name) = (_ || rest.hasTag form name || _)
      rw [ih, Bool.or_assoc]
  | block kind key body rest _ ih =>
      change (_ || (rest ++ behind).hasTag form name) = (_ || rest.hasTag form name || _)
      rw [ih, Bool.or_assoc]

private theorem hasTag_ofText (text : Text) : (ofText text).hasTag form name = false := by
  induction text with
  | nil => rfl
  | cons c text ih => exact ih

theorem hasTag_fill (form : TagForm) (name text : Text) (forest : Forest) :
    (forest.fill form name text).hasTag form name = false := by
  induction forest with
  | nil => rfl
  | char c rest ih => exact ih
  | tag other key rest ih =>
      rw [fill]
      split
      · rw [hasTag_append, hasTag_ofText, ih, Bool.false_or]
      · next different => rw [hasTag, ih, decide_eq_false different, Bool.false_or]
  | block kind key body rest ihBody ihRest => rw [fill, hasTag, ihBody, ihRest, Bool.false_or]

theorem print_fill (named : Tag.IsName name) (balanced : forest.Balanced)
    (ready : Ready form name forest) (text : Text) :
    Text.replaceAll (form.tag name) text forest.print = (forest.fill form name text).print := by
  have whole := replaceAll_print named balanced ready text []
  rwa [Text.replaceAll_of_cut?_eq_none (cut?_tag_nil form name), List.append_nil,
    List.append_nil] at whole

theorem occursIn_print_eq (named : Tag.IsName name) (balanced : forest.Balanced)
    (ready : Ready form name forest) :
    Text.occursIn (form.tag name) forest.print = forest.hasTag form name := by
  have whole := occursIn_print named balanced ready []
  have empty : Text.occursIn (form.tag name) [] = false :=
    congrArg Option.isSome (cut?_tag_nil form name)
  rwa [empty, List.append_nil, Bool.or_false] at whole

/-! ### The body of a repeated block -/

private theorem print_dropBlanks (balanced : forest.Balanced) :
    forest.dropBlanks.print = forest.print.dropWhile Substitution.isLeadingBlank := by
  induction forest with
  | nil => rfl
  | char c rest ih =>
      rw [dropBlanks, print, List.dropWhile_cons]
      by_cases blank : c ∈ blanks
      · rw [if_pos blank, if_pos ((mem_blanks_iff c).mp blank)]
        exact ih balanced.2
      · rw [if_neg blank, if_neg (mt (mem_blanks_iff c).mpr blank)]
        rfl
  | tag form name rest _ =>
      cases form with
      | raw => rfl
      | escaped => rfl
  | block kind name body rest _ _ => rfl

private theorem within_dropBlanks (balanced : forest.Balanced) :
    Within forest forest.dropBlanks := by
  induction forest with
  | nil => exact Within.refl balanced
  | char c rest ih =>
      rw [dropBlanks]
      split
      · exact ⟨(ih balanced.2).balanced, (ih balanced.2).names⟩
      · exact Within.refl balanced
  | tag form name rest _ => exact Within.refl balanced
  | block kind name body rest _ _ => exact Within.refl balanced

private theorem dropFinalBreaks_append {front back : Text}
    (apart : front.getLast? ≠ some '\n' ∨ back ≠ [] ∧ back ≠ ['\n']) :
    Substitution.dropFinalBreaks (front ++ back) =
      front ++ Substitution.dropFinalBreaks back := by
  obtain ⟨turned, rfl⟩ : ∃ turned : Text, back = turned.reverse :=
    ⟨back.reverse, (List.reverse_reverse back).symm⟩
  obtain ⟨turnedFront, rfl⟩ : ∃ turned : Text, front = turned.reverse :=
    ⟨front.reverse, (List.reverse_reverse front).symm⟩
  rw [List.getLast?_reverse] at apart
  unfold Substitution.dropFinalBreaks
  rw [List.reverse_append, List.reverse_reverse, List.reverse_reverse]
  cases turned with
  | nil =>
      have first := apart.resolve_right fun holds => holds.1 rfl
      cases turnedFront with
      | nil => rfl
      | cons d others =>
          have notBreak : d ≠ '\n' := fun same => first (congrArg some same)
          simp [notBreak]
  | cons c earlier =>
      by_cases last : c = '\n'
      · subst last
        cases earlier with
        | nil =>
            have first := apart.resolve_right fun holds => holds.2 rfl
            cases turnedFront with
            | nil => rfl
            | cons d others =>
                have notBreak : d ≠ '\n' := fun same => first (congrArg some same)
                simp [notBreak]
        | cons d earlier =>
            by_cases other : d = '\n'
            · simp [other]
            · simp [other]
      · simp [last]

private theorem eq_nil_of_print {forest : Forest} (empty : forest.print = []) : forest = .nil := by
  cases forest with
  | nil => rfl
  | char c rest => cases empty
  | tag form name rest =>
      exact absurd (List.append_eq_nil_iff.mp empty).1 (form.tag_ne_nil name)
  | block kind name body rest => cases empty

private theorem eq_break_of_print {forest : Forest} (single : forest.print = ['\n']) :
    forest = .char '\n' .nil := by
  cases forest with
  | nil => cases single
  | char c rest =>
      obtain ⟨rfl, empty⟩ := List.cons.inj single
      rw [eq_nil_of_print empty]
  | tag form name rest =>
      cases form with
      | raw => exact absurd (List.cons.inj single).1 (by decide)
      | escaped => exact absurd (List.cons.inj single).1 (by decide)
  | block kind name body rest => exact absurd (List.cons.inj single).1 (by decide)

private theorem getLast?_append_closing (front : Text) :
    (front ++ Tag.closing).getLast? ≠ some '\n' := by
  rw [List.getLast?_append]
  exact (by decide : some '}' ≠ some '\n')

private theorem print_dropFinalBreaks (forest : Forest) :
    forest.dropFinalBreaks.print = Substitution.dropFinalBreaks forest.print := by
  fun_induction dropFinalBreaks forest with
  | case1 => rfl
  | case2 => rfl
  | case3 => rfl
  | case4 c rest notOne notTwo ih =>
      have apart : [c].getLast? ≠ some '\n' ∨ rest.print ≠ [] ∧ rest.print ≠ ['\n'] := by
        by_cases same : c = '\n'
        · exact Or.inr ⟨fun empty => notOne same (eq_nil_of_print empty),
            fun single => notTwo same (eq_break_of_print single)⟩
        · exact Or.inl fun last => same (Option.some.inj last)
      change [c] ++ rest.dropFinalBreaks.print = Substitution.dropFinalBreaks ([c] ++ rest.print)
      rw [dropFinalBreaks_append apart, ih]
  | case5 form name rest ih =>
      have apart : (form.tag name).getLast? ≠ some '\n' := by
        cases form with
        | raw =>
            change ((['{', '{', '{'] ++ name) ++ ['}', '}', '}']).getLast? ≠ _
            rw [List.getLast?_append]
            exact (by decide : some '}' ≠ some '\n')
        | escaped => exact getLast?_append_closing (Tag.opening ++ name)
      rw [print, print, dropFinalBreaks_append (.inl apart), ih]
  | case6 kind name body rest ih =>
      have apart := getLast?_append_closing
        (Tag.openSection kind name ++ body.print ++ (Tag.opening ++ '/' :: name))
      have whole : Substitution.dropFinalBreaks (_ ++ rest.print) = _ :=
        dropFinalBreaks_append (.inl apart)
      rw [print_block, print_block, ih]
      simpa only [Tag.closeSection, List.append_assoc] using whole.symm

private theorem within_dropFinalBreaks (balanced : forest.Balanced) :
    Within forest forest.dropFinalBreaks := by
  fun_induction dropFinalBreaks forest with
  | case1 => exact Within.refl balanced
  | case2 => exact Within.nil
  | case3 => exact Within.nil
  | case4 c rest notOne notTwo ih =>
      have kept := ih balanced.2
      exact ⟨⟨balanced.1, kept.balanced⟩, kept.names⟩
  | case5 form name rest ih =>
      have kept := ih balanced.2
      exact ⟨⟨balanced.1, kept.balanced⟩, kept.names⟩
  | case6 kind name body rest ih =>
      obtain ⟨named, apart, bodyBalanced, restBalanced⟩ := balanced
      have kept := ih restBalanced
      refine ⟨⟨named, apart, bodyBalanced, kept.balanced⟩, ?_⟩
      exact List.cons_subset_cons name
        (List.append_subset.mpr ⟨List.subset_append_left _ _,
          List.Subset.trans kept.names (List.subset_append_right _ _)⟩)

theorem print_loopBody (balanced : forest.Balanced) :
    forest.loopBody.print = Substitution.loopBody forest.print := by
  rw [loopBody, print_append, print_dropFinalBreaks, print_dropBlanks balanced]
  rfl

theorem within_loopBody (balanced : forest.Balanced) : Within forest forest.loopBody := by
  have trimmed := within_dropBlanks balanced
  exact (trimmed.trans (within_dropFinalBreaks trimmed.balanced)).append
    (Within.of_text (by decide))

end Forest
end TextTemplate
