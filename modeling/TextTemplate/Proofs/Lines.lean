import TextTemplate.Proofs.Bindings

/-!
# Where the line of a list item ends

The body of a repeated section is given a line feed at its end before it is rendered for an item.
Filling tags keeps that line feed, and so does putting content in place of sections, for every
content is put in with a line feed of its own. Removing sections need not: a section takes all line
feeds behind it along, and if it stands at the end of the text then the last line feed goes with it.
The main result says that this is the only way in which an item can fail to end its line.
-/

set_option autoImplicit false

namespace TextTemplate

namespace Text

variable {front back needle replacement text : Text}

/-! ### Texts that end a line -/

def EndsLine (text : Text) : Prop :=
  text.getLast? = some '\n'

instance (text : Text) : Decidable text.EndsLine :=
  inferInstanceAs (Decidable (text.getLast? = some '\n'))

theorem EndsLine.append (ended : back.EndsLine) (front : Text) : (front ++ back).EndsLine := by
  rw [EndsLine, List.getLast?_append, ended]
  rfl

private theorem endsLine_break (front : Text) : (front ++ ['\n']).EndsLine := by
  have single : EndsLine ['\n'] := rfl
  exact single.append front

private theorem EndsLine.of_append (ended : (front ++ back).EndsLine) (notEmpty : back ≠ []) :
    back.EndsLine := by
  rw [EndsLine, List.getLast?_append, List.getLast?_eq_some_getLast notEmpty] at ended
  rw [EndsLine, List.getLast?_eq_some_getLast notEmpty]
  exact ended

private theorem EndsLine.behind (ended : (front ++ back).EndsLine) (other : ¬front.EndsLine) :
    back.EndsLine := by
  apply ended.of_append
  rintro rfl
  exact other (by rwa [List.append_nil] at ended)

/-- The last line feed is in none of the texts that are replaced, if these do not end with one. -/
private theorem EndsLine.replaceAll (ended : text.EndsLine) (other : ¬needle.EndsLine)
    (replacement : Text) : (Text.replaceAll needle replacement text).EndsLine := by
  fun_induction Text.replaceAll needle replacement text with
  | case1 text empty => exact ended
  | case2 text notEmpty absent => exact ended
  | case3 text notEmpty before rest found ih =>
      rw [eq_append_of_cut? found] at ended
      have apart : ¬(before ++ needle).EndsLine := fun tagEnds =>
        other (tagEnds.of_append (by simpa using notEmpty))
      exact (ih (ended.behind apart)).append _

private theorem EndsLine.replaceFirst (ended : text.EndsLine) (needle content : Text) :
    (Text.replaceFirst needle (content ++ ['\n']) text).EndsLine := by
  unfold Text.replaceFirst
  split
  · exact ended
  · next before rest found =>
      by_cases empty : rest = []
      · rw [empty, List.append_nil, ← List.append_assoc]
        exact endsLine_break _
      · rw [eq_append_of_cut? found] at ended
        exact (ended.of_append empty).append _

end Text

/-! ### Sections that take the last line feed along -/

/-- The kind of sections that a value takes out of the template, if it does. -/
def Value.excluded : Value → Option SectionKind
  | .list [] => some .positive
  | .map [] => some .positive
  | .boolean truth => some (SectionKind.ofTruth truth).opposite
  | _ => none

namespace Section

variable {kind : SectionKind} {name template : Text}

/-- The last of the sections stands at the end of the text, and what is left without the sections
does not end a line. -/
structure Swallowed (kind : SectionKind) (name template : Text) : Prop where
  behind : (parts kind name template).last = []
  unended : ¬Text.EndsLine ((parts kind name template).pieces.flatMap Prod.fst)

private theorem removeAll_eq_parts (kind : SectionKind) (name template : Text) :
    removeAll kind name template =
      (parts kind name template).pieces.flatMap Prod.fst ++ (parts kind name template).last := by
  unfold removeAll parts
  split <;> rfl

private theorem endsLine_removeAll_iff (ended : template.EndsLine) :
    (removeAll kind name template).EndsLine ↔ ¬Swallowed kind name template := by
  rw [removeAll_eq_parts]
  constructor
  · rintro kept ⟨behind, unended⟩
    rw [behind, List.append_nil] at kept
    exact unended kept
  · intro unswallowed
    by_cases behind : (parts kind name template).last = []
    · rw [behind, List.append_nil]
      exact Decidable.not_not.mp fun unended => unswallowed ⟨behind, unended⟩
    · rw [← text_parts kind name template, Decomposition.text] at ended
      exact (ended.of_append behind).append _

end Section

namespace Substitution

open Rendering

variable {nested : Text → Context → Rendering Text} {root scope : Context} {key template : Text}
variable {value : Value}

/-! ### One binding -/

private theorem not_endsLine_closing (front : Text) : ¬Text.EndsLine (front ++ Tag.closing) := by
  intro ended
  exact absurd (ended.of_append (List.cons_ne_nil _ _)) (by decide)

private theorem endsLine_fillTags (ended : template.EndsLine) (key raw escaped : Text) :
    (fillTags key raw escaped template).EndsLine := by
  have rawOther : ¬(Tag.raw key).EndsLine := by
    have tag : Tag.raw key = '{' :: Tag.opening ++ key ++ ['}'] ++ Tag.closing := by
      simp [Tag.raw]
    rw [tag]
    exact not_endsLine_closing _
  exact (ended.replaceAll rawOther raw).replaceAll (not_endsLine_closing _) _

private theorem spliceSections_endsLine {content : Text → Rendering Text} {kind : SectionKind}
    (ended : template.EndsLine) :
    Yields Text.EndsLine (spliceSections content kind key template) := by
  have contents : ∀ found ∈ Section.findAll kind key template,
      Yields (fun _ => True) (content found.body) := fun _ _ => Yields.of_forall fun _ => trivial
  apply spliceSections_yields ended contents
  exact fun found _ text current _ currentEnded => currentEnded.replaceFirst found.full text

private theorem removeSections_endsLine {kind : SectionKind} (ended : template.EndsLine) :
    Yields (fun result => result.EndsLine ∨ Section.Swallowed kind key template)
      (removeSections kind key template) := by
  apply removeSections_yields
  rw [Section.endsLine_removeAll_iff ended]
  exact (Classical.em _).symm

private theorem applyBinding_endsLine (ended : template.EndsLine) :
    Yields (fun result => result.EndsLine ∨
      ∃ kind, value.excluded = some kind ∧ Section.Swallowed kind key template)
      (applyBinding nested root template (key, value)) := by
  apply noted_yields
  have removed : ∀ kind, value.excluded = some kind → Yields (fun result => result.EndsLine ∨
      ∃ kind, value.excluded = some kind ∧ Section.Swallowed kind key template)
      (removeSections kind key template) := by
    intro kind excluded
    exact (removeSections_endsLine ended).mono fun result kept =>
      kept.imp_right fun swallowed => ⟨kind, excluded, swallowed⟩
  cases value with
  | scalar text => exact Yields.pure (.inl (endsLine_fillTags ended key text text))
  | boolean truth =>
      refine (removed _ rfl).bind fun kept outcome => ?_
      rcases outcome with keptEnded | swallowed
      · exact (spliceSections_endsLine keptEnded).mono fun _ => .inl
      · exact Yields.of_forall fun _ => .inr swallowed
  | list items =>
      cases items with
      | nil => exact removed .positive rfl
      | cons item items => exact (spliceSections_endsLine ended).mono fun _ => .inl
  | map entries =>
      cases entries with
      | nil => exact removed .positive rfl
      | cons entry entries => exact (spliceSections_endsLine ended).mono fun _ => .inl
  | deferred source =>
      refine (@fillDeferred_yields (fun _ => True) source (fun _ => trivial) key template).mono ?_
      rintro result ⟨raw, escaped, _, _, rfl⟩
      exact .inl (endsLine_fillTags ended key raw escaped)
  | unsupported => exact noted_yields (Yields.pure (.inl ended))

/-! ### All bindings of an item -/

/-- An entry of the scope removes sections of its name from what the entries before it made of the
template, and the last line feed goes with them. `rendering` renders in a part of the scope. -/
def LineLost (rendering : Context → Rendering Text) (scope : Context) (trail : Trail) : Prop :=
  ∃ earlier key value later current between kind,
    scope = earlier ++ (key, value) :: later ∧
    rendering earlier trail = some (current, between) ∧
    current.EndsLine ∧ value.excluded = some kind ∧ Section.Swallowed kind key current

theorem LineLost.cons {entry : Text × Value} {current : Text} {trail between : Trail}
    (first : applyBinding nested root template entry trail = some (current, between))
    (lost : LineLost (fun earlier => earlier.foldlM (applyBinding nested root) current) scope
      between) :
    LineLost (fun earlier => earlier.foldlM (applyBinding nested root) template) (entry :: scope)
      trail := by
  obtain ⟨earlier, key, value, later, before, reached, kind, split, done, swallowing⟩ := lost
  refine ⟨entry :: earlier, key, value, later, before, reached, kind, ?_, ?_, swallowing⟩
  · rw [split, List.cons_append]
  · change (entry :: earlier).foldlM (applyBinding nested root) template trail = _
    rw [List.foldlM_cons]
    exact bind_eq_some_iff.mpr ⟨current, between, first, done⟩

private theorem bindings_endLine {trail after : Trail} {output : Text} (ended : template.EndsLine)
    (done : scope.foldlM (applyBinding nested root) template trail = some (output, after)) :
    output.EndsLine ∨
      LineLost (fun earlier => earlier.foldlM (applyBinding nested root) template) scope trail := by
  -- By induction on the entries, for every template that ends a line: as long as no entry loses the
  -- line feed, the others start from such a template again.
  induction scope generalizing template trail with
  | nil =>
      cases done
      exact .inl ended
  | cons entry scope ih =>
      obtain ⟨key, value⟩ := entry
      rw [List.foldlM_cons] at done
      obtain ⟨current, between, first, rest⟩ := bind_eq_some_iff.mp done
      rcases applyBinding_endsLine ended trail current between first with
        stillEnded | ⟨kind, excluded, swallowed⟩
      · exact (ih stillEnded rest).imp_right (LineLost.cons first)
      · exact .inr ⟨[], key, value, scope, template, trail, kind, rfl, rfl, ended, excluded,
          swallowed⟩

/-- What a repeated section makes of an item ends with a line feed, unless an empty list, an empty
map or a truth value in the scope of the item removes a section that stands at the very end of the
text by then, and the line feed with it. -/
theorem item_ends_line_or_loses_it {depth : Nat} {body output : Text} {item : Value}
    {root : Context} {trail after : Trail}
    (done : substituteWithin depth (loopBody body) (itemScope item) root trail =
      some (output, after)) :
    output.EndsLine ∨
      LineLost (fun earlier => substituteWithin depth (loopBody body) earlier root) (itemScope item)
        trail := by
  have ended : (loopBody body).EndsLine := Text.endsLine_break _
  unfold substituteWithin at done ⊢
  exact bindings_endLine ended done

/-- Two items that lose their line feeds to the section of an empty list share a line. -/
theorem items_share_line_of_empty_list :
    let body := 'x' :: Tag.openSection .positive ['a'] ++ 'y' :: Tag.closeSection ['a']
    let item : Value := .map [(['a'], .list [])]
    let scope := itemScope item
    ∃ after, substituteWithin 0 (loopBody body) scope [] Trail.empty = some (['x'], after) ∧
      ¬Text.EndsLine ['x'] ∧
      (expandList (fun inner within => substituteWithin 0 inner within []) ['l'] [item, item]
        (Tag.openSection .positive ['l'] ++ body ++ Tag.closeSection ['l']) Trail.empty).map Prod.fst =
          some ['x', 'x', '\n'] ∧
      (Text.EndsLine ['x'] ∨
        LineLost (fun earlier => substituteWithin 0 (loopBody body) earlier []) scope
          Trail.empty) := by
  intro body item scope
  have done : substituteWithin 0 (loopBody body) scope [] Trail.empty =
      some (['x'], ⟨[], [.substituting ['a'] .list]⟩) := by
    decide +kernel
  exact ⟨_, done, by decide, by decide +kernel, item_ends_line_or_loses_it done⟩

end Substitution
end TextTemplate
