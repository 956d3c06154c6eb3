import TextTemplate.Text.Occurrence

/-!
# What a search finds

The first occurrence of a text is the one with the shortest text before it. Much of what follows
rests on one notion: a search passes over a front if, whatever stands behind that front, the first
occurrence is the first one behind it. A search that passes over a front leaves it alone when it
replaces, and fronts that are passed over can be put together.
-/

set_option autoImplicit false

namespace TextTemplate.Text

/-! ### What a text begins with -/

theorem after?_append (lead rest : Text) : after? lead (lead ++ rest) = some rest := by
  induction lead with
  | nil => rfl
  | cons c lead ih =>
      rw [List.cons_append, after?, if_pos rfl]
      exact ih

theorem after?_eq_none {lead text : Text} (other : ¬lead <+: text) : after? lead text = none := by
  cases begins : after? lead text with
  | none => rfl
  | some rest => exact absurd ⟨rest, (eq_append_of_after? begins).symm⟩ other

/-! ### The first occurrence -/

def inFront (front : Text) (parts : Text × Text) : Text × Text :=
  (front ++ parts.1, parts.2)

private theorem cutFrom_eq_map (needle passed text : Text) :
    cutFrom needle passed text =
      (cut? needle text).map (inFront passed.reverse) := by
  induction text generalizing passed with
  | nil =>
      simp only [cut?, cutFrom]
      cases after? needle [] <;> simp [inFront]
  | cons c text ih =>
      simp only [cut?, cutFrom]
      cases after? needle (c :: text) with
      | some rest => simp [inFront]
      | none =>
          simp only
          rw [ih, ih]
          cases cut? needle text <;> simp [inFront]

theorem cut?_append (needle rest : Text) : cut? needle (needle ++ rest) = some ([], rest) := by
  cases whole : needle ++ rest with
  | nil =>
      obtain ⟨rfl, rfl⟩ := List.append_eq_nil_iff.mp whole
      rfl
  | cons c text =>
      have begins := after?_append needle rest
      rw [whole] at begins
      rw [cut?, cutFrom, begins]
      rfl

theorem cut?_cons {needle text : Text} {c : Char} (other : ¬needle <+: c :: text) :
    cut? needle (c :: text) = (cut? needle text).map (inFront [c]) := by
  rw [cut?, cutFrom, after?_eq_none other]
  exact cutFrom_eq_map needle [c] text

theorem length_le_of_cut? {needle text before rest front back : Text}
    (found : cut? needle text = some (before, rest)) (other : text = front ++ needle ++ back) :
    before.length ≤ front.length := by
  induction front generalizing text before with
  | nil =>
      rw [other, List.nil_append, cut?_append] at found
      cases found
      exact Nat.le_refl 0
  | cons c front ih =>
      by_cases begins : needle <+: text
      · obtain ⟨tail, whole⟩ := begins
        rw [← whole, cut?_append] at found
        cases found
        exact Nat.zero_le _
      · rw [other, List.cons_append, List.cons_append] at begins found
        rw [cut?_cons begins] at found
        obtain ⟨⟨earlier, later⟩, within, equal⟩ := Option.map_eq_some_iff.mp found
        cases equal
        have shorter := ih within rfl
        simp only [List.singleton_append, List.length_cons]
        omega

theorem infix_of_cut? {needle text before rest : Text}
    (found : cut? needle text = some (before, rest)) : needle <:+: text :=
  ⟨before, rest, (eq_append_of_cut? found).symm⟩

theorem cut?_eq_none {needle text : Text} (absent : ¬needle <:+: text) :
    cut? needle text = none := by
  cases found : cut? needle text with
  | none => rfl
  | some parts => exact absurd (infix_of_cut? found) absent

theorem occursIn_append (needle rest : Text) : occursIn needle (needle ++ rest) = true := by
  rw [occursIn, cut?_append]
  rfl

theorem cut?_eq_or_length_lt (needle front back : Text) :
    cut? needle (front ++ needle ++ back) = some (front, back) ∨
      ∃ before rest, cut? needle (front ++ needle ++ back) = some (before, rest) ∧
        before.length < front.length := by
  cases found : cut? needle (front ++ needle ++ back) with
  | none =>
      exfalso
      induction front with
      | nil =>
          rw [List.nil_append, cut?_append] at found
          cases found
      | cons c front ih =>
          by_cases begins : needle <+: c :: (front ++ needle ++ back)
          · obtain ⟨tail, whole⟩ := begins
            rw [List.cons_append, List.cons_append, ← whole, cut?_append] at found
            cases found
          · rw [List.cons_append, List.cons_append, cut?_cons begins] at found
            exact ih (Option.map_eq_none_iff.mp found)
  | some parts =>
      obtain ⟨before, rest⟩ := parts
      have atMost := length_le_of_cut? found rfl
      have whole := eq_append_of_cut? found
      rcases Nat.lt_or_eq_of_le atMost with earlier | same
      · exact Or.inr ⟨before, rest, rfl, earlier⟩
      · rw [List.append_assoc, List.append_assoc] at whole
        obtain ⟨equalFront, equalTail⟩ := List.append_inj whole same.symm
        left
        rw [equalFront, List.append_cancel_left equalTail]

theorem not_infix_of_cut?_eq_none {needle text : Text} (absent : cut? needle text = none) :
    ¬needle <:+: text := by
  rintro ⟨front, back, rfl⟩
  rcases cut?_eq_or_length_lt needle front back with first | ⟨before, rest, first, _⟩
  · rw [absent] at first
    cases first
  · rw [absent] at first
    cases first

/-- An occurrence is the one found unless another begins before it, so what stands behind it is
behind the one found. -/
theorem suffix_of_cut? {needle text before inside front behind : Text}
    (found : cut? needle text = some (before, inside)) (other : text = front ++ needle ++ behind) :
    behind <:+ inside := by
  have earlier := length_le_of_cut? found other
  have split := eq_append_of_cut? found
  have inText : inside <:+ text := ⟨before ++ needle, split.symm⟩
  have behindText : behind <:+ text := ⟨front ++ needle, other.symm⟩
  have lengths := congrArg List.length split
  have others := congrArg List.length other
  simp only [List.length_append] at lengths others
  exact List.suffix_of_suffix_length_le behindText inText (by omega)

/-! ### Passing over a front -/

/-- A search for `needle` passes over `front`: the first occurrence is never in it. -/
def Passes (needle front : Text) : Prop :=
  ∀ rest, cut? needle (front ++ rest) = (cut? needle rest).map (inFront front)

namespace Passes

variable {needle front : Text}

theorem nil (needle : Text) : Passes needle [] := by
  intro rest
  cases found : cut? needle rest with
  | none => simp [found]
  | some parts => simp [found, inFront]

theorem append {later : Text} (first : Passes needle front) (second : Passes needle later) :
    Passes needle (front ++ later) := by
  intro rest
  rw [List.append_assoc, first, second]
  cases cut? needle rest <;> simp [inFront]

theorem of_not_mem {c : Char} {needle front : Text} (absent : c ∉ front) :
    Passes (c :: needle) front := by
  induction front with
  | nil => exact nil _
  | cons d front ih =>
      have different : c ≠ d := fun same => absent (same ▸ List.mem_cons_self)
      have single : Passes (c :: needle) [d] := by
        intro rest
        apply cut?_cons
        intro begins
        exact different (List.cons_prefix_cons.mp begins).1
      exact append single (ih fun present => absent (List.mem_cons_of_mem d present))

theorem cut?_cons {c : Char} {rest : Text} (passes : Passes needle front)
    (other : ¬needle <+: c :: (front ++ rest)) :
    cut? needle (c :: (front ++ rest)) = (cut? needle rest).map (inFront (c :: front)) := by
  rw [Text.cut?_cons other, passes, Option.map_map]
  rfl

theorem cut?_eq (passes : Passes needle front) (rest : Text) :
    cut? needle (front ++ needle ++ rest) = some (front, rest) := by
  rw [List.append_assoc, passes, cut?_append]
  simp [inFront]

theorem occursIn_eq (passes : Passes needle front) (rest : Text) :
    occursIn needle (front ++ rest) = occursIn needle rest := by
  rw [occursIn, occursIn, passes, Option.isSome_map]

end Passes

/-- A search passes over the text, whatever begins with `lead` is searched for. -/
def Clear (lead text : Text) : Prop :=
  ∀ behind, Passes (lead ++ behind) text

theorem Clear.append {lead front later : Text} (first : Clear lead front)
    (second : Clear lead later) : Clear lead (front ++ later) :=
  fun behind => (first behind).append (second behind)

theorem Clear.passes {lead text : Text} (clear : Clear lead text) : Passes lead text := by
  have passes := clear []
  rwa [List.append_nil] at passes

/-! ### Replacing every occurrence -/

theorem replaceAll_eq {needle : Text} (notEmpty : needle ≠ []) (replacement text : Text) :
    replaceAll needle replacement text =
      match cut? needle text with
      | none => text
      | some (before, rest) => before ++ replacement ++ replaceAll needle replacement rest := by
  rw [replaceAll, if_neg (by simpa using notEmpty)]
  split <;> simp_all

theorem replaceAll_of_cut?_eq_none {needle text : Text} (absent : cut? needle text = none)
    (replacement : Text) : replaceAll needle replacement text = text := by
  rw [replaceAll]
  split
  · rfl
  · split
    · rfl
    · next found =>
        rw [absent] at found
        cases found

theorem replaceAll_of_not_occursIn {needle text : Text} (missing : ¬occursIn needle text = true)
    (replacement : Text) : replaceAll needle replacement text = text := by
  apply replaceAll_of_cut?_eq_none
  simpa [occursIn] using missing

theorem replaceAll_of_absent {needle text : Text} (absent : ¬needle <:+: text)
    (replacement : Text) : replaceAll needle replacement text = text :=
  replaceAll_of_cut?_eq_none (cut?_eq_none absent) replacement

theorem replaceAll_append {needle : Text} (notEmpty : needle ≠ []) (replacement rest : Text) :
    replaceAll needle replacement (needle ++ rest) =
      replacement ++ replaceAll needle replacement rest := by
  rw [replaceAll_eq notEmpty, cut?_append]
  rfl

theorem Passes.replaceAll_eq {needle front : Text} (passes : Passes needle front)
    (notEmpty : needle ≠ []) (replacement rest : Text) :
    replaceAll needle replacement (front ++ rest) =
      front ++ replaceAll needle replacement rest := by
  rw [Text.replaceAll_eq notEmpty, Text.replaceAll_eq notEmpty, passes]
  cases cut? needle rest <;> simp [inFront]

/-! ### Line breaks at the front -/

theorem mem_leadingBreaks {text : Text} {c : Char} (present : c ∈ leadingBreaks text) :
    c = '\n' := by
  have breaks := List.all_eq_true.mp (List.all_takeWhile (p := (· == '\n')) (l := text))
  exact eq_of_beq (breaks c present)

theorem head?_dropBreaks_ne (text : Text) : (dropBreaks text).head? ≠ some '\n' := by
  intro begins
  have other := List.head?_dropWhile_not (· == '\n') text
  rw [dropBreaks] at begins
  rw [begins] at other
  cases other

theorem breaks_append {breaks rest : Text} (each : ∀ c ∈ breaks, c = '\n')
    (noBreak : rest.head? ≠ some '\n') :
    leadingBreaks (breaks ++ rest) = breaks ∧ dropBreaks (breaks ++ rest) = rest := by
  have all : ∀ c ∈ breaks, (c == '\n') = true := fun c among => beq_iff_eq.mpr (each c among)
  rw [leadingBreaks, dropBreaks, List.takeWhile_append_of_pos all, List.dropWhile_append_of_pos all]
  cases rest with
  | nil => exact ⟨List.append_nil breaks, rfl⟩
  | cons c rest =>
      have other : ¬(c == '\n') = true := fun same => noBreak (congrArg some (eq_of_beq same))
      rw [List.takeWhile_cons_of_neg (p := (· == '\n')) other,
        List.dropWhile_cons_of_neg (p := (· == '\n')) other]
      exact ⟨List.append_nil breaks, rfl⟩

end TextTemplate.Text
