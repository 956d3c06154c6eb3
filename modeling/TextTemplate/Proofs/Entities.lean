import TextTemplate.Proofs.Escaping
import TextTemplate.Proofs.Overlap

/-!
# Entities and what they stand for

No entity is the beginning of another, and each has its only ampersand in front. So a pass over an
escaped text can tell at every ampersand which character was written there, whatever stands behind
it, and turns the text back into the one it came from. For the same reason the five characters may
be replaced one after the other, as long as the ampersand comes first: no later replacement finds
anything in a text that an earlier one put in.
-/

set_option autoImplicit false

namespace TextTemplate.Markup

def ampersand : Char × Text :=
  ('&', "&amp;".toList)

def laterEntities : List (Char × Text) :=
  [('<', "&lt;".toList), ('>', "&gt;".toList), ('"', "&quot;".toList), ('\'', "&#039;".toList)]

/-- The characters that have entities, and the entities. -/
def entities : List (Char × Text) :=
  ampersand :: laterEntities

def atEntity? (text : Text) : Option (Char × Text) :=
  entities.findSome? fun named => (Text.after? named.2 text).map (named.1, ·)

def BeginsEntity (text : Text) : Prop :=
  ∃ named ∈ entities, named.2 <+: text

variable {c : Char} {written text rest : Text}

/-! ### The entities -/

private theorem entity_cases (c : Char) :
    (c, entity c) ∈ entities ∨ (∀ named ∈ entities, named.1 ≠ c) ∧ entity c = [c] := by
  unfold entity
  split
  case h_6 => right; simp_all [entities, ampersand, laterEntities, eq_comm]
  all_goals left; decide

private theorem entity_of_mem : ∀ named ∈ entities, entity named.1 = named.2 := by
  decide

private theorem entities_prefixFree :
    ∀ named ∈ entities, ∀ other ∈ entities, named.2 <+: other.2 → named = other := by
  decide

private theorem exists_eq_ampersand_cons {named : Char × Text} (among : named ∈ entities) :
    ∃ behind, named.2 = '&' :: behind ∧ '&' ∉ behind := by
  have shape : ∀ named ∈ entities, named.2 = '&' :: named.2.tail ∧ '&' ∉ named.2.tail := by decide
  exact ⟨named.2.tail, shape named among⟩

private theorem eq_of_begins {named other : Char × Text} (among : named ∈ entities)
    (otherAmong : other ∈ entities) (begins : named.2 <+: text) (otherBegins : other.2 <+: text) :
    named = other := by
  rcases List.prefix_or_prefix_of_prefix begins otherBegins with shorter | longer
  · exact entities_prefixFree named among other otherAmong shorter
  · exact (entities_prefixFree other otherAmong named among longer).symm

private theorem atEntity?_eq_some {found : Char × Text} (taken : atEntity? text = some found) :
    ∃ named ∈ entities, text = named.2 ++ found.2 ∧ found.1 = named.1 := by
  obtain ⟨named, among, begins⟩ := List.exists_of_findSome?_eq_some taken
  obtain ⟨behind, after, rfl⟩ := Option.map_eq_some_iff.mp begins
  exact ⟨named, among, Text.eq_append_of_after? after, rfl⟩

private theorem atEntity?_append (among : (c, written) ∈ entities) (rest : Text) :
    atEntity? (written ++ rest) = some (c, rest) := by
  cases taken : atEntity? (written ++ rest) with
  | none =>
      have absent := List.findSome?_eq_none_iff.mp taken (c, written) among
      rw [Text.after?_append] at absent
      cases absent
  | some found =>
      obtain ⟨d, behind⟩ := found
      obtain ⟨named, namedAmong, whole, rfl⟩ := atEntity?_eq_some taken
      have same : named = (c, written) :=
        eq_of_begins namedAmong among ⟨behind, whole.symm⟩ (List.prefix_append written rest)
      subst same
      rw [List.append_cancel_left whole]

private theorem atEntity?_eq_none (other : c ≠ '&') (rest : Text) :
    atEntity? (c :: rest) = none := by
  cases taken : atEntity? (c :: rest) with
  | none => rfl
  | some found =>
      obtain ⟨named, among, whole, _⟩ := atEntity?_eq_some taken
      obtain ⟨behind, shape, _⟩ := exists_eq_ampersand_cons among
      rw [shape, List.cons_append] at whole
      exact absurd (List.cons.inj whole).1 other

/-! ### Turning entities back -/

private theorem length_lt_of_atEntity? {found : Char × Text} (taken : atEntity? text = some found) :
    found.2.length < text.length := by
  obtain ⟨named, among, whole, _⟩ := atEntity?_eq_some taken
  obtain ⟨behind, shape, _⟩ := exists_eq_ampersand_cons among
  rw [whole, shape, List.cons_append, List.length_cons, List.length_append]
  omega

/-- One pass from the left that puts the characters back for their entities. -/
def unescape : Text → Text
  | [] => []
  | c :: text =>
      match _taken : atEntity? (c :: text) with
      | some (meant, rest) => meant :: unescape rest
      | none => c :: unescape text
  termination_by text => text.length
  decreasing_by
    · exact length_lt_of_atEntity? _taken
    · exact Nat.lt_succ_self text.length

private theorem unescape_of_entity (among : (c, written) ∈ entities) (rest : Text) :
    unescape (written ++ rest) = c :: unescape rest := by
  have taken := atEntity?_append among rest
  obtain ⟨behind, shape, _⟩ := exists_eq_ampersand_cons among
  change written = '&' :: behind at shape
  rw [shape, List.cons_append] at taken ⊢
  rw [unescape]
  split
  · next found =>
      rw [taken] at found
      cases found
      rfl
  · next absent =>
      rw [taken] at absent
      cases absent

private theorem unescape_cons (other : c ≠ '&') (rest : Text) :
    unescape (c :: rest) = c :: unescape rest := by
  rw [unescape]
  split
  · next found =>
      rw [atEntity?_eq_none other] at found
      cases found
  · rfl

private theorem unescape_entity_append (c : Char) (rest : Text) :
    unescape (entity c ++ rest) = c :: unescape rest := by
  rcases entity_cases c with among | ⟨other, itself⟩
  · exact unescape_of_entity among rest
  · have notAmpersand : c ≠ '&' := (other ampersand List.mem_cons_self).symm
    rw [itself]
    exact unescape_cons notAmpersand rest

private theorem unescape_escape (text : Text) : unescape (escape text) = text := by
  induction text with
  | nil => rw [escape, List.flatMap_nil, unescape]
  | cons c text ih =>
      rw [escape, List.flatMap_cons, unescape_entity_append]
      exact congrArg (c :: ·) ih

/-! ### Ampersands -/

private theorem ampersand_in_entity {before behind : Text}
    (split : entity c = before ++ '&' :: behind) :
    before = [] ∧ (c, entity c) ∈ entities := by
  rcases entity_cases c with among | ⟨other, itself⟩
  · refine ⟨?_, among⟩
    obtain ⟨tail, shape, single⟩ := exists_eq_ampersand_cons among
    change entity c = '&' :: tail at shape
    cases before with
    | nil => rfl
    | cons d before =>
        rw [shape, List.cons_append] at split
        exact absurd (by rw [(List.cons.inj split).2]; simp) single
  · exfalso
    rw [itself] at split
    cases before with
    | nil => exact other ampersand List.mem_cons_self (List.cons.inj split).1.symm
    | cons d before => cases before <;> cases split

private theorem beginsEntity_of_escape {before after : Text}
    (split : escape text = before ++ '&' :: after) : BeginsEntity ('&' :: after) := by
  induction text generalizing before with
  | nil => cases before <;> cases split
  | cons c text ih =>
      rw [escape, List.flatMap_cons] at split
      rcases List.append_eq_append_iff.mp split with ⟨middle, _, later⟩ | ⟨middle, inside, behind⟩
      · exact ih later
      · cases middle with
        | nil => exact @ih [] behind.symm
        | cons d middle =>
            rw [List.cons_append] at behind
            obtain ⟨rfl, tail⟩ := List.cons.inj behind
            obtain ⟨rfl, among⟩ := ampersand_in_entity inside
            rw [List.nil_append] at inside
            exact ⟨(c, entity c), among, escape text, by rw [tail, inside]; rfl⟩

/-- An escaped text has no character of markup, and no ampersand but those that entities begin with;
and what it was escaped from can be read off it. -/
theorem escape_safe_and_lossless :
    (∀ text, (∀ c ∈ escape text, c ∉ special) ∧
      (∀ before after, escape text = before ++ '&' :: after → BeginsEntity ('&' :: after)) ∧
      unescape (escape text) = text) ∧
    Function.Injective escape := by
  constructor
  · intro text
    refine ⟨?_, fun _ _ => beginsEntity_of_escape, unescape_escape text⟩
    intro c present
    obtain ⟨d, _, inEntity⟩ := List.mem_flatMap.mp present
    exact entity_plain d c inEntity
  · exact Function.LeftInverse.injective unescape_escape

/-! ### One character after the other -/

/-- Replace characters one after the other, each wherever it then stands. -/
def replaceEach (steps : List (Char × Text)) (text : Text) : Text :=
  steps.foldl (fun text step => Text.replaceAll [step.1] step.2 text) text

def standing (steps : List (Char × Text)) (c : Char) : Text :=
  ((steps.find? fun step => step.1 = c).map Prod.snd).getD [c]

/-- No step finds anything in a text that an earlier one put in. -/
def Undisturbed (steps : List (Char × Text)) : Prop :=
  steps.Pairwise fun earlier later => later.1 ∉ earlier.2

variable {steps order : List (Char × Text)}

private theorem replaceAll_singleton (c : Char) (replacement text : Text) :
    Text.replaceAll [c] replacement text = text.flatMap (standing [(c, replacement)]) := by
  have notEmpty : [c] ≠ [] := List.cons_ne_nil c []
  induction text with
  | nil => exact Text.replaceAll_nil notEmpty replacement
  | cons d text ih =>
      rw [List.flatMap_cons, ← ih]
      by_cases same : c = d
      · subst same
        have replaced : standing [(c, replacement)] c = replacement := by simp [standing]
        rw [replaced]
        exact Text.replaceAll_append notEmpty replacement text
      · have kept : standing [(c, replacement)] d = [d] := by simp [standing, same]
        have other : ¬[c] <+: d :: text := fun begins => same (List.cons_prefix_cons.mp begins).1
        rw [kept]
        exact Text.replaceAll_cons notEmpty other replacement

private theorem standing_of_absent (absent : ∀ step ∈ steps, step.1 ≠ c) :
    standing steps c = [c] := by
  have missing : steps.find? (fun step => step.1 = c) = none := by simpa using absent
  rw [standing, missing]
  rfl

private theorem standing_of_mem (single : ∀ step ∈ steps, step.1 = c → step.2 = written)
    (among : (c, written) ∈ steps) : standing steps c = written := by
  unfold standing
  cases found : steps.find? fun step => step.1 = c with
  | none => simpa using List.find?_eq_none.mp found (c, written) among
  | some step =>
      have forIt : step.1 = c := by simpa using List.find?_some found
      exact single step (List.mem_of_find?_eq_some found) forIt

private theorem flatMap_standing_of_absent (absent : ∀ step ∈ steps, step.1 ∉ text) :
    text.flatMap (standing steps) = text := by
  induction text with
  | nil => rfl
  | cons c text ih =>
      have kept : standing steps c = [c] :=
        standing_of_absent fun step among same => absent step among (same ▸ List.mem_cons_self)
      have rest := ih fun step among later => absent step among (List.mem_cons_of_mem c later)
      rw [List.flatMap_cons, kept, rest, List.singleton_append]

private theorem standing_cons (step : Char × Text) (absent : ∀ later ∈ steps, later.1 ∉ step.2)
    (c : Char) : (standing [step] c).flatMap (standing steps) = standing (step :: steps) c := by
  by_cases same : step.1 = c
  · have first : ∀ others, standing (step :: others) c = step.2 := by simp [standing, same]
    rw [first, first, flatMap_standing_of_absent absent]
  · have kept : standing [step] c = [c] := by simp [standing, same]
    have further : standing (step :: steps) c = standing steps c := by simp [standing, same]
    rw [kept, further, List.flatMap_singleton]

private theorem replaceEach_eq_flatMap (undisturbed : Undisturbed steps) (text : Text) :
    replaceEach steps text = text.flatMap (standing steps) := by
  induction steps generalizing text with
  | nil => exact (flatMap_standing_of_absent fun _ among => absurd among List.not_mem_nil).symm
  | cons step steps ih =>
      obtain ⟨absent, rest⟩ := List.pairwise_cons.mp undisturbed
      calc replaceEach (step :: steps) text
          = replaceEach steps (Text.replaceAll [step.1] step.2 text) := rfl
        _ = (text.flatMap (standing [step])).flatMap (standing steps) := by
            rw [replaceAll_singleton, ih rest]
        _ = text.flatMap fun c => (standing [step] c).flatMap (standing steps) :=
            List.flatMap_assoc
        _ = text.flatMap (standing (step :: steps)) := by
            simp only [standing_cons step absent]

private theorem undisturbed_of_perm (perm : order.Perm laterEntities) :
    Undisturbed (ampersand :: order) := by
  have first : ∀ later ∈ laterEntities, later.1 ∉ ampersand.2 := by decide
  have others : ∀ earlier ∈ laterEntities, ∀ later ∈ laterEntities, later.1 ∉ earlier.2 := by decide
  refine List.pairwise_cons.mpr ⟨fun later among => first later (perm.mem_iff.mp among), ?_⟩
  refine List.pairwise_of_forall_mem_list fun earlier among later laterAmong => ?_
  exact others earlier (perm.mem_iff.mp among) later (perm.mem_iff.mp laterAmong)

private theorem standing_of_perm (perm : order.Perm laterEntities) (c : Char) :
    standing (ampersand :: order) c = entity c := by
  have members : ∀ named, named ∈ ampersand :: order ↔ named ∈ entities :=
    fun named => (perm.cons ampersand).mem_iff
  rcases entity_cases c with among | ⟨other, itself⟩
  · refine standing_of_mem (fun named isStep same => ?_) ((members _).mpr among)
    rw [← same]
    exact (entity_of_mem named ((members named).mp isStep)).symm
  · rw [itself]
    exact standing_of_absent fun named isStep => other named ((members named).mp isStep)

/-- Ampersands replaced first, and then the other four characters one after the other in whatever
order: that is escaping. -/
theorem replacements_in_any_order_escape (perm : order.Perm laterEntities) (text : Text) :
    replaceEach (ampersand :: order) text = escape text := by
  have pointwise : standing (ampersand :: order) = entity := funext (standing_of_perm perm)
  rw [replaceEach_eq_flatMap (undisturbed_of_perm perm), pointwise, escape]

/-- Entities and parts of entities among the characters, and the four in the reverse order. -/
theorem replacements_in_reverse_order_escape :
    laterEntities.reverse.Perm laterEntities ∧
      replaceEach (ampersand :: laterEntities.reverse) "&lt;<&\"amp;'>".toList =
        "&amp;lt;&lt;&amp;&quot;amp;&#039;&gt;".toList := by
  have perm : laterEntities.reverse.Perm laterEntities := List.reverse_perm laterEntities
  exact ⟨perm, replacements_in_any_order_escape perm "&lt;<&\"amp;'>".toList⟩

end TextTemplate.Markup
