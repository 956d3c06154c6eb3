import TextTemplate.Proofs.Session

/-!
# Spellings of a path

Paths with the same parts share an entry of the cache, but each names its file by its text, with a
dot and the extension behind it. A separator or a dot that made no difference at the end of the path
then stands inside a path or begins a name. So two spellings name one file exactly if they end alike,
and requests for several paths are all served as by a fresh load, whatever is stored, exactly if
those of them that share an entry do.
-/

set_option autoImplicit false

namespace TextTemplate
namespace Path

/-! ### Segments -/

private theorem segmentsFrom_ne_nil (current text : Text) : segmentsFrom current text ≠ [] := by
  induction text generalizing current with
  | nil => exact List.cons_ne_nil _ _
  | cons c text ih =>
      rw [segmentsFrom]
      split
      · exact List.cons_ne_nil _ _
      · exact ih _

private theorem segments_ne_nil (path : Text) : segments path ≠ [] :=
  segmentsFrom_ne_nil [] path

def ending (path : Text) : Text :=
  (segments path).getLast (segments_ne_nil path)

private theorem dropLast_append_ending (path : Text) :
    (segments path).dropLast ++ [ending path] = segments path :=
  List.dropLast_concat_getLast (segments_ne_nil path)

private theorem segmentsFrom_eq (text : Text) :
    ∃ first rest, ∀ current, segmentsFrom current text = (current.reverse ++ first) :: rest := by
  induction text with
  | nil => exact ⟨[], [], fun current => by simp [segmentsFrom]⟩
  | cons c text ih =>
      obtain ⟨first, rest, equal⟩ := ih
      by_cases separator : c = '/'
      · exact ⟨[], segmentsFrom [] text, fun current => by simp [segmentsFrom, separator]⟩
      · exact ⟨c :: first, rest, fun current => by simp [segmentsFrom, separator, equal]⟩

private theorem segmentsFrom_append (current front back : Text) :
    segmentsFrom current (front ++ back) =
      (segmentsFrom current front).dropLast ++
        segmentsFrom ((segmentsFrom current front).getLast
          (segmentsFrom_ne_nil current front)).reverse back := by
  induction front generalizing current with
  | nil => simp [segmentsFrom]
  | cons c front ih =>
      have more := segmentsFrom_ne_nil [] front
      by_cases separator : c = '/'
      · simp [segmentsFrom, separator, ih, List.dropLast_cons_of_ne_nil more,
          List.getLast_cons more]
      · simp [segmentsFrom, separator, ih]

private theorem segments_withExtension (extension : Text) :
    ∃ first rest, ∀ path, segments (withExtension path extension) =
      (segments path).dropLast ++ (ending path ++ '.' :: first) :: rest := by
  obtain ⟨first, rest, equal⟩ := segmentsFrom_eq extension
  refine ⟨first, rest, fun path => ?_⟩
  have begun : segmentsFrom (ending path).reverse ('.' :: extension) =
      segmentsFrom ('.' :: (ending path).reverse) extension := rfl
  rw [segments, withExtension, segmentsFrom_append]
  change _ ++ segmentsFrom (ending path).reverse ('.' :: extension) = _
  rw [begun, equal]
  simp [segments]

private theorem eq_of_segmentsFrom {current text only : Text}
    (single : segmentsFrom current text = [only]) : only = current.reverse ++ text := by
  induction text generalizing current with
  | nil => simpa [segmentsFrom] using single.symm
  | cons c text ih =>
      by_cases separator : c = '/'
      · simp [segmentsFrom, separator, segmentsFrom_ne_nil] at single
      · simp only [segmentsFrom, if_neg separator] at single
        simpa using ih single

/-! ### Parts -/

private theorem partOf?_eq_none_iff (segment : Text) :
    partOf? segment = none ↔ segment = [] ∨ segment = ['.'] := by
  unfold partOf?
  split
  · next noPart => exact iff_of_true rfl noPart
  · next other =>
      refine iff_of_false ?_ other
      split <;> exact Option.some_ne_none _

private theorem partText_of_partOf? {segment : Text} {part : PathPart}
    (stands : partOf? segment = some part) : partText part = segment := by
  unfold partOf? at stands
  split at stands
  · cases stands
  · split at stands
    · next up =>
        cases stands
        exact up.symm
    · cases stands
      rfl

private theorem partOf?_ne_here (segment : Text) : partOf? segment ≠ some .here := by
  intro stands
  have dot : segment = ['.'] := (partText_of_partOf? stands).symm
  rw [dot] at stands
  cases stands

private theorem eq_or_of_partOf?_eq {first second : Text} (same : partOf? first = partOf? second) :
    first = second ∨ partOf? first = none ∧ partOf? second = none := by
  cases stands : partOf? first with
  | none => exact Or.inr ⟨rfl, same.symm.trans stands⟩
  | some part =>
      left
      calc first = partText part := (partText_of_partOf? stands).symm
        _ = second := partText_of_partOf? (same.symm.trans stands)

/-- The parts that do not come from a segment of their own. -/
def lead (path : Text) : List PathPart :=
  if isAbsolute path then [.root]
  else if (segments path).head? = some ['.'] then [.here]
  else []

/-- The parts in front of the last separator. -/
def stem (path : Text) : List PathPart :=
  lead path ++ (segments path).dropLast.filterMap partOf?

private theorem parts_eq_lead_append (path : Text) :
    parts path = lead path ++ (segments path).filterMap partOf? := by
  unfold parts lead
  split
  · rfl
  · split
    · next others equal => simp [equal, partOf?]
    · next noDot =>
        have other : (segments path).head? ≠ some ['.'] := by
          intro dot
          obtain ⟨others, equal⟩ := List.head?_eq_some_iff.mp dot
          exact noDot others equal
        rw [if_neg other]
        rfl

private theorem filterMap_partOf?_cons (segment : Text) (others : List Text) :
    (segment :: others).filterMap partOf? =
      (partOf? segment).toList ++ others.filterMap partOf? := by
  cases stands : partOf? segment with
  | none => simp [stands]
  | some part => simp [stands]

private theorem parts_eq (path : Text) :
    parts path = stem path ++ (partOf? (ending path)).toList := by
  have whole := congrArg (List.filterMap partOf?) (dropLast_append_ending path)
  rw [List.filterMap_append, filterMap_partOf?_cons, List.filterMap_nil, List.append_nil] at whole
  rw [parts_eq_lead_append, stem, List.append_assoc, whole]

private theorem parts_ne_nil {path : Text} (nonempty : path ≠ []) : parts path ≠ [] := by
  obtain ⟨c, others, rfl⟩ := List.exists_cons_of_ne_nil nonempty
  obtain ⟨first, rest, equal⟩ := segmentsFrom_eq others
  rw [parts_eq_lead_append]
  by_cases separator : c = '/'
  · simp [lead, isAbsolute, separator]
  · have segmented : segments (c :: others) = (c :: first) :: rest := by
      simp [segments, segmentsFrom, separator, equal]
    rw [segmented, filterMap_partOf?_cons]
    cases stands : partOf? (c :: first) with
    | some part => simp
    | none =>
        have dot := ((partOf?_eq_none_iff _).mp stands).resolve_left (List.cons_ne_nil c first)
        simp [lead, isAbsolute, separator, segmented, dot]

/-! ### Files -/

private theorem lead_withExtension {path : Text} (extension : Text) (nonempty : path ≠ []) :
    lead (withExtension path extension) = if path = ['.'] then [] else lead path := by
  obtain ⟨first, rest, segmented⟩ := segments_withExtension extension
  have absolute : isAbsolute (withExtension path extension) = isAbsolute path := by
    obtain ⟨c, others, rfl⟩ := List.exists_cons_of_ne_nil nonempty
    rfl
  have whole := dropLast_append_ending path
  unfold lead
  rw [absolute, segmented]
  cases inner : (segments path).dropLast with
  | nil =>
      rw [inner] at whole
      have alone : ending path = path := eq_of_segmentsFrom whole.symm
      have longer : path ++ '.' :: first ≠ ['.'] := by
        intro equal
        have lengths := congrArg List.length equal
        have positive := List.length_pos_iff.mpr nonempty
        simp only [List.length_append, List.length_cons, List.length_nil] at lengths
        omega
      rw [← whole, alone]
      by_cases dot : path = ['.']
      · subst dot
        simp [isAbsolute]
      · simp [longer, dot]
  | cons segment others =>
      rw [inner] at whole
      have notDot : path ≠ ['.'] := by
        rintro rfl
        cases inner
      rw [← whole, if_neg notDot]
      rfl

private theorem parts_withExtension_eq (extension : Text) :
    ∃ first rest, ∀ path, path ≠ [] → parts (withExtension path extension) =
      (if path = ['.'] then [] else stem path) ++
        (partOf? (ending path ++ '.' :: first)).toList ++ rest := by
  obtain ⟨first, rest, segmented⟩ := segments_withExtension extension
  refine ⟨first, rest.filterMap partOf?, fun path nonempty => ?_⟩
  rw [parts_eq_lead_append, lead_withExtension extension nonempty, segmented, List.filterMap_append,
    filterMap_partOf?_cons, ← List.append_assoc, ← List.append_assoc]
  by_cases dot : path = ['.']
  · subst dot
    rfl
  · rw [if_neg dot, if_neg dot, stem]

/-- The same stands behind the last separator. Only a single dot ends like a single dot. -/
structure EndAlike (path other : Text) : Prop where
  behind : ending path = ending other
  dot : path = ['.'] ↔ other = ['.']

section

variable {front back : List PathPart} {segment other first : Text}

private theorem eq_nil_of_partOf?_eq_none (nothing : partOf? (segment ++ '.' :: first) = none) :
    segment = [] := by
  rcases (partOf?_eq_none_iff _).mp nothing with empty | dot
  · simp at empty
  · have lengths := congrArg List.length dot
    simp only [List.length_append, List.length_cons, List.length_nil] at lengths
    exact List.length_eq_zero_iff.mp (by omega)

private theorem files_ne_of_part {part : PathPart} (stands : partOf? segment = some part)
    (nothing : partOf? other = none)
    (same : front ++ (partOf? segment).toList = back ++ (partOf? other).toList) :
    front ++ (partOf? (segment ++ '.' :: first)).toList ≠
      back ++ (partOf? (other ++ '.' :: first)).toList := by
  intro files
  have split : back = front ++ [part] := by
    rw [stands, nothing] at same
    simpa using same.symm
  rw [split, List.append_assoc] at files
  have named := List.append_cancel_left files
  cases appears : partOf? (segment ++ '.' :: first) with
  | none => simp [appears] at named
  | some later =>
      have equal : later = part := by
        rw [appears] at named
        exact (List.cons.inj named).1
      have unchanged : segment ++ '.' :: first = segment := by
        rw [← partText_of_partOf? appears, equal, partText_of_partOf? stands]
      simp at unchanged

private theorem ending_eq_of_files_eq
    (same : front ++ (partOf? segment).toList = back ++ (partOf? other).toList)
    (files : front ++ (partOf? (segment ++ '.' :: first)).toList =
      back ++ (partOf? (other ++ '.' :: first)).toList) : segment = other := by
  cases one : partOf? segment with
  | none =>
      cases two : partOf? other with
      | some part => exact absurd files.symm (files_ne_of_part two one same.symm)
      | none =>
          have fronts : front = back := by simpa [one, two] using same
          rw [fronts] at files
          have named : partOf? (segment ++ '.' :: first) = partOf? (other ++ '.' :: first) := by
            simpa using congrArg List.head? (List.append_cancel_left files)
          rcases eq_or_of_partOf?_eq named with equal | ⟨noFirst, noSecond⟩
          · exact List.append_cancel_right equal
          · rw [eq_nil_of_partOf?_eq_none noFirst, eq_nil_of_partOf?_eq_none noSecond]
  | some part =>
      cases two : partOf? other with
      | none => exact absurd files (files_ne_of_part one two same)
      | some second =>
          rw [one, two] at same
          have equal := (List.append_inj' same rfl).2
          rw [← partText_of_partOf? one, ← partText_of_partOf? two, (List.cons.inj equal).1]

/-- A dot that is a part stays in front of a name, but is lost where the name begins with it. -/
private theorem files_ne_of_here {named : Text} {rest : List PathPart} (dots : partOf? named ≠ none)
    (same : [PathPart.here] = front ++ (partOf? segment).toList) :
    (partOf? named).toList ++ rest ≠ front ++ (partOf? other).toList ++ rest := by
  intro files
  obtain ⟨part, stands⟩ := Option.ne_none_iff_exists'.mp dots
  have short := List.append_cancel_right files
  rw [stands] at short
  cases front with
  | nil =>
      cases alone : partOf? segment with
      | none => simp [alone] at same
      | some single =>
          rw [alone] at same
          have equal := (List.cons.inj same).1
          exact partOf?_ne_here segment (alone.trans (congrArg some equal.symm))
  | cons begins front =>
      have here := (List.cons.inj same).1
      have equal : part = begins := (List.cons.inj short).1
      exact partOf?_ne_here named (stands.trans (congrArg some (equal.trans here.symm)))

end

private theorem dot_file_ne {other : Text} (notDot : other ≠ ['.']) (nonempty : other ≠ [])
    (same : parts ['.'] = parts other) (extension : Text) :
    parts (withExtension ['.'] extension) ≠ parts (withExtension other extension) := by
  obtain ⟨first, rest, files⟩ := parts_withExtension_eq extension
  rw [files _ (List.cons_ne_nil _ _), files _ nonempty, if_pos rfl, if_neg notDot]
  have dots : partOf? (ending ['.'] ++ '.' :: first) ≠ none := by
    rw [Ne, partOf?_eq_none_iff]
    simp [ending, segments, segmentsFrom]
  rw [parts_eq other] at same
  exact files_ne_of_here dots same

private theorem parts_withExtension_iff {path other : Text} (same : parts path = parts other)
    (extension : Text) :
    parts (withExtension path extension) = parts (withExtension other extension) ↔
      EndAlike path other := by
  by_cases equal : path = other
  · subst equal
    exact iff_of_true rfl ⟨rfl, Iff.rfl⟩
  have nonempty : path ≠ [] := by
    rintro rfl
    exact parts_ne_nil (Ne.symm equal) same.symm
  have otherNonempty : other ≠ [] := by
    rintro rfl
    exact parts_ne_nil equal same
  by_cases dot : path = ['.']
  · subst dot
    have different := dot_file_ne (Ne.symm equal) otherNonempty same extension
    exact iff_of_false different fun alike => equal (alike.dot.mp rfl).symm
  by_cases otherDot : other = ['.']
  · subst otherDot
    have different := dot_file_ne dot nonempty same.symm extension
    exact iff_of_false different.symm fun alike => equal (alike.dot.mpr rfl)
  obtain ⟨first, rest, files⟩ := parts_withExtension_eq extension
  rw [files path nonempty, files other otherNonempty, if_neg dot, if_neg otherDot]
  rw [parts_eq path, parts_eq other] at same
  constructor
  · intro sameFile
    have named := List.append_cancel_right sameFile
    exact ⟨ending_eq_of_files_eq same named, iff_of_false dot otherDot⟩
  · rintro ⟨behind, _⟩
    rw [behind] at same
    rw [behind, List.append_cancel_right same]

end Path

namespace Cache

open Rendering

/-! ### Requests over a storage that stays as it is -/

/-- A loader that finds the same under paths with the same parts. -/
def steady (stored : List PathPart → LoadOutcome) (file : Text) : Rendering LoadOutcome :=
  pure (stored (Path.parts file))

def fresh (stored : List PathPart → LoadOutcome) (extension path : Text) : LoadOutcome :=
  stored (Path.parts (Path.withExtension path extension))

section

variable (stored : List PathPart → LoadOutcome) (extension : Text)

def sources (paths : List Text) : StateT Cache Rendering (List LoadOutcome) :=
  paths.mapM fun path => source (steady stored) path extension

/-- What requests for the paths give, one after the other and from an empty cache. -/
def Serves (paths : List Text) (outcomes : List LoadOutcome) : Prop :=
  ∀ trail, ∃ kept after,
    sources stored extension paths .empty trail = some ((outcomes, kept), after)

structure Step (path : Text) (cache : Cache) (outcome : LoadOutcome) (kept : Cache) : Prop where
  given : outcome = (cache.find? path).elim (fresh stored extension path) .loaded
  retained : ∀ other text, cache.find? other = some text → kept.find? other = some text
  held : ∀ text, outcome = .loaded text → kept.find? path = some text
  added : ∀ other text, kept.find? other = some text → cache.find? other = some text ∨
    Path.parts path = Path.parts other ∧ outcome = .loaded text

end

variable {stored : List PathPart → LoadOutcome} {extension path other text : Text}
variable {paths : List Text} {outcome : LoadOutcome} {outcomes : List LoadOutcome}
variable {cache kept : Cache} {trail after : Trail}

private theorem find?_congr (same : Path.parts path = Path.parts other) :
    cache.find? path = cache.find? other := by
  rw [find?, find?, same]

private theorem find?_insert (path text other : Text) :
    (cache.insert path text).find? other = (cache.find? other).or
      (if Path.parts path = Path.parts other then some text else none) := by
  unfold find? insert
  rw [List.find?_append]
  cases cache.templates.find? (fun entry => entry.1 = Path.parts other) with
  | some entry => rfl
  | none =>
      by_cases same : Path.parts path = Path.parts other
      · simp [same]
      · simp [same]

private theorem step_keep (unknown : cache.find? path = none) :
    Step stored extension path cache (fresh stored extension path)
      (cache.keep path (fresh stored extension path)) := by
  refine ⟨by rw [unknown]; rfl, ?_, ?_, ?_⟩
  · intro other text known
    cases fresh stored extension path with
    | loaded new => simp [keep, find?_insert, known]
    | failed failure => exact known
    | brokenOff => exact known
  · intro text loaded
    simp [loaded, keep, find?_insert, unknown]
  · intro other text held
    cases found : fresh stored extension path with
    | loaded new =>
        rw [found, keep, find?_insert] at held
        rcases Option.or_eq_some_iff.mp held with known | ⟨_, added⟩
        · exact Or.inl known
        · obtain ⟨same, equal⟩ := Option.ite_none_right_eq_some.mp added
          cases equal
          exact Or.inr ⟨same, rfl⟩
    | failed failure =>
        rw [found] at held
        exact Or.inl held
    | brokenOff =>
        rw [found] at held
        exact Or.inl held

private theorem step_of_source (stored : List PathPart → LoadOutcome) (extension path : Text)
    (cache : Cache) (trail : Trail) :
    ∃ outcome kept after, source (steady stored) path extension cache trail =
      some ((outcome, kept), after) ∧ Step stored extension path cache outcome kept := by
  cases known : cache.find? path with
  | some text =>
      refine ⟨.loaded text, cache, trail.note (.cacheHit path), ?_, ?_⟩
      · unfold source
        rw [known]
        rfl
      · refine ⟨by rw [known]; rfl, fun _ _ => id, fun same equal => ?_, fun _ _ => Or.inl⟩
        cases equal
        exact known
  | none =>
      have answer : steady stored (Path.withExtension path extension) =
          pure (fresh stored extension path) := rfl
      refine ⟨fresh stored extension path, cache.keep path (fresh stored extension path),
        trail.note (.cacheMiss path (Path.withExtension path extension)), ?_, step_keep known⟩
      unfold source
      rw [known]
      simp only [answer]
      cases fresh stored extension path with
      | loaded text => rfl
      | failed failure => rfl
      | brokenOff => rfl

/-! ### Several requests -/

private theorem sources_cons_iff :
    sources stored extension (path :: paths) cache trail = some ((outcomes, kept), after) ↔
      ∃ outcome between others,
        (∃ trailBetween, source (steady stored) path extension cache trail =
            some ((outcome, between), trailBetween) ∧
          sources stored extension paths between trailBetween = some ((others, kept), after)) ∧
        outcomes = outcome :: others := by
  rw [sources, List.mapM_cons]
  change (source (steady stored) path extension cache >>= fun first =>
    sources stored extension paths first.2 >>= fun rest =>
      pure (first.1 :: rest.1, rest.2)) trail = _ ↔ _
  constructor
  · intro ran
    obtain ⟨⟨outcome, between⟩, trailBetween, first, more⟩ := bind_eq_some_iff.mp ran
    obtain ⟨⟨others, last⟩, trailLast, rest, ended⟩ := bind_eq_some_iff.mp more
    cases ended
    exact ⟨outcome, between, others, ⟨trailBetween, first, rest⟩, rfl⟩
  · rintro ⟨outcome, between, others, ⟨trailBetween, first, rest⟩, rfl⟩
    exact bind_eq_some_iff.mpr ⟨_, _, first, bind_eq_some_iff.mpr ⟨_, _, rest, rfl⟩⟩

private theorem step_of_source_eq
    (done : source (steady stored) path extension cache trail = some ((outcome, kept), after)) :
    Step stored extension path cache outcome kept := by
  obtain ⟨given, between, last, asked, step⟩ := step_of_source stored extension path cache trail
  rw [asked] at done
  cases done
  exact step

private theorem sources_afresh
    (holds : ∀ path ∈ paths, ∀ text, cache.find? path = some text →
      fresh stored extension path = .loaded text)
    (alike : paths.Pairwise fun path other =>
      Path.parts path = Path.parts other → Path.EndAlike path other) (trail : Trail) :
    ∃ kept after, sources stored extension paths cache trail =
      some ((paths.map (fresh stored extension), kept), after) := by
  induction paths generalizing cache trail with
  | nil => exact ⟨cache, trail, rfl⟩
  | cons path paths ih =>
      obtain ⟨first, others⟩ := List.pairwise_cons.mp alike
      obtain ⟨outcome, between, trailBetween, asked, step⟩ :=
        step_of_source stored extension path cache trail
      have given : outcome = fresh stored extension path := by
        rw [step.given]
        cases known : cache.find? path with
        | none => rfl
        | some text => exact (holds path List.mem_cons_self text known).symm
      have later : ∀ other ∈ paths, ∀ text, between.find? other = some text →
          fresh stored extension other = .loaded text := by
        intro other among text held
        rcases step.added other text held with known | ⟨same, loaded⟩
        · exact holds other (List.mem_cons_of_mem path among) text known
        · have oneFile := (Path.parts_withExtension_iff same extension).mpr (first other among same)
          rw [fresh, ← oneFile, ← loaded, given, fresh]
      obtain ⟨kept, after, rest⟩ := ih later others trailBetween
      refine ⟨kept, after, sources_cons_iff.mpr ⟨outcome, between, _, ⟨_, asked, rest⟩, ?_⟩⟩
      rw [List.map_cons, given]

private theorem fresh_of_held
    (ran : sources stored extension paths cache trail =
      some ((paths.map (fresh stored extension), kept), after))
    (among : other ∈ paths) (known : cache.find? other = some text) :
    fresh stored extension other = .loaded text := by
  induction paths generalizing cache trail with
  | nil => cases among
  | cons path paths ih =>
      obtain ⟨outcome, between, outcomes, ⟨_, asked, rest⟩, whole⟩ := sources_cons_iff.mp ran
      obtain ⟨first, rfl⟩ := List.cons.inj whole
      have step := step_of_source_eq asked
      rcases List.mem_cons.mp among with rfl | later
      · rw [first, step.given, known]
        rfl
      · exact ih rest later (step.retained other text known)

private theorem fresh_of_sublist
    (ran : sources stored extension paths cache trail =
      some ((paths.map (fresh stored extension), kept), after))
    (both : [path, other].Sublist paths) (same : Path.parts path = Path.parts other)
    (loaded : fresh stored extension path = .loaded text) :
    fresh stored extension other = .loaded text := by
  induction paths generalizing cache trail with
  | nil => cases both
  | cons begins paths ih =>
      obtain ⟨outcome, between, outcomes, ⟨_, asked, rest⟩, whole⟩ := sources_cons_iff.mp ran
      obtain ⟨first, rfl⟩ := List.cons.inj whole
      cases both with
      | cons _ later => exact ih rest later
      | cons_cons _ later =>
          have held := (step_of_source_eq asked).held text (first.symm.trans loaded)
          rw [find?_congr same] at held
          exact fresh_of_held rest (List.singleton_sublist.mp later) held

private theorem serves_afresh_iff (extension : Text) (paths : List Text) :
    (∀ stored, Serves stored extension paths (paths.map (fresh stored extension))) ↔
      paths.Pairwise fun path other =>
        Path.parts path = Path.parts other → Path.EndAlike path other := by
  constructor
  · intro serves
    rw [List.pairwise_iff_forall_sublist]
    intro path other both same
    let stored : List PathPart → LoadOutcome := fun file =>
      if file = Path.parts (Path.withExtension path extension) then .loaded [] else .brokenOff
    obtain ⟨kept, after, ran⟩ := serves stored Trail.empty
    have loaded : fresh stored extension other = .loaded [] :=
      fresh_of_sublist ran both same (if_pos rfl)
    apply (Path.parts_withExtension_iff same extension).mp
    by_cases oneFile : Path.parts (Path.withExtension other extension) =
        Path.parts (Path.withExtension path extension)
    · exact oneFile.symm
    · have absent : fresh stored extension other = .brokenOff := if_neg oneFile
      rw [absent] at loaded
      cases loaded
  · intro alike stored trail
    apply sources_afresh _ alike
    intro path among text impossible
    cases impossible

private theorem serves_second_from_first (same : Path.parts path = Path.parts other)
    (loaded : fresh stored extension path = .loaded text) :
    Serves stored extension [path, other] [.loaded text, .loaded text] := by
  intro trail
  obtain ⟨first, between, trailBetween, asked, step⟩ :=
    step_of_source stored extension path .empty trail
  have given : first = .loaded text := step.given.trans loaded
  have held : between.find? other = some text := by
    rw [← find?_congr same]
    exact step.held text given
  obtain ⟨second, kept, after, askedAgain, stepAgain⟩ :=
    step_of_source stored extension other between trailBetween
  have again : second = .loaded text := by
    rw [stepAgain.given, held]
    rfl
  rw [given] at asked
  rw [again] at askedAgain
  exact ⟨kept, after, sources_cons_iff.mpr ⟨_, _, _, ⟨_, asked,
    sources_cons_iff.mpr ⟨_, _, _, ⟨_, askedAgain, rfl⟩, rfl⟩⟩, rfl⟩⟩

/-- Two spellings of a path share an entry, and the one asked for later gets the text of the other.
That is the text of its own file if they end alike: then, and only then, both name one file. Requests
for several paths are served as by fresh loads, whatever is stored, exactly if all those that share
an entry end alike. -/
theorem shared_entry_is_own_file_iff_end_alike (extension : Text) :
    (∀ path other, Path.parts path = Path.parts other →
      (∀ stored text, fresh stored extension path = .loaded text →
        Serves stored extension [path, other] [.loaded text, .loaded text]) ∧
      (Path.parts (Path.withExtension path extension) =
          Path.parts (Path.withExtension other extension) ↔ Path.EndAlike path other)) ∧
    ∀ paths, (∀ stored, Serves stored extension paths (paths.map (fresh stored extension))) ↔
      paths.Pairwise fun path other =>
        Path.parts path = Path.parts other → Path.EndAlike path other :=
  ⟨fun _ _ same => ⟨fun _ _ => serves_second_from_first same,
    Path.parts_withExtension_iff same extension⟩, serves_afresh_iff extension⟩

/-- A separator at the end makes it another file, whose text is given for both. -/
theorem separator_at_end_names_other_file :
    let path : Text := "a/b/".toList
    let other : Text := "a/b".toList
    let stored : List PathPart → LoadOutcome := fun file =>
      if file = Path.parts "a/b/.t".toList then .loaded ['1'] else .loaded ['2']
    Path.parts path = Path.parts other ∧ ¬Path.EndAlike path other ∧
      Serves stored ['t'] [path, other] [.loaded ['1'], .loaded ['1']] ∧
      [path, other].map (fresh stored ['t']) = [.loaded ['1'], .loaded ['2']] := by
  intro path other stored
  have same : Path.parts path = Path.parts other := by decide
  have different : Path.parts (Path.withExtension path ['t']) ≠
      Path.parts (Path.withExtension other ['t']) := by decide
  obtain ⟨served, oneFile⟩ := (shared_entry_is_own_file_iff_end_alike ['t']).1 path other same
  exact ⟨same, fun alike => different (oneFile.mpr alike), served stored ['1'] (by decide),
    by decide⟩

end Cache
end TextTemplate
