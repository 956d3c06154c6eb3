import Mathlib.Data.List.Induction
import TextTemplate.Proofs.Columns

/-!
# Which passes are invoked, and with what

A list of passes goes over a text. Whether the transform of a pass is invoked is decided by the text
that the passes before it have left, and so it may hang on all of them. The main result writes every
invocation down and tells from that record: the transforms are invoked in the order of the list, each
at most once and exactly if the pattern has a group and a match, with the text at that point and its
matches, and what the transform gives back is the text from there on.
-/

set_option autoImplicit false

namespace TextTemplate

namespace Matches

private theorem group_ofText (pattern : Pattern) (text : Text) (index : Nat) :
    (ofText pattern text).group index =
      if index < pattern.groups then
        (pattern.captures text).map fun groupTexts => (groupTexts.getD index none).getD []
      else [] :=
  group_collect pattern.groups (pattern.captures text) index

private theorem hasCapture_ofText_iff (pattern : Pattern) (text : Text) :
    (ofText pattern text).hasCapture = true ↔
      1 < pattern.groups ∧ pattern.captures text ≠ [] := by
  rw [hasCapture, group_ofText]
  split
  · next within => simp [within]
  · next beyond => simp [beyond]

/-- The group is in the pattern and took no part in the one match. -/
example : (Pattern.read? "x|(y)".toList).map
    (fun pattern => (Matches.ofText pattern "-x-".toList).columns) = some [[['x']], [[]]] := by
  decide +kernel

end Matches

namespace Pass

variable {σ : Type} {pass : Pass σ} {passes : List (Pass σ)} {text given : Text} {state kept : σ}
variable {trail between : Trail}

/-! ### One pass -/

/-- The pattern has a group besides the whole match, and it matches somewhere. -/
def Captures (pass : Pass σ) (text : Text) : Prop :=
  1 < pass.pattern.groups ∧ pass.pattern.captures text ≠ []

private theorem apply_of_captures (captures : pass.Captures text) (state : σ) (trail : Trail) :
    apply text pass state trail =
      some (pass.transform text (Matches.ofText pass.pattern text) state, trail) := by
  have invoked := (Matches.hasCapture_ofText_iff pass.pattern text).mpr captures
  unfold apply
  rw [if_pos invoked]
  rfl

private theorem apply_of_not_captures (captures : ¬pass.Captures text) (state : σ) (trail : Trail) :
    apply text pass state trail =
      some ((text, state), trail.note (.passSkipped pass.pattern.source)) := by
  have skipped : ¬(Matches.ofText pass.pattern text).hasCapture = true := fun invoked =>
    captures ((Matches.hasCapture_ofText_iff pass.pattern text).mp invoked)
  unfold apply
  rw [if_neg skipped]
  rfl

/-! ### Passes in order -/

private theorem applyAll_append (passes more : List (Pass σ)) (text : Text) :
    applyAll (passes ++ more) text = applyAll passes text >>= applyAll more :=
  List.foldlM_append

private theorem applyAll_concat
    (done : applyAll passes text state trail = some ((given, kept), between))
    (pass : Pass σ) :
    applyAll (passes ++ [pass]) text state trail = apply given pass kept between := by
  have single : applyAll [pass] given = apply given pass := by
    rw [applyAll, List.foldlM_cons]
    exact bind_pure _
  rw [applyAll_append]
  change (applyAll passes text state trail).bind
    (fun left => applyAll [pass] left.1.1 left.1.2 left.2) = _
  rw [done, Option.bind_some, single]

/-! ### The record of invocations -/

structure Invocation (σ : Type) where
  index : Nat
  text : Text
  found : Matches
  state : σ

/-- The pass with each invocation of its transform written down behind those before it. -/
def recorded (index : Nat) (pass : Pass σ) : Pass (σ × List (Invocation σ)) where
  pattern := pass.pattern
  transform text found kept :=
    let answer := pass.transform text found kept.1
    (answer.1, (answer.2, kept.2 ++ [⟨index, text, found, kept.1⟩]))

def recordedAll (passes : List (Pass σ)) : List (Pass (σ × List (Invocation σ))) :=
  passes.mapIdx recorded

/-- What becomes of the pass at an index. It is invoked exactly if its pattern captures something in
what the passes before it left; it is given that text with its matches, and what it gives back is
left to the passes behind it. If it is not invoked, the text and the state are left as they are. -/
def TakesTurn (passes : List (Pass σ)) (text : Text) (state : σ) (trail : Trail)
    (calls : List (Invocation σ)) (index : Nat) (pass : Pass σ) : Prop :=
  ∃ given kept between,
    applyAll (passes.take index) text state trail = some ((given, kept), between) ∧
    (pass.Captures given →
      ⟨index, given, Matches.ofText pass.pattern given, kept⟩ ∈ calls ∧
      applyAll (passes.take (index + 1)) text state trail =
        some (pass.transform given (Matches.ofText pass.pattern given) kept, between)) ∧
    (¬pass.Captures given →
      (∀ call ∈ calls, call.index ≠ index) ∧
      applyAll (passes.take (index + 1)) text state trail =
        some ((given, kept), between.note (.passSkipped pass.pattern.source)))

/-- The invocations are those of passes in the order of the list, each at most once, and every pass
takes its turn. -/
structure InvokedInOrder (passes : List (Pass σ)) (text : Text) (state : σ) (trail : Trail)
    (calls : List (Invocation σ)) : Prop where
  ordered : calls.Pairwise fun earlier later => earlier.index < later.index
  within : ∀ call ∈ calls, call.index < passes.length
  turns : ∀ index pass, passes[index]? = some pass →
    TakesTurn passes text state trail calls index pass

variable {calls : List (Invocation σ)} {call : Invocation σ} {index : Nat}

theorem TakesTurn.append (turn : TakesTurn passes text state trail calls index pass)
    (inList : index < passes.length) (more : List (Pass σ)) {others : List (Invocation σ)}
    (behind : ∀ call ∈ others, passes.length ≤ call.index) :
    TakesTurn (passes ++ more) text state trail (calls ++ others) index pass := by
  obtain ⟨given, kept, between, reached, invoked, skipped⟩ := turn
  rw [TakesTurn, List.take_append_of_le_length (Nat.le_of_lt inList),
    List.take_append_of_le_length (Nat.succ_le_of_lt inList)]
  refine ⟨given, kept, between, reached, ?_, ?_⟩
  · intro captures
    exact ⟨List.mem_append_left _ (invoked captures).1, (invoked captures).2⟩
  · intro captures
    refine ⟨?_, (skipped captures).2⟩
    intro call among
    rcases List.mem_append.mp among with earlier | later
    · exact (skipped captures).1 call earlier
    · have beyond := behind call later
      omega

private theorem InvokedInOrder.concat (invoked : InvokedInOrder passes text state trail calls)
    {others : List (Invocation σ)}
    (ordered : others.Pairwise fun earlier later => earlier.index < later.index)
    (last : ∀ call ∈ others, call.index = passes.length)
    (turn : TakesTurn (passes ++ [pass]) text state trail (calls ++ others) passes.length pass) :
    InvokedInOrder (passes ++ [pass]) text state trail (calls ++ others) := by
  refine ⟨?_, ?_, ?_⟩
  · apply List.pairwise_append.mpr
    refine ⟨invoked.ordered, ordered, ?_⟩
    intro earlier among later behind
    rw [last later behind]
    exact invoked.within earlier among
  · intro call among
    rw [List.length_append, List.length_singleton]
    rcases List.mem_append.mp among with earlier | later
    · exact Nat.lt_succ_of_lt (invoked.within call earlier)
    · rw [last call later]
      exact Nat.lt_succ_self _
  · intro index found present
    rcases Nat.lt_or_ge index passes.length with inList | beyond
    · rw [List.getElem?_append_left inList] at present
      exact (invoked.turns index found present).append inList [pass] fun call later =>
        Nat.le_of_eq (last call later).symm
    · rw [List.getElem?_append_right beyond, List.getElem?_singleton] at present
      split at present
      · next same =>
          cases present
          have atEnd : index = passes.length := by omega
          rw [atEnd]
          exact turn
      · cases present

section

variable (invoked : InvokedInOrder passes text state trail calls)
variable (done : applyAll passes text state trail = some ((given, kept), between))

include invoked done

private theorem InvokedInOrder.of_captures (captures : pass.Captures given) :
    InvokedInOrder (passes ++ [pass]) text state trail
      (calls ++ [⟨passes.length, given, Matches.ofText pass.pattern given, kept⟩]) := by
  apply invoked.concat (List.pairwise_singleton _ _) (List.forall_mem_singleton.mpr rfl)
  refine ⟨given, kept, between, ?_, ?_, fun skipped => absurd captures skipped⟩
  · rw [List.take_left]
    exact done
  · intro _
    rw [List.take_of_length_le (by simp), applyAll_concat done, apply_of_captures captures]
    exact ⟨List.mem_append_right _ (List.mem_singleton.mpr rfl), rfl⟩

private theorem InvokedInOrder.of_not_captures (captures : ¬pass.Captures given) :
    InvokedInOrder (passes ++ [pass]) text state trail calls := by
  rw [← List.append_nil calls]
  apply invoked.concat List.Pairwise.nil
  · exact fun call impossible => absurd impossible List.not_mem_nil
  · refine ⟨given, kept, between, ?_, fun invoked => absurd invoked captures, ?_⟩
    · rw [List.take_left]
      exact done
    · intro _
      rw [List.take_of_length_le (by simp), applyAll_concat done, apply_of_not_captures captures,
        List.append_nil]
      exact ⟨fun call among => Nat.ne_of_lt (invoked.within call among), rfl⟩

end

/-- Passes are invoked in the order of the list, each at most once and exactly if its pattern captures
something in the text that the passes before it left; and a list of passes can be run in two parts. -/
theorem passes_invoked_in_order (passes more : List (Pass σ)) (text : Text) (state : σ)
    (trail : Trail) :
    (∃ output last calls after,
      applyAll passes text state trail = some ((output, last), after) ∧
      applyAll (recordedAll passes) text (state, []) trail =
        some ((output, (last, calls)), after) ∧
      InvokedInOrder passes text state trail calls) ∧
    applyAll (passes ++ more) text = applyAll passes text >>= applyAll more := by
  refine ⟨?_, applyAll_append passes more text⟩
  -- From the front to the back: what was invoked up to a pass is the record it adds to.
  induction passes using List.reverseRecOn with
  | nil =>
      refine ⟨text, state, [], trail, rfl, rfl, List.Pairwise.nil, ?_, ?_⟩
      · exact fun call impossible => absurd impossible List.not_mem_nil
      · exact fun index pass impossible => absurd impossible (Option.some_ne_none pass).symm
  | append_singleton passes pass ih =>
      obtain ⟨given, kept, calls, between, done, written, invoked⟩ := ih
      have ran := applyAll_concat done pass
      have wrote := applyAll_concat written (recorded passes.length pass)
      rw [recordedAll, List.mapIdx_concat]
      by_cases captures : pass.Captures given
      · have alike : (recorded passes.length pass).Captures given := captures
        rw [apply_of_captures captures] at ran
        rw [apply_of_captures alike] at wrote
        exact ⟨_, _, _, _, ran, wrote, invoked.of_captures done captures⟩
      · have alike : ¬(recorded passes.length pass).Captures given := captures
        rw [apply_of_not_captures captures] at ran
        rw [apply_of_not_captures alike] at wrote
        exact ⟨_, _, _, _, ran, wrote, invoked.of_not_captures done captures⟩

end Pass
end TextTemplate
