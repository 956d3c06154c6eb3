import TextTemplate.Text.Occurrence
import TextTemplate.CharSet.Word

/-!
# What a pattern means

The parts of a pattern: single characters out of a set, conditions on a position, sequences,
alternatives in order of preference, repetitions, and groups that are captured. A repetition that
can change nothing is dropped when it is built (`Node.repetition`).
-/

set_option autoImplicit false

namespace TextTemplate.Pattern

inductive Condition where
  | textStart
  | textEnd
  | lineStart
  | lineEnd
  | wordEdge
  | noWordEdge
  | wordStart
  | wordEnd
  | noWordBefore
  | noWordAfter
  deriving DecidableEq, Repr

def Condition.holds (condition : Condition) (before after : Option Char) : Bool :=
  let wordBefore := before.any CharSet.word.contains
  let wordAfter := after.any CharSet.word.contains
  match condition with
  | .textStart => before.isNone
  | .textEnd => after.isNone
  | .lineStart => before.all (· == '\n')
  | .lineEnd => after.all (· == '\n')
  | .wordEdge => wordBefore != wordAfter
  | .noWordEdge => wordBefore == wordAfter
  | .wordStart => !wordBefore && wordAfter
  | .wordEnd => wordBefore && !wordAfter
  | .noWordBefore => !wordBefore
  | .noWordAfter => !wordAfter

structure Count where
  least : Nat
  most : Option Nat
  greedy : Bool
  deriving DecidableEq, Repr

inductive Node where
  | empty
  | one (set : CharSet)
  | condition (condition : Condition)
  | sequence (parts : List Node)
  | alternatives (parts : List Node)
  | repeated (count : Count) (body : Node)
  | group (index : Nat) (body : Node)
  deriving Repr, Inhabited

namespace Node

def ofSequence : List Node → Node
  | [] => .empty
  | [only] => only
  | parts => .sequence parts

def ofAlternatives : List Node → Node
  | [only] => only
  | parts => .alternatives parts

/-! ### Lengths of matches -/

mutual

def isWidthless : Node → Bool
  | .empty => true
  | .one _ => false
  | .condition _ => true
  | .sequence parts => areWidthless parts
  | .alternatives parts => areWidthless parts
  | .repeated _ body => isWidthless body
  | .group _ body => isWidthless body

def areWidthless : List Node → Bool
  | [] => true
  | part :: parts => isWidthless part && areWidthless parts

end

mutual

def isNullable : Node → Bool
  | .empty => true
  | .one _ => false
  | .condition _ => true
  | .sequence parts => areNullable parts
  | .alternatives parts => isAnyNullable parts
  | .repeated count body => count.least == 0 || isNullable body
  | .group _ body => isNullable body

def areNullable : List Node → Bool
  | [] => true
  | part :: parts => isNullable part && areNullable parts

def isAnyNullable : List Node → Bool
  | [] => false
  | part :: parts => isNullable part || isAnyNullable parts

end

/-- A repetition. What takes no character is repeated at most once; what is repeated never is
empty, its groups included; what is repeated exactly once is itself. -/
def repetition (count : Count) (body : Node) : Node :=
  let count :=
    if isWidthless body then
      { count with least := min count.least 1, most := some (min (count.most.getD 1) 1) }
    else count
  if count.most = some 0 then .empty
  else if count.least = 1 ∧ count.most = some 1 then body
  else .repeated count body

/-! ### Size -/

/-- About how many steps over bytes it takes to recognise one character of a set. -/
def setWeight (set : CharSet) : Nat :=
  match set with
  | [(first, last)] => if first = last then (Char.ofNat first).utf8Size else rangesWeight set
  | _ => rangesWeight set
where
  rangesWeight (set : CharSet) : Nat :=
    if set.all (·.2 < 128) then 2 else 2 * set.length + 28

mutual

def weight : Node → Nat
  | .empty => 1
  | .one set => setWeight set
  | .condition _ => 1
  | .sequence parts => weights parts
  | .alternatives parts => 2 + weights parts
  | .repeated count body =>
      match count.most with
      | some most => most * weight body + (most - count.least) + 1
      | none => max count.least 1 * weight body + 3
  | .group _ body => 2 + weight body

def weights : List Node → Nat
  | [] => 0
  | part :: parts => weight part + weights parts

end

mutual

def lastGroup : Node → Nat
  | .empty => 0
  | .one _ => 0
  | .condition _ => 0
  | .sequence parts => lastGroups parts
  | .alternatives parts => lastGroups parts
  | .repeated _ body => lastGroup body
  | .group index body => max index (lastGroup body)

def lastGroups : List Node → Nat
  | [] => 0
  | part :: parts => max (lastGroup part) (lastGroups parts)

end

end Node
end TextTemplate.Pattern
