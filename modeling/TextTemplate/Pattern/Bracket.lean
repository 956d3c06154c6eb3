import TextTemplate.Pattern.Escape
import TextTemplate.CharSet.Folding

/-!
# Character classes in a pattern

A class stands in brackets. It is a union of characters, ranges, escapes, named classes and classes
in brackets of their own; two unions may be joined by an operator. Classes that are still open wait
on a stack.
-/

set_option autoImplicit false

namespace TextTemplate.Pattern

namespace Bracket

def namedClass? (name : Text) : Option CharSet :=
  let range (first last : Char) : Nat × Nat := (first.toNat, last.toNat)
  match String.ofList name with
  | "alnum" => some [range '0' '9', range 'A' 'Z', range 'a' 'z']
  | "alpha" => some [range 'A' 'Z', range 'a' 'z']
  | "ascii" => some [(0, 127)]
  | "blank" => some [range '\t' '\t', range ' ' ' ']
  | "cntrl" => some [(0, 31), (127, 127)]
  | "digit" => some [range '0' '9']
  | "graph" => some [range '!' '~']
  | "lower" => some [range 'a' 'z']
  | "print" => some [range ' ' '~']
  | "punct" => some [range '!' '/', range ':' '@', range '[' '\x60', range '\x7b' '~']
  | "space" => some [range '\t' '\r', range ' ' ' ']
  | "upper" => some [range 'A' 'Z']
  | "word" => some [range '0' '9', range 'A' 'Z', range '_' '_', range 'a' 'z']
  | "xdigit" => some [range '0' '9', range 'A' 'F', range 'a' 'f']
  | _ => none

inductive ClassOperator where
  | intersection
  | difference
  | symmetricDifference
  deriving DecidableEq, Repr

structure ClassPart where
  set : CharSet
  depth : Nat
  deriving Repr

structure ClassItems where
  set : CharSet
  count : Nat
  depth : Nat
  deriving Repr

namespace ClassItems

def empty : ClassItems := ⟨[], 0, 0⟩

def add (items : ClassItems) (part : ClassPart) : ClassItems :=
  ⟨items.set.union part.set, items.count + 1, max items.depth part.depth⟩

def whole (items : ClassItems) : ClassPart :=
  ⟨items.set, if items.count ≤ 1 then items.depth else items.depth + 1⟩

end ClassItems

inductive OpenClass where
  /-- The items of the enclosing class so far, and whether this class is negated. -/
  | bracket (outer : ClassItems) (negated : Bool)
  | operator (operator : ClassOperator) (left : ClassPart)
  deriving Repr

def inCase (flags : Flags) (set : CharSet) : CharSet :=
  if flags.ignoreCase then set.foldCase else set

def inCaseNegated (flags : Flags) (negated : Bool) (set : CharSet) : CharSet :=
  let folded := inCase flags set
  if negated then folded.complement else folded

/-- Apply an operator. Under ignored case both sides are closed first. -/
def applyOperator (flags : Flags) (operator : ClassOperator) (left right : CharSet) : CharSet :=
  let left := inCase flags left
  let right := inCase flags right
  match operator with
  | .intersection => left.intersection right
  | .difference => left.difference right
  | .symmetricDifference => left.symmetricDifference right

def closeOperator (flags : Flags) (items : ClassItems) :
    List OpenClass → ClassPart × List OpenClass
  | .operator operator left :: stack =>
      let right := items.whole
      let set := applyOperator flags operator left.set right.set
      (⟨set, 1 + max left.depth right.depth⟩, stack)
  | stack => (items.whole, stack)

def close (flags : Flags) (negated : Bool) (whole : ClassPart) : ClassPart :=
  ⟨inCaseNegated flags negated whole.set, 1 + whole.depth⟩

def leadingHyphens (flags : Flags) (rest : Text) : ClassItems × Text :=
  let (hyphens, rest) := flags.takeSpaced (· == '-') rest.length rest
  (hyphens.foldl (fun items c => items.add ⟨.single c, 0⟩) .empty, rest)

/-- The front of a class, from after its bracket: whether it is negated, and the hyphens or the
closing bracket that stand for themselves there. -/
def front? (flags : Flags) (rest : Text) : Option (Bool × ClassItems × Text) :=
  let rest := flags.skip rest
  let (negated, rest) :=
    match rest with
    | '^' :: rest => (true, flags.skip rest)
    | _ => (false, rest)
  let (items, rest) := leadingHyphens flags rest
  let (items, rest) :=
    match items.count, rest with
    | 0, ']' :: rest => (items.add ⟨.single ']', 0⟩, flags.skip rest)
    | _, _ => (items, rest)
  if rest.isEmpty then none else some (negated, items, rest)

def namedClassAt? (flags : Flags) : Text → Option (CharSet × Text)
  | ':' :: rest =>
      let (negated, rest) :=
        match rest with
        | '^' :: rest => (true, rest)
        | _ => (false, rest)
      let name := rest.takeWhile (· != ':')
      match rest.dropWhile (· != ':') with
      | ':' :: ']' :: rest =>
          (namedClass? name).map (fun set => (inCaseNegated flags negated set, rest))
      | _ => none
  | _ => none

def classItem (flags : Flags) : Text → Option (Escape × Text)
  | [] => none
  | '\\' :: rest => Escape.read? flags rest
  | c :: rest => some (.literal c, rest)

def classRange (flags : Flags) (rest : Text) : Option (CharSet × Text) := do
  let (item, rest) ← classItem flags rest
  let rest := flags.skip rest
  let alone : Option (CharSet × Text) :=
    match item with
    | .literal c => some (.single c, rest)
    | .set set => some (set, rest)
    | .condition _ => none
  match rest with
  | [] => none
  | '-' :: after =>
      match flags.skip after with
      | ']' :: _ => alone
      | '-' :: _ => alone
      | [] => none
      | after => do
          let (last, rest) ← classItem flags after
          match item, last with
          | .literal first, .literal last =>
              if first ≤ last then some ([(first.toNat, last.toNat)], rest) else none
          | _, _ => none
  | _ => alone

def readFrom? (flags : Flags) : (fuel : Nat) → ClassItems → List OpenClass → Text →
    Option (ClassPart × Text)
  | 0, _, _, _ => none
  | fuel + 1, items, stack, rest =>
      let operator (operator : ClassOperator) (rest : Text) : Option (ClassPart × Text) :=
        let (left, stack) := closeOperator flags items stack
        readFrom? flags fuel .empty (.operator operator left :: stack) rest
      match flags.skip rest with
      | [] => none
      | '[' :: rest =>
          match namedClassAt? flags rest with
          | some (set, rest) => readFrom? flags fuel (items.add ⟨set, 0⟩) stack rest
          | none => do
              let (negated, front, rest) ← front? flags rest
              readFrom? flags fuel front (.bracket items negated :: stack) rest
      | ']' :: rest =>
          let (whole, stack) := closeOperator flags items stack
          match stack with
          | [.bracket _ negated] => some (close flags negated whole, rest)
          | .bracket outer negated :: stack =>
              readFrom? flags fuel (outer.add (close flags negated whole)) stack rest
          | _ => none
      | '&' :: '&' :: rest => operator .intersection rest
      | '-' :: '-' :: rest => operator .difference rest
      | '~' :: '~' :: rest => operator .symmetricDifference rest
      | rest => do
          let (set, rest) ← classRange flags rest
          readFrom? flags fuel (items.add ⟨set, 0⟩) stack rest

def read? (flags : Flags) (rest : Text) : Option (ClassPart × Text) := do
  let (negated, front, after) ← front? flags rest
  readFrom? flags (rest.length + 1) front [.bracket .empty negated] after

end Bracket
end TextTemplate.Pattern
