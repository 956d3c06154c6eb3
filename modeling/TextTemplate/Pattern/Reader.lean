import TextTemplate.Pattern.Bracket
import TextTemplate.Pattern.Draft

/-!
# Reading a pattern

A pattern is read from left to right. Each step takes at least one character off the text, so the
length of the text bounds the number of steps. Text that is no pattern is refused.
-/

set_option autoImplicit false

-- Powers are those of the core library, whatever else is in scope.
attribute [local instance (high)] instPowNat instNatPowNat

namespace TextTemplate.Pattern

namespace Reader

/-! ### Groups -/

def isNameChar (first : Bool) (c : Char) : Bool :=
  c = '_' ||
    (CharSet.word.contains c && !(first && CharSet.digit.contains c)) ||
    (!first && (c = '.' || c = '[' || c = ']'))

def groupName? (rest : Text) : Option (Text × Text) :=
  let name := rest.takeWhile (· != '>')
  match name, rest.dropWhile (· != '>') with
  | first :: others, '>' :: rest =>
      if isNameChar true first && others.all (isNameChar false) then some (first :: others, rest)
      else none
  | _, _ => none

def readGroup (draft : Draft) (rest : Text) : Option (Draft × Text) :=
  let named (rest : Text) : Option (Draft × Text) := do
    let (name, rest) ← groupName? rest
    if draft.names.contains name then none
    else some ({ draft.openCapture with names := name :: draft.names }, rest)
  match draft.flags.skip rest with
  | '?' :: '=' :: _ => none
  | '?' :: '!' :: _ => none
  | '?' :: '<' :: '=' :: _ => none
  | '?' :: '<' :: '!' :: _ => none
  | '?' :: 'P' :: '<' :: rest => named rest
  | '?' :: '<' :: rest => named rest
  | '?' :: rest => do
      let (flags, seen, closer, rest) ← Flags.readFrom draft.flags [] false false rest
      if closer = ')' then
        if seen.isEmpty then none
        else some ({ draft with flags := flags, items := .setting :: draft.items }, rest)
      else some (draft.openGroup none flags, rest)
  | rest => some (draft.openCapture, rest)

/-! ### Repetitions -/

def readCount (flags : Flags) (rest : Text) : Option Nat × Text :=
  let rest := rest.dropWhile CharSet.blank.contains
  let (digits, rest) := flags.takeSpaced Char.isDigit rest.length rest
  let rest := rest.dropWhile CharSet.blank.contains
  let value := digits.foldl (fun n c => 10 * n + (c.toNat - '0'.toNat)) 0
  (if digits.isEmpty ∨ 2 ^ (32 : Nat) ≤ value then none else some value, flags.skip rest)

def readCounted (flags : Flags) (rest : Text) : Option (Nat × Option Nat × Bool × Text) := do
  let (first, rest) := readCount flags (flags.skip rest)
  let least ← first
  let (most, rest) ←
    match rest with
    | ',' :: rest =>
        match flags.skip rest with
        | '}' :: rest => some (none, '}' :: rest)
        | rest => do
            let (second, rest) := readCount flags rest
            let most ← second
            some (some most, rest)
    | rest => some (some least, rest)
  if most.any (· < least) then none
  else
    match rest with
    | '}' :: rest =>
        match flags.skip rest with
        | '?' :: rest => some (least, most, false, rest)
        | rest => some (least, most, true, rest)
    | _ => none

def greediness : Text → Bool × Text
  | '?' :: rest => (false, rest)
  | rest => (true, rest)

/-! ### The whole pattern -/

def literal (flags : Flags) (c : Char) : Node :=
  .one (Bracket.inCase flags (.single c))

def readAll : (fuel : Nat) → Draft → Text → Option Draft
  | 0, _, _ => none
  | fuel + 1, draft, rest =>
      let flags := draft.flags
      let counted (least : Nat) (most : Option Nat) (rest : Text) : Option Draft := do
        let (greedy, rest) := greediness rest
        let draft ← draft.repeatLast least most greedy
        readAll fuel draft rest
      match flags.skip rest with
      | [] => some draft
      | '(' :: rest => do
          let (draft, rest) ← readGroup draft rest
          readAll fuel draft rest
      | ')' :: rest => do
          let draft ← draft.closeGroup
          readAll fuel draft rest
      | '|' :: rest =>
          readAll fuel { draft with items := [], branches := draft.sequence :: draft.branches } rest
      | '[' :: rest => do
          let (part, rest) ← Bracket.read? flags rest
          readAll fuel (draft.push ⟨.one part.set, part.depth⟩) rest
      | '?' :: rest => counted 0 (some 1) rest
      | '*' :: rest => counted 0 none rest
      | '+' :: rest => counted 1 none rest
      | '{' :: rest => do
          let (least, most, greedy, rest) ← readCounted flags rest
          let draft ← draft.repeatLast least most greedy
          readAll fuel draft rest
      | '\\' :: rest => do
          let (escape, rest) ← Escape.read? flags rest
          let node :=
            match escape with
            | .literal c => literal flags c
            | .set set => .one set
            | .condition condition => .condition condition
          readAll fuel (draft.pushNode node) rest
      | '.' :: rest =>
          let set : CharSet := if flags.dotAll then [] else CharSet.single '\n'
          readAll fuel (draft.pushNode (.one set.complement)) rest
      | '^' :: rest =>
          readAll fuel
            (draft.pushNode (.condition (if flags.multiLine then .lineStart else .textStart))) rest
      | '$' :: rest =>
          readAll fuel
            (draft.pushNode (.condition (if flags.multiLine then .lineEnd else .textEnd))) rest
      | c :: rest => readAll fuel (draft.pushNode (literal flags c)) rest

end Reader

def depthLimit : Nat := 250

def weightLimit : Nat := 327680

def Node.read? (text : Text) : Option Node := do
  let draft ← Reader.readAll (text.length + 1) .start text
  if draft.stack.isEmpty then
    let whole := draft.body
    if whole.depth ≤ depthLimit ∧ whole.node.weight ≤ weightLimit then some whole.node else none
  else none

end TextTemplate.Pattern
