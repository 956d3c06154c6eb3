import TextTemplate.Pattern.Program

/-!
# Searching for a pattern

All ways through a program are followed together, one character at a time, in order of preference.
Two ways at the same instruction and position go on alike, so the one that is preferred is kept. A
match found on one way ends every way that is less preferred; the ways that are more preferred may
still find one instead.
-/

set_option autoImplicit false

namespace TextTemplate.Pattern

abbrev Marks := Array (Option Nat)

/-- One way through the program: where it waits for a character, and what it remembers. -/
structure Way where
  address : Nat
  marks : Marks
  deriving Repr, Inhabited

/-- The ways at one position, the preferred ones first, and the instructions already visited. -/
structure Front where
  ways : Array Way
  visited : Array Bool

namespace Search

def noWays (program : Array Instruction) : Front :=
  ⟨#[], Array.replicate program.size false⟩

/-- Follow the program without taking a character, and add the ways that this gives. Here
`position` is the number of characters before, and `before` and `after` are the characters next to
it. A path visits no instruction twice, so `fuel` need not exceed the size of the program. -/
def follow (program : Array Instruction) (position : Nat) (before after : Option Char) :
    (fuel : Nat) → (address : Nat) → Marks → Front → Front
  | 0, _, _, front => front
  | fuel + 1, address, marks, front =>
      if front.visited.getD address true then front
      else
        let front := { front with visited := front.visited.setIfInBounds address true }
        match program[address]? with
        | none => front
        | some (.jump target) => follow program position before after fuel target marks front
        | some (.choose preferred other) =>
            follow program position before after fuel other marks
              (follow program position before after fuel preferred marks front)
        | some (.mark slot) =>
            follow program position before after fuel (address + 1)
              (marks.setIfInBounds slot (some position)) front
        | some (.test condition) =>
            if condition.holds before after then
              follow program position before after fuel (address + 1) marks front
            else front
        | some _ => { front with ways := front.ways.push ⟨address, marks⟩ }

/-- What the ways at a position do with the next character: the ways after it, and the match that
was found. Ways less preferred than a match are dropped. -/
def advance (program : Array Instruction) (position : Nat) (next after : Option Char) :
    List Way → Front → Option Marks → Front × Option Marks
  | [], front, found => (front, found)
  | way :: ways, front, found =>
      match program[way.address]? with
      | some .accept => (front, some way.marks)
      | some (.take set) =>
          let front :=
            if next.any set.contains then
              follow program (position + 1) next after (program.size + 1) (way.address + 1)
                way.marks front
            else front
          advance program position next after ways front found
      | _ => advance program position next after ways front found

/-- Go on through the text with the ways at hand. As long as nothing was found, a way that starts
at the current position is added behind the others. -/
def run (program : Array Instruction) (slots : Nat) (position : Nat) (before : Option Char)
    (front : Front) (found : Option Marks) (text : List Char) : Option Marks :=
  let front :=
    if found.isSome then front
    else
      follow program position before text.head? (program.size + 1) 0 (Array.replicate slots none)
        front
  if front.ways.isEmpty && found.isSome then found
  else
    match text with
    | [] => (advance program position none none front.ways.toList (noWays program) found).2
    | c :: rest =>
        let (front, found) :=
          advance program position (some c) rest.head? front.ways.toList (noWays program) found
        run program slots (position + 1) (some c) front found rest

def first? (program : Array Instruction) (slots : Nat) (position : Nat) (before : Option Char)
    (text : List Char) : Option Marks :=
  run program slots position before (noWays program) none text

def span? (marks : Marks) (index : Nat) : Option (Nat × Nat) :=
  match marks.getD (2 * index) none, marks.getD (2 * index + 1) none with
  | some first, some last => some (first, last)
  | _, _ => none

/-- All matches in what follows a position, from left to right. Each search goes on where the last
match ended; a match without characters right there is passed over, and the search goes on one
character later. -/
def all (program : Array Instruction) (slots : Nat) :
    (fuel position : Nat) → (before : Option Char) → (lastEnd : Option Nat) → List Char →
      List Marks
  | 0, _, _, _, _ => []
  | fuel + 1, position, before, lastEnd, text =>
      match first? program slots position before text with
      | none => []
      | some marks =>
          match span? marks 0 with
          | none => []
          | some (first, last) =>
              if first = last ∧ lastEnd = some last then
                match text with
                | [] => []
                | c :: rest => all program slots fuel (position + 1) (some c) none rest
              else
                let passed := text.take (last - position)
                marks ::
                  all program slots fuel last (passed.getLast?.or before) (some last)
                    (text.drop (last - position))

end Search
end TextTemplate.Pattern
