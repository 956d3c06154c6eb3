import TextTemplate.Pattern.Node

/-!
# Patterns as programs

A pattern is laid out as a list of instructions, addressed by their place in the list. Where the
search can go on in two ways, the preferred way comes first.
-/

set_option autoImplicit false

namespace TextTemplate.Pattern

/-- One instruction. After `take`, `test` and `mark` the next instruction follows. -/
inductive Instruction where
  | take (set : CharSet)
  | test (condition : Condition)
  | mark (slot : Nat)
  | jump (target : Nat)
  | choose (preferred other : Nat)
  | accept
  deriving Repr, Inhabited

namespace Program

def choice (greedy : Bool) (inside outside : Nat) : Instruction :=
  if greedy then .choose inside outside else .choose outside inside

def chain (parts : List (Nat → List Instruction)) (start : Nat) : List Instruction :=
  match parts with
  | [] => []
  | part :: others =>
      let front := part start
      front ++ chain others (start + front.length)

def optional (greedy : Bool) (body : Nat → List Instruction) (start : Nat) : List Instruction :=
  let inside := body (start + 1)
  choice greedy (start + 1) (start + 1 + inside.length) :: inside

def again (greedy : Bool) (body : Nat → List Instruction) (start : Nat) : List Instruction :=
  let inside := body start
  inside ++ [choice greedy start (start + inside.length + 1)]

/-- The part any number of times. A part that may take no character is tried once before it is
repeated, so that a round without progress leaves the repetition. -/
def anyNumber (greedy nullable : Bool) (body : Nat → List Instruction) (start : Nat) :
    List Instruction :=
  if nullable then optional greedy (again greedy body) start
  else
    let inside := body (start + 1)
    choice greedy (start + 1) (start + inside.length + 2) :: inside ++ [.jump start]

/-- The part up to `count` times. Every choice to stop leads behind all of them. -/
def upTo (greedy : Bool) (body : Nat → List Instruction) (count start : Nat) : List Instruction :=
  match count with
  | 0 => []
  | count + 1 =>
      let inside := body (start + 1)
      let others := upTo greedy body count (start + 1 + inside.length)
      choice greedy (start + 1) (start + 1 + inside.length + others.length) :: inside ++ others

def repetition (count : Count) (nullable : Bool) (body : Nat → List Instruction) :
    Nat → List Instruction :=
  match count.most, count.least with
  | none, 0 => anyNumber count.greedy nullable body
  | none, least + 1 => chain (List.replicate least body ++ [again count.greedy body])
  | some most, least =>
      chain (List.replicate least body ++ [upTo count.greedy body (most - least)])

mutual

def layOut : Node → Nat → List Instruction
  | .empty => fun _ => []
  | .one set => fun _ => [.take set]
  | .condition condition => fun _ => [.test condition]
  | .sequence parts => chain (layOutAll parts)
  | .alternatives parts => layOutBranches parts
  | .repeated count body => repetition count body.isNullable (layOut body)
  | .group index body => fun start =>
      .mark (2 * index) :: layOut body (start + 1) ++ [.mark (2 * index + 1)]

def layOutAll : List Node → List (Nat → List Instruction)
  | [] => []
  | part :: parts => layOut part :: layOutAll parts

def layOutBranches : List Node → Nat → List Instruction
  | [] => fun _ => []
  | part :: parts => fun start =>
      match parts with
      | [] => layOut part start
      | _ :: _ =>
          let front := layOut part (start + 1)
          let second := start + front.length + 2
          let others := layOutBranches parts second
          .choose (start + 1) second :: front ++ .jump (second + others.length) :: others

end

def ofNode (node : Node) : Array Instruction :=
  (layOut (.group 0 node) 0 ++ [Instruction.accept]).toArray

end Program
end TextTemplate.Pattern
