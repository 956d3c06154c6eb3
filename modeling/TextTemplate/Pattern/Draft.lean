import TextTemplate.Pattern.Flags
import TextTemplate.Pattern.Node

/-!
# A pattern that is being read

What has been read of a pattern: the current alternative, the alternatives before it, and the groups
that are still open. Each part carries how deeply it is nested as it is written.
-/

set_option autoImplicit false

namespace TextTemplate.Pattern

/-- A part of a pattern: what it means, and how deeply it is nested as it is written. -/
structure Part where
  node : Node
  depth : Nat
  deriving Repr

inductive Item where
  | part (content : Part)
  /-- A change of settings: takes no place in the meaning, and cannot be repeated. -/
  | setting
  deriving Repr

def Item.toPart : Item → Part
  | .part content => content
  | .setting => ⟨.empty, 0⟩

namespace Part

def greatestDepth (parts : List Part) : Nat :=
  parts.foldl (fun depth part => max depth part.depth) 0

def ofSequence : List Part → Part
  | [] => ⟨.empty, 0⟩
  | [only] => only
  | parts => ⟨.ofSequence (parts.map Part.node), 1 + greatestDepth parts⟩

def ofAlternatives : List Part → Part
  | [only] => only
  | parts => ⟨.ofAlternatives (parts.map Part.node), 1 + greatestDepth parts⟩

end Part

structure OpenGroup where
  index : Option Nat
  flags : Flags
  branches : List Part
  items : List Item
  deriving Repr

structure Draft where
  flags : Flags
  items : List Item
  branches : List Part
  stack : List OpenGroup
  groups : Nat
  names : List Text
  deriving Repr

namespace Draft

def start : Draft := ⟨.start, [], [], [], 0, []⟩

def push (draft : Draft) (part : Part) : Draft :=
  { draft with items := .part part :: draft.items }

def pushNode (draft : Draft) (node : Node) : Draft :=
  draft.push ⟨node, 0⟩

def sequence (draft : Draft) : Part :=
  .ofSequence (draft.items.reverse.map Item.toPart)

def body (draft : Draft) : Part :=
  .ofAlternatives (draft.sequence :: draft.branches).reverse

def openGroup (draft : Draft) (index : Option Nat) (inner : Flags) : Draft :=
  { draft with
    flags := inner
    items := []
    branches := []
    stack := ⟨index, draft.flags, draft.branches, draft.items⟩ :: draft.stack }

def openCapture (draft : Draft) : Draft :=
  { draft.openGroup (some (draft.groups + 1)) draft.flags with groups := draft.groups + 1 }

/-- Close the innermost group. A group that is not captured is a part all the same. -/
def closeGroup (draft : Draft) : Option Draft :=
  match draft.stack with
  | [] => none
  | outer :: stack =>
      let body := draft.body
      let node :=
        match outer.index with
        | some index => .group index body.node
        | none => body.node
      some
        { draft with
          flags := outer.flags
          items := .part ⟨node, 1 + body.depth⟩ :: outer.items
          branches := outer.branches
          stack := stack }

def repeatLast (draft : Draft) (least : Nat) (most : Option Nat) (greedy : Bool) :
    Option Draft :=
  match draft.items with
  | .part part :: items =>
      let greedy := greedy != draft.flags.swapGreed
      let repeated : Part := ⟨.repetition ⟨least, most, greedy⟩ part.node, 1 + part.depth⟩
      some { draft with items := .part repeated :: items }
  | _ => none

end Draft

end TextTemplate.Pattern
