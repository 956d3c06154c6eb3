/-!
# Sets of characters

A set of characters is a list of ranges of code points, in increasing order and apart from one
another. The operations keep that form when they are given it; `ofRanges` makes it from any ranges.
-/

set_option autoImplicit false

namespace TextTemplate

/-- Ranges of code points, ends included. -/
abbrev CharSet := List (Nat × Nat)

namespace CharSet

def greatest : Nat := 0x10FFFF

def containsCode (set : CharSet) (code : Nat) : Bool :=
  set.any (fun range => range.1 ≤ code && code ≤ range.2)

def contains (set : CharSet) (c : Char) : Bool :=
  set.containsCode c.toNat

def single (c : Char) : CharSet :=
  [(c.toNat, c.toNat)]

/-! ### The ordered form -/

def ofRanges (ranges : List (Nat × Nat)) : CharSet :=
  let ordered := ranges.mergeSort (fun left right => left.1 ≤ right.1)
  (ordered.foldl join []).reverse
where
  /-- Add a range to earlier ones, the last of which is in front. -/
  join : CharSet → Nat × Nat → CharSet
    | [], range => [range]
    | last :: earlier, range =>
        if range.1 ≤ last.2 + 1 then (last.1, max last.2 range.2) :: earlier
        else range :: last :: earlier

def union (left right : CharSet) : CharSet :=
  ofRanges (left ++ right)

def complementFrom (start : Nat) : CharSet → CharSet
  | [] => if start ≤ greatest then [(start, greatest)] else []
  | range :: others =>
      if start < range.1 then (start, range.1 - 1) :: complementFrom (range.2 + 1) others
      else complementFrom (range.2 + 1) others

def complement (set : CharSet) : CharSet :=
  complementFrom 0 set

def intersection (left right : CharSet) : CharSet :=
  complement (union (complement left) (complement right))

def difference (left right : CharSet) : CharSet :=
  intersection left (complement right)

def symmetricDifference (left right : CharSet) : CharSet :=
  union (difference left right) (difference right left)

end CharSet
end TextTemplate
