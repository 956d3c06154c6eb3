import TextTemplate.Document.Yaml.Cursor
import TextTemplate.Document.Numeral

/-!
# The texts of YAML scalars

How plain, quoted and block scalars are read from a text. Line breaks inside plain and quoted
scalars are folded: a single one becomes a space, and of several the first is dropped. Each round
of a loop takes at least one character, so the fuel of the cursor is enough.
-/

set_option autoImplicit false

namespace TextTemplate.Yaml

/-! ### Folding -/

structure Gap where
  blanks : Text
  first : Text
  others : Text
  broken : Bool
  deriving Repr

namespace Gap

def none : Gap := ⟨[], [], [], false⟩

/-- What line breaks become: a single line feed is a space, and the first of several is dropped.
A break that is no line feed is kept. -/
def foldBreaks (first others : Text) : Text :=
  match first with
  | '\n' :: _ => if others.isEmpty then [' '] else others
  | _ => first ++ others

def fold (gap : Gap) : Text :=
  if gap.broken then foldBreaks gap.first gap.others.reverse else gap.blanks.reverse

/-- The blanks and line breaks at a position. A tab before column `indent` in a later line is
refused. -/
def take (indent : Nat) : (fuel : Nat) → Gap → Cursor → Option (Gap × Cursor)
  | 0, gap, cursor => some (gap, cursor)
  | fuel + 1, gap, cursor =>
      match cursor.rest with
      | [] => some (gap, cursor)
      | c :: _ =>
          if isBlank c then
            if gap.broken && c = '\t' && cursor.column < indent then Option.none
            else if gap.broken then take indent fuel gap cursor.advance
            else take indent fuel { gap with blanks := c :: gap.blanks } cursor.advance
          else if isBreak c then
            let (text, cursor) := cursor.takeBreak
            if gap.broken then
              take indent fuel { gap with others := text ++ gap.others } cursor
            else
              take indent fuel { gap with blanks := [], first := text, broken := true } cursor
          else some (gap, cursor)

end Gap

/-! ### Plain scalars -/

namespace Plain

inductive Stop where
  | goOn
  | stop
  | refuse
  deriving DecidableEq, Repr

def isFlowIndicator (c : Char) : Bool :=
  c = ',' || c = '[' || c = ']' || c = '\x7b' || c = '\x7d'

def stopAt (inFlow : Bool) (text : Text) : Stop :=
  if atGap text then .stop
  else
    match text with
    | [] => .stop
    | ':' :: rest =>
        if inFlow && rest.head?.any (fun c => isFlowIndicator c || c = '?') then .refuse
        else if atGap rest then .stop
        else .goOn
    | c :: _ => if inFlow && isFlowIndicator c then .stop else .goOn

/-- Characters up to a gap or the end of the scalar. `text` is the scalar so far, last first, and
`gap` stands between it and what comes. -/
def takeRun (inFlow : Bool) : (fuel : Nat) → Text → Gap → Cursor → Option (Text × Gap × Cursor)
  | 0, text, gap, cursor => some (text, gap, cursor)
  | fuel + 1, text, gap, cursor =>
      match stopAt inFlow cursor.rest with
      | .refuse => none
      | .stop => some (text, gap, cursor)
      | .goOn =>
          match cursor.rest with
          | [] => some (text, gap, cursor)
          | c :: _ => takeRun inFlow fuel (c :: (gap.fold.reverse ++ text)) .none cursor.advance

def takeFrom (inFlow : Bool) (indent : Nat) :
    (fuel : Nat) → Text → Gap → Cursor → Option (Text × Bool × Cursor)
  | 0, text, gap, cursor => some (text.reverse, gap.broken, cursor)
  | fuel + 1, text, gap, cursor =>
      if cursor.atDocumentMarker || cursor.rest.head? = some '#' then
        some (text.reverse, gap.broken, cursor)
      else
        match takeRun inFlow cursor.fuel text gap cursor with
        | none => none
        | some (text, gap, cursor) =>
            match cursor.rest with
            | [] => some (text.reverse, gap.broken, cursor)
            | c :: _ =>
                if isBlank c || isBreak c then
                  match Gap.take indent cursor.fuel gap cursor with
                  | none => none
                  | some (gap, cursor) =>
                      if !inFlow && cursor.column < indent then
                        some (text.reverse, gap.broken, cursor)
                      else takeFrom inFlow indent fuel text gap cursor
                else some (text.reverse, gap.broken, cursor)

def take (inFlow : Bool) (indent : Nat) (cursor : Cursor) : Option (Text × Bool × Cursor) :=
  takeFrom inFlow indent cursor.fuel [] .none cursor

end Plain

/-! ### Quoted scalars -/

namespace QuotedScalar

def simpleEscape? : Char → Option Char
  | '0' => some '\x00'
  | 'a' => some '\x07'
  | 'b' => some '\x08'
  | 't' => some '\t'
  | '\t' => some '\t'
  | 'n' => some '\n'
  | 'v' => some '\x0b'
  | 'f' => some '\x0c'
  | 'r' => some '\r'
  | 'e' => some '\x1b'
  | ' ' => some ' '
  | '"' => some '"'
  | '/' => some '/'
  | '\\' => some '\\'
  | 'N' => some '\u0085'
  | '_' => some '\u00a0'
  | 'L' => some '\u2028'
  | 'P' => some '\u2029'
  | _ => none

def digitCount? : Char → Option Nat
  | 'x' => some 2
  | 'u' => some 4
  | 'U' => some 8
  | _ => none

def escape? (cursor : Cursor) : Option (Char × Cursor) :=
  match cursor.rest with
  | [] => none
  | c :: rest =>
      match simpleEscape? c with
      | some meant => some (meant, cursor.advance)
      | none =>
          match digitCount? c with
          | none => none
          | some count =>
              let digits := rest.take count
              if digits.length < count then none
              else
                match Numeral.inBase? 16 digits with
                | none => none
                | some code =>
                    if code.isValidChar then
                      some (Char.ofNat code, cursor.advanceBy (count + 1))
                    else none

/-- Characters up to a gap or the closing quote. The result tells whether an escaped line break
ended them. -/
def takeRun (quote : Char) : (fuel : Nat) → Text → Cursor → Option (Text × Bool × Cursor)
  | 0, text, cursor => some (text, false, cursor)
  | fuel + 1, text, cursor =>
      match cursor.rest with
      | [] => some (text, false, cursor)
      | c :: rest =>
          if atGap (c :: rest) then some (text, false, cursor)
          else if c = '\'' && quote = '\'' && rest.head? = some '\'' then
            takeRun quote fuel ('\'' :: text) (cursor.advanceBy 2)
          else if c = quote then some (text, false, cursor)
          else if c = '\\' && quote = '"' then
            if rest.head?.any isBreak then some (text, true, cursor.advance.takeBreak.2)
            else
              match escape? cursor.advance with
              | none => none
              | some (meant, cursor) => takeRun quote fuel (meant :: text) cursor
          else takeRun quote fuel (c :: text) cursor.advance

def takeFrom (quote : Char) : (fuel : Nat) → Text → Cursor → Option (Text × Cursor)
  | 0, _, _ => none
  | fuel + 1, text, cursor =>
      if cursor.atDocumentMarker || cursor.rest.isEmpty then none
      else
        match takeRun quote cursor.fuel text cursor with
        | none => none
        | some (text, broken, cursor) =>
            if cursor.rest.head? = some quote then some (text.reverse, cursor.advance)
            else
              match Gap.take 0 cursor.fuel { Gap.none with broken := broken }
                  cursor with
              | none => none
              | some (gap, cursor) => takeFrom quote fuel (gap.fold.reverse ++ text) cursor

def take (cursor : Cursor) : Option (Text × Cursor) :=
  match cursor.rest with
  | quote :: _ => takeFrom quote cursor.fuel [] cursor.advance
  | [] => none

end QuotedScalar

/-! ### Block scalars -/

namespace Block

inductive Chomping where
  | strip
  | clip
  | keep
  deriving DecidableEq, Repr

def chomping? : Char → Option Chomping
  | '+' => some .keep
  | '-' => some .strip
  | _ => none

def header? (cursor : Cursor) : Option (Chomping × Option Nat × Cursor) :=
  let indentation (cursor : Cursor) : Option (Option Nat × Cursor) :=
    match cursor.rest with
    | c :: _ =>
        if c.isDigit then
          if c = '0' then none else some (some (c.toNat - '0'.toNat), cursor.advance)
        else some (none, cursor)
    | [] => some (none, cursor)
  match cursor.rest with
  | [] => some (.clip, none, cursor)
  | c :: _ =>
      match chomping? c with
      | some chomping => (indentation cursor.advance).map (chomping, ·)
      | none =>
          match indentation cursor with
          | none => none
          | some (none, cursor) => some (.clip, none, cursor)
          | some (some indent, cursor) =>
              match cursor.rest.head?.bind chomping? with
              | some chomping => some (chomping, some indent, cursor.advance)
              | none => some (.clip, some indent, cursor)

/-- Empty lines at a position. `indent` is the indentation of the scalar if it is known; `breaks`
holds their breaks, last first, and `widest` the greatest column met. A tab in the indentation is
refused. -/
def takeBreaksFrom (indent : Option Nat) : (fuel widest : Nat) → Text → Cursor →
    Option (Nat × Text × Cursor)
  | 0, widest, breaks, cursor => some (widest, breaks.reverse, cursor)
  | fuel + 1, widest, breaks, cursor =>
      let inside (column : Nat) : Bool := indent.all (column < ·)
      match cursor.rest with
      | ' ' :: _ =>
          if inside cursor.column then
            takeBreaksFrom indent fuel (max widest (cursor.column + 1)) breaks cursor.advance
          else some (max widest cursor.column, breaks.reverse, cursor)
      | '\t' :: _ =>
          if inside cursor.column then none
          else some (max widest cursor.column, breaks.reverse, cursor)
      | c :: _ =>
          if isBreak c then
            let (text, after) := cursor.takeBreak
            takeBreaksFrom indent fuel (max widest cursor.column) (text ++ breaks) after
          else some (max widest cursor.column, breaks.reverse, cursor)
      | [] => some (max widest cursor.column, breaks.reverse, cursor)

def takeBreaks (indent : Option Nat) (cursor : Cursor) : Option (Nat × Text × Cursor) :=
  takeBreaksFrom indent cursor.fuel 0 [] cursor

/-- The lines of a block scalar. `text` is the scalar so far, last first; `lead` is the break of its
last line and `breaks` are those of the empty lines after it; `blankLine` tells whether that last
line begins with a blank. -/
def takeLines (folded : Bool) (indent : Nat) : (fuel : Nat) → (text lead breaks : Text) →
    (blankLine : Bool) → Cursor → Option (Text × Text × Text × Cursor)
  | 0, text, lead, breaks, _, cursor => some (text, lead, breaks, cursor)
  | fuel + 1, text, lead, breaks, blankLine, cursor =>
      if cursor.column = indent && !cursor.rest.isEmpty then
        let blankNext := cursor.rest.head?.any isBlank
        let joined :=
          if folded && lead.head? = some '\n' && !blankLine && !blankNext then
            if breaks.isEmpty then [' '] else breaks
          else lead ++ breaks
        let (line, cursor) := cursor.takeWhile (fun c => !isBreak c)
        let (lead, cursor) := cursor.takeBreak
        let text := line.reverse ++ (joined.reverse ++ text)
        match takeBreaks (some indent) cursor with
        | none => none
        | some (_, breaks, cursor) => takeLines folded indent fuel text lead breaks blankNext cursor
      else some (text, lead, breaks, cursor)

def take (outer : Int) (cursor : Cursor) : Option (Text × Cursor) := do
  let folded := cursor.rest.head? = some '>'
  let (chomping, given, cursor) ← header? cursor.advance
  let cursor ← cursor.finishLine?
  let indent := given.map (fun width => if 0 ≤ outer then outer.toNat + width else width)
  let (widest, breaks, cursor) ← takeBreaks indent cursor
  let indent := indent.getD (max (max widest (outer + 1).toNat) 1)
  let (text, lead, breaks, cursor) ←
    takeLines folded indent cursor.fuel [] [] breaks false cursor
  let tail :=
    match chomping with
    | .strip => []
    | .clip => lead
    | .keep => lead ++ breaks
  some (text.reverse ++ tail, cursor)

end Block
end TextTemplate.Yaml
