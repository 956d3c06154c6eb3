import TextTemplate.Document.Yaml.Token
import TextTemplate.Document.Yaml.Scalar
import TextTemplate.Document.Yaml.Tag

/-!
# From a YAML text to its tokens

A key need not be announced: that something was a key becomes known at the colon after it. The lexer
therefore remembers, for every level of brackets, where such a key may have begun, and puts the
`key` token there afterwards. Outside of brackets the columns of tokens open and close block
collections.
-/

set_option autoImplicit false

namespace TextTemplate.Yaml

structure SimpleKey where
  /-- Whether there must be a key, because the collection around it has its entries here. -/
  required : Bool
  number : Nat
  index : Nat
  line : Nat
  column : Nat
  deriving Repr

structure Lexer where
  cursor : Cursor
  indent : Int
  indents : List Int
  keyAllowed : Bool
  /-- The possible key of the innermost level of brackets. -/
  key : Option SimpleKey
  keys : List (Option SimpleKey)
  tokens : List Token
  count : Nat
  deriving Repr

namespace Lexer

def start (text : Text) : Lexer :=
  ⟨.start text, -1, [], true, none, [], [], 0⟩

def inFlow (lexer : Lexer) : Bool :=
  !lexer.keys.isEmpty

def push (lexer : Lexer) (token : Token) : Lexer :=
  { lexer with tokens := token :: lexer.tokens, count := lexer.count + 1 }

def insertAt (lexer : Lexer) (number : Nat) (token : Token) : Lexer :=
  let later := lexer.count - number
  { lexer with
    tokens := lexer.tokens.take later ++ token :: lexer.tokens.drop later
    count := lexer.count + 1 }

def pushPast (lexer : Lexer) (width : Nat) (token : Token) : Lexer :=
  { lexer with cursor := lexer.cursor.advanceBy width }.push token

/-! ### Indentation -/

def closeFrom (column indent : Int) (tokens : List Token) (count : Nat) :
    List Int → Int × List Int × List Token × Nat
  | [] => (indent, [], tokens, count)
  | outer :: outers =>
      if column < indent then closeFrom column outer (.blockEnd :: tokens) (count + 1) outers
      else (indent, outer :: outers, tokens, count)

def unroll (lexer : Lexer) (column : Int) : Lexer :=
  if lexer.inFlow then lexer
  else
    let (indent, indents, tokens, count) :=
      closeFrom column lexer.indent lexer.tokens lexer.count lexer.indents
    { lexer with indent := indent, indents := indents, tokens := tokens, count := count }

/-- Open a block collection behind the first `number` tokens, unless inside brackets or in a block
collection of this column already. -/
def roll (lexer : Lexer) (column : Nat) (number : Nat) (token : Token) : Lexer :=
  if lexer.inFlow ∨ (column : Int) ≤ lexer.indent then lexer
  else
    { lexer with indent := column, indents := lexer.indent :: lexer.indents }.insertAt number token

/-! ### Possible keys -/

def dropKey (lexer : Lexer) : Option Lexer :=
  if lexer.key.any SimpleKey.required then none else some { lexer with key := none }

def saveKey (lexer : Lexer) : Option Lexer :=
  if lexer.keyAllowed then do
    let lexer ← lexer.dropKey
    let cursor := lexer.cursor
    let required := !lexer.inFlow && lexer.indent = cursor.column
    some { lexer with
      key := some ⟨required, lexer.count, cursor.index, cursor.line, cursor.column⟩ }
  else some lexer

def isStale (cursor : Cursor) (key : SimpleKey) : Bool :=
  key.line < cursor.line || key.index + 1024 < cursor.index

def refresh (cursor : Cursor) : Option SimpleKey → Option (Option SimpleKey)
  | none => some none
  | some key =>
      if isStale cursor key then
        if key.required then none else some none
      else some (some key)

def dropStale (lexer : Lexer) : Option Lexer := do
  let key ← refresh lexer.cursor lexer.key
  let keys ← lexer.keys.mapM (refresh lexer.cursor)
  some { lexer with key := key, keys := keys }

/-! ### The way to the next token -/

/-- Past blanks, comments and line breaks. Outside of brackets, tabs count as blanks only where no
key may begin; a key may begin on a new line. -/
def skipGaps : (fuel : Nat) → Lexer → Lexer
  | 0, lexer => lexer
  | fuel + 1, lexer =>
      let tabs := lexer.inFlow || !lexer.keyAllowed
      let cursor := (lexer.cursor.takeWhile (fun c => c = ' ' || (tabs && c = '\t'))).2.skipComment
      if cursor.rest.head?.any isBreak then
        skipGaps fuel
          { lexer with
            cursor := cursor.takeBreak.2, keyAllowed := lexer.keyAllowed || !lexer.inFlow }
      else { lexer with cursor := cursor }

def skipMark (lexer : Lexer) : Lexer :=
  if lexer.cursor.index = 0 ∧ lexer.cursor.rest.head? = some '\uFEFF' then
    { lexer with cursor := lexer.cursor.advance }
  else lexer

/-! ### Tokens -/

def directive (lexer : Lexer) : Option Lexer := do
  let lexer ← (lexer.unroll (-1)).dropKey
  let (name, cursor) := lexer.cursor.advance.takeWhile isNameChar
  let (token, cursor) ←
    if name.isEmpty || !atGap cursor.rest then none
    else if name = "YAML".toList then do
      let (major, minor, cursor) ← Directive.version? cursor
      some (Token.versionDirective major minor, cursor)
    else if name = "TAG".toList then do
      let (handle, lead, cursor) ← Directive.tag? cursor
      some (Token.tagDirective handle lead, cursor)
    else none
  let cursor ← cursor.finishLine?
  some ({ lexer with cursor := cursor, keyAllowed := false }.push token)

def marker (lexer : Lexer) (token : Token) : Option Lexer := do
  let lexer ← (lexer.unroll (-1)).dropKey
  some ({ lexer with keyAllowed := false }.pushPast 3 token)

def openFlow (lexer : Lexer) (token : Token) : Option Lexer := do
  let lexer ← lexer.saveKey
  some ({ lexer with key := none, keys := lexer.key :: lexer.keys, keyAllowed := true }.pushPast 1
    token)

def closeFlow (lexer : Lexer) (token : Token) : Option Lexer := do
  let lexer ← lexer.dropKey
  let lexer :=
    match lexer.keys with
    | outer :: outers => { lexer with key := outer, keys := outers }
    | [] => lexer
  some ({ lexer with keyAllowed := false }.pushPast 1 token)

def flowEntry (lexer : Lexer) : Option Lexer := do
  let lexer ← lexer.dropKey
  some ({ lexer with keyAllowed := true }.pushPast 1 .flowEntry)

def openBlock (lexer : Lexer) (token : Token) : Option Lexer :=
  if lexer.inFlow then some lexer
  else if lexer.keyAllowed then some (lexer.roll lexer.cursor.column lexer.count token)
  else none

def blockEntry (lexer : Lexer) : Option Lexer := do
  let lexer ← lexer.openBlock .blockSequenceStart
  let lexer ← lexer.dropKey
  some ({ lexer with keyAllowed := true }.pushPast 1 .blockEntry)

def announcedKey (lexer : Lexer) : Option Lexer := do
  let lexer ← lexer.openBlock .blockMappingStart
  let lexer ← lexer.dropKey
  some ({ lexer with keyAllowed := !lexer.inFlow }.pushPast 1 .key)

def colon (lexer : Lexer) : Option Lexer :=
  match lexer.key with
  | some key =>
      let lexer := (lexer.insertAt key.number .key).roll key.column key.number .blockMappingStart
      some ({ lexer with key := none, keyAllowed := false }.pushPast 1 .value)
  | none => do
      let lexer ← lexer.openBlock .blockMappingStart
      some ({ lexer with keyAllowed := !lexer.inFlow }.pushPast 1 .value)

def reference (lexer : Lexer) (token : Text → Token) : Option Lexer := do
  let lexer ← lexer.saveKey
  let (name, cursor) := lexer.cursor.advance.takeWhile isNameChar
  let ended := atGap cursor.rest || cursor.rest.head?.any ("?:,]\x7d%@\x60".toList.contains ·)
  if name.isEmpty || !ended then none
  else some ({ lexer with cursor := cursor, keyAllowed := false }.push (token name))

def tag (lexer : Lexer) : Option Lexer := do
  let lexer ← lexer.saveKey
  let (handle, suffix, cursor) ← TagText.take lexer.inFlow lexer.cursor
  some ({ lexer with cursor := cursor, keyAllowed := false }.push (.tag handle suffix))

def blockScalar (lexer : Lexer) : Option Lexer := do
  let lexer ← lexer.dropKey
  let (text, cursor) ← Block.take lexer.indent lexer.cursor
  some ({ lexer with cursor := cursor, keyAllowed := true }.push (.scalar false text))

def quotedScalar (lexer : Lexer) : Option Lexer := do
  let lexer ← lexer.saveKey
  let (text, cursor) ← QuotedScalar.take lexer.cursor
  some ({ lexer with cursor := cursor, keyAllowed := false }.push (.scalar false text))

def plainScalar (lexer : Lexer) : Option Lexer := do
  let lexer ← lexer.saveKey
  let (text, broken, cursor) ←
    Plain.take lexer.inFlow (lexer.indent + 1).toNat lexer.cursor
  some ({ lexer with cursor := cursor, keyAllowed := broken }.push (.scalar true text))

def finish (lexer : Lexer) : Option Lexer := do
  let lexer ← (lexer.unroll (-1)).dropKey
  some (lexer.push .streamEnd)

def startsPlain (inFlow : Bool) (c : Char) (rest : Text) : Bool :=
  !("-?:,[]\x7b\x7d#&*!|>'\"%@\x60".toList.contains c || isBlank c || isBreak c) ||
    (c = '-' && !rest.head?.any isBlank) ||
    (!inFlow && (c = '?' || c = ':') && !atGap rest)

def token (lexer : Lexer) : Option Lexer :=
  let cursor := lexer.cursor
  let inFlow := lexer.inFlow
  match cursor.rest with
  | [] => lexer.finish
  | c :: rest =>
      if cursor.column = 0 && c = '%' then lexer.directive
      else if cursor.column = 0 && atMarker '-' cursor.rest then lexer.marker .documentStart
      else if cursor.column = 0 && atMarker '.' cursor.rest then lexer.marker .documentEnd
      else if c = '[' then lexer.openFlow .flowSequenceStart
      else if c = '\x7b' then lexer.openFlow .flowMappingStart
      else if c = ']' then lexer.closeFlow .flowSequenceEnd
      else if c = '\x7d' then lexer.closeFlow .flowMappingEnd
      else if c = ',' then lexer.flowEntry
      else if c = '-' && atGap rest then lexer.blockEntry
      else if c = '?' && (inFlow || atGap rest) then lexer.announcedKey
      else if c = ':' && (inFlow || atGap rest) then lexer.colon
      else if c = '*' then lexer.reference .alias
      else if c = '&' then lexer.reference .anchor
      else if c = '!' then lexer.tag
      else if (c = '|' || c = '>') && !inFlow then lexer.blockScalar
      else if c = '\'' || c = '"' then lexer.quotedScalar
      else if startsPlain inFlow c rest then lexer.plainScalar
      else none

def next (lexer : Lexer) : Option Lexer := do
  let lexer := lexer.skipMark.skipGaps lexer.cursor.fuel
  let lexer ← lexer.dropStale
  (lexer.unroll lexer.cursor.column).token

def run : (fuel : Nat) → Lexer → Option (List Token)
  | 0, _ => none
  | fuel + 1, lexer =>
      match lexer.next with
      | none => none
      | some lexer =>
          match lexer.tokens with
          | .streamEnd :: _ => some lexer.tokens.reverse
          | _ => run fuel lexer

end Lexer

def tokens? (text : Text) : Option (List Token) :=
  if text.all isAllowed then Lexer.run (text.length + 2) (.start text) else none

end TextTemplate.Yaml
