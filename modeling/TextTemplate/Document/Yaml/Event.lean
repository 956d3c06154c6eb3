import TextTemplate.Document.Yaml.Token

/-!
# The structure of a YAML document

Tokens are grouped into the nodes of one document: scalars, aliases, and collections between a start
and an end. Each anchored node has a number, and an alias holds the number of its anchor. The number
of an anchor is how many names were anchored before it, so a name that is anchored again may share
the number of a later name; the node that took a number last is the one it stands for.
-/

set_option autoImplicit false

namespace TextTemplate.Yaml

inductive Event where
  | alias (number : Nat)
  | scalar (tag : Option Text) (plain : Bool) (text : Text)
  | sequenceStart (tag : Option Text)
  | sequenceEnd
  | mappingStart (tag : Option Text)
  | mappingEnd
  deriving DecidableEq, Repr, Inhabited

structure Outline where
  tokens : List Token
  /-- The events so far, last first. -/
  events : List Event
  count : Nat
  names : List (Text × Nat)
  places : List (Nat × Nat)
  handles : List (Text × Text)
  deriving Repr

namespace Outline

def start (tokens : List Token) : Outline :=
  ⟨tokens, [], 0, [], [], []⟩

def peek (outline : Outline) : Token :=
  outline.tokens.headD .streamEnd

def skip (outline : Outline) : Outline :=
  { outline with tokens := outline.tokens.tail }

def push (outline : Outline) (event : Event) : Outline :=
  { outline with events := event :: outline.events, count := outline.count + 1 }

def pushEmpty (outline : Outline) : Outline :=
  outline.push (.scalar none true [])

def anchor (outline : Outline) (name : Text) : Outline :=
  let number := outline.names.length
  { outline with
    names := (name, number) :: outline.names.filter (fun known => known.1 != name)
    places := (number, outline.count) :: outline.places }

def anchor? (outline : Outline) : Option Text → Outline
  | some name => outline.anchor name
  | none => outline

def number? (outline : Outline) (name : Text) : Option Nat :=
  (outline.names.find? (fun known => known.1 = name)).map Prod.snd

def tag? (outline : Outline) (handle suffix : Text) : Option Text :=
  if handle.isEmpty then some suffix
  else (outline.handles.find? (fun known => known.1 = handle)).map (fun known => known.2 ++ suffix)

def properties (outline : Outline) : Option (Option Text × Option Text × Outline) :=
  match outline.peek with
  | .anchor name =>
      let outline := outline.skip
      match outline.peek with
      | .tag handle suffix =>
          (outline.tag? handle suffix).map (fun tag => (some name, some tag, outline.skip))
      | _ => some (some name, none, outline)
  | .tag handle suffix =>
      match outline.tag? handle suffix with
      | none => none
      | some tag =>
          let outline := outline.skip
          match outline.peek with
          | .anchor name => some (some name, some tag, outline.skip)
          | _ => some (none, some tag, outline)
  | _ => some (none, none, outline)

mutual

/-- One node. `block` tells whether a block collection may stand here, and `indentless` whether the
entries of a block sequence may stand here without being indented. Between two calls at least one of
three takes a token, so four times the number of tokens is enough fuel. -/
def node : (fuel : Nat) → (block indentless : Bool) → Outline → Option Outline
  | 0, _, _, _ => none
  | fuel + 1, block, indentless, outline =>
      match outline.peek with
      | .alias name => (outline.number? name).map (fun number => outline.skip.push (.alias number))
      | _ =>
          match outline.properties with
          | none => none
          | some (anchor, tag, outline) =>
              let anchored := outline.anchor? anchor
              match outline.peek, block, indentless with
              | .blockEntry, _, true =>
                  indentlessSequence fuel (anchored.push (.sequenceStart tag))
              | .scalar plain text, _, _ => some (anchored.skip.push (.scalar tag plain text))
              | .flowSequenceStart, _, _ =>
                  flowSequence fuel true (anchored.skip.push (.sequenceStart tag))
              | .flowMappingStart, _, _ =>
                  flowMapping fuel true (anchored.skip.push (.mappingStart tag))
              | .blockSequenceStart, true, _ =>
                  blockSequence fuel (anchored.skip.push (.sequenceStart tag))
              | .blockMappingStart, true, _ =>
                  blockMapping fuel (anchored.skip.push (.mappingStart tag))
              | _, _, _ =>
                  if anchor.isSome || tag.isSome then some (anchored.push (.scalar tag true []))
                  else none

def blockSequence : (fuel : Nat) → Outline → Option Outline
  | 0, _ => none
  | fuel + 1, outline =>
      match outline.peek with
      | .blockEntry =>
          let outline := outline.skip
          match outline.peek with
          | .blockEntry => blockSequence fuel outline.pushEmpty
          | .blockEnd => blockSequence fuel outline.pushEmpty
          | _ =>
              match node fuel true false outline with
              | some outline => blockSequence fuel outline
              | none => none
      | .blockEnd => some (outline.skip.push .sequenceEnd)
      | _ => none

def indentlessSequence : (fuel : Nat) → Outline → Option Outline
  | 0, _ => none
  | fuel + 1, outline =>
      match outline.peek with
      | .blockEntry =>
          let outline := outline.skip
          let empty :=
            match outline.peek with
            | .blockEntry | .key | .value | .blockEnd => true
            | _ => false
          if empty then indentlessSequence fuel outline.pushEmpty
          else
            match node fuel true false outline with
            | some outline => indentlessSequence fuel outline
            | none => none
      | _ => some (outline.push .sequenceEnd)

def blockPart : (fuel : Nat) → Outline → Option Outline
  | 0, _ => none
  | fuel + 1, outline =>
      match outline.peek with
      | .key | .value | .blockEnd => some outline.pushEmpty
      | _ => node fuel true true outline

def blockMapping : (fuel : Nat) → Outline → Option Outline
  | 0, _ => none
  | fuel + 1, outline =>
      match outline.peek with
      | .key =>
          match blockPart fuel outline.skip with
          | none => none
          | some outline =>
              match outline.peek with
              | .value =>
                  match blockPart fuel outline.skip with
                  | some outline => blockMapping fuel outline
                  | none => none
              | _ => blockMapping fuel outline.pushEmpty
      | .blockEnd => some (outline.skip.push .mappingEnd)
      | _ => none

def flowSequence : (fuel : Nat) → (first : Bool) → Outline → Option Outline
  | 0, _, _ => none
  | fuel + 1, first, outline =>
      match outline.peek with
      | .flowSequenceEnd => some (outline.skip.push .sequenceEnd)
      | token =>
          if !first && token != .flowEntry then none
          else
            let outline := if first then outline else outline.skip
            match outline.peek with
            | .flowSequenceEnd => some (outline.skip.push .sequenceEnd)
            | .key =>
                match flowPair fuel (outline.skip.push (.mappingStart none)) with
                | some outline => flowSequence fuel false outline
                | none => none
            | _ =>
                match node fuel false false outline with
                | some outline => flowSequence fuel false outline
                | none => none

/-- A mapping of one entry inside brackets, from after its key sign. Where the key is missing, the
token that stands in its place is passed over. -/
def flowPair : (fuel : Nat) → Outline → Option Outline
  | 0, _ => none
  | fuel + 1, outline =>
      let keyed :=
        match outline.peek with
        | .value | .flowEntry | .flowSequenceEnd => some outline.skip.pushEmpty
        | _ => node fuel false false outline
      match keyed with
      | none => none
      | some outline =>
          match outline.peek with
          | .value =>
              let outline := outline.skip
              match outline.peek with
              | .flowEntry | .flowSequenceEnd => some (outline.pushEmpty.push .mappingEnd)
              | _ => (node fuel false false outline).map (·.push .mappingEnd)
          | _ => some (outline.pushEmpty.push .mappingEnd)

def flowMapping : (fuel : Nat) → (first : Bool) → Outline → Option Outline
  | 0, _, _ => none
  | fuel + 1, first, outline =>
      match outline.peek with
      | .flowMappingEnd => some (outline.skip.push .mappingEnd)
      | token =>
          if !first && token != .flowEntry then none
          else
            let outline := if first then outline else outline.skip
            match outline.peek with
            | .flowMappingEnd => some (outline.skip.push .mappingEnd)
            | .key =>
                let outline := outline.skip
                let keyed :=
                  match outline.peek with
                  | .value | .flowEntry | .flowMappingEnd => some outline.pushEmpty
                  | _ => node fuel false false outline
                match keyed with
                | none => none
                | some outline =>
                    match outline.peek with
                    | .value =>
                        let outline := outline.skip
                        let valued :=
                          match outline.peek with
                          | .flowEntry | .flowMappingEnd => some outline.pushEmpty
                          | _ => node fuel false false outline
                        match valued with
                        | some outline => flowMapping fuel false outline
                        | none => none
                    | _ => flowMapping fuel false outline.pushEmpty
            | _ =>
                match node fuel false false outline with
                | some outline => flowMapping fuel false outline.pushEmpty
                | none => none

end

/-! ### Documents -/

def knownHandles : List (Text × Text) :=
  [("!".toList, "!".toList), ("!!".toList, "tag:yaml.org,2002:".toList)]

def directives (versioned : Bool) (handles : List (Text × Text)) :
    List Token → Option (List (Text × Text) × List Token)
  | .versionDirective major minor :: tokens =>
      if versioned || major != 1 || (minor != 1 && minor != 2) then none
      else directives true handles tokens
  | .tagDirective handle lead :: tokens =>
      if handles.any (fun known => known.1 = handle) then none
      else directives versioned (handles ++ [(handle, lead)]) tokens
  | tokens => some (handles, tokens)

def isFinished : List Token → Bool
  | .documentEnd :: tokens => isFinished tokens
  | .streamEnd :: _ => true
  | _ => false

def onlyNode (outline : Outline) : Option Outline := do
  let outline ← node (4 * outline.tokens.length + 8) true false outline
  if isFinished outline.tokens then some outline else none

def ofTokens? (tokens : List Token) : Option Outline := do
  match tokens with
  | .streamEnd :: _ => some (start tokens)
  | .versionDirective _ _ :: _ | .tagDirective _ _ :: _ | .documentStart :: _ =>
      let (handles, tokens) ← directives false [] tokens
      match tokens with
      | .documentStart :: tokens =>
          let outline := { start tokens with handles := handles ++ knownHandles }
          match outline.peek with
          | .versionDirective _ _ | .tagDirective _ _ | .documentStart | .documentEnd | .streamEnd =>
              if isFinished tokens then some outline.pushEmpty else none
          | _ => onlyNode outline
      | _ => none
  | _ => onlyNode { start tokens with handles := knownHandles }

end Outline
end TextTemplate.Yaml
