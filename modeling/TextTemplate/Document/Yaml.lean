import TextTemplate.Document.Yaml.Event
import TextTemplate.Document.Yaml.Resolution
import TextTemplate.Document.Yaml.Token.Lexer

/-!
# YAML texts

A YAML text holds at most one document. Its keys are scalars and keep their text, whatever they
would stand for as values; of two entries with one key the later one counts, at the place of the
earlier one. An alias stands for a copy of its anchored node. How deep nodes may be nested is
limited, and so is the number of copies.
-/

set_option autoImplicit false

namespace TextTemplate.Yaml

def depthLimit : Nat := 128

namespace Outline

/-- A place in the events of an outline, with the number of aliases that were followed. -/
structure Place where
  index : Nat
  jumps : Nat
  deriving Repr

structure Reading where
  events : Array Event
  places : List (Nat × Nat)

namespace Reading

def event? (reading : Reading) (place : Place) : Option Event :=
  reading.events[place.index]?

def follow? (reading : Reading) (number : Nat) (place : Place) : Option Place :=
  let jumps := place.jumps + 1
  if reading.events.size * 100 < jumps then none
  else
    (reading.places.find? (fun known => known.1 = number)).map (fun known => ⟨known.2, jumps⟩)

def key? (reading : Reading) (place : Place) : Option (Text × Place) :=
  match reading.event? place with
  | some (.scalar _ _ text) => some (text, { place with index := place.index + 1 })
  | some (.alias number) =>
      match reading.follow? number place with
      | none => none
      | some target =>
          match reading.event? target with
          | some (.scalar _ _ text) => some (text, ⟨place.index + 1, target.jumps⟩)
          | _ => none
  | _ => none

mutual

/-- The document at a place, and the place after it. Every level of nesting passes each event of
its collection and follows at most one alias, so the product of the deepest nesting and the number
of events bounds the fuel that is needed. -/
def node? (reading : Reading) : (fuel depth : Nat) → Place → Option (Document × Place)
  | 0, _, _ => none
  | fuel + 1, depth, place =>
      let after : Place := { place with index := place.index + 1 }
      match reading.event? place with
      | some (.alias number) =>
          match reading.follow? number place with
          | none => none
          | some target =>
              (reading.node? fuel depth target).map (fun (document, ended) =>
                (document, { after with jumps := ended.jumps }))
      | some (.scalar tag plain text) =>
          if Resolution.isLocal tag then none
          else (Resolution.scalar? tag plain text).map (·, after)
      | some (.sequenceStart tag) =>
          match depth with
          | 0 => none
          | depth + 1 =>
              if Resolution.isLocal tag then none else reading.items? fuel depth [] after
      | some (.mappingStart tag) =>
          match depth with
          | 0 => none
          | depth + 1 =>
              if Resolution.isLocal tag then none else reading.entries? fuel depth [] after
      | _ => none

def items? (reading : Reading) : (fuel depth : Nat) → List Document → Place →
    Option (Document × Place)
  | 0, _, _, _ => none
  | fuel + 1, depth, items, place =>
      match reading.event? place with
      | some .sequenceEnd =>
          some (.sequence items.reverse, { place with index := place.index + 1 })
      | _ =>
          match reading.node? fuel depth place with
          | some (item, place) => reading.items? fuel depth (item :: items) place
          | none => none

def entries? (reading : Reading) : (fuel depth : Nat) → Entries Document → Place →
    Option (Document × Place)
  | 0, _, _, _ => none
  | fuel + 1, depth, entries, place =>
      match reading.event? place with
      | some .mappingEnd => some (.mapping entries, { place with index := place.index + 1 })
      | _ =>
          match reading.key? place with
          | none => none
          | some (name, place) =>
              match reading.node? fuel depth place with
              | some (entry, place) =>
                  reading.entries? fuel depth (entries.insert name entry) place
              | none => none

end

end Reading

def document? (outline : Outline) : Option Document :=
  if outline.events.isEmpty then some .null
  else
    let reading : Reading := ⟨outline.events.reverse.toArray, outline.places⟩
    (reading.node? ((depthLimit + 2) * (outline.count + 3)) depthLimit ⟨0, 0⟩).map Prod.fst

end Outline

def read? (text : Text) : Option Document := do
  let tokens ← tokens? text
  let outline ← Outline.ofTokens? tokens
  outline.document?

end TextTemplate.Yaml
