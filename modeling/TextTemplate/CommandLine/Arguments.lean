import TextTemplate.Cache

/-!
# The arguments of a command line

Options may stand in any order, before and after the template. An option with a value takes the rest
of its own argument or the next argument; flags of one letter may be written together. After two
hyphens alone every argument is positional. A value is only looked at when the next option or the
end comes, so a fault in a later argument may be told before a fault in a value.
-/

set_option autoImplicit false

namespace TextTemplate

structure Arguments where
  template : Text
  context : Option Text
  stdin : Bool
  extension : Text
  strip : Bool
  output : Option Text
  verbose : Bool
  deriving DecidableEq, Repr

inductive ArgumentFault where
  | missingRequired
  | unknown
  | invalidValue
  | conflict
  | tooManyValues
  | help
  | version
  deriving DecidableEq, Repr

namespace Arguments

/-! ### Options -/

inductive Slot where
  | template
  | context
  | extension
  | output
  deriving DecidableEq, Repr

inductive Flag where
  | stdin
  | strip
  | verbose
  deriving DecidableEq, Repr

inductive Switch where
  | valued (slot : Slot)
  | flag (flag : Flag)
  | help
  | version
  deriving DecidableEq, Repr

def ofLong? (name : Text) : Option Switch :=
  match String.ofList name with
  | "context" => some (.valued .context)
  | "extension" => some (.valued .extension)
  | "output" => some (.valued .output)
  | "stdin" => some (.flag .stdin)
  | "strip" => some (.flag .strip)
  | "verbose" => some (.flag .verbose)
  | "help" => some .help
  | "version" => some .version
  | _ => none

def ofShort? : Char → Option Switch
  | 'c' => some (.valued .context)
  | 'e' => some (.valued .extension)
  | 'o' => some (.valued .output)
  | 's' => some (.flag .stdin)
  | 'v' => some (.flag .verbose)
  | 'h' => some .help
  | 'V' => some .version
  | _ => none

/-! ### What has been given -/

structure Given where
  template : Option Text
  context : Option Text
  extension : Option Text
  output : Option Text
  stdin : Bool
  strip : Bool
  verbose : Bool
  deriving DecidableEq, Repr

namespace Given

def nothing : Given := ⟨none, none, none, none, false, false, false⟩

def value? (given : Given) : Slot → Option Text
  | .template => given.template
  | .context => given.context
  | .extension => given.extension
  | .output => given.output

def put (given : Given) (slot : Slot) (value : Text) : Given :=
  match slot with
  | .template => { given with template := some value }
  | .context => { given with context := some value }
  | .extension => { given with extension := some value }
  | .output => { given with output := some value }

def has (given : Given) : Flag → Bool
  | .stdin => given.stdin
  | .strip => given.strip
  | .verbose => given.verbose

def raise (given : Given) : Flag → Given
  | .stdin => { given with stdin := true }
  | .strip => { given with strip := true }
  | .verbose => { given with verbose := true }

/-- Give a slot a value, if there is one: no slot twice, and only an extension may be empty. -/
def take (given : Given) (slot : Slot) (value : Option Text) : Except ArgumentFault Given :=
  match value with
  | none => .error .invalidValue
  | some value =>
      if (given.value? slot).isSome then .error .conflict
      else if value.isEmpty ∧ slot ≠ .extension then .error .invalidValue
      else .ok (given.put slot value)

end Given

/-! ### Reading -/

structure State where
  given : Given
  /-- A slot whose value has not been looked at, and the value if it has come. -/
  pending : Option (Slot × Option Text)
  /-- Whether the next argument may be the value of the pending slot. -/
  awaiting : Bool
  placed : Bool
  trailing : Bool
  deriving DecidableEq, Repr

namespace State

def start : State := ⟨.nothing, none, false, false, false⟩

def settle (state : State) : Except ArgumentFault State :=
  match state.pending with
  | none => .ok state
  | some (slot, value) => do
      let given ← state.given.take slot value
      .ok { state with given := given, pending := none, awaiting := false }

def option (state : State) (option : Switch) (attached : Option Text) :
    Except ArgumentFault State :=
  match option, attached with
  | .valued slot, some value => do
      let state ← state.settle
      let given ← state.given.take slot (some value)
      .ok { state with given := given }
  | .valued slot, none => do
      let state ← state.settle
      .ok { state with pending := some (slot, none), awaiting := true }
  | _, some _ => .error .tooManyValues
  | .flag flag, none => do
      let state ← state.settle
      if state.given.has flag then .error .conflict
      else .ok { state with given := state.given.raise flag }
  | .help, none => do
      let _ ← state.settle
      .error .help
  | .version, none => do
      let _ ← state.settle
      .error .version

/-- Letters written together after one hyphen. The first that takes a value takes the rest. -/
def letters (state : State) : Text → Except ArgumentFault State
  | [] => .ok state
  | c :: rest =>
      match ofShort? c with
      | none => .error .unknown
      | some (.valued slot) =>
          let attached :=
            match rest with
            | [] => none
            | '=' :: value => some value
            | value => some value
          state.option (.valued slot) attached
      | some other => do
          let state ← state.option other none
          letters state rest

def long (state : State) (text : Text) : Except ArgumentFault State :=
  let name := text.takeWhile (· != '=')
  let attached :=
    match text.dropWhile (· != '=') with
    | [] => none
    | _ :: value => some value
  match ofLong? name with
  | none => .error .unknown
  | some option => state.option option attached

def positional (state : State) (text : Text) : Except ArgumentFault State :=
  if state.placed then .error .unknown
  else do
    let state ← state.settle
    .ok { state with pending := some (.template, some text), placed := true }

def plain (state : State) (text : Text) : Except ArgumentFault State :=
  match state.awaiting, state.pending with
  | true, some (slot, _) => .ok { state with pending := some (slot, some text), awaiting := false }
  | _, _ => state.positional text

def argument (state : State) (text : Text) : Except ArgumentFault State :=
  if state.trailing then state.positional text
  else
    match text with
    | ['-', '-'] => .ok { state with trailing := true }
    | '-' :: '-' :: rest => state.long rest
    | ['-'] => state.plain text
    | '-' :: rest => state.letters rest
    | _ => state.plain text

def finish (state : State) : Except ArgumentFault Arguments := do
  let state ← state.settle
  let given := state.given
  if given.stdin ∧ given.context.isSome then .error .conflict
  else
    match given.template with
    | none => .error .missingRequired
    | some template =>
        .ok
          { template := template
            context := given.context
            stdin := given.stdin
            extension := given.extension.getD defaultExtension
            strip := given.strip
            output := given.output
            verbose := given.verbose }

end State

def parse (arguments : List Text) : Except ArgumentFault Arguments := do
  let state ← arguments.foldlM State.argument State.start
  state.finish

end Arguments
end TextTemplate
