import TextTemplate.Cleanup
import TextTemplate.CommandLine.Arguments

/-!
# One run of the command line

A run loads a context, renders one template in it, removes leftover tags if that is asked for, and
delivers the text: to a file if one is given, to the output otherwise.
-/

set_option autoImplicit false

namespace TextTemplate.CommandLine

variable {m : Type → Type} [Monad m] [MonadLiftT Rendering m]

/-- The context that the arguments ask for. The input is preferred to a file. -/
def loadContext (host : Host m) (arguments : Arguments) : m (Except Failure Context) :=
  if arguments.stdin then host.inputContext
  else
    match arguments.context with
    | some path => host.loadContext path
    | none => pure (.ok [])

def renderTemplate (host : Host m) (depth : Nat) (arguments : Arguments) (context : Context) :
    m (Except Failure Text) := do
  let ((outcome, _), _) ←
    Cache.render host.loadTemplate depth arguments.template arguments.extension context
      ([] : List (Pass Unit)) () Cache.empty
  match outcome with
  | .loaded text => return .ok text
  | .failed failure => return .error failure
  | .brokenOff => return .error (.templateNotFound arguments.template)

def writeOutput (host : Host m) (path text : Text) : m (Except Failure Unit) := do
  let made ←
    match Path.parent? (Path.parts path) with
    | none => pure (.ok ())
    | some [] => pure (.ok ())
    | some parts => host.makeDirectories parts
  match made with
  | .error fault => return .error (.file fault)
  | .ok () =>
      match ← host.write path (Text.toBytes text) with
      | .ok () => return .ok ()
      | .error fault => return .error (.file fault)

/-- One run. Its answer is what goes to the output: nothing if the text goes to a file. -/
def run (host : Host m) (depth : Nat) (arguments : Arguments) : m (Except Failure Text) := do
  match ← loadContext host arguments with
  | .error failure => return .error failure
  | .ok context =>
      monadLift (Rendering.note (.rendering arguments.template context.length))
      match ← renderTemplate host depth arguments context with
      | .error failure => return .error failure
      | .ok rendered =>
          let text := if arguments.strip then Cleanup.stripUnresolved rendered else rendered
          match arguments.output with
          | none => return .ok text
          | some path =>
              match ← writeOutput host path text with
              | .ok () => return .ok []
              | .error failure => return .error failure

end TextTemplate.CommandLine
