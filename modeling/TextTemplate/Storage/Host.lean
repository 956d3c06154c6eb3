import TextTemplate.Context
import TextTemplate.Storage.Files
import TextTemplate.Substitution

/-!
# Where files are kept

A host offers the few operations on files that loading and delivering need, in some monad that also
has the trail of renderings. `Host.ofFiles` is a host whose files are a value, with an input beside
them.
-/

set_option autoImplicit false

namespace TextTemplate

structure Host (m : Type → Type) where
  holds : Text → m Bool
  read : Text → m (Except FileFault ByteArray)
  input : m (Except FileFault ByteArray)
  makeDirectories : List PathPart → m (Except FileFault Unit)
  write : Text → ByteArray → m (Except FileFault Unit)

inductive LoadOutcome where
  | loaded (text : Text)
  | failed (failure : Failure)
  | brokenOff
  deriving DecidableEq, Repr

structure World where
  files : Files
  input : ByteArray

abbrev WorldActivity := StateT World Rendering

namespace Host

variable {m : Type → Type} [Monad m] [MonadLiftT Rendering m]

def ofFiles : Host WorldActivity where
  holds path := do return (← get).files.holds path
  read path := do return (← get).files.read path
  input := do return .ok (← get).input
  makeDirectories parts := do
    let world ← get
    let (result, files) := world.files.makeDirectories parts
    set { world with files := files }
    return result
  write path bytes := do
    let world ← get
    match world.files.write path bytes with
    | .ok files =>
        set { world with files := files }
        return .ok ()
    | .error fault => return .error fault

def decode (bytes : ByteArray) : Except FileFault Text :=
  match Text.ofBytes? bytes with
  | some text => .ok text
  | none => .error .notUtf8

def readText (host : Host m) (path : Text) : m (Except FileFault Text) := do
  match ← host.read path with
  | .error fault => return .error fault
  | .ok bytes => return decode bytes

def loadTemplate (host : Host m) (file : Text) : m LoadOutcome := do
  if ← host.holds file then
    monadLift (Rendering.note (.loadingTemplate file))
    match ← host.readText file with
    | .ok text => return .loaded text
    | .error fault => return .failed (.templateUnreadable file fault)
  else return .failed (.templateNotFound file)

def loadContext (host : Host m) (path : Text) : m (Except Failure Context) := do
  monadLift (Rendering.note (.loadingContext path))
  match ← host.readText path with
  | .ok text => return Context.parse text
  | .error fault => return .error (.file fault)

def inputContext (host : Host m) : m (Except Failure Context) := do
  match ← host.input with
  | .error fault => return .error (.file fault)
  | .ok bytes =>
      match decode bytes with
      | .ok text => return Context.parse text
      | .error fault => return .error (.file fault)

end Host
end TextTemplate
