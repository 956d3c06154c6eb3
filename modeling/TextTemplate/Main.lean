import TextTemplate.CommandLine.Help
import TextTemplate.CommandLine.Run

/-!
# The program

The command line over the files of the machine. Everything that is decided is decided elsewhere;
here only files are read and written, and texts printed.
-/

set_option autoImplicit false

namespace TextTemplate.Program

abbrev Activity := StateT Trail (OptionT IO )

instance : MonadLift Rendering Activity where
  monadLift rendering := fun trail => OptionT.mk (pure (rendering trail))

def faultOf : IO.Error → FileFault
  | .noFileOrDirectory .. => .notFound
  | .alreadyExists .. => .alreadyExists
  | .inappropriateType _ 21 _ => .isADirectory
  | .inappropriateType .. => .notADirectory
  | .noSuchThing .. => .notFound
  | other => .other (toString other).toList

def attempt {α : Type} (action : IO α) : Activity (Except FileFault α) := do
  match ← (monadLift action.toBaseIO : Activity (Except IO.Error α)) with
  | .ok result => return .ok result
  | .error error => return .error (faultOf error)

def readInput : IO ByteArray := do
  (← IO.getStdin).readBinToEnd

def machine : Host Activity where
  holds path := do
    match ← attempt (IO.FS.Handle.mk (String.ofList path) .read) with
    | .error .notFound => return false
    | .error .notADirectory => return false
    | .error .nameTooLong => return false
    | _ => return true
  read path := attempt (IO.FS.readBinFile (String.ofList path))
  input := attempt readInput
  makeDirectories parts := attempt (IO.FS.createDirAll (String.ofList (Path.write parts)))
  write path bytes := attempt (IO.FS.writeBinFile (String.ofList path) bytes)

end TextTemplate.Program

def main (arguments : List String) : IO UInt32 := do
  match TextTemplate.Arguments.parse (arguments.map String.toList) with
  | .error fault =>
      let (status, text) := TextTemplate.CommandLine.refusal fault
      IO.print (String.ofList text)
      return status.toUInt32
  | .ok arguments =>
      let finished ←
        (TextTemplate.CommandLine.run TextTemplate.Program.machine
          TextTemplate.Substitution.depthLimit arguments .empty).run
      match finished with
      | none =>
          IO.eprintln "The sections are nested too deeply."
          return 1
      | some (result, trail) =>
          if arguments.verbose then
            for line in trail.journal do
              IO.eprintln (String.ofList line)
          match result with
          | .ok text =>
              IO.print (String.ofList text)
              return 0
          | .error failure =>
              IO.eprintln (String.ofList failure.message)
              return 1
