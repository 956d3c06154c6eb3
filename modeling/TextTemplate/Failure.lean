import TextTemplate.Value

/-!
# What can fail

Rendering does not fail. Failures come from files, from documents that hold no context, and from
patterns that cannot be read. Each is a cause; `Failure.message` puts it in words.
-/

set_option autoImplicit false

namespace TextTemplate

inductive FileFault where
  | notFound
  | alreadyExists
  | notADirectory
  | isADirectory
  | nameTooLong
  | nulInPath
  | notUtf8
  | other (words : Text)
  deriving DecidableEq, Repr

def FileFault.message : FileFault → Text
  | .notFound => "No such file or directory (os error 2)".toList
  | .alreadyExists => "File exists (os error 17)".toList
  | .notADirectory => "Not a directory (os error 20)".toList
  | .isADirectory => "Is a directory (os error 21)".toList
  | .nameTooLong => "File name too long (os error 36)".toList
  | .nulInPath => "file name contained an unexpected NUL byte".toList
  | .notUtf8 => "stream did not contain valid UTF-8".toList
  | .other words => words

inductive ContextFault where
  | malformed
  | noMapping (found : Value.Kind)
  | other (words : Text)
  deriving DecidableEq, Repr

inductive Failure where
  | templateNotFound (path : Text)
  | templateUnreadable (path : Text) (fault : FileFault)
  | file (fault : FileFault)
  | context (fault : ContextFault)
  | pattern
  deriving DecidableEq, Repr

def Failure.message : Failure → Text
  | .templateNotFound path => "Missing given template file: '".toList ++ path ++ "'.".toList
  | .templateUnreadable path fault =>
      "Could not load template file: '".toList ++ path ++ "': ".toList ++ fault.message ++ ['.']
  | .file fault => "IO error: ".toList ++ fault.message ++ ['.']
  | .context .malformed => "Context error: Invalid context format".toList
  | .context (.noMapping found) =>
      "Context error: expected a mapping at the top level, found ".toList ++ found.name ++ ['.']
  | .context (.other words) => "Context error: ".toList ++ words ++ ['.']
  | .pattern => "Pattern error.".toList

def Failure.source? : Failure → Option Text
  | .templateUnreadable _ fault => some fault.message
  | .file fault => some fault.message
  | _ => none

end TextTemplate
