import TextTemplate.Value

/-!
# The trail of an activity

Rendering and loading leave a trail: which deferred texts were invoked, and a journal of notices.
Both are kept newest first.
-/

set_option autoImplicit false

namespace TextTemplate

inductive Level where
  | debug
  | trace
  deriving DecidableEq, Repr

def Level.name : Level → Text
  | .debug => "DEBUG".toList
  | .trace => "TRACE".toList

inductive Notice where
  | substituting (name : Text) (kind : Value.Kind)
  | skippingUnsupported (name : Text)
  | sectionsRefused (name : Text)
  | passSkipped (pattern : Text)
  | cacheHit (path : Text)
  | cacheMiss (path file : Text)
  | loadingTemplate (file : Text)
  | loadingContext (path : Text)
  | rendering (path : Text) (entries : Nat)
  deriving DecidableEq, Repr

namespace Notice

def level : Notice → Level
  | .substituting _ _ => .trace
  | _ => .debug

def message : Notice → Text
  | .substituting name kind =>
      "Substituting '".toList ++ name ++ "' (".toList ++ kind.name ++ ")".toList
  | .skippingUnsupported name => "Skipping opaque value bound to '".toList ++ name ++ "'".toList
  | .sectionsRefused name =>
      "Section pattern for '".toList ++ name ++
        "' did not compile: Compiled regex exceeds size limit of 10485760 bytes.".toList
  | .passSkipped pattern => "Custom parser '".toList ++ pattern ++ "' did not match".toList
  | .cacheHit path => "Template cache hit for ".toList ++ path
  | .cacheMiss path file =>
      "Template cache miss for ".toList ++ path ++ ", reading ".toList ++ file
  | .loadingTemplate file => "Loading template from ".toList ++ file
  | .loadingContext path => "Loading context from ".toList ++ path
  | .rendering path entries =>
      "Rendering ".toList ++ path ++ " with ".toList ++ Number.Layout.digits entries ++
        " context entries".toList

def line (notice : Notice) : Text :=
  notice.level.name ++ ' ' :: notice.message

end Notice

/-- What has been done so far, newest first. -/
structure Trail where
  invoked : List Nat
  notices : List Notice
  deriving DecidableEq, Repr

namespace Trail

def empty : Trail := ⟨[], []⟩

def note (trail : Trail) (notice : Notice) : Trail :=
  { trail with notices := notice :: trail.notices }

def invocations (trail : Trail) (source : Nat) : Nat :=
  trail.invoked.count source

def invoke (trail : Trail) (deferred : Deferred) : Text × Trail :=
  (deferred.produce (trail.invocations deferred.source),
    { trail with invoked := deferred.source :: trail.invoked })

def journal (trail : Trail) : List Text :=
  trail.notices.reverse.map Notice.line

end Trail
end TextTemplate
