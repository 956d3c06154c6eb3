import TextTemplate.Pass
import TextTemplate.Storage.Host

/-!
# The template cache

A cache keeps the text of every template that was loaded, under the path it was asked for. Paths
with the same parts are one entry, and the extension is no part of it: once a template is there it
is given again whatever the extension, and the loader is not asked any more. A load that fails or
breaks off leaves the cache as it was.
-/

set_option autoImplicit false

namespace TextTemplate

def defaultExtension : Text := "mustache".toList

structure Cache where
  templates : List (List PathPart × Text)
  deriving DecidableEq, Repr

namespace Cache

def empty : Cache := ⟨[]⟩

def find? (cache : Cache) (path : Text) : Option Text :=
  (cache.templates.find? (fun entry => entry.1 = Path.parts path)).map Prod.snd

def contains (cache : Cache) (path : Text) : Bool :=
  (cache.find? path).isSome

def size (cache : Cache) : Nat :=
  cache.templates.length

def isEmpty (cache : Cache) : Bool :=
  cache.size == 0

def insert (cache : Cache) (path text : Text) : Cache :=
  ⟨cache.templates ++ [(Path.parts path, text)]⟩

variable {m : Type → Type} [Monad m] [MonadLiftT Rendering m]

/-- The template for a path. If it is not kept, the loader is asked for the path with the
extension, and what it loads is kept. -/
def source (load : Text → m LoadOutcome) (path extension : Text) : StateT Cache m LoadOutcome :=
  fun cache => do
    match cache.find? path with
    | some text =>
        monadLift (Rendering.note (.cacheHit path))
        return (.loaded text, cache)
    | none =>
        let file := Path.withExtension path extension
        monadLift (Rendering.note (.cacheMiss path file))
        match ← load file with
        | .loaded text => return (.loaded text, cache.insert path text)
        | other => return (other, cache)

def render {σ : Type} (load : Text → m LoadOutcome) (depth : Nat) (path extension : Text)
    (context : Context) (passes : List (Pass σ)) : StateT σ (StateT Cache m) LoadOutcome :=
  fun state cache => do
    match ← source load path extension cache with
    | (.loaded template, cache) =>
        let (text, state) ←
          monadLift (TextTemplate.render depth template context passes state)
        return ((.loaded text, state), cache)
    | (other, cache) => return ((other, state), cache)

end Cache
end TextTemplate
