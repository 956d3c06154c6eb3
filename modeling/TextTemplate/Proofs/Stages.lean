import TextTemplate.CommandLine.Run
import TextTemplate.Proofs.Undeferred

/-!
# The stages of a run

Over files that are a value, each stage of a run of the command line is a function of the arguments
and of the files and the input as they were when the run began: nothing is written before the text
to be written is there. The run is these functions one after the other. No stage looks at the trail,
because a context that was written as a document holds no deferred text.
-/

set_option autoImplicit false

namespace TextTemplate

/-! ### Activities that do not look at the trail -/

/-- On every trail the activity gives this result in the world and leaves the world like this, or
gives none. -/
def WorldActivity.Answers {α : Type} (activity : WorldActivity α) (world : World)
    (answer : Option (α × World)) : Prop :=
  ∀ trail, (activity world trail).map Prod.fst = answer

namespace WorldActivity.Answers

variable {α β : Type} {activity : WorldActivity α} {next : α → WorldActivity β}
variable {world between : World} {result : α} {answer : Option (β × World)}

theorem pure (result : α) (world : World) :
    WorldActivity.Answers (pure result) world (some (result, world)) :=
  fun _ => rfl

theorem note (notice : Notice) (world : World) :
    WorldActivity.Answers (monadLift (Rendering.note notice)) world (some ((), world)) :=
  fun _ => rfl

theorem bind (first : activity.Answers world (some (result, between)))
    (second : (next result).Answers between answer) : (activity >>= next).Answers world answer := by
  intro trail
  obtain ⟨⟨_, after⟩, done, rfl⟩ := Option.map_eq_some_iff.mp (first trail)
  change ((activity world trail).bind fun step => next step.1.1 step.1.2 step.2).map Prod.fst = _
  rw [done]
  exact second after

theorem bind_none (first : activity.Answers world none) :
    (activity >>= next).Answers world none := by
  intro trail
  have stuck := Option.map_eq_none_iff.mp (first trail)
  change ((activity world trail).bind fun step => next step.1.1 step.1.2 step.2).map Prod.fst = _
  rw [stuck]
  rfl

end WorldActivity.Answers

namespace CommandLine

/-! ### The stages -/

def textIn (files : Files) (path : Text) : Except FileFault Text :=
  files.read path >>= Host.decode

def contextOf : Except FileFault Text → Except Failure Context
  | .ok text => Context.parse text
  | .error fault => .error (.file fault)

/-- The context that the arguments choose: the input, or else the context file, or else none. -/
def contextIn (arguments : Arguments) (world : World) : Except Failure Context :=
  if arguments.stdin then contextOf (Host.decode world.input)
  else
    match arguments.context with
    | some path => contextOf (textIn world.files path)
    | none => .ok []

def templateFile (arguments : Arguments) : Text :=
  arguments.template ++ '.' :: arguments.extension

def templateIn (arguments : Arguments) (files : Files) : Except Failure Text :=
  if files.holds (templateFile arguments) then
    (textIn files (templateFile arguments)).mapError (.templateUnreadable (templateFile arguments))
  else .error (.templateNotFound (templateFile arguments))

/-- The template rendered in the context without passes. There is none if the sections are nested
too deeply. -/
def rendered? (depth : Nat) (template : Text) (context : Context) : Option Text :=
  (TextTemplate.render depth template context ([] : List (Pass Unit)) () Trail.empty).map
    fun ended => ended.1.1

def finished (arguments : Arguments) (text : Text) : Text :=
  if arguments.strip then Cleanup.stripUnresolved text else text

def makeParents (files : Files) (path : Text) : Except FileFault Unit × Files :=
  match (Path.parts path).dropLast with
  | [] => (.ok (), files)
  | parts => files.makeDirectories parts

def writeAfter (path text : Text) :
    Except FileFault Unit × Files → Except Failure Unit × Files
  | (.error fault, made) => (.error (.file fault), made)
  | (.ok (), made) =>
      match made.write path (Text.toBytes text) with
      | .ok after => (.ok (), after)
      | .error fault => (.error (.file fault), made)

def deliver (files : Files) (path text : Text) : Except Failure Unit × Files :=
  writeAfter path text (makeParents files path)

/-- Hand a finished text over: to a file if one is given, to the output otherwise. -/
def handOver (arguments : Arguments) (world : World) (text : Text) : Except Failure Text × World :=
  match arguments.output with
  | none => (.ok text, world)
  | some path =>
      ((deliver world.files path text).1.map fun _ => [],
        { world with files := (deliver world.files path text).2 })

/-- The stages one after the other: what goes to the output, or why the run fails, and the world
after it. -/
def composed (depth : Nat) (arguments : Arguments) (world : World) :
    Option (Except Failure Text × World) :=
  match contextIn arguments world with
  | .error failure => some (.error failure, world)
  | .ok context =>
      match templateIn arguments world.files with
      | .error failure => some (.error failure, world)
      | .ok template =>
          (rendered? depth template context).map fun text =>
            handOver arguments world (finished arguments text)

def loaded : Except Failure Text → LoadOutcome
  | .ok text => .loaded text
  | .error failure => .failed failure

/-! ### The run is the stages one after the other -/

section

open WorldActivity

variable {world : World} {context : Context} {template path text : Text} {depth : Nat}
variable {arguments : Arguments} {failure : Failure}

private theorem readText_answers (world : World) (path : Text) :
    Answers (Host.ofFiles.readText path) world (some (textIn world.files path, world)) := by
  have asked : Answers (Host.ofFiles.read path) world (some (world.files.read path, world)) :=
    fun _ => rfl
  refine asked.bind ?_
  rw [textIn]
  cases world.files.read path with
  | error fault => exact .pure _ world
  | ok bytes => exact .pure _ world

private theorem inputContext_answers (world : World) :
    Answers Host.ofFiles.inputContext world (some (contextOf (Host.decode world.input), world)) := by
  have asked : Answers Host.ofFiles.input world (some (.ok world.input, world)) := fun _ => rfl
  refine asked.bind ?_
  dsimp only
  cases Host.decode world.input with
  | error fault => exact .pure _ world
  | ok text => exact .pure _ world

private theorem loadContext_answers (arguments : Arguments) (world : World) :
    Answers (loadContext Host.ofFiles arguments) world
      (some (contextIn arguments world, world)) := by
  unfold loadContext contextIn
  split
  · exact inputContext_answers world
  · cases arguments.context with
    | none => exact .pure _ world
    | some path =>
        refine (Answers.note _ world).bind ((readText_answers world path).bind ?_)
        dsimp only
        cases textIn world.files path with
        | error fault => exact .pure _ world
        | ok text => exact .pure _ world

private theorem loadTemplate_answers (arguments : Arguments) (world : World) :
    Answers (Host.ofFiles.loadTemplate (templateFile arguments)) world
      (some (loaded (templateIn arguments world.files), world)) := by
  have asked : Answers (Host.ofFiles.holds (templateFile arguments)) world
      (some (world.files.holds (templateFile arguments), world)) := fun _ => rfl
  refine asked.bind ?_
  unfold templateIn
  split
  · refine (Answers.note _ world).bind ((readText_answers world _).bind ?_)
    cases textIn world.files (templateFile arguments) with
    | error fault => exact .pure _ world
    | ok text => exact .pure _ world
  · exact .pure _ world

theorem render_eq (depth : Nat) (template : Text) (context : Context) (trail : Trail) :
    TextTemplate.render depth template context ([] : List (Pass Unit)) () trail =
      (substituteWithin depth template context context trail).map
        fun ended => ((ended.1, ()), ended.2) := by
  change (((substituteWithin depth template context context trail).bind fun ended =>
    some ((ended.1, ()), ended.2)).bind fun ended => some (ended.1, ended.2)) = _
  cases substituteWithin depth template context context trail with
  | none => rfl
  | some ended => rfl

/-- Without deferred texts, what is rendered on the empty trail is rendered on every trail. -/
private theorem render_answers (undeferred : Entries.Undeferred context) (depth : Nat)
    (template : Text)
    (world : World) :
    Answers (monadLift (TextTemplate.render depth template context ([] : List (Pass Unit)) ())) world
      ((rendered? depth template context).map fun text => ((text, ()), world)) := by
  intro trail
  have agree := substituteWithin_agree_of_undeferred undeferred undeferred depth template
  change ((TextTemplate.render depth template context ([] : List (Pass Unit)) () trail).bind
    fun ended => some ((ended.1, world), ended.2)).map Prod.fst = _
  rw [rendered?, render_eq, render_eq]
  rcases agree.outcome (show Trail.Any trail .empty from trivial) with
    ⟨stuck, twinStuck⟩ | ⟨text, after, twinAfter, done, twinDone, _⟩
  · rw [stuck, twinStuck]
    rfl
  · rw [done, twinDone]
    rfl

private theorem source_answers_of_ok (chosen : templateIn arguments world.files = .ok template) :
    Answers
      (Cache.source Host.ofFiles.loadTemplate arguments.template arguments.extension Cache.empty)
      world
      (some ((.loaded template, Cache.empty.insert arguments.template template), world)) := by
  have asked := loadTemplate_answers arguments world
  rw [chosen] at asked
  exact (Answers.note _ world).bind (asked.bind (.pure _ world))

private theorem source_answers_of_error
    (refused : templateIn arguments world.files = .error failure) :
    Answers
      (Cache.source Host.ofFiles.loadTemplate arguments.template arguments.extension Cache.empty)
      world (some ((.failed failure, Cache.empty), world)) := by
  have asked := loadTemplate_answers arguments world
  rw [refused] at asked
  exact (Answers.note _ world).bind (asked.bind (.pure _ world))

private theorem renderTemplate_answers_of_error (depth : Nat) (context : Context)
    (refused : templateIn arguments world.files = .error failure) :
    Answers (renderTemplate Host.ofFiles depth arguments context) world
      (some (.error failure, world)) := by
  have shown : Answers
      (Cache.render Host.ofFiles.loadTemplate depth arguments.template arguments.extension context
        ([] : List (Pass Unit)) () Cache.empty)
      world (some (((.failed failure, ()), Cache.empty), world)) :=
    (source_answers_of_error refused).bind (.pure _ world)
  exact shown.bind (.pure _ world)

private theorem renderTemplate_answers_of_ok (undeferred : Entries.Undeferred context) (depth : Nat)
    (chosen : templateIn arguments world.files = .ok template) :
    Answers (renderTemplate Host.ofFiles depth arguments context) world
      ((rendered? depth template context).map fun text => (.ok text, world)) := by
  have supplied := source_answers_of_ok chosen
  have rendered := render_answers undeferred depth template world
  cases ended : rendered? depth template context with
  | none =>
      rw [ended] at rendered
      have shown : Answers
          (Cache.render Host.ofFiles.loadTemplate depth arguments.template arguments.extension
            context ([] : List (Pass Unit)) () Cache.empty) world none :=
        supplied.bind rendered.bind_none
      exact shown.bind_none
  | some text =>
      rw [ended] at rendered
      have shown : Answers
          (Cache.render Host.ofFiles.loadTemplate depth arguments.template arguments.extension
            context ([] : List (Pass Unit)) () Cache.empty)
          world
          (some (((.loaded text, ()), Cache.empty.insert arguments.template template), world)) :=
        supplied.bind (rendered.bind (.pure _ world))
      exact shown.bind (.pure _ world)

private theorem write_answers (world : World) (path : Text) (bytes : ByteArray) :
    Answers (Host.ofFiles.write path bytes) world
      (some (match world.files.write path bytes with
        | .ok after => (.ok (), { world with files := after })
        | .error fault => (.error fault, world))) := by
  have asked : Answers (get : WorldActivity World) world (some (world, world)) := fun _ => rfl
  refine asked.bind ?_
  cases world.files.write path bytes with
  | ok after =>
      have changed : Answers (set { world with files := after } : WorldActivity Unit) world
          (some ((), { world with files := after })) := fun _ => rfl
      exact changed.bind (.pure _ _)
  | error fault => exact .pure _ world

private theorem writeAfter_answers (path text : Text) (made : Except FileFault Unit)
    (world : World) :
    Answers
      (match made with
        | .error fault => pure (.error (.file fault))
        | .ok () => do
            match ← Host.ofFiles.write path (Text.toBytes text) with
            | .ok () => return .ok ()
            | .error fault => return .error (.file fault))
      world
      (some ((writeAfter path text (made, world.files)).1,
        { world with files := (writeAfter path text (made, world.files)).2 })) := by
  cases made with
  | error fault => exact .pure _ world
  | ok =>
      refine (write_answers world path (Text.toBytes text)).bind ?_
      rw [writeAfter]
      cases world.files.write path (Text.toBytes text) with
      | ok after => exact .pure _ _
      | error fault => exact .pure _ world

private theorem root_notMem_filterMap_partOf? (segments : List Text) :
    PathPart.root ∉ segments.filterMap Path.partOf? := by
  intro present
  obtain ⟨segment, _, stands⟩ := List.mem_filterMap.mp present
  unfold Path.partOf? at stands
  split at stands
  · cases stands
  · split at stands <;> cases stands

private theorem parts_eq_root (last : (Path.parts path).getLast? = some .root) :
    Path.parts path = [.root] := by
  unfold Path.parts at last ⊢
  split at last
  · next absolute =>
      rw [if_pos absolute]
      cases named : (Path.segments path).filterMap Path.partOf? with
      | nil => rfl
      | cons part parts =>
          rw [named, List.getLast?_cons_cons] at last
          have present := List.mem_of_getLast? last
          rw [← named] at present
          exact absurd present (root_notMem_filterMap_partOf? _)
  · have present := List.mem_of_getLast? last
    split at present
    · cases present with
      | tail _ later => exact absurd later (root_notMem_filterMap_partOf? _)
    · exact absurd present (root_notMem_filterMap_partOf? _)

private theorem getD_parent?_parts (path : Text) :
    (Path.parent? (Path.parts path)).getD [] = (Path.parts path).dropLast := by
  unfold Path.parent?
  split
  · next empty =>
      rw [List.getLast?_eq_none_iff.mp empty]
      rfl
  · next root =>
      rw [parts_eq_root root]
      rfl
  · rfl

private theorem writeOutput_answers (world : World) (path text : Text) :
    Answers (writeOutput Host.ofFiles path text) world
      (some ((deliver world.files path text).1,
        { world with files := (deliver world.files path text).2 })) := by
  unfold writeOutput deliver makeParents
  rw [← getD_parent?_parts]
  cases Path.parent? (Path.parts path) with
  | none =>
      exact (Answers.pure _ world).bind (writeAfter_answers path text (.ok ()) world)
  | some parts =>
      cases parts with
      | nil =>
          exact (Answers.pure _ world).bind (writeAfter_answers path text (.ok ()) world)
      | cons part parts =>
          have asked : Answers (Host.ofFiles.makeDirectories (part :: parts)) world
              (some ((world.files.makeDirectories (part :: parts)).1,
                { world with files := (world.files.makeDirectories (part :: parts)).2 })) :=
            fun _ => rfl
          exact asked.bind (writeAfter_answers path text _ _)

private theorem undeferred_of_contextOf {source : Except FileFault Text}
    (chosen : contextOf source = .ok context) : Entries.Undeferred context := by
  cases source with
  | error fault => cases chosen
  | ok text => exact Context.undeferred_of_parse chosen

private theorem undeferred_of_contextIn (chosen : contextIn arguments world = .ok context) :
    Entries.Undeferred context := by
  unfold contextIn at chosen
  split at chosen
  · exact undeferred_of_contextOf chosen
  · split at chosen
    · exact undeferred_of_contextOf chosen
    · cases chosen
      exact fun _ impossible => absurd impossible List.not_mem_nil

theorem run_answers (depth : Nat) (arguments : Arguments) (world : World) :
    Answers (run Host.ofFiles depth arguments) world (composed depth arguments world) := by
  refine (loadContext_answers arguments world).bind ?_
  unfold composed
  cases chosen : contextIn arguments world with
  | error failure => exact .pure _ world
  | ok context =>
      refine (Answers.note _ world).bind ?_
      dsimp only
      cases supplied : templateIn arguments world.files with
      | error failure =>
          exact (renderTemplate_answers_of_error depth context supplied).bind (.pure _ world)
      | ok template =>
          have shown := renderTemplate_answers_of_ok (undeferred_of_contextIn chosen) depth supplied
          dsimp only
          cases ended : rendered? depth template context with
          | none =>
              rw [ended] at shown
              exact shown.bind_none
          | some text =>
              rw [ended] at shown
              refine shown.bind ?_
              rw [Option.map_some, handOver]
              cases arguments.output with
              | none => exact .pure _ world
              | some path =>
                  refine (writeOutput_answers world path (finished arguments text)).bind ?_
                  dsimp only
                  cases (deliver world.files path (finished arguments text)).1 with
                  | ok => exact .pure _ _
                  | error failure => exact .pure _ _

end

end CommandLine
end TextTemplate
