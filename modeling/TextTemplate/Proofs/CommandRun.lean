import TextTemplate.Proofs.Files
import TextTemplate.Proofs.Stages
import TextTemplate.Proofs.Truthless

/-!
# Runs of the command line over files

A run succeeds if and only if its context and its template are there, its output can be written and
its rendering ends. Then the text that the stages give is delivered to one place only, whatever paths
name the same file. It fails at the first stage that does, and then no file has been created or
changed. A truth value can keep a rendering from ending, and then the run does neither.
-/

set_option autoImplicit false

namespace TextTemplate.CommandLine

/-! ### What is delivered -/

/-- The directories on the way to a file can be made, and then the file can be written. -/
def Writable (files : Files) (path : Text) : Prop :=
  (makeParents files path).1 = .ok () ∧
    ∀ bytes, ∃ after, (makeParents files path).2.write path bytes = .ok after

/-- The path names a place, and at this place are the bytes. At no other place a file has been
created, changed or removed. -/
structure Receives (before : Files) (path : Text) (bytes : ByteArray) (after : Files) : Prop where
  current : after.current = before.current
  reads : after.read path = .ok bytes
  files : ∃ place, after.locate path = .ok place ∧
    ∀ other, after.fileAt? other = if other = place then some bytes else before.fileAt? other

section

variable {files : Files} {path text : Text}

private theorem makeParents_added (files : Files) (path : Text) :
    files.OnlyDirectoriesAdded (makeParents files path).2 := by
  unfold makeParents
  split
  · exact .refl files
  · exact files.makeDirectories_added _

private theorem receives_of_write {made after : Files} {bytes : ByteArray}
    (added : files.OnlyDirectoriesAdded made) (wrote : made.write path bytes = .ok after) :
    Receives files path bytes after := by
  obtain ⟨place, written⟩ := Files.wroteAt_of_write wrote
  refine ⟨written.current.trans added.current, written.read_eq, place, written.located, ?_⟩
  intro other
  rw [written.fileAt?_eq, added.fileAt?_eq]

/-- Whether a text can be delivered does not depend on the text. -/
private theorem deliver_cases (files : Files) (path text : Text) :
    (Writable files path ∧ ∃ after, deliver files path text = (.ok (), after) ∧
      Receives files path (Text.toBytes text) after) ∨
    (¬Writable files path ∧ ∃ failure after, deliver files path text = (.error failure, after) ∧
      files.OnlyDirectoriesAdded after) := by
  have added := makeParents_added files path
  unfold deliver Writable
  generalize makeParents files path = parents at added ⊢
  obtain ⟨result, made⟩ := parents
  cases result with
  | error fault => exact .inr ⟨nofun, .file fault, made, rfl, added⟩
  | ok =>
      rw [writeAfter]
      cases wrote : made.write path (Text.toBytes text) with
      | ok after =>
          exact .inl ⟨⟨rfl, Files.writable wrote⟩, after, rfl, receives_of_write added wrote⟩
      | error fault =>
          refine .inr ⟨fun writable => ?_, .file fault, made, rfl, added⟩
          obtain ⟨after, succeeds⟩ := writable.2 (Text.toBytes text)
          rw [wrote] at succeeds
          cases succeeds

private theorem added_of_deliver {failure : Failure} {after : Files}
    (refused : deliver files path text = (.error failure, after)) :
    files.OnlyDirectoriesAdded after := by
  rcases deliver_cases files path text with ⟨_, _, delivered, _⟩ | ⟨_, _, _, stopped, added⟩
  · cases refused.symm.trans delivered
  · cases refused.symm.trans stopped
    exact added

end

/-! ### Whole runs -/

section

variable (depth : Nat) (arguments : Arguments) (world : World)

/-- There is a context, there is a template, and the file for the text can be written, if there is
to be one. -/
def Feasible : Prop :=
  ∃ context template, contextIn arguments world = .ok context ∧
    templateIn arguments world.files = .ok template ∧
      ∀ path ∈ arguments.output, Writable world.files path

/-- What goes to the output, and the world afterwards, if the run succeeds: the finished text goes
to the file only, or to the output only. -/
def Delivers (printed : Text) (after : World) : Prop :=
  ∃ context template text, contextIn arguments world = .ok context ∧
    templateIn arguments world.files = .ok template ∧
      rendered? depth template context = some text ∧
        match arguments.output with
        | none => printed = finished arguments text ∧ after = world
        | some path =>
            printed = [] ∧ after.input = world.input ∧
              Receives world.files path (Text.toBytes (finished arguments text)) after.files

/-- No file has been created, changed or removed. -/
structure SameFiles (before after : World) : Prop where
  input : after.input = before.input
  current : after.files.current = before.files.current
  files : ∀ place, after.files.fileAt? place = before.files.fileAt? place

/-- How a run fails: at the first stage that does, with what this stage says. The first two leave
the world as it was. -/
inductive Fails : Failure → World → Prop
  | context {failure : Failure} (refused : contextIn arguments world = .error failure) :
      Fails failure world
  | template {context : Context} {failure : Failure}
      (chosen : contextIn arguments world = .ok context)
      (refused : templateIn arguments world.files = .error failure) : Fails failure world
  | output {context : Context} {template text path : Text} {failure : Failure} {files : Files}
      (chosen : contextIn arguments world = .ok context)
      (supplied : templateIn arguments world.files = .ok template)
      (ended : rendered? depth template context = some text)
      (given : arguments.output = some path)
      (refused : deliver world.files path (finished arguments text) = (.error failure, files)) :
      Fails failure { world with files := files }

/-- The rendering does not end within the depth. -/
def TooDeep : Prop :=
  ∃ context template, contextIn arguments world = .ok context ∧
    templateIn arguments world.files = .ok template ∧ rendered? depth template context = none

/-- The rendering does not end within any depth. -/
def Endless : Prop :=
  ∀ depth, TooDeep depth arguments world

inductive Ran : Option (Except Failure Text × World) → Prop
  | succeeds {printed : Text} {after : World} (feasible : Feasible arguments world)
      (delivers : Delivers depth arguments world printed after) : Ran (some (.ok printed, after))
  | fails {failure : Failure} {after : World} (infeasible : ¬Feasible arguments world)
      (fails : Fails depth arguments world failure after) : Ran (some (.error failure, after))
  | tooDeep (tooDeep : TooDeep depth arguments world) : Ran none

end

section

variable {depth : Nat} {arguments : Arguments} {world : World}

private theorem ran_of_rendered {context : Context} {template text : Text}
    (chosen : contextIn arguments world = .ok context)
    (supplied : templateIn arguments world.files = .ok template)
    (ended : rendered? depth template context = some text) :
    Ran depth arguments world (some (handOver arguments world (finished arguments text))) := by
  unfold handOver
  cases given : arguments.output with
  | none =>
      apply Ran.succeeds
      · refine ⟨context, template, chosen, supplied, ?_⟩
        rw [given]
        exact nofun
      · refine ⟨context, template, text, chosen, supplied, ended, ?_⟩
        rw [given]
        exact ⟨rfl, rfl⟩
  | some path =>
      dsimp only
      rcases deliver_cases world.files path (finished arguments text) with
        ⟨writable, after, delivered, receives⟩ | ⟨refused, failure, after, stopped, _⟩
      · rw [delivered]
        apply Ran.succeeds
        · refine ⟨context, template, chosen, supplied, ?_⟩
          rw [given]
          rintro _ ⟨⟩
          exact writable
        · refine ⟨context, template, text, chosen, supplied, ended, ?_⟩
          rw [given]
          exact ⟨rfl, rfl, receives⟩
      · rw [stopped]
        apply Ran.fails
        · rintro ⟨_, _, _, _, writable⟩
          exact refused (writable path given)
        · exact .output chosen supplied ended given stopped

private theorem ran_composed (depth : Nat) (arguments : Arguments) (world : World) :
    Ran depth arguments world (composed depth arguments world) := by
  unfold composed
  cases chosen : contextIn arguments world with
  | error failure =>
      refine .fails ?_ (.context chosen)
      rintro ⟨context, _, impossible, _⟩
      rw [chosen] at impossible
      cases impossible
  | ok context =>
      dsimp only
      cases supplied : templateIn arguments world.files with
      | error failure =>
          refine .fails ?_ (.template chosen supplied)
          rintro ⟨_, template, _, impossible, _⟩
          rw [supplied] at impossible
          cases impossible
      | ok template =>
          dsimp only
          cases ended : rendered? depth template context with
          | none => exact .tooDeep ⟨context, template, chosen, supplied, ended⟩
          | some text => exact ran_of_rendered chosen supplied ended

variable {printed : Text} {failure : Failure} {after : World}

private theorem Delivers.not_tooDeep (delivers : Delivers depth arguments world printed after) :
    ¬TooDeep depth arguments world := by
  rintro ⟨context, template, chosen, supplied, stuck⟩
  obtain ⟨_, _, text, same, alike, ended, _⟩ := delivers
  cases chosen.symm.trans same
  cases supplied.symm.trans alike
  cases stuck.symm.trans ended

private theorem Fails.not_tooDeep (fails : Fails depth arguments world failure after) :
    ¬TooDeep depth arguments world := by
  rintro ⟨context, template, chosen, supplied, stuck⟩
  cases fails with
  | context refused => cases chosen.symm.trans refused
  | template _ refused => cases supplied.symm.trans refused
  | output same alike ended given refused =>
      cases chosen.symm.trans same
      cases supplied.symm.trans alike
      cases stuck.symm.trans ended

section

variable {result : Option (Except Failure Text × World)}

private theorem Ran.eq_none_iff (ran : Ran depth arguments world result) :
    result = none ↔ TooDeep depth arguments world := by
  cases ran with
  | succeeds feasible delivers => exact ⟨nofun, fun tooDeep => absurd tooDeep delivers.not_tooDeep⟩
  | fails infeasible fails => exact ⟨nofun, fun tooDeep => absurd tooDeep fails.not_tooDeep⟩
  | tooDeep tooDeep => exact ⟨fun _ => tooDeep, fun _ => rfl⟩

private theorem Ran.succeeds_iff (ran : Ran depth arguments world result) :
    (∃ printed after, result = some (.ok printed, after)) ↔
      Feasible arguments world ∧ ¬TooDeep depth arguments world := by
  cases ran with
  | @succeeds printed after feasible delivers =>
      exact ⟨fun _ => ⟨feasible, delivers.not_tooDeep⟩, fun _ => ⟨printed, after, rfl⟩⟩
  | fails infeasible fails => exact ⟨nofun, fun both => absurd both.1 infeasible⟩
  | tooDeep tooDeep => exact ⟨nofun, fun both => absurd tooDeep both.2⟩

private theorem Ran.fails_iff (ran : Ran depth arguments world result) :
    (∃ failure after, result = some (.error failure, after)) ↔
      ¬Feasible arguments world ∧ ¬TooDeep depth arguments world := by
  cases ran with
  | succeeds feasible delivers => exact ⟨nofun, fun both => absurd feasible both.1⟩
  | @fails failure after infeasible fails =>
      exact ⟨fun _ => ⟨infeasible, fails.not_tooDeep⟩, fun _ => ⟨failure, after, rfl⟩⟩
  | tooDeep tooDeep => exact ⟨nofun, fun both => absurd tooDeep both.2⟩

end

/-- Directories may have been made for an output that could not be written then. -/
private theorem Fails.sameFiles (fails : Fails depth arguments world failure after) :
    SameFiles world after := by
  cases fails with
  | context refused => exact ⟨rfl, rfl, fun _ => rfl⟩
  | template chosen refused => exact ⟨rfl, rfl, fun _ => rfl⟩
  | output _ _ _ _ refused =>
      have added := added_of_deliver refused
      exact ⟨rfl, added.current, added.fileAt?_eq⟩

end

/-! ### The depth -/

private theorem rendered?_mono {depth deeper : Nat} {template text : Text} {context : Context}
    (enough : depth ≤ deeper) (ended : rendered? depth template context = some text) :
    rendered? deeper template context = some text := by
  rw [rendered?, render_eq] at ended ⊢
  obtain ⟨_, shown, rfl⟩ := Option.map_eq_some_iff.mp ended
  obtain ⟨answer, done, rfl⟩ := Option.map_eq_some_iff.mp shown
  rw [Substitution.substituteWithin_extends enough template context context .empty _ done]
  rfl

private theorem composed_mono {depth deeper : Nat} {arguments : Arguments} {world : World}
    (enough : depth ≤ deeper) (ended : composed depth arguments world ≠ none) :
    composed deeper arguments world = composed depth arguments world := by
  revert ended
  unfold composed
  cases contextIn arguments world with
  | error failure => exact fun _ => rfl
  | ok context =>
      dsimp only
      cases templateIn arguments world.files with
      | error failure => exact fun _ => rfl
      | ok template =>
          dsimp only
          cases shown : rendered? depth template context with
          | none => exact fun stuck => absurd rfl stuck
          | some text =>
              rw [rendered?_mono enough shown]
              exact fun _ => rfl

private theorem not_tooDeep_of_completes {depth : Nat} {arguments : Arguments} {world : World}
    {context : Context} (chosen : contextIn arguments world = .ok context)
    (completes : ∀ template, templateIn arguments world.files = .ok template →
      Rendering.Completes (substituteWithin depth template context context)) :
    ¬TooDeep depth arguments world := by
  rintro ⟨_, template, same, supplied, stuck⟩
  cases chosen.symm.trans same
  rw [rendered?, render_eq] at stuck
  obtain ⟨answer, done⟩ := completes template supplied .empty
  rw [done] at stuck
  cases stuck

/-- A run succeeds exactly if there is a context, there is a template, its output can be written and
its rendering ends. Then the template, rendered in the context and finished, is delivered to the file
only or to the output only, whatever files the paths of template, context and output name. If it
fails, it does so at the first stage that fails, no file has been created or changed, and there is
nothing for the output. Only a rendering that does not end keeps it from doing either. Renderings
end without truth values, and with texts without braces in a flat template, and where the depth is
enough, more makes no difference. -/
theorem run_delivers_fails_or_never_ends (arguments : Arguments) (world : World) (trail : Trail) :
    let result := fun depth => (run Host.ofFiles depth arguments world trail).map Prod.fst
    ((∃ depth printed after, result depth = some (.ok printed, after)) ↔
        Feasible arguments world ∧ ¬Endless arguments world) ∧
      ((∃ depth failure after, result depth = some (.error failure, after)) ↔
        ¬Feasible arguments world ∧ ¬Endless arguments world) ∧
      (∀ depth, result depth = none ↔ TooDeep depth arguments world) ∧
      (∀ depth printed after, result depth = some (.ok printed, after) →
        Delivers depth arguments world printed after) ∧
      (∀ depth failure after, result depth = some (.error failure, after) →
        Fails depth arguments world failure after ∧ SameFiles world after) ∧
      (∀ depth deeper, depth ≤ deeper → result depth ≠ none → result deeper = result depth) ∧
      (∀ depth context, contextIn arguments world = .ok context → Entries.Truthless context →
        Value.nestingEntries context ≤ depth → result depth ≠ none) ∧
      ∀ depth context tokens, contextIn arguments world = .ok context →
        templateIn arguments world.files = .ok (Token.printAll tokens) →
        Entries.Every Text.Plain Text.Plain context →
        (Token.closedNames tokens).card ≤ depth → result depth ≠ none := by
  dsimp only
  have answers := fun depth => run_answers depth arguments world trail
  simp only [answers]
  have ran := fun depth => ran_composed depth arguments world
  have ends : ∀ depth, composed depth arguments world = none ↔ TooDeep depth arguments world :=
    fun depth => (ran depth).eq_none_iff
  have shallow : ¬Endless arguments world ↔ ∃ depth, ¬TooDeep depth arguments world :=
    Classical.not_forall
  refine ⟨?succeeds, ?fails, ends, ?delivers, ?stops, ?deeper, ?truthless, ?flat⟩
  case succeeds =>
    rw [shallow, ← exists_and_left]
    exact exists_congr fun depth => (ran depth).succeeds_iff
  case fails =>
    rw [shallow, ← exists_and_left]
    exact exists_congr fun depth => (ran depth).fails_iff
  case delivers =>
    intro depth printed after succeeded
    have here := ran depth
    rw [succeeded] at here
    cases here with
    | succeeds feasible delivers => exact delivers
  case stops =>
    intro depth failure after failed
    have here := ran depth
    rw [failed] at here
    cases here with
    | fails infeasible fails => exact ⟨fails, fails.sameFiles⟩
  case deeper => exact fun depth deeper enough ended => composed_mono enough ended
  case truthless =>
    intro depth context chosen truthless enough stuck
    refine not_tooDeep_of_completes chosen (fun template _ => ?_) ((ends depth).mp stuck)
    exact substituteWithin_completes_of_truthless truthless enough
  case flat =>
    intro depth context tokens chosen supplied plain enough stuck
    refine not_tooDeep_of_completes chosen (fun template same => ?_) ((ends depth).mp stuck)
    cases supplied.symm.trans same
    exact substituteWithin_completes enough plain plain (flat_printAll tokens)

/-- The text may replace the template itself. -/
example :
    let arguments : Arguments :=
      ⟨['t'], none, true, ['m'], false, some ['t', '.', 'm'], false⟩
    let files : Files :=
      ⟨.directory [(['t', '.', 'm'], .file (Text.toBytes ['a', '{', '{', 'x', '}', '}']))], []⟩
    ((run Host.ofFiles 0 arguments ⟨files, Text.toBytes "x: 1".toList⟩ .empty).bind fun ended =>
      ended.1.1.toOption.map fun printed => (printed, ended.1.2.files.fileAt? [['t', '.', 'm']])) =
      some ([], some (Text.toBytes ['a', '1'])) := by
  decide +kernel

/-! ### A run that never ends -/

section

open Rendering Substitution

def restoredSection : Text :=
  "{{#b}}{{a}}{{/b}}".toList

/-- Its text puts a section around the tag that it fills, and its truth value keeps this section. -/
def restoring : Context :=
  [(['a'], .scalar restoredSection), (['b'], .boolean true)]

def restoringWorld : World where
  files := ⟨.directory [("t.mustache".toList, .file (Text.toBytes "{{a}}".toList))], []⟩
  input := Text.toBytes "a: \"{{#b}}{{a}}{{/b}}\"\nb: true\n".toList

def restoringArguments : Arguments where
  template := ['t']
  context := none
  stdin := true
  extension := defaultExtension
  strip := false
  output := none
  verbose := false

def isRestoring : Context → Bool
  | [(first, .scalar text), (second, .boolean truth)] =>
      (first, text, second, truth) = (['a'], restoredSection, ['b'], true)
  | _ => false

private theorem eq_restoring {context : Context} (recognised : isRestoring context = true) :
    context = restoring := by
  unfold isRestoring at recognised
  split at recognised
  · cases of_decide_eq_true recognised
    rfl
  · cases recognised

private theorem contextIn_restoring :
    contextIn restoringArguments restoringWorld = .ok restoring := by
  have read : (contextIn restoringArguments restoringWorld).toOption.any isRestoring = true := by
    decide +kernel
  cases chosen : contextIn restoringArguments restoringWorld with
  | error failure =>
      rw [chosen] at read
      cases read
  | ok context =>
      rw [chosen] at read
      rw [eq_restoring read]

private theorem templateIn_restoring :
    templateIn restoringArguments restoringWorld.files = .ok "{{a}}".toList := by
  decide +kernel

private theorem looping_never_ends (depth : Nat) :
    Yields (fun _ => False) (substituteWithin depth "{{a}}".toList restoring restoring) := by
  have bound : restoring = [(['a'], .scalar restoredSection)] ++ (['b'], .boolean true) :: [] := rfl
  refine rendering_never_ends bound (fun nested => ?_) depth
  have filled : Yields (fun current => current = restoredSection)
      (applyBinding nested restoring "{{a}}".toList (['a'], .scalar restoredSection)) := by
    refine Yields.bind_of_all fun _ => Yields.pure ?_
    decide +kernel
  refine filled.bind ?_
  rintro _ rfl
  apply Yields.pure
  decide +kernel

/-- The template is there, the context is there, and nothing is to be written. -/
theorem feasible_run_never_ends :
    Feasible restoringArguments restoringWorld ∧
      ∀ depth, (run Host.ofFiles depth restoringArguments restoringWorld .empty).map Prod.fst =
        none := by
  refine ⟨⟨restoring, _, contextIn_restoring, templateIn_restoring, nofun⟩, fun depth => ?_⟩
  apply ((run_delivers_fails_or_never_ends restoringArguments restoringWorld .empty).2.2.1
    depth).mpr
  refine ⟨restoring, _, contextIn_restoring, templateIn_restoring, ?_⟩
  rw [rendered?, render_eq]
  cases ended : substituteWithin depth "{{a}}".toList restoring restoring Trail.empty with
  | none => rfl
  | some answer => exact absurd ended (looping_never_ends depth _ _ _)

end

end TextTemplate.CommandLine
