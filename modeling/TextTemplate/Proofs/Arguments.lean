import Mathlib.Data.List.TakeWhile
import TextTemplate.CommandLine.Arguments

/-!
# Writing arguments

What a record of arguments sets can be written in any order and in several ways. A value is looked
at later than it is read, so between two parts the reading may stand with one of them unsettled. What
it will have been given once that is settled is what the parts so far say, and each further part adds
to it what it says. At the end this is what the record sets, whatever the order and the ways were.
-/

set_option autoImplicit false

namespace TextTemplate.Arguments

/-! ### Parts and how they are written -/

inductive Part where
  | value (slot : Slot) (text : Text)
  | raised (flag : Flag)
  deriving DecidableEq, Repr

def Part.place : Part → Slot ⊕ Flag
  | .value slot _ => .inl slot
  | .raised flag => .inr flag

def Slot.names? : Slot → Option (Text × Char)
  | .template => none
  | .context => some ("context".toList, 'c')
  | .extension => some ("extension".toList, 'e')
  | .output => some ("output".toList, 'o')

def Flag.name : Flag → Text
  | .stdin => "stdin".toList
  | .strip => "strip".toList
  | .verbose => "verbose".toList

def Flag.letter? : Flag → Option Char
  | .stdin => some 's'
  | .strip => none
  | .verbose => some 'v'

/-- The ways to write a part. -/
inductive Part.WrittenAs : Part → List Text → Prop
  | template (text : Text) : WrittenAs (.value .template text) [text]
  | named {slot : Slot} {name : Text} {letter : Char} (names : slot.names? = some (name, letter))
      (text : Text) : WrittenAs (.value slot text) ['-' :: '-' :: name, text]
  | joined {slot : Slot} {name : Text} {letter : Char} (names : slot.names? = some (name, letter))
      (text : Text) : WrittenAs (.value slot text) ['-' :: '-' :: name ++ '=' :: text]
  | lettered {slot : Slot} {name : Text} {letter : Char} (names : slot.names? = some (name, letter))
      (text : Text) : WrittenAs (.value slot text) [['-', letter], text]
  | flag (flag : Flag) : WrittenAs (.raised flag) ['-' :: '-' :: flag.name]
  | flagLetter {flag : Flag} {letter : Char} (lettered : flag.letter? = some letter) :
      WrittenAs (.raised flag) [['-', letter]]

inductive WrittenInTurn : List Part → List Text → Prop
  | nil : WrittenInTurn [] []
  | cons {part : Part} {parts : List Part} {piece vector : List Text}
      (written : part.WrittenAs piece) (rest : WrittenInTurn parts vector) :
      WrittenInTurn (part :: parts) (piece ++ vector)

/-- A value that is not empty and does not begin as options do. -/
def Ordinary (text : Text) : Prop :=
  text ≠ [] ∧ text.head? ≠ some '-'

def Part.Ordinary : Part → Prop
  | .value _ text => Arguments.Ordinary text
  | .raised _ => True

/-! ### What a record sets -/

inductive Sets (arguments : Arguments) : Part → Prop
  | template : Sets arguments (.value .template arguments.template)
  | context {path : Text} (chosen : arguments.context = some path) :
      Sets arguments (.value .context path)
  | extension : Sets arguments (.value .extension arguments.extension)
  | output {path : Text} (chosen : arguments.output = some path) :
      Sets arguments (.value .output path)
  | stdin (chosen : arguments.stdin = true) : Sets arguments (.raised .stdin)
  | strip (chosen : arguments.strip = true) : Sets arguments (.raised .strip)
  | verbose (chosen : arguments.verbose = true) : Sets arguments (.raised .verbose)

/-- The parts are what the record says, each once. A default extension may be left out. -/
structure Gives (arguments : Arguments) (parts : List Part) : Prop where
  once : parts.Nodup
  sound : ∀ part ∈ parts, arguments.Sets part
  complete : ∀ part, arguments.Sets part →
    part ∈ parts ∨ part = .value .extension defaultExtension

/-- The argument vector writes the record: what it says, in any order and in any of the ways. -/
def WrittenAs (arguments : Arguments) (vector : List Text) : Prop :=
  ∃ parts, arguments.Gives parts ∧ WrittenInTurn parts vector

/-- The context is not to be read from the input and from a file. -/
def OneSource (arguments : Arguments) : Prop :=
  ¬(arguments.stdin = true ∧ arguments.context.isSome = true)

/-- A record that can be written in all the ways. -/
structure Writable (arguments : Arguments) : Prop where
  oneSource : arguments.OneSource
  template : Ordinary arguments.template
  context : ∀ path, arguments.context = some path → Ordinary path
  extension : Ordinary arguments.extension
  output : ∀ path, arguments.output = some path → Ordinary path

variable {arguments : Arguments} {part other : Part} {parts : List Part}
variable {piece vector : List Text} {text name : Text} {letter : Char}
variable {given : Given} {slot : Slot} {flag : Flag} {state : State}

private theorem Sets.ordinary (sets : arguments.Sets part) (writable : arguments.Writable) :
    part.Ordinary := by
  cases sets with
  | template => exact writable.template
  | context chosen => exact writable.context _ chosen
  | extension => exact writable.extension
  | output chosen => exact writable.output _ chosen
  | stdin chosen => trivial
  | strip chosen => trivial
  | verbose chosen => trivial

private theorem Sets.eq_of_place (first : arguments.Sets part) (second : arguments.Sets other)
    (same : part.place = other.place) : part = other := by
  cases first <;> cases second <;> simp_all [Part.place]

private theorem Gives.distinct (gives : arguments.Gives parts) :
    parts.Pairwise fun part other => part.place ≠ other.place := by
  refine List.Pairwise.imp_of_mem (fun partAmong otherAmong different same => ?_) gives.once
  exact different ((gives.sound _ partAmong).eq_of_place (gives.sound _ otherAmong) same)

private theorem Gives.mem_iff (gives : arguments.Gives parts)
    (notDefault : part ≠ .value .extension defaultExtension) :
    part ∈ parts ↔ arguments.Sets part :=
  ⟨gives.sound part, fun sets => (gives.complete part sets).resolve_right notDefault⟩

/-! ### What is given so far -/

namespace Given

def Holds (given : Given) : Part → Prop
  | .value slot text => given.value? slot = some text
  | .raised flag => given.has flag = true

def Lacks (given : Given) : Part → Prop
  | .value slot _ => given.value? slot = none
  | .raised flag => given.has flag = false

def add (given : Given) : Part → Given
  | .value slot text => given.put slot text
  | .raised flag => given.raise flag

private theorem lacks_nothing (part : Part) : nothing.Lacks part := by
  cases part with
  | value slot text => cases slot <;> rfl
  | raised flag => cases flag <;> rfl

private theorem not_holds_of_lacks (lacks : given.Lacks part) : ¬given.Holds part := by
  intro holds
  cases part with
  | value slot text =>
      have impossible : none = some text := lacks.symm.trans holds
      cases impossible
  | raised flag =>
      have impossible : false = true := lacks.symm.trans holds
      cases impossible

private theorem value?_put (given : Given) (slot asked : Slot) (text : Text) :
    (given.put slot text).value? asked = if asked = slot then some text else given.value? asked := by
  cases slot <;> cases asked <;> rfl

private theorem has_put (given : Given) (slot : Slot) (text : Text) (flag : Flag) :
    (given.put slot text).has flag = given.has flag := by
  cases slot <;> cases flag <;> rfl

private theorem value?_raise (given : Given) (flag : Flag) (slot : Slot) :
    (given.raise flag).value? slot = given.value? slot := by
  cases flag <;> cases slot <;> rfl

private theorem has_raise (given : Given) (flag asked : Flag) :
    (given.raise flag).has asked = (asked == flag || given.has asked) := by
  cases flag <;> cases asked <;> rfl

private theorem holds_add_iff (lacks : given.Lacks part) :
    (given.add part).Holds other ↔ other = part ∨ given.Holds other := by
  cases part with
  | value slot text =>
      cases other with
      | value asked found =>
          by_cases same : asked = slot
          · subst same
            have free : given.value? asked = none := lacks
            simp [add, Holds, value?_put, free, eq_comm]
          · simp [add, Holds, value?_put, same]
      | raised flag => simp [add, Holds, has_put]
  | raised flag =>
      cases other with
      | value asked found => simp [add, Holds, value?_raise]
      | raised asked => simp [add, Holds, has_raise]

private theorem lacks_add (different : part.place ≠ other.place) (lacks : given.Lacks other) :
    (given.add part).Lacks other := by
  cases part with
  | value slot text =>
      cases other with
      | value asked found =>
          have apart : asked ≠ slot := fun same => different (congrArg Sum.inl same.symm)
          simpa [add, Lacks, value?_put, apart] using lacks
      | raised flag => simpa [add, Lacks, has_put] using lacks
  | raised flag =>
      cases other with
      | value asked found => simpa [add, Lacks, value?_raise] using lacks
      | raised asked =>
          have apart : asked ≠ flag := fun same => different (congrArg Sum.inr same.symm)
          simpa [add, Lacks, has_raise, apart] using lacks

private theorem take_eq (lacks : given.Lacks (.value slot text)) (notEmpty : text ≠ []) :
    given.take slot (some text) = .ok (given.add (.value slot text)) := by
  have free : given.value? slot = none := lacks
  simp [take, free, notEmpty, add]

end Given

/-! ### Names and letters -/

private theorem name_read (names : slot.names? = some (name, letter)) :
    ofLong? name = some (.valued slot) ∧ '=' ∉ name ∧ name ≠ [] := by
  cases slot <;> cases names <;> decide

private theorem letter_read (names : slot.names? = some (name, letter)) :
    ofShort? letter = some (.valued slot) ∧ letter ≠ '-' := by
  cases slot <;> cases names <;> decide

private theorem ne_template_of_names (names : slot.names? = some (name, letter)) :
    slot ≠ .template := by
  rintro rfl
  cases names

private theorem flag_read (flag : Flag) :
    ofLong? flag.name = some (.flag flag) ∧ '=' ∉ flag.name ∧ flag.name ≠ [] := by
  cases flag <;> decide

private theorem flagLetter_read (lettered : flag.letter? = some letter) :
    ofShort? letter = some (.flag flag) ∧ letter ≠ '-' := by
  cases flag <;> cases lettered <;> decide

namespace State

/-! ### Between two parts -/

def settled (given : Given) : State :=
  ⟨given, none, false, given.template.isSome, false⟩

/-- The reading stands between two parts: once what is pending is settled, `given` has been given. -/
structure Stands (state : State) (given : Given) : Prop where
  settle_eq : state.settle = .ok (settled given)
  idle : state.awaiting = false
  placed_eq : state.placed = given.template.isSome
  notTrailing : state.trailing = false

private theorem settled_stands (given : Given) : (settled given).Stands given :=
  ⟨rfl, rfl, rfl, rfl⟩

private theorem template_put (different : slot ≠ .template) (given : Given) (text : Text) :
    (given.put slot text).template = given.template := by
  cases slot with
  | template => exact absurd rfl different
  | context => rfl
  | extension => rfl
  | output => rfl

private theorem template_raise (given : Given) (flag : Flag) :
    (given.raise flag).template = given.template := by
  cases flag <;> rfl

private theorem stands_of_pending (lacks : given.Lacks (.value slot text)) (notEmpty : text ≠ [])
    (placed : Bool) (placed_eq : placed = (given.put slot text).template.isSome) :
    Stands ⟨given, some (slot, some text), false, placed, false⟩ (given.add (.value slot text)) where
  settle_eq := by
    have taken := Given.take_eq lacks notEmpty
    simp only [settle, taken, placed_eq]
    rfl
  idle := rfl
  placed_eq := placed_eq
  notTrailing := rfl

private theorem option_attached (stands : state.Stands given)
    (lacks : given.Lacks (.value slot text))
    (notEmpty : text ≠ []) (notTemplate : slot ≠ .template) :
    state.option (.valued slot) (some text) = .ok (settled (given.add (.value slot text))) := by
  have taken : (settled given).given.take slot (some text) = .ok (given.put slot text) :=
    Given.take_eq lacks notEmpty
  have placed := template_put notTemplate given text
  simp only [option, bind, Except.bind, stands.settle_eq, taken]
  simp only [settled, Given.add, placed]

private theorem option_awaiting (stands : state.Stands given) (slot : Slot) :
    state.option (.valued slot) none =
      .ok ⟨given, some (slot, none), true, given.template.isSome, false⟩ := by
  simp only [option, bind, Except.bind, stands.settle_eq, settled]

private theorem option_flag (stands : state.Stands given) (lacks : given.Lacks (.raised flag)) :
    state.option (.flag flag) none = .ok (settled (given.add (.raised flag))) := by
  have lowered : (settled given).given.has flag = false := lacks
  have placed := template_raise given flag
  simp only [option, bind, Except.bind, stands.settle_eq, lowered]
  simp only [settled, Given.add, placed, Bool.false_eq_true, if_false]

private theorem positional_eq (stands : state.Stands given) (notGiven : given.template = none)
    (text : Text) :
    state.positional text = .ok ⟨given, some (.template, some text), false, true, false⟩ := by
  have unplaced : state.placed = false := by rw [stands.placed_eq, notGiven]; rfl
  simp only [positional, unplaced, bind, Except.bind, stands.settle_eq, settled,
    Bool.false_eq_true, if_false]

/-! ### What an argument is -/

private theorem argument_of_ordinary (notTrailing : state.trailing = false)
    (ordinary : Ordinary text) :
    state.argument text = state.plain text := by
  obtain ⟨notEmpty, noOption⟩ := ordinary
  cases text with
  | nil => exact absurd rfl notEmpty
  | cons c text =>
      have other : c ≠ '-' := fun same => noOption (congrArg some same)
      unfold argument
      rw [notTrailing]
      simp only [Bool.false_eq_true, if_false]
      split <;> simp_all

private theorem argument_of_long (notTrailing : state.trailing = false) (notEmpty : text ≠ []) :
    state.argument ('-' :: '-' :: text) = state.long text := by
  cases text with
  | nil => exact absurd rfl notEmpty
  | cons c text =>
      unfold argument
      rw [notTrailing]
      rfl

private theorem bne_of_not_mem (noEquals : '=' ∉ name) : ∀ c ∈ name, (c != '=') = true :=
  fun _ among => bne_iff_ne.mpr fun same => noEquals (same ▸ among)

private theorem argument_of_name {switch : Switch} (notTrailing : state.trailing = false)
    (known : ofLong? name = some switch) (noEquals : '=' ∉ name) (notEmpty : name ≠ []) :
    state.argument ('-' :: '-' :: name) = state.option switch none := by
  have each := bne_of_not_mem noEquals
  have whole : name.takeWhile (· != '=') = name := List.takeWhile_eq_self_iff.mpr each
  have rest : name.dropWhile (· != '=') = [] := List.dropWhile_eq_nil_iff.mpr each
  rw [argument_of_long notTrailing notEmpty]
  simp only [long, whole, rest, known]

private theorem argument_of_joined {switch : Switch} (notTrailing : state.trailing = false)
    (known : ofLong? name = some switch) (noEquals : '=' ∉ name) (text : Text) :
    state.argument ('-' :: '-' :: name ++ '=' :: text) = state.option switch (some text) := by
  have each := bne_of_not_mem noEquals
  have notEmpty : name ++ '=' :: text ≠ [] :=
    List.append_ne_nil_of_right_ne_nil name (List.cons_ne_nil '=' text)
  have whole : (name ++ '=' :: text).takeWhile (· != '=') = name := by
    rw [List.takeWhile_append_of_pos each]
    simp
  have rest : (name ++ '=' :: text).dropWhile (· != '=') = '=' :: text := by
    rw [List.dropWhile_append_of_pos each]
    simp
  rw [List.cons_append, List.cons_append, argument_of_long notTrailing notEmpty]
  simp only [long, whole, rest, known]

private theorem argument_of_letter (notTrailing : state.trailing = false)
    (notHyphen : letter ≠ '-') :
    state.argument ['-', letter] = state.letters [letter] := by
  unfold argument
  rw [notTrailing]
  simp only [Bool.false_eq_true, if_false]
  split <;> simp_all

private theorem letters_of_slot (known : ofShort? letter = some (.valued slot)) :
    state.letters [letter] = state.option (.valued slot) none := by
  simp only [letters, known]

private theorem letters_of_flag (known : ofShort? letter = some (.flag flag)) :
    state.letters [letter] = state.option (.flag flag) none := by
  simp only [letters, known]
  cases state.option (.flag flag) none <;> rfl

private theorem plain_of_idle (idle : state.awaiting = false) (text : Text) :
    state.plain text = state.positional text := by
  unfold plain
  rw [idle]

/-! ### Reading one part -/

private theorem foldlM_single {after : State} (read : state.argument text = .ok after) :
    [text].foldlM argument state = .ok after := by
  simp only [List.foldlM_cons, List.foldlM_nil, bind, Except.bind, read]
  rfl

private theorem stands_after_pair {first : Text} (stands : state.Stands given)
    (isOption : state.argument first = state.option (.valued slot) none)
    (notTemplate : slot ≠ .template) (lacks : given.Lacks (.value slot text))
    (ordinary : Ordinary text) :
    ∃ after, [first, text].foldlM argument state = .ok after ∧
      after.Stands (given.add (.value slot text)) := by
  refine ⟨⟨given, some (slot, some text), false, given.template.isSome, false⟩, ?_, ?_⟩
  · have read := isOption.trans (option_awaiting stands slot)
    rw [List.foldlM_cons, read]
    apply foldlM_single
    rw [argument_of_ordinary rfl ordinary]
    rfl
  · apply stands_of_pending lacks ordinary.1
    rw [template_put notTemplate]

private theorem stands_after_part (written : part.WrittenAs piece) (stands : state.Stands given)
    (lacks : given.Lacks part) (ordinary : part.Ordinary) :
    ∃ after, piece.foldlM argument state = .ok after ∧ after.Stands (given.add part) := by
  have notTrailing := stands.notTrailing
  cases written with
  | template text =>
      have read : state.argument text = _ :=
        (argument_of_ordinary notTrailing ordinary).trans (plain_of_idle stands.idle text)
      rw [positional_eq stands lacks text] at read
      exact ⟨_, foldlM_single read, stands_of_pending lacks ordinary.1 true rfl⟩
  | named names text =>
      obtain ⟨known, noEquals, notEmpty⟩ := name_read names
      have isOption := argument_of_name notTrailing known noEquals notEmpty
      exact stands_after_pair stands isOption (ne_template_of_names names) lacks ordinary
  | joined names text =>
      obtain ⟨known, noEquals, _⟩ := name_read names
      have read := argument_of_joined notTrailing known noEquals text
      rw [option_attached stands lacks ordinary.1 (ne_template_of_names names)] at read
      exact ⟨_, foldlM_single read, settled_stands _⟩
  | lettered names text =>
      obtain ⟨known, notHyphen⟩ := letter_read names
      have isOption := (argument_of_letter notTrailing notHyphen).trans (letters_of_slot known)
      exact stands_after_pair stands isOption (ne_template_of_names names) lacks ordinary
  | flag flag =>
      obtain ⟨known, noEquals, notEmpty⟩ := flag_read flag
      have read := argument_of_name notTrailing known noEquals notEmpty
      rw [option_flag stands lacks] at read
      exact ⟨_, foldlM_single read, settled_stands _⟩
  | flagLetter lettered =>
      obtain ⟨known, notHyphen⟩ := flagLetter_read lettered
      have read := (argument_of_letter notTrailing notHyphen).trans (letters_of_flag known)
      rw [option_flag stands lacks] at read
      exact ⟨_, foldlM_single read, settled_stands _⟩

/-! ### Reading parts in turn -/

private theorem stands_after_parts (written : WrittenInTurn parts vector)
    (stands : state.Stands given)
    (distinct : parts.Pairwise fun part other => part.place ≠ other.place)
    (lacks : ∀ part ∈ parts, given.Lacks part) (ordinary : ∀ part ∈ parts, part.Ordinary) :
    ∃ after reached, vector.foldlM argument state = .ok after ∧ after.Stands reached ∧
      ∀ part, reached.Holds part ↔ part ∈ parts ∨ given.Holds part := by
  -- By induction on the parts: the first adds its own, and the others are still lacking then.
  induction written generalizing state given with
  | nil => exact ⟨state, given, rfl, stands, fun part => by simp⟩
  | @cons part parts piece vector pieceWritten _ ih =>
      obtain ⟨apart, restDistinct⟩ := List.pairwise_cons.mp distinct
      obtain ⟨partLacks, restLacks⟩ := List.forall_mem_cons.mp lacks
      obtain ⟨partOrdinary, restOrdinary⟩ := List.forall_mem_cons.mp ordinary
      obtain ⟨between, first, added⟩ :=
        stands_after_part pieceWritten stands partLacks partOrdinary
      have stillLacks : ∀ other ∈ parts, (given.add part).Lacks other :=
        fun other among => Given.lacks_add (apart other among) (restLacks other among)
      obtain ⟨after, reached, rest, final, holds⟩ := ih added restDistinct stillLacks restOrdinary
      refine ⟨after, reached, ?_, final, fun other => ?_⟩
      · rw [List.foldlM_append, first]
        exact rest
      · rw [holds, Given.holds_add_iff partLacks, List.mem_cons]
        exact or_left_comm.trans or_assoc.symm

/-! ### The end -/

private theorem oneSource_of_finish (finished : state.finish = .ok arguments) :
    arguments.OneSource := by
  unfold finish at finished
  cases settles : state.settle with
  | error fault =>
      rw [settles] at finished
      cases finished
  | ok ended =>
      simp only [settles, bind, Except.bind] at finished
      split at finished
      · cases finished
      · next noConflict =>
          split at finished
          · cases finished
          · cases finished
            exact noConflict

private theorem finish_eq (stands : state.Stands given) (oneSource : arguments.OneSource)
    (template : given.template = some arguments.template)
    (context : given.context = arguments.context)
    (extension : given.extension.getD defaultExtension = arguments.extension)
    (output : given.output = arguments.output)
    (flags : ∀ flag, given.has flag = true ↔ arguments.Sets (.raised flag)) :
    state.finish = .ok arguments := by
  have stdin : given.stdin = arguments.stdin := by
    rw [Bool.eq_iff_iff]
    exact (flags .stdin).trans ⟨fun | .stdin chosen => chosen, .stdin⟩
  have strip : given.strip = arguments.strip := by
    rw [Bool.eq_iff_iff]
    exact (flags .strip).trans ⟨fun | .strip chosen => chosen, .strip⟩
  have verbose : given.verbose = arguments.verbose := by
    rw [Bool.eq_iff_iff]
    exact (flags .verbose).trans ⟨fun | .verbose chosen => chosen, .verbose⟩
  have noConflict : ¬(given.stdin = true ∧ given.context.isSome = true) := by
    rw [stdin, context]
    exact oneSource
  simp only [finish, bind, Except.bind, stands.settle_eq, settled, if_neg noConflict, template]
  rw [stdin, context, extension, strip, output, verbose]

end State

section

variable (gives : arguments.Gives parts) (holds : ∀ part, given.Holds part ↔ part ∈ parts)
include gives holds

private theorem template_of_gives : given.template = some arguments.template := by
  have sets : arguments.Sets (.value .template arguments.template) := .template
  exact (holds _).mpr ((gives.mem_iff (by simp)).mpr sets)

private theorem context_of_gives : given.context = arguments.context := by
  apply Option.ext
  intro path
  calc given.context = some path
      ↔ Part.value .context path ∈ parts := holds (.value .context path)
    _ ↔ arguments.Sets (.value .context path) := gives.mem_iff (by simp)
    _ ↔ arguments.context = some path := ⟨fun | .context chosen => chosen, .context⟩

private theorem output_of_gives : given.output = arguments.output := by
  apply Option.ext
  intro path
  calc given.output = some path
      ↔ Part.value .output path ∈ parts := holds (.value .output path)
    _ ↔ arguments.Sets (.value .output path) := gives.mem_iff (by simp)
    _ ↔ arguments.output = some path := ⟨fun | .output chosen => chosen, .output⟩

private theorem extension_of_gives :
    given.extension.getD defaultExtension = arguments.extension := by
  cases taken : given.extension with
  | some extension =>
      have among := (holds (.value .extension extension)).mp taken
      cases gives.sound _ among with
      | extension => rfl
  | none =>
      rcases gives.complete _ .extension with among | isDefault
      · have present : given.extension = some arguments.extension := (holds _).mpr among
        rw [taken] at present
        cases present
      · obtain ⟨_, same⟩ := Part.value.inj isDefault
        rw [same]
        rfl

private theorem flags_of_gives (flag : Flag) :
    given.has flag = true ↔ arguments.Sets (.raised flag) :=
  (holds (.raised flag)).trans (gives.mem_iff (by simp))

end

private theorem parse_of_writtenAs (writable : arguments.Writable)
    (written : arguments.WrittenAs vector) :
    parse vector = .ok arguments := by
  obtain ⟨parts, gives, inTurn⟩ := written
  obtain ⟨after, given, read, stands, holds⟩ :=
    State.stands_after_parts inTurn (State.settled_stands .nothing) gives.distinct
      (fun part _ => Given.lacks_nothing part)
      (fun part among => (gives.sound part among).ordinary writable)
  have exactly : ∀ part, given.Holds part ↔ part ∈ parts := fun part =>
    (holds part).trans (or_iff_left (Given.not_holds_of_lacks (Given.lacks_nothing part)))
  have finished := State.finish_eq stands writable.oneSource (template_of_gives gives exactly)
    (context_of_gives gives exactly) (extension_of_gives gives exactly)
    (output_of_gives gives exactly) (flags_of_gives gives exactly)
  unfold parse
  change (vector.foldlM State.argument (State.settled .nothing) >>= State.finish) = _
  rw [read]
  exact finished

private theorem oneSource_of_parse (read : parse vector = .ok arguments) : arguments.OneSource := by
  unfold parse at read
  cases ran : vector.foldlM State.argument State.start with
  | error fault =>
      rw [ran] at read
      cases read
  | ok state =>
      rw [ran] at read
      exact State.oneSource_of_finish read

/-- Whatever the order and the ways, a record that was written is read back; and no argument vector
asks for a context from the input and from a file. -/
theorem written_arguments_read_back :
    (∀ arguments vector, Writable arguments → arguments.WrittenAs vector →
      parse vector = .ok arguments) ∧
    ∀ vector arguments, parse vector = .ok arguments → arguments.OneSource :=
  ⟨fun _ _ => parse_of_writtenAs, fun _ _ => oneSource_of_parse⟩

/-- Values with equals signs in them and values that are names of options, behind one another. -/
theorem values_like_options_read_back :
    let arguments : Arguments :=
      ⟨"stdin".toList, some "strip=a=b".toList, false, defaultExtension, true,
        some "output".toList, true⟩
    let vector : List Text :=
      ["-v".toList, "--output=output".toList, "stdin".toList, "-c".toList, "strip=a=b".toList,
        "--strip".toList]
    Writable arguments ∧ arguments.WrittenAs vector ∧ parse vector = .ok arguments := by
  intro arguments vector
  have writable : Writable arguments :=
    { oneSource := by simp [OneSource, arguments]
      template := ⟨by decide, by decide⟩
      context := fun path chosen => by cases chosen; exact ⟨by decide, by decide⟩
      extension := ⟨by decide, by decide⟩
      output := fun path chosen => by cases chosen; exact ⟨by decide, by decide⟩ }
  let parts : List Part :=
    [.raised .verbose, .value .output "output".toList, .value .template "stdin".toList,
      .value .context "strip=a=b".toList, .raised .strip]
  have gives : arguments.Gives parts :=
    { once := by decide
      sound := by
        simp only [parts, List.forall_mem_cons]
        exact ⟨.verbose rfl, .output rfl, .template, .context rfl, .strip rfl,
          fun _ impossible => absurd impossible List.not_mem_nil⟩
      complete := fun part sets => by cases sets <;> simp_all [parts, arguments] }
  have joined : Part.WrittenAs (.value .output "output".toList) ["--output=output".toList] :=
    @Part.WrittenAs.joined .output "output".toList 'o' rfl "output".toList
  have lettered : Part.WrittenAs (.value .context "strip=a=b".toList)
      ["-c".toList, "strip=a=b".toList] :=
    @Part.WrittenAs.lettered .context "context".toList 'c' rfl "strip=a=b".toList
  have inTurn : WrittenInTurn parts vector :=
    .cons (.flagLetter rfl) (.cons joined (.cons (.template _) (.cons lettered
      (.cons (.flag .strip) .nil))))
  have written : arguments.WrittenAs vector := ⟨parts, gives, inTurn⟩
  exact ⟨writable, written, written_arguments_read_back.1 arguments vector writable written⟩

end TextTemplate.Arguments
