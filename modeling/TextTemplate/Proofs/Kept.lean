import Mathlib.Data.List.Perm.Basic
import Mathlib.Data.List.TakeWhile
import TextTemplate.Proofs.Flat
import TextTemplate.Proofs.Leftover

/-!
# What a cleanup keeps

A text made of literal characters, tags and blocks with a literal body should lose its tags and
blocks and the line feeds right behind them, and nothing else. It loses more: a leftover block may
begin with any tag, so a tag takes with it all that stands between it and the next block. What is
kept and what is lost is told here piece by piece; the two together are the text outside the blocks,
and nothing is lost exactly if only line feeds and tags stand between a tag and the block behind it.
-/

set_option autoImplicit false

namespace TextTemplate.Cleanup

/-! ### Pieces -/

/-- A longer literal text is one character after the other. -/
inductive Piece where
  | char (c : Char) (notBrace : c ≠ '{' ∧ c ≠ '}')
  | tag (name : Text) (plain : name.Plain) (unmarked : ¬Tag.Marked name)
  | block (kind : SectionKind) (name body : Text) (plain : name.Plain) (bodyPlain : body.Plain)

namespace Piece

def print : Piece → Text
  | .char c _ => [c]
  | .tag name _ _ => Tag.escaped name
  | .block kind name body _ _ => Tag.openSection kind name ++ body ++ Tag.closeSection name

def printAll (pieces : List Piece) : Text :=
  pieces.flatMap print

def IsBlock : Piece → Prop
  | .block _ _ _ _ _ => True
  | _ => False

/-- The characters outside the blocks, without the line feeds right behind a tag or a block. -/
def outside : List Piece → Text
  | [] => []
  | .char c _ :: rest => c :: outside rest
  | .tag _ _ _ :: rest => Text.dropBreaks (outside rest)
  | .block _ _ _ _ _ :: rest => Text.dropBreaks (outside rest)

/-- The pieces before the first block, and those behind it. -/
def atBlock? : List Piece → Option (List Piece × List Piece)
  | [] => none
  | .block _ _ _ _ _ :: rest => some ([], rest)
  | .char c notBrace :: rest =>
      (atBlock? rest).map fun parts => (.char c notBrace :: parts.1, parts.2)
  | .tag name plain unmarked :: rest =>
      (atBlock? rest).map fun parts => (.tag name plain unmarked :: parts.1, parts.2)

variable {pieces between later : List Piece}

private theorem IsBlock.exists_eq {piece : Piece} (isBlock : piece.IsBlock) :
    ∃ kind name body plain bodyPlain, piece = .block kind name body plain bodyPlain := by
  cases piece with
  | block kind name body plain bodyPlain => exact ⟨_, _, _, _, _, rfl⟩
  | char c notBrace => exact absurd isBlock id
  | tag name plain unmarked => exact absurd isBlock id

private theorem eq_append_of_atBlock? (found : atBlock? pieces = some (between, later)) :
    (∀ piece ∈ between, ¬piece.IsBlock) ∧
      ∃ kind name body plain bodyPlain,
        pieces = between ++ .block kind name body plain bodyPlain :: later := by
  induction pieces generalizing between with
  | nil => cases found
  | cons piece pieces ih =>
      cases piece with
      | block kind name body plain bodyPlain =>
          cases found
          exact ⟨fun _ impossible => absurd impossible List.not_mem_nil, kind, name, body, plain,
            bodyPlain, rfl⟩
      | char c notBrace =>
          obtain ⟨⟨front, back⟩, within, equal⟩ := Option.map_eq_some_iff.mp found
          cases equal
          obtain ⟨noBlock, kind, name, body, plain, bodyPlain, rfl⟩ := ih within
          exact ⟨List.forall_mem_cons.mpr ⟨id, noBlock⟩, kind, name, body, plain, bodyPlain, rfl⟩
      | tag name plain unmarked =>
          obtain ⟨⟨front, back⟩, within, equal⟩ := Option.map_eq_some_iff.mp found
          cases equal
          obtain ⟨noBlock, kind, name, body, plain, bodyPlain, rfl⟩ := ih within
          exact ⟨List.forall_mem_cons.mpr ⟨id, noBlock⟩, kind, name, body, plain, bodyPlain, rfl⟩

private theorem length_lt_of_atBlock? (found : atBlock? pieces = some (between, later)) :
    later.length < pieces.length := by
  obtain ⟨_, _, _, _, _, _, rfl⟩ := eq_append_of_atBlock? found
  simp only [List.length_append, List.length_cons]
  omega

private theorem no_block_of_atBlock? (none_found : atBlock? pieces = none) :
    ∀ piece ∈ pieces, ¬piece.IsBlock := by
  induction pieces with
  | nil => exact fun _ impossible => absurd impossible List.not_mem_nil
  | cons piece pieces ih =>
      cases piece with
      | block kind name body plain bodyPlain => cases none_found
      | char c notBrace =>
          exact List.forall_mem_cons.mpr ⟨id, ih (Option.map_eq_none_iff.mp none_found)⟩
      | tag name plain unmarked =>
          exact List.forall_mem_cons.mpr ⟨id, ih (Option.map_eq_none_iff.mp none_found)⟩

/-- What is left of the pieces. A tag goes with all that stands between it and the next block. -/
def kept : List Piece → Text
  | [] => []
  | .char c _ :: rest => c :: kept rest
  | .block _ _ _ _ _ :: rest => Text.dropBreaks (kept rest)
  | .tag _ _ _ :: rest =>
      match _found : atBlock? rest with
      | some (_, later) => Text.dropBreaks (kept later)
      | none => Text.dropBreaks (outside rest)
  termination_by pieces => pieces.length
  decreasing_by
    · exact Nat.lt_succ_self _
    · exact Nat.lt_succ_self _
    · exact Nat.lt_succ_of_lt (length_lt_of_atBlock? _found)

/-- The text outside the blocks that goes together with a tag in front of it and the next block. -/
def lost : List Piece → Text
  | [] => []
  | .char _ _ :: rest => lost rest
  | .block _ _ _ _ _ :: rest => lost rest
  | .tag _ _ _ :: rest =>
      match _found : atBlock? rest with
      | some (between, later) => Text.dropBreaks (outside between) ++ lost later
      | none => []
  termination_by pieces => pieces.length
  decreasing_by
    · exact Nat.lt_succ_self _
    · exact Nat.lt_succ_self _
    · exact Nat.lt_succ_of_lt (length_lt_of_atBlock? _found)

end Piece

/-! ### Removing -/

variable {next? : Text → Option (Text × Text)} {remove : Text → Text} {front text rest : Text}

structure Removal (next? : Text → Option (Text × Text)) (remove : Text → Text) : Prop where
  equation : ∀ text, remove text =
    match next? text with
    | none => text
    | some (gap, rest) => gap ++ remove rest
  passed : ∀ gap, Text.Passes Tag.opening gap → ∀ rest,
    next? (gap ++ rest) = (next? rest).map (Text.inFront gap)
  taken : ∀ text gap rest, next? text = some (gap, rest) →
    gap <+: text ∧ rest.head? ≠ some '\n' ∧ rest.length < text.length

private theorem removal_tags : Removal nextTag? removeTags := by
  refine ⟨fun text => ?_, fun gap passes rest => nextTag?_inFront passes rest,
    fun text gap rest taken => ⟨?_, ?_, length_lt_of_nextTag? taken⟩⟩
  · rw [removeTags]
    split <;> simp_all
  · obtain ⟨inside, opened⟩ := nextTag?_eq_some taken
    exact ⟨_, by rw [Text.eq_append_of_cut? opened, List.append_assoc]⟩
  · unfold nextTag? at taken
    simp only [bind, Option.bind_eq_some_iff, Prod.exists] at taken
    obtain ⟨_, _, _, _, after, _, equal⟩ := taken
    cases equal
    exact Text.head?_dropBreaks_ne after

private theorem nextBlock?_inFront {gap : Text} (passes : Text.Passes Tag.opening gap)
    (rest : Text) :
    nextBlock? (gap ++ rest) = (nextBlock? rest).map (Text.inFront gap) := by
  simp only [nextBlock?, bind, passes rest]
  cases Text.cut? Tag.opening rest with
  | none => rfl
  | some parts =>
      obtain ⟨before, inside⟩ := parts
      simp only [Option.map_some, Text.inFront, Option.bind_some, Option.map_bind,
        Function.comp_def]

private theorem removal_blocks : Removal nextBlock? removeBlocks := by
  refine ⟨fun text => ?_, fun gap passes rest => nextBlock?_inFront passes rest,
    fun text gap rest taken => ?_⟩
  · rw [removeBlocks]
    split <;> simp_all
  · have shorter := length_lt_of_nextBlock? taken
    unfold nextBlock? at taken
    simp only [bind, Option.bind_eq_some_iff, Prod.exists] at taken
    obtain ⟨_, _, opened, _, _, _, _, _, _, _, after, _, equal⟩ := taken
    cases equal
    have split := Text.eq_append_of_cut? opened
    rw [List.append_assoc] at split
    exact ⟨⟨_, split.symm⟩, Text.head?_dropBreaks_ne after, shorter⟩

namespace Removal

private theorem inFront (removal : Removal next? remove) (passes : Text.Passes Tag.opening front)
    (rest : Text) : remove (front ++ rest) = front ++ remove rest := by
  rw [removal.equation, removal.passed front passes, removal.equation rest]
  cases next? rest with
  | none => rfl
  | some parts => simp [Text.inFront]

private theorem of_next (removal : Removal next? remove) {after : Text}
    (taken : next? text = some ([], after)) : remove text = remove after := by
  rw [removal.equation, taken]
  rfl

private theorem head?_ne (removal : Removal next? remove) (noBreak : text.head? ≠ some '\n') :
    (remove text).head? ≠ some '\n' := by
  induction measured : text.length using Nat.strongRecOn generalizing text with
  | _ size ih =>
      rw [removal.equation]
      cases taken : next? text with
      | none => exact noBreak
      | some parts =>
          obtain ⟨gap, rest⟩ := parts
          obtain ⟨⟨others, whole⟩, restNoBreak, shorter⟩ := removal.taken _ _ _ taken
          cases gap with
          | nil => exact ih rest.length (by omega) restNoBreak rfl
          | cons c gap =>
              rw [← whole] at noBreak
              exact noBreak

private theorem dropBreaks (removal : Removal next? remove) (text : Text) :
    remove (Text.dropBreaks text) = Text.dropBreaks (remove text) := by
  have plain : (Text.leadingBreaks text).Plain :=
    Flat.breaks_plain fun c present => Text.mem_leadingBreaks present
  have passes : Text.Passes Tag.opening (Text.leadingBreaks text) :=
    Text.Passes.of_not_mem plain.1
  have whole := removal.inFront passes (Text.dropBreaks text)
  rw [Text.leadingBreaks_append_dropBreaks] at whole
  rw [whole]
  exact (Text.breaks_append (fun c present => Text.mem_leadingBreaks present)
    (removal.head?_ne (Text.head?_dropBreaks_ne text))).2.symm

end Removal

/-! ### Searching in pieces -/

section

variable {name content between : Text}

private theorem passes_slash (plain : content.Plain) (noSlash : content.head? ≠ some '/') :
    Text.Passes (Tag.opening ++ ['/']) (Tag.escaped content) := by
  have inside : Text.Passes (Tag.opening ++ ['/']) ('{' :: (content ++ Tag.closing)) :=
    Token.passes_brace (by simp [Tag.closing]) (Token.brace_not_mem_append plain (by decide))
  intro rest
  apply inside.cut?_cons
  rintro ⟨tail, equal⟩
  have begins : '/' :: tail = content ++ Tag.closing ++ rest := by
    simpa [Tag.opening] using equal
  cases content with
  | nil => exact absurd (List.cons.inj begins).1 (by decide)
  | cons c content => exact noSlash (congrArg some (List.cons.inj begins).1.symm)

private theorem nextTag?_tag (plain : name.Plain) (rest : Text) :
    nextTag? (Tag.escaped name ++ rest) = some ([], Text.dropBreaks rest) := by
  have closed : Text.Passes Tag.closing name := Text.Passes.of_not_mem plain.2
  simp only [nextTag?, bind, Tag.escaped, List.append_assoc, Text.cut?_append, Option.bind_some]
  rw [← List.append_assoc, closed.cut?_eq]
  rfl

private theorem nextBlock?_tag (plain : content.Plain)
    (passes : Text.Passes (Tag.opening ++ ['/']) between) (namePlain : name.Plain) (rest : Text) :
    nextBlock? (Tag.escaped content ++ (between ++ (Tag.closeSection name ++ rest))) =
      some ([], Text.dropBreaks rest) := by
  have closed : Text.Passes Tag.closing content := Text.Passes.of_not_mem plain.2
  have ended : Text.Passes Tag.closing name := Text.Passes.of_not_mem namePlain.2
  have shape : Tag.closeSection name ++ rest =
      (Tag.opening ++ ['/']) ++ (name ++ Tag.closing ++ rest) := by
    simp [Tag.closeSection]
  simp only [nextBlock?, bind, Tag.escaped, List.append_assoc, Text.cut?_append, Option.bind_some]
  rw [← List.append_assoc content, closed.cut?_eq, Option.bind_some]
  rw [shape, ← List.append_assoc between, passes.cut?_eq, Option.bind_some, ended.cut?_eq]
  rfl

private theorem nextBlock?_of_passes (plain : content.Plain)
    (passes : Text.Passes (Tag.opening ++ ['/']) between) :
    nextBlock? (Tag.escaped content ++ between) = none := by
  have closed : Text.Passes Tag.closing content := Text.Passes.of_not_mem plain.2
  have nowhere : Text.cut? (Tag.opening ++ ['/']) between = none := by
    have nothing := passes []
    rwa [List.append_nil] at nothing
  simp only [nextBlock?, bind, Tag.escaped, List.append_assoc, Text.cut?_append, Option.bind_some]
  rw [← List.append_assoc content, closed.cut?_eq, Option.bind_some, nowhere]
  rfl

end

namespace Piece

variable {pieces between later : List Piece}

private theorem brace_not_mem {c : Char} (notBrace : c ≠ '{' ∧ c ≠ '}') : '{' ∉ [c] :=
  fun present => notBrace.1 (List.mem_singleton.mp present).symm

private theorem passes_printAll (noBlock : ∀ piece ∈ pieces, ¬piece.IsBlock) :
    Text.Passes (Tag.opening ++ ['/']) (printAll pieces) := by
  induction pieces with
  | nil => exact Text.Passes.nil _
  | cons piece pieces ih =>
      obtain ⟨here, others⟩ := List.forall_mem_cons.mp noBlock
      have first : Text.Passes (Tag.opening ++ ['/']) piece.print := by
        cases piece with
        | char c notBrace => exact Text.Passes.of_not_mem (brace_not_mem notBrace)
        | tag name plain unmarked =>
            exact passes_slash plain fun slash => unmarked (Or.inr (Or.inr slash))
        | block kind name body plain bodyPlain => exact absurd trivial here
      exact first.append (ih others)

private theorem nextBlock?_block (kind : SectionKind) {name body : Text} (plain : name.Plain)
    (bodyPlain : body.Plain) (rest : Text) :
    nextBlock? ((block kind name body plain bodyPlain).print ++ rest) =
      some ([], Text.dropBreaks rest) := by
  have passes : Text.Passes (Tag.opening ++ ['/']) body := Text.Passes.of_not_mem bodyPlain.1
  have taken := nextBlock?_tag (Flat.plain_sigil kind plain) passes plain rest
  rw [print, List.append_assoc, List.append_assoc]
  exact taken

private theorem nextBlock?_of_atBlock? {name : Text} (plain : name.Plain)
    (found : atBlock? pieces = some (between, later)) :
    nextBlock? (Tag.escaped name ++ printAll pieces) =
      some ([], Text.dropBreaks (printAll later)) := by
  obtain ⟨noBlock, kind, key, body, keyPlain, bodyPlain, rfl⟩ := eq_append_of_atBlock? found
  have marked : (kind.sigil :: key).head? ≠ some '/' := by
    cases kind <;> simp [SectionKind.sigil]
  have opening := passes_slash (Flat.plain_sigil kind keyPlain) marked
  have inside : Text.Passes (Tag.opening ++ ['/']) body := Text.Passes.of_not_mem bodyPlain.1
  have passes := ((passes_printAll noBlock).append opening).append inside
  rw [← nextBlock?_tag plain passes keyPlain]
  simp only [printAll, List.flatMap_append, List.flatMap_cons, print, Tag.openSection, Tag.escaped,
    List.append_assoc, List.cons_append]

/-! ### What is kept -/

private theorem removeTags_printAll (noBlock : ∀ piece ∈ pieces, ¬piece.IsBlock) :
    removeTags (printAll pieces) = outside pieces := by
  induction pieces with
  | nil => exact removeTags_eq_self rfl
  | cons piece pieces ih =>
      obtain ⟨here, others⟩ := List.forall_mem_cons.mp noBlock
      have rest := ih others
      cases piece with
      | char c notBrace =>
          have passes : Text.Passes Tag.opening [c] := .of_not_mem (brace_not_mem notBrace)
          have front := removal_tags.inFront passes (printAll pieces)
          rw [rest] at front
          exact front
      | tag name plain unmarked =>
          have next := removal_tags.of_next (nextTag?_tag plain (printAll pieces))
          rw [removal_tags.dropBreaks, rest] at next
          exact next
      | block kind name body plain bodyPlain => exact absurd trivial here

private theorem stripUnresolved_dropBreaks (text : Text) :
    stripUnresolved (Text.dropBreaks text) = Text.dropBreaks (stripUnresolved text) := by
  rw [stripUnresolved, removal_blocks.dropBreaks, removal_tags.dropBreaks]
  rfl

private theorem stripUnresolved_of_next {text rest : Text}
    (taken : nextBlock? text = some ([], rest)) :
    stripUnresolved text = stripUnresolved rest := by
  rw [stripUnresolved, removal_blocks.of_next taken]
  rfl

private theorem stripUnresolved_printAll (pieces : List Piece) :
    stripUnresolved (printAll pieces) = kept pieces := by
  fun_induction kept pieces with
  | case1 => exact (congrArg removeTags (removeBlocks_eq_self rfl)).trans (removeTags_eq_self rfl)
  | case2 c notBrace rest ih =>
      have passes : Text.Passes Tag.opening [c] := .of_not_mem (brace_not_mem notBrace)
      have blocks := removal_blocks.inFront passes (printAll rest)
      have tags := removal_tags.inFront passes (removeBlocks (printAll rest))
      rw [← blocks] at tags
      exact tags.trans (congrArg (c :: ·) ih)
  | case3 kind name body plain bodyPlain rest ih =>
      rw [printAll, List.flatMap_cons]
      exact (stripUnresolved_of_next (nextBlock?_block kind plain bodyPlain _)).trans
        ((stripUnresolved_dropBreaks _).trans (congrArg Text.dropBreaks ih))
  | case4 name plain unmarked rest between later found ih =>
      rw [printAll, List.flatMap_cons]
      exact (stripUnresolved_of_next (nextBlock?_of_atBlock? plain found)).trans
        ((stripUnresolved_dropBreaks _).trans (congrArg Text.dropBreaks ih))
  | case5 name plain unmarked rest noneFound =>
      have noBlock := no_block_of_atBlock? noneFound
      have noneTaken := nextBlock?_of_passes plain (passes_printAll noBlock)
      calc stripUnresolved (Tag.escaped name ++ printAll rest)
          = removeTags (Tag.escaped name ++ printAll rest) := by
            rw [stripUnresolved, removeBlocks_eq_self noneTaken]
        _ = removeTags (Text.dropBreaks (printAll rest)) :=
            removal_tags.of_next (nextTag?_tag plain _)
        _ = Text.dropBreaks (outside rest) := by
            rw [removal_tags.dropBreaks, removeTags_printAll noBlock]

/-! ### What is lost -/

private theorem breaks_of_head? {text : Text} (noBreak : text.head? ≠ some '\n') :
    Text.leadingBreaks text = [] ∧ Text.dropBreaks text = text :=
  Text.breaks_append (fun _ impossible => absurd impossible List.not_mem_nil) noBreak

private theorem leadingBreaks_dropBreaks (text : Text) :
    Text.leadingBreaks (Text.dropBreaks text) = [] :=
  (breaks_of_head? (Text.head?_dropBreaks_ne text)).1

private theorem dropBreaks_append_dropBreaks (front back : Text) :
    Text.dropBreaks (front ++ Text.dropBreaks back) =
      Text.dropBreaks front ++ Text.dropBreaks back := by
  induction front with
  | nil => exact (breaks_of_head? (Text.head?_dropBreaks_ne back)).2
  | cons c front ih =>
      by_cases isBreak : c = '\n'
      · simpa [Text.dropBreaks, isBreak] using ih
      · simp [Text.dropBreaks, isBreak]

private theorem outside_append_block (between : List Piece) (kind : SectionKind) {name body : Text}
    (plain : name.Plain) (bodyPlain : body.Plain) (later : List Piece) :
    outside (between ++ .block kind name body plain bodyPlain :: later) =
      outside between ++ Text.dropBreaks (outside later) := by
  induction between with
  | nil => rfl
  | cons piece between ih =>
      cases piece with
      | char c notBrace => exact congrArg (c :: ·) ih
      | tag key keyPlain unmarked =>
          exact (congrArg Text.dropBreaks ih).trans (dropBreaks_append_dropBreaks _ _)
      | block other key inner keyPlain innerPlain =>
          exact (congrArg Text.dropBreaks ih).trans (dropBreaks_append_dropBreaks _ _)

structure Splits (whole kept lost : Text) : Prop where
  inOrder : kept.Sublist whole
  together : (kept ++ lost).Perm whole
  breaks : Text.leadingBreaks kept = Text.leadingBreaks whole

namespace Splits

variable {whole kept lost : Text}

theorem refl (whole : Text) : Splits whole whole [] :=
  ⟨List.Sublist.refl whole, by rw [List.append_nil], rfl⟩

theorem cons (c : Char) (splits : Splits whole kept lost) :
    Splits (c :: whole) (c :: kept) lost := by
  refine ⟨splits.inOrder.cons_cons c, splits.together.cons c, ?_⟩
  by_cases isBreak : c = '\n'
  · simpa [Text.leadingBreaks, isBreak] using splits.breaks
  · simp [Text.leadingBreaks, isBreak]

private theorem dropBreaks (splits : Splits whole kept lost) :
    Splits (Text.dropBreaks whole) (Text.dropBreaks kept) lost := by
  obtain ⟨inOrder, together, breaks⟩ := splits
  rw [← Text.leadingBreaks_append_dropBreaks kept, ← Text.leadingBreaks_append_dropBreaks whole,
    breaks] at inOrder together
  refine ⟨(List.append_sublist_append_left _).mp inOrder, ?_, ?_⟩
  · rw [List.append_assoc] at together
    exact (List.perm_append_left_iff _).mp together
  · rw [leadingBreaks_dropBreaks, leadingBreaks_dropBreaks]

private theorem lose {front : Text} (splits : Splits whole kept lost)
    (keptBreaks : Text.leadingBreaks kept = [])
    (breaks : Text.leadingBreaks (front ++ whole) = []) :
    Splits (front ++ whole) kept (front ++ lost) := by
  refine ⟨splits.inOrder.trans (List.sublist_append_right front whole), ?_, ?_⟩
  · have swapped : (kept ++ (front ++ lost)).Perm (front ++ (kept ++ lost)) :=
      List.perm_append_comm_assoc kept front lost
    exact swapped.trans (splits.together.append_left front)
  · rw [keptBreaks, breaks]

private theorem eq_iff (splits : Splits whole kept lost) : kept = whole ↔ lost = [] := by
  have lengths := splits.together.length_eq
  rw [List.length_append] at lengths
  constructor
  · intro same
    rw [same] at lengths
    exact List.length_eq_zero_iff.mp (by omega)
  · intro nothing
    rw [nothing, List.length_nil, Nat.add_zero] at lengths
    exact splits.inOrder.eq_of_length lengths

end Splits

private theorem lost_tag {name : Text} (plain : name.Plain) (unmarked : ¬Tag.Marked name)
    (found : atBlock? pieces = some (between, later)) :
    lost (.tag name plain unmarked :: pieces) =
      Text.dropBreaks (outside between) ++ lost later := by
  rw [lost]
  split <;> simp_all

private theorem lost_tag_of_none {name : Text} (plain : name.Plain) (unmarked : ¬Tag.Marked name)
    (noneFound : atBlock? pieces = none) : lost (.tag name plain unmarked :: pieces) = [] := by
  rw [lost]
  split <;> simp_all

private theorem splits_outside (pieces : List Piece) :
    Splits (outside pieces) (kept pieces) (lost pieces) := by
  fun_induction kept pieces with
  | case1 =>
      rw [lost]
      exact Splits.refl []
  | case2 c notBrace rest ih =>
      rw [lost]
      exact ih.cons c
  | case3 kind name body plain bodyPlain rest ih =>
      rw [lost]
      exact ih.dropBreaks
  | case4 name plain unmarked rest between later found ih =>
      rw [lost_tag plain unmarked found]
      obtain ⟨_, kind, key, body, keyPlain, bodyPlain, rfl⟩ := eq_append_of_atBlock? found
      rw [outside, outside_append_block, dropBreaks_append_dropBreaks]
      apply ih.dropBreaks.lose (leadingBreaks_dropBreaks _)
      rw [← dropBreaks_append_dropBreaks, leadingBreaks_dropBreaks]
  | case5 name plain unmarked rest noneFound =>
      rw [lost_tag_of_none plain unmarked noneFound]
      exact Splits.refl _

/-! ### When nothing is lost -/

/-- Between a tag and the next block behind it there are only line feeds and tags. -/
def Close (pieces : List Piece) : Prop :=
  ∀ front name plain unmarked between block later,
    pieces = front ++ .tag name plain unmarked :: between ++ block :: later → block.IsBlock →
    (∀ piece ∈ between, ¬piece.IsBlock) → ∀ c notBrace, .char c notBrace ∈ between → c = '\n'

private theorem atBlock?_append {block : Piece} (noBlock : ∀ piece ∈ between, ¬piece.IsBlock)
    (isBlock : block.IsBlock) : atBlock? (between ++ block :: later) = some (between, later) := by
  obtain ⟨kind, key, body, keyPlain, bodyPlain, rfl⟩ := isBlock.exists_eq
  induction between with
  | nil => rfl
  | cons piece between ih =>
      obtain ⟨here, others⟩ := List.forall_mem_cons.mp noBlock
      cases piece with
      | block kind name body plain bodyPlain => exact absurd trivial here
      | char c notBrace => simp [atBlock?, ih others]
      | tag name plain unmarked => simp [atBlock?, ih others]

private theorem all_breaks_dropBreaks_iff (text : Text) :
    (∀ c ∈ Text.dropBreaks text, c = '\n') ↔ ∀ c ∈ text, c = '\n' := by
  have whole := Text.leadingBreaks_append_dropBreaks text
  constructor
  · intro behind c present
    rw [← whole] at present
    rcases List.mem_append.mp present with inFront | later
    · exact Text.mem_leadingBreaks inFront
    · exact behind c later
  · intro each c present
    exact each c (by rw [← whole]; exact List.mem_append_right _ present)

private theorem outside_breaks_iff (pieces : List Piece) :
    (∀ c ∈ outside pieces, c = '\n') ↔
      ∀ c notBrace, .char c notBrace ∈ pieces → c = '\n' := by
  induction pieces with
  | nil => simp [outside]
  | cons piece pieces ih =>
      cases piece with
      | char d other =>
          rw [outside, List.forall_mem_cons, ih]
          simp only [List.mem_cons, Piece.char.injEq]
          constructor
          · rintro ⟨here, others⟩ c notBrace (rfl | later)
            · exact here
            · exact others c notBrace later
          · intro each
            exact ⟨each d other (Or.inl rfl),
              fun c notBrace later => each c notBrace (Or.inr later)⟩
      | tag name plain unmarked => simp [outside, all_breaks_dropBreaks_iff, ih]
      | block kind name body plain bodyPlain => simp [outside, all_breaks_dropBreaks_iff, ih]

private theorem dropBreaks_outside_eq_nil_iff (pieces : List Piece) :
    Text.dropBreaks (outside pieces) = [] ↔
      ∀ c notBrace, .char c notBrace ∈ pieces → c = '\n' := by
  rw [← outside_breaks_iff, Text.dropBreaks, List.dropWhile_eq_nil_iff]
  simp only [beq_iff_eq]

private theorem lost_append_block {block : Piece} (noBlock : ∀ piece ∈ between, ¬piece.IsBlock)
    (isBlock : block.IsBlock) (breaks : ∀ c notBrace, .char c notBrace ∈ between → c = '\n') :
    lost (between ++ block :: later) = lost later := by
  obtain ⟨kind, key, body, keyPlain, bodyPlain, rfl⟩ := isBlock.exists_eq
  induction between with
  | nil => rw [List.nil_append, lost]
  | cons piece between ih =>
      obtain ⟨here, others⟩ := List.forall_mem_cons.mp noBlock
      have breaksLater : ∀ c notBrace, .char c notBrace ∈ between → c = '\n' :=
        fun c notBrace present => breaks c notBrace (List.mem_cons_of_mem _ present)
      cases piece with
      | block kind name body plain bodyPlain => exact absurd trivial here
      | char c notBrace =>
          rw [List.cons_append, lost]
          exact ih others breaksLater
      | tag name plain unmarked =>
          rw [List.cons_append, lost_tag plain unmarked (atBlock?_append others isBlock),
            (dropBreaks_outside_eq_nil_iff between).mpr breaksLater, List.nil_append]

private theorem close_cons_iff {piece : Piece} (noTag : ∀ name plain unmarked,
    piece ≠ .tag name plain unmarked) : Close (piece :: pieces) ↔ Close pieces := by
  constructor
  · intro close front name plain unmarked between block later whole
    exact close (piece :: front) name plain unmarked between block later (by rw [whole]; rfl)
  · intro close front name plain unmarked between block later whole
    cases front with
    | nil => exact absurd (List.cons.inj whole).1 (noTag name plain unmarked)
    | cons first front =>
        exact close front name plain unmarked between block later (List.cons.inj whole).2

private theorem close_tag_iff {name : Text} (plain : name.Plain) (unmarked : ¬Tag.Marked name) :
    Close (.tag name plain unmarked :: pieces) ↔
      (∀ between later, atBlock? pieces = some (between, later) →
        ∀ c notBrace, .char c notBrace ∈ between → c = '\n') ∧ Close pieces := by
  constructor
  · intro close
    constructor
    · intro between later found
      obtain ⟨noBlock, kind, key, body, keyPlain, bodyPlain, rfl⟩ := eq_append_of_atBlock? found
      exact close [] name plain unmarked between _ later rfl trivial noBlock
    · intro front key keyPlain keyUnmarked between block later whole
      exact close (_ :: front) key keyPlain keyUnmarked between block later (by rw [whole]; rfl)
  · rintro ⟨here, close⟩ front key keyPlain keyUnmarked between block later whole isBlock noBlock
    cases front with
    | nil =>
        have rest := (List.cons.inj whole).2
        exact here between later (by rw [rest]; exact atBlock?_append noBlock isBlock)
    | cons first front =>
        exact close front key keyPlain keyUnmarked between block later (List.cons.inj whole).2
          isBlock noBlock

private theorem lost_of_none (noneFound : atBlock? pieces = none) : lost pieces = [] := by
  induction pieces with
  | nil => rw [lost]
  | cons piece pieces ih =>
      cases piece with
      | block kind name body plain bodyPlain => cases noneFound
      | char c notBrace =>
          rw [lost]
          exact ih (Option.map_eq_none_iff.mp noneFound)
      | tag name plain unmarked =>
          exact lost_tag_of_none plain unmarked (Option.map_eq_none_iff.mp noneFound)

private theorem lost_eq_nil_iff (pieces : List Piece) : lost pieces = [] ↔ Close pieces := by
  induction pieces with
  | nil =>
      rw [lost]
      refine iff_of_true rfl ?_
      intro front name plain unmarked between block later whole
      simp at whole
  | cons piece pieces ih =>
      cases piece with
      | char c notBrace => rw [lost, ih, close_cons_iff (by simp)]
      | block kind name body plain bodyPlain => rw [lost, ih, close_cons_iff (by simp)]
      | tag name plain unmarked =>
          rw [close_tag_iff, ← ih]
          cases found : atBlock? pieces with
          | none =>
              rw [lost_tag_of_none plain unmarked found, lost_of_none found]
              simp
          | some parts =>
              obtain ⟨between, later⟩ := parts
              obtain ⟨noBlock, kind, key, body, keyPlain, bodyPlain, whole⟩ :=
                eq_append_of_atBlock? found
              have isBlock : (block kind key body keyPlain bodyPlain).IsBlock := trivial
              rw [lost_tag plain unmarked found, List.append_eq_nil_iff,
                dropBreaks_outside_eq_nil_iff]
              constructor
              · rintro ⟨breaks, nothing⟩
                constructor
                · intro front back same
                  cases same
                  exact breaks
                · rw [whole, lost_append_block noBlock isBlock breaks]
                  exact nothing
              · rintro ⟨each, nothing⟩
                have breaks := each between later rfl
                rw [whole, lost_append_block noBlock isBlock breaks] at nothing
                exact ⟨breaks, nothing⟩

/-- A cleanup keeps the text outside the blocks, in order and without the line feeds right behind a
tag or a block, up to what is lost together with a tag in front of a block. It keeps all of it
exactly if only line feeds and tags stand between any tag and the block behind it. -/
theorem text_outside_blocks_kept_or_lost (pieces : List Piece) :
    stripUnresolved (printAll pieces) = kept pieces ∧ (kept pieces).Sublist (outside pieces) ∧
      (kept pieces ++ lost pieces).Perm (outside pieces) ∧
      (stripUnresolved (printAll pieces) = outside pieces ↔ Close pieces) := by
  have splits := splits_outside pieces
  have whole := stripUnresolved_printAll pieces
  refine ⟨whole, splits.inOrder, splits.together, ?_⟩
  rw [whole, ← lost_eq_nil_iff]
  exact splits.eq_iff

/-- The word between a tag and a block is lost, and the one in front of the tag is not. -/
theorem word_lost_in_front_of_block :
    let word : List Piece := [.char 'k' (by decide), .char '\n' (by decide)]
    let pieces : List Piece := word ++ .tag ['a'] (by decide) (by decide) :: word ++
      [.block .positive ['s'] ['b'] (by decide) (by decide)]
    printAll pieces = "k\n{{a}}k\n{{#s}}b{{/s}}".toList ∧
      stripUnresolved (printAll pieces) = "k\n".toList ∧ outside pieces = "k\nk\n".toList ∧
      lost pieces = "k\n".toList := by
  intro word pieces
  have facts := text_outside_blocks_kept_or_lost pieces
  have keptWord : kept pieces = "k\n".toList := by decide +kernel
  exact ⟨by decide +kernel, facts.1.trans keptWord, by decide +kernel, by decide +kernel⟩

end Piece
end TextTemplate.Cleanup
