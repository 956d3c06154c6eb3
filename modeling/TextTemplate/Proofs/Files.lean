import Mathlib.Data.List.Basic
import TextTemplate.Storage.Files

/-!
# What operations on files leave alone

A tree of files is looked at place by place: at a place there is nothing, a directory, or a file with
its bytes. Making directories adds directories and changes nothing else, also where it stops halfway.
Writing puts the bytes at one place, which is the one that the path names afterwards, and changes
nothing else.
-/

set_option autoImplicit false

namespace TextTemplate

private theorem Files.bind_eq_ok {ε α β : Type} {first : Except ε α} {next : α → Except ε β}
    {result : β} (done : (first >>= next) = .ok result) :
    ∃ between, first = .ok between ∧ next between = .ok result := by
  cases first with
  | error fault => cases done
  | ok between => exact ⟨between, rfl, done⟩

namespace FileNode

variable {node old new : FileNode} {entries : List (Text × FileNode)} {name other : Text}
variable {place rest names : List Text}

/-! ### Entries of a directory -/

private theorem child?_cons (entry : Text × FileNode) (entries : List (Text × FileNode))
    (name : Text) :
    (directory (entry :: entries)).child? name =
      if entry.1 = name then some entry.2 else (directory entries).child? name := by
  simp only [child?, List.find?_cons]
  by_cases same : entry.1 = name
  · simp only [same, decide_true, if_true, Option.map_some]
  · simp only [same, decide_false, if_false]

private theorem child?_insert_self (entries : List (Text × FileNode)) (name : Text)
    (new : FileNode) :
    (directory (Entries.insert entries name new)).child? name = some new := by
  induction entries with
  | nil => rw [Entries.insert, child?_cons, if_pos rfl]
  | cons entry entries ih =>
      obtain ⟨known, old⟩ := entry
      rw [Entries.insert]
      split
      · next same => rw [child?_cons, if_pos same]
      · next different => rw [child?_cons, if_neg different, ih]

private theorem child?_insert_of_ne (different : name ≠ other) (entries : List (Text × FileNode))
    (new : FileNode) :
    (directory (Entries.insert entries name new)).child? other =
      (directory entries).child? other := by
  induction entries with
  | nil => rw [Entries.insert, child?_cons, if_neg different]
  | cons entry entries ih =>
      obtain ⟨known, old⟩ := entry
      rw [Entries.insert, child?_cons _ entries]
      split
      · next same => rw [child?_cons, if_neg (same ▸ different), if_neg (same ▸ different)]
      · rw [child?_cons, ih]

/-! ### What is at a place -/

def bytes? : FileNode → Option ByteArray
  | .file bytes => some bytes
  | .directory _ => none

/-- What is at a place: nothing, a directory, or a file with its bytes. -/
def content? (node : FileNode) (place : List Text) : Option (Option ByteArray) :=
  (node.at? place).map bytes?

private theorem content?_nil (node : FileNode) : node.content? [] = some node.bytes? := by
  rw [content?, at?, Option.map_some]

private theorem content?_cons (node : FileNode) (name : Text) (names : List Text) :
    node.content? (name :: names) = (node.child? name).bind fun child => child.content? names := by
  rw [content?, at?, Option.map_bind]
  rfl

private theorem content?_eq_directory (node : FileNode) (place : List Text) :
    node.content? place = some none ↔ ∃ entries, node.at? place = some (.directory entries) := by
  rw [content?, Option.map_eq_some_iff]
  constructor
  · rintro ⟨found, present, isDirectory⟩
    cases found with
    | file bytes => cases isDirectory
    | directory entries => exact ⟨entries, present⟩
  · rintro ⟨entries, present⟩
    exact ⟨_, present, rfl⟩

private theorem eq_directory_of_content?_nil (isDirectory : node.content? [] = some none) :
    ∃ entries, node = directory entries := by
  obtain ⟨entries, present⟩ := (content?_eq_directory node []).mp isDirectory
  rw [at?] at present
  exact ⟨entries, Option.some.inj present⟩

private theorem eq_directory_of_child? {child : FileNode}
    (present : node.child? name = some child) :
    ∃ entries, node = directory entries := by
  cases node with
  | file bytes => cases present
  | directory entries => exact ⟨entries, rfl⟩

private theorem content?_of_leaf (leaf : ∀ name, node.child? name = none) (name : Text)
    (rest : List Text) : node.content? (name :: rest) = none := by
  rw [content?_cons, leaf name, Option.bind_none]

private theorem content?_below_free (free : node.content? [name] ≠ some none) (below : Text)
    (rest : List Text) : node.content? (name :: below :: rest) = none := by
  rw [content?_cons] at free ⊢
  cases present : node.child? name with
  | none => rfl
  | some child =>
      rw [present, Option.bind_some, content?_nil] at free
      cases child with
      | file bytes => exact content?_of_leaf (fun _ => rfl) below rest
      | directory entries => exact absurd rfl free

private theorem put_directory (entries : List (Text × FileNode)) (name : Text) (names : List Text)
    (new : FileNode) :
    (directory entries).put (name :: names) new =
      directory (Entries.insert entries name
        ((((directory entries).child? name).getD empty).put names new)) := by
  rw [put]

private theorem content?_put_nil (entries : List (Text × FileNode)) (name : Text)
    (names : List Text)
    (new : FileNode) : ((directory entries).put (name :: names) new).content? [] = some none := by
  rw [put_directory, content?_nil]
  rfl

private theorem content?_put_cons (entries : List (Text × FileNode)) (name : Text)
    (names : List Text)
    (new : FileNode) (other : Text) (rest : List Text) :
    ((directory entries).put (name :: names) new).content? (other :: rest) =
      if other = name then
        ((((directory entries).child? name).getD empty).put names new).content? rest
      else (directory entries).content? (other :: rest) := by
  rw [put_directory, content?_cons]
  by_cases same : other = name
  · rw [same, child?_insert_self, Option.bind_some, if_pos rfl]
  · rw [child?_insert_of_ne (Ne.symm same), ← content?_cons, if_neg same]

/-- Something without entries is put into a directory that is there, under a name that is not there
or that a file has. It is there then, and nothing else has changed. -/
private theorem content?_put (inDirectory : node.content? place = some none)
    (free : node.content? (place ++ [name]) ≠ some none)
    (leaf : ∀ name, new.child? name = none) (other : List Text) :
    (node.put (place ++ [name]) new).content? other =
      if other = place ++ [name] then some new.bytes? else node.content? other := by
  induction place generalizing node other with
  | nil =>
      obtain ⟨entries, rfl⟩ := eq_directory_of_content?_nil inDirectory
      rw [List.nil_append] at free ⊢
      cases other with
      | nil => rw [content?_put_nil, if_neg (List.cons_ne_nil _ _).symm, inDirectory]
      | cons head rest =>
          rw [content?_put_cons, put]
          by_cases same : head = name
          · subst same
            rw [if_pos rfl]
            cases rest with
            | nil => rw [content?_nil, if_pos rfl]
            | cons below rest =>
                rw [content?_of_leaf leaf, if_neg (by simp)]
                exact (content?_below_free free below rest).symm
          · rw [if_neg same, if_neg fun equal => same (List.cons.inj equal).1]
  | cons first place ih =>
      rw [content?_cons] at inDirectory
      obtain ⟨child, present, childDirectory⟩ := Option.bind_eq_some_iff.mp inDirectory
      obtain ⟨entries, rfl⟩ := eq_directory_of_child? present
      rw [List.cons_append, content?_cons, present, Option.bind_some] at free
      rw [List.cons_append]
      cases other with
      | nil =>
          rw [content?_put_nil, if_neg (List.cons_ne_nil _ _).symm, content?_nil]
          rfl
      | cons head rest =>
          rw [content?_put_cons, present, Option.getD_some, ih childDirectory free]
          by_cases same : head = first
          · subst same
            rw [if_pos rfl, content?_cons, present, Option.bind_some]
            simp only [List.cons.injEq, true_and]
          · rw [if_neg same, if_neg fun equal => same (List.cons.inj equal).1]

end FileNode

namespace Files

variable {files before after : Files} {path name : Text} {place : List Text} {bytes : ByteArray}

/-! ### Files with more in them -/

def content? (files : Files) (place : List Text) : Option (Option ByteArray) :=
  files.root.content? place

def fileAt? (files : Files) (place : List Text) : Option ByteArray :=
  (files.content? place).join

/-- What is there stays there, and a directory stays a directory. -/
structure Extends (before after : Files) : Prop where
  current : after.current = before.current
  present : ∀ place, before.content? place ≠ none → after.content? place ≠ none
  directory : ∀ place, before.content? place = some none → after.content? place = some none

/-- All that is new are directories. -/
structure OnlyDirectoriesAdded (before after : Files) : Prop where
  current : after.current = before.current
  content : ∀ place, after.content? place = before.content? place ∨
    before.content? place = none ∧ after.content? place = some none

theorem OnlyDirectoriesAdded.refl (files : Files) : files.OnlyDirectoriesAdded files :=
  ⟨rfl, fun _ => .inl rfl⟩

theorem OnlyDirectoriesAdded.trans {last : Files} (first : before.OnlyDirectoriesAdded after)
    (second : after.OnlyDirectoriesAdded last) : before.OnlyDirectoriesAdded last := by
  refine ⟨second.current.trans first.current, fun place => ?_⟩
  rcases second.content place with same | ⟨absent, added⟩
  · rw [same]
    exact first.content place
  · rcases first.content place with same | ⟨_, isDirectory⟩
    · exact .inr ⟨same.symm.trans absent, added⟩
    · rw [absent] at isDirectory
      cases isDirectory

theorem OnlyDirectoriesAdded.fileAt?_eq (added : before.OnlyDirectoriesAdded after)
    (place : List Text) : after.fileAt? place = before.fileAt? place := by
  rw [fileAt?, fileAt?]
  rcases added.content place with same | ⟨absent, isDirectory⟩
  · rw [same]
  · rw [absent, isDirectory]
    rfl

/-! ### The directory that a path lies in -/

structure LiesIn (files : Files) (path : Text) (place : List Text) (name : Text) : Prop where
  checked : checkPath path = .ok ()
  reached : (names path).dropLast.foldlM files.step (files.origin path) = .ok place
  directory : files.content? place = some none
  last : (names path).getLast? = some name
  named : isDots name = false
  short : byteCount name ≤ nameLimit

private theorem content?_eq_of_at? {entries : List (Text × FileNode)}
    (present : files.root.at? place = some (.directory entries)) :
    files.content? place = some none :=
  (FileNode.content?_eq_directory files.root place).mpr ⟨entries, present⟩

private theorem liesIn_of_locateParent (found : files.locateParent path = .ok (place, some name)) :
    files.LiesIn path place name := by
  unfold locateParent at found
  obtain ⟨_, checked, found⟩ := bind_eq_ok found
  obtain ⟨there, reached, found⟩ := bind_eq_ok found
  split at found
  · next entries present =>
      split at found
      · cases found
      · next last =>
          split at found
          · cases found
          · next dots =>
              split at found
              · cases found
              · next short =>
                  cases found
                  exact ⟨checked, reached, content?_eq_of_at? present, last, by simpa using dots,
                    Nat.le_of_not_lt short⟩
  · cases found
  · cases found

private theorem LiesIn.content?_put (lies : files.LiesIn path place name) (new : FileNode)
    (free : files.content? (place ++ [name]) ≠ some none)
    (leaf : ∀ name, new.child? name = none) (other : List Text) :
    content? { files with root := files.root.put (place ++ [name]) new } other =
      if other = place ++ [name] then some new.bytes? else files.content? other :=
  FileNode.content?_put lies.directory free leaf other

/-! ### Making directories -/

private theorem makeDirectory_added (made : files.makeDirectory path = .ok after) :
    files.OnlyDirectoriesAdded after := by
  unfold makeDirectory at made
  obtain ⟨⟨place, name?⟩, found, made⟩ := bind_eq_ok made
  cases name? with
  | none => cases made
  | some name =>
      have lies := liesIn_of_locateParent found
      dsimp only at made
      split at made
      · cases made
      · next taken =>
          cases made
          have absent : files.content? (place ++ [name]) = none := by
            simpa [content?, FileNode.content?] using taken
          have free : files.content? (place ++ [name]) ≠ some none := by
            rw [absent]
            exact (Option.some_ne_none none).symm
          refine ⟨rfl, fun other => ?_⟩
          rw [lies.content?_put .empty free fun _ => rfl]
          split
          · next same => exact .inr ⟨same ▸ absent, rfl⟩
          · exact .inl rfl

/-- Also where it stops halfway: what was made before stays, and is all that is new. -/
theorem makeDirectories_added (files : Files) (parts : List PathPart) :
    files.OnlyDirectoriesAdded (files.makeDirectories parts).2 := by
  -- Cases as the recursion has them: the directory is there, or it is made, or the one above is
  -- made first, which can stop halfway, be followed by a second attempt that fails, or suffice.
  fun_induction makeDirectories files parts with
  | case1 => exact .refl files
  | case2 parts above isParent path made done => exact makeDirectory_added done
  | case3 parts above isParent path missing fault made stopped ih =>
      rwa [stopped] at ih
  | case4 parts above isParent path missing made done last again ih =>
      rw [done] at ih
      exact ih.trans (makeDirectory_added again)
  | case5 parts above isParent path missing made done fault again there ih =>
      rwa [done] at ih
  | case6 parts above isParent path missing made done fault again there ih =>
      rwa [done] at ih
  | case7 => exact .refl files
  | case8 => exact .refl files

/-! ### Following paths -/

private theorem step_eq_ok_iff {next : List Text} :
    files.step place name = .ok next ↔ files.content? place = some none ∧
      if name = ['.'] then next = place
      else if name = ['.', '.'] then next = place.dropLast
      else byteCount name ≤ nameLimit ∧ files.content? next ≠ none ∧ next = place ++ [name] := by
  unfold step content? FileNode.content?
  cases present : files.root.at? place with
  | none => simp
  | some node =>
      cases node with
      | file bytes => simp [FileNode.bytes?]
      | directory entries =>
          simp only [Option.map_some, FileNode.bytes?, true_and]
          split
          · rw [Except.ok.injEq, eq_comm]
          · split
            · rw [Except.ok.injEq, eq_comm]
            · split
              · next long => simp [Nat.not_le.mpr long]
              · next short =>
                  constructor
                  · intro reached
                    split at reached
                    · next there =>
                        cases reached
                        refine ⟨Nat.not_lt.mp short, ?_, rfl⟩
                        rwa [Ne, Option.map_eq_none_iff, ← Ne, ← Option.isSome_iff_ne_none]
                    · cases reached
                  · rintro ⟨_, there, rfl⟩
                    rw [Ne, Option.map_eq_none_iff] at there
                    rw [if_pos (Option.isSome_iff_ne_none.mpr there)]

private theorem Extends.step_eq_ok (extends_ : before.Extends after) {next : List Text}
    (reached : before.step place name = .ok next) : after.step place name = .ok next := by
  rw [step_eq_ok_iff] at reached ⊢
  obtain ⟨isDirectory, reached⟩ := reached
  refine ⟨extends_.directory place isDirectory, ?_⟩
  by_cases here : name = ['.']
  · rwa [if_pos here] at reached ⊢
  · rw [if_neg here] at reached ⊢
    by_cases up : name = ['.', '.']
    · rwa [if_pos up] at reached ⊢
    · rw [if_neg up] at reached ⊢
      obtain ⟨short, there, rfl⟩ := reached
      exact ⟨short, extends_.present _ there, rfl⟩

private theorem Extends.foldlM_step {names : List Text} (extends_ : before.Extends after)
    {start last : List Text} (reached : names.foldlM before.step start = .ok last) :
    names.foldlM after.step start = .ok last := by
  induction names generalizing start with
  | nil => exact reached
  | cons name names ih =>
      rw [List.foldlM_cons] at reached ⊢
      obtain ⟨between, first, rest⟩ := bind_eq_ok reached
      rw [extends_.step_eq_ok first]
      exact ih rest

/-! ### Writing -/

private theorem overwrite_eq_ok_iff (node? : Option FileNode) (closed : Bool) (written : Files) :
    (match node? with
      | some (.directory _) => Except.error FileFault.isADirectory
      | some (.file _) => if closed then Except.error FileFault.notADirectory else .ok written
      | none => if closed then Except.error FileFault.isADirectory else .ok written) =
        Except.ok after ↔
      node?.map FileNode.bytes? ≠ some none ∧ closed = false ∧ after = written := by
  cases node? with
  | none => cases closed <;> simp [eq_comm]
  | some node =>
      cases node with
      | directory entries => simp [FileNode.bytes?]
      | file old => cases closed <;> simp [FileNode.bytes?, eq_comm]

/-- A file can be written where a path that is not closed ends with a name in a directory, unless
the name is a directory's. What is written makes no difference. -/
private theorem write_eq_ok_iff :
    files.write path bytes = .ok after ↔ ∃ place name,
      files.locateParent path = .ok (place, some name) ∧
        files.content? (place ++ [name]) ≠ some none ∧ Path.endsWithSeparator path = false ∧
          after = { files with root := files.root.put (place ++ [name]) (.file bytes) } := by
  constructor
  · intro wrote
    obtain ⟨⟨place, name?⟩, found, wrote⟩ := bind_eq_ok wrote
    cases name? with
    | none => cases wrote
    | some name => exact ⟨place, name, found, (overwrite_eq_ok_iff _ _ _).mp wrote⟩
  · rintro ⟨place, name, found, possible⟩
    rw [write, found]
    exact (overwrite_eq_ok_iff _ _ _).mpr possible

theorem writable (wrote : files.write path bytes = .ok after) (others : ByteArray) :
    ∃ twin, files.write path others = .ok twin := by
  obtain ⟨place, name, found, free, opened, _⟩ := write_eq_ok_iff.mp wrote
  exact ⟨_, write_eq_ok_iff.mpr ⟨place, name, found, free, opened, rfl⟩⟩

structure WroteAt (before : Files) (path : Text) (bytes : ByteArray) (after : Files)
    (place : List Text) : Prop where
  current : after.current = before.current
  located : after.locate path = .ok place
  content : ∀ other, after.content? other =
    if other = place then some (some bytes) else before.content? other

theorem WroteAt.fileAt?_eq (wrote : before.WroteAt path bytes after place) (other : List Text) :
    after.fileAt? other = if other = place then some bytes else before.fileAt? other := by
  rw [fileAt?, wrote.content]
  split
  · rfl
  · rfl

theorem WroteAt.read_eq (wrote : before.WroteAt path bytes after place) :
    after.read path = .ok bytes := by
  have written : (after.root.at? place).map FileNode.bytes? = some (some bytes) :=
    (wrote.content place).trans (if_pos rfl)
  obtain ⟨node, present, isFile⟩ := Option.map_eq_some_iff.mp written
  cases node with
  | file old =>
      cases isFile
      simp only [read, wrote.located, bind, Except.bind, present]
  | directory entries => cases isFile

private theorem LiesIn.extends_put (lies : files.LiesIn path place name)
    (free : files.content? (place ++ [name]) ≠ some none) (bytes : ByteArray) :
    files.Extends { files with root := files.root.put (place ++ [name]) (.file bytes) } := by
  have content := lies.content?_put (.file bytes) free fun _ => rfl
  refine ⟨rfl, fun other there => ?_, fun other isDirectory => ?_⟩
  · rw [content]
    split
    · exact Option.some_ne_none _
    · exact there
  · rw [content, if_neg, isDirectory]
    rintro rfl
    exact free isDirectory

private theorem LiesIn.locate_eq (lies : files.LiesIn path place name)
    (there : files.content? (place ++ [name]) ≠ none)
    (opened : Path.endsWithSeparator path = false) : files.locate path = .ok (place ++ [name]) := by
  have given : names path = (names path).dropLast ++ [name] :=
    (List.dropLast_append_getLast? name lies.last).symm
  have taken : files.step place name = .ok (place ++ [name]) := by
    have noDots := lies.named
    simp only [isDots, Bool.or_eq_false_iff, decide_eq_false_iff_not] at noDots
    rw [step_eq_ok_iff, if_neg noDots.1, if_neg noDots.2]
    exact ⟨lies.directory, lies.short, there, rfl⟩
  have reached : (names path).foldlM files.step (files.origin path) = .ok (place ++ [name]) := by
    rw [given, List.foldlM_append, lies.reached]
    change [name].foldlM files.step place = _
    rw [List.foldlM_cons, taken]
    rfl
  simp only [locate, lies.checked, reached, opened, Bool.false_and]
  rfl

private theorem LiesIn.wroteAt (lies : files.LiesIn path place name)
    (free : files.content? (place ++ [name]) ≠ some none)
    (opened : Path.endsWithSeparator path = false) (bytes : ByteArray) :
    files.WroteAt path bytes { files with root := files.root.put (place ++ [name]) (.file bytes) }
      (place ++ [name]) := by
  have content := lies.content?_put (.file bytes) free fun _ => rfl
  refine ⟨rfl, ?_, content⟩
  have more := lies.extends_put free bytes
  have still : LiesIn { files with root := files.root.put (place ++ [name]) (.file bytes) } path place
      name :=
    { lies with
      reached := more.foldlM_step lies.reached
      directory := more.directory place lies.directory }
  apply still.locate_eq _ opened
  rw [content, if_pos rfl]
  exact Option.some_ne_none _

theorem wroteAt_of_write (wrote : files.write path bytes = .ok after) :
    ∃ place, files.WroteAt path bytes after place := by
  obtain ⟨place, name, found, free, opened, rfl⟩ := write_eq_ok_iff.mp wrote
  exact ⟨place ++ [name], (liesIn_of_locateParent found).wroteAt free opened bytes⟩

end Files
end TextTemplate
