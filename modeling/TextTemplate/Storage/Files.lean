import TextTemplate.Entries
import TextTemplate.Failure
import TextTemplate.Storage.Path

/-!
# Files and directories

A tree of directories with files as leaves, and a current directory in it. A path is followed part
by part: every part but the last must be a directory, two dots lead to the directory above, and a
path that ends with a separator names a directory.
-/

set_option autoImplicit false

-- Sums start from the zero of the core library, whatever else is in scope.
attribute [local instance (high)] Zero.ofOfNat0

namespace TextTemplate

inductive FileNode where
  | file (bytes : ByteArray)
  | directory (entries : List (Text × FileNode))

namespace FileNode

def empty : FileNode := .directory []

def isDirectory : FileNode → Bool
  | .directory _ => true
  | .file _ => false

def child? (node : FileNode) (name : Text) : Option FileNode :=
  match node with
  | .directory entries => (entries.find? (fun entry => entry.1 = name)).map Prod.snd
  | .file _ => none

def at? (node : FileNode) : List Text → Option FileNode
  | [] => some node
  | name :: names => (node.child? name).bind (fun child => child.at? names)

/-- Put something under names. Directories that are missing on the way are made. -/
def put (node : FileNode) (names : List Text) (new : FileNode) : FileNode :=
  match names with
  | [] => new
  | name :: names =>
      match node with
      | .directory entries =>
          .directory (Entries.insert entries name (((node.child? name).getD empty).put names new))
      | .file bytes => .file bytes

def remove (node : FileNode) : List Text → FileNode
  | [] => node
  | [name] =>
      match node with
      | .directory entries => .directory (entries.filter (fun entry => entry.1 != name))
      | .file bytes => .file bytes
  | name :: names =>
      match node, node.child? name with
      | .directory entries, some child =>
          .directory (Entries.insert entries name (child.remove names))
      | _, _ => node

end FileNode

structure Files where
  root : FileNode
  /-- The names on the way to the current directory, the outermost first. -/
  current : List Text

namespace Files

/-- The longest name, in bytes. -/
def nameLimit : Nat := 255

/-- The longest path, in bytes. -/
def pathLimit : Nat := 4095

def byteCount (text : Text) : Nat :=
  (text.map Char.utf8Size).sum

/-! ### Following paths -/

def checkPath (path : Text) : Except FileFault Unit :=
  if path.contains '\x00' then .error .nulInPath
  else if path.isEmpty then .error .notFound
  else if pathLimit < byteCount path then .error .nameTooLong
  else .ok ()

def names (path : Text) : List Text :=
  (Path.segments path).filter (fun segment => !segment.isEmpty)

def origin (files : Files) (path : Text) : List Text :=
  if Path.isAbsolute path then [] else files.current

def step (files : Files) (place : List Text) (name : Text) : Except FileFault (List Text) :=
  match files.root.at? place with
  | some (.directory _) =>
      if name = ['.'] then .ok place
      else if name = ['.', '.'] then .ok place.dropLast
      else if nameLimit < byteCount name then .error .nameTooLong
      else if (files.root.at? (place ++ [name])).isSome then .ok (place ++ [name])
      else .error .notFound
  | some (.file _) => .error .notADirectory
  | none => .error .notFound

def locate (files : Files) (path : Text) : Except FileFault (List Text) := do
  checkPath path
  let place ← (names path).foldlM files.step (files.origin path)
  let isFile := (files.root.at? place).any (fun node => !node.isDirectory)
  if Path.endsWithSeparator path && isFile then .error .notADirectory else .ok place

def holds (files : Files) (path : Text) : Bool :=
  match files.locate path with
  | .ok _ => true
  | .error _ => false

def holdsDirectory (files : Files) (path : Text) : Bool :=
  match files.locate path with
  | .ok place => (files.root.at? place).any FileNode.isDirectory
  | .error _ => false

/-! ### Reading and writing -/

def read (files : Files) (path : Text) : Except FileFault ByteArray := do
  match files.root.at? (← files.locate path) with
  | some (.file bytes) => .ok bytes
  | some (.directory _) => .error .isADirectory
  | none => .error .notFound

def isDots (name : Text) : Bool :=
  name = ['.'] || name = ['.', '.']

/-- The directory in which the last name of a path lies or would lie, and that name. There is none
where the path has no name or ends with dots. -/
def locateParent (files : Files) (path : Text) :
    Except FileFault (List Text × Option Text) := do
  checkPath path
  let given := names path
  let place ← given.dropLast.foldlM files.step (files.origin path)
  match files.root.at? place with
  | some (.directory _) =>
      match given.getLast? with
      | none => .ok (place, none)
      | some name =>
          if isDots name then .ok (place, none)
          else if nameLimit < byteCount name then .error .nameTooLong
          else .ok (place, some name)
  | some (.file _) => .error .notADirectory
  | none => .error .notFound

/-- Write the file that a path names. It is made if it is not there; its directory must be. -/
def write (files : Files) (path : Text) (bytes : ByteArray) : Except FileFault Files := do
  match ← files.locateParent path with
  | (_, none) => .error .isADirectory
  | (place, some name) =>
      let closed := Path.endsWithSeparator path
      match files.root.at? (place ++ [name]) with
      | some (.directory _) => .error .isADirectory
      | some (.file _) =>
          if closed then .error .notADirectory
          else .ok { files with root := files.root.put (place ++ [name]) (.file bytes) }
      | none =>
          if closed then .error .isADirectory
          else .ok { files with root := files.root.put (place ++ [name]) (.file bytes) }

def makeDirectory (files : Files) (path : Text) : Except FileFault Files := do
  match ← files.locateParent path with
  | (_, none) => .error .alreadyExists
  | (place, some name) =>
      if (files.root.at? (place ++ [name])).isSome then .error .alreadyExists
      else .ok { files with root := files.root.put (place ++ [name]) .empty }

/-- Make the directory that parts of a path name, and those above it. What was made before a fault
stays. -/
def makeDirectories (files : Files) (parts : List PathPart) : Except FileFault Unit × Files :=
  match _parent : Path.parent? parts with
  | none => (.ok (), files)
  | some above =>
      let path := Path.write parts
      match files.makeDirectory path with
      | .ok files => (.ok (), files)
      | .error .notFound =>
          match makeDirectories files above with
          | (.error fault, files) => (.error fault, files)
          | (.ok (), files) =>
              match files.makeDirectory path with
              | .ok files => (.ok (), files)
              | .error fault =>
                  if fault = .alreadyExists ∧ files.holdsDirectory path then (.ok (), files)
                  else (.error fault, files)
      | .error fault =>
          if fault = .alreadyExists ∧ files.holdsDirectory path then (.ok (), files)
          else (.error fault, files)
  termination_by parts.length
  decreasing_by
    have shorter : above = parts.dropLast ∧ parts ≠ [] := by
      unfold Path.parent? at _parent
      split at _parent
      · cases _parent
      · cases _parent
      · next found =>
          refine ⟨(Option.some.inj _parent).symm, ?_⟩
          intro empty
          rw [empty] at found
          cases found
    have positive : 0 < parts.length := List.length_pos_iff.mpr shorter.2
    rw [shorter.1, List.length_dropLast]
    omega

def delete (files : Files) (path : Text) : Files :=
  match files.locate path with
  | .ok place => { files with root := files.root.remove place }
  | .error _ => files

end Files

/-! ### Text files -/

def Text.ofBytes? (bytes : ByteArray) : Option Text :=
  (String.fromUTF8? bytes).map String.toList

def Text.toBytes (text : Text) : ByteArray :=
  (String.ofList text).toUTF8

end TextTemplate
