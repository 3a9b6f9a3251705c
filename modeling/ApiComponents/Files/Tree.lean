/-! # Paths and file trees

Files and directories by their locations, and what happens when paths are followed, files read
and written and directories made. Paths start in a working directory unless they begin with a
slash. A program uses files through a few operations, whether they stand in a tree of the library
or on a disk.
-/

namespace ApiComponents.Files

/-! ## Paths

A path is written as names between slashes. Empty names and single dots inside it count for
nothing; a single dot in front is a name of its own, and a slash in front makes the path start
at the root.
-/

abbrev Path := String

namespace Path

def segments (path : Path) : List String :=
  (path.toList.splitOn '/').map String.ofList

/-- Drop empty names and single dots at the end of segments given last to first; the first
    segment stays. -/
def dropIdle : List String → List String
  | [] => []
  | [first] => [first]
  | last :: before => if last = "" ∨ last = "." then dropIdle before else last :: before

/-- The segments up to the last name that counts, last to first. -/
def namesReversed (path : Path) : List String := dropIdle path.segments.reverse

/-- The path of what holds the last name, if there is one; it is empty for a path of a single
    name. -/
def parent? (path : Path) : Option Path :=
  match path.namesReversed with
  | [] => none
  | [first] => if first = "" then none else some ""
  | _ :: before =>
      let before := dropIdle before
      some (if before = [""] then "/" else "/".intercalate before.reverse)

/-- The last name, unless it leads upwards or stays where it is. -/
def fileName? (path : Path) : Option String :=
  path.namesReversed.head?.filter fun name => name ≠ "" ∧ name ≠ "." ∧ name ≠ ".."

/-- What follows the last dot of the last name; a dot in front of a name does not count. -/
def extension? (path : Path) : Option String :=
  match path.fileName? with
  | none => none
  | some name =>
      match name.toList.reverse.span (· ≠ '.') with
      | (after, '.' :: _ :: _) => some (String.ofList after.reverse)
      | _ => none

end Path

/-! ## Trees -/

inductive FileFault where
  | missing
  | present
  | isDirectory
  /-- A path leads through something that is no directory. -/
  | notDirectory
  /-- A path or a name in it is too long. -/
  | tooLong
  | nullInPath
  | notText
  /-- Any other failure, in the words of the system. -/
  | other (description : String)
  deriving Repr, DecidableEq

def FileFault.message : FileFault → String
  | missing => "No such file or directory (os error 2)"
  | present => "File exists (os error 17)"
  | isDirectory => "Is a directory (os error 21)"
  | notDirectory => "Not a directory (os error 20)"
  | tooLong => "File name too long (os error 36)"
  | nullInPath => "file name contained an unexpected NUL byte"
  | notText => "stream did not contain valid UTF-8"
  | other description => description

/-- The names on the way from a place up to the root. The root itself has none. -/
abbrev Location := List String

inductive FileEntry where
  | file (content : ByteArray)
  | directory

/-- Files and directories, and the directory where paths start. -/
structure FileTree where
  home : Location
  /-- What stands where; the first entry of a location counts. -/
  entries : List (Location × FileEntry)

namespace FileTree

/-- What stands at a location. The root is a directory always. -/
def entry? (tree : FileTree) : Location → Option FileEntry
  | [] => some .directory
  | location => tree.entries.lookup location

def put (tree : FileTree) (location : Location) (entry : FileEntry) : FileTree :=
  { tree with entries := (location, entry) :: tree.entries }

/-- Whether a directory stands at a location, or why nothing can be looked for there. -/
def requireDirectory (tree : FileTree) (location : Location) : Except FileFault Unit :=
  match tree.entry? location with
  | some .directory => .ok ()
  | some (.file _) => .error .notDirectory
  | none => .error .missing

def nameLimit : Nat := 255

def pathLimit : Nat := 4095

def follow (tree : FileTree) (here : Location) (segment : String) : Except FileFault Location := do
  tree.requireDirectory here
  if segment = "" ∨ segment = "." then .ok here
  else if segment = ".." then .ok here.tail
  else if nameLimit < segment.utf8ByteSize then .error .tooLong
  else .ok (segment :: here)

def checkedSegments (path : Path) : Except FileFault (List String) :=
  if path.toList.contains '\x00' then .error .nullInPath
  else if path = "" then .error .missing
  else if pathLimit < path.utf8ByteSize then .error .tooLong
  else .ok path.segments

def origin (tree : FileTree) (path : Path) : Location :=
  if path.startsWith "/" then [] else tree.home

/-- The location that a path leads to. All but the last name on the way must be there. -/
def locate (tree : FileTree) (path : Path) : Except FileFault Location := do
  let segments ← checkedSegments path
  segments.foldlM tree.follow (tree.origin path)

def isThere (tree : FileTree) (path : Path) : Bool :=
  match tree.locate path with
  | .ok location => (tree.entry? location).isSome
  | .error _ => false

def isDirectory (tree : FileTree) (path : Path) : Bool :=
  match tree.locate path with
  | .ok location => (tree.requireDirectory location).isOk
  | .error _ => false

def readText (tree : FileTree) (path : Path) : Except FileFault String := do
  let location ← tree.locate path
  match tree.entry? location with
  | some (.file content) =>
      match String.fromUTF8? content with
      | some text => .ok text
      | none => .error .notText
  | some .directory => .error .isDirectory
  | none => .error .missing

def makeDirectory (tree : FileTree) (path : Path) : Except FileFault FileTree := do
  let location ← tree.locate path
  match tree.entry? location with
  | some _ => .error .present
  | none => .ok (tree.put location .directory)

/-- Make the directories of several paths one after the other; those that are there already are
    passed over. What was made before a failure stays. -/
def makeEach (tree : FileTree) : List Path → Except FileFault Unit × FileTree
  | [] => (.ok (), tree)
  | path :: rest =>
      match tree.makeDirectory path with
      | .ok grown => grown.makeEach rest
      | .error fault =>
          if tree.isDirectory path then tree.makeEach rest else (.error fault, tree)

end FileTree

/-- A path and the paths of what holds it, nearest first, as far as they have a name; `fuel`
    bounds how many. -/
def Path.ancestors : Nat → Path → List Path
  | 0, _ => []
  | fuel + 1, path =>
      match path.parent? with
      | none => []
      | some parent => path :: if parent = "" then [] else Path.ancestors fuel parent

namespace FileTree

/-- The paths to try and to make for a directory, outermost first: from the innermost one that
    does not fail for want of what holds it. -/
def missingFrom (tree : FileTree) : List Path → Except FileFault (List Path)
  | [] => .ok []
  | path :: outer =>
      match tree.makeDirectory path with
      | .ok _ => .ok [path]
      | .error .missing => do
          let before ← tree.missingFrom outer
          .ok (before ++ [path])
      | .error fault => if tree.isDirectory path then .ok [] else .error fault

/-- Make the directory of a path and all that must hold it, as far as that goes. -/
def makeAll (tree : FileTree) (path : Path) : Except FileFault Unit × FileTree :=
  match tree.missingFrom (Path.ancestors path.length path) with
  | .ok paths => tree.makeEach paths
  | .error fault => (.error fault, tree)

/-- The tree with the directory of a path and all that must hold it, if they can all be made. -/
def makeDirectories (tree : FileTree) (path : Path) : Except FileFault FileTree :=
  match tree.makeAll path with
  | (.ok (), grown) => .ok grown
  | (.error fault, _) => .error fault

/-- Write a text to the file that a path leads to; what stood there is replaced. A path with a
    slash at its end names no file. -/
def writeText (tree : FileTree) (path : Path) (text : String) : Except FileFault FileTree := do
  let segments ← checkedSegments path
  let names := (segments.reverse.dropWhile (· = "")).reverse
  if names.length < segments.length then
    let directory ← names.dropLast.foldlM tree.follow (tree.origin path)
    tree.requireDirectory directory
    .error .isDirectory
  else
    let location ← segments.foldlM tree.follow (tree.origin path)
    match tree.entry? location with
    | some .directory => .error .isDirectory
    | _ => .ok (tree.put location (.file text.toUTF8))

end FileTree

/-! ## Access to files -/

/-- The operations on files that a program may use. -/
class FileAccess (m : Type → Type) where
  isThere : Path → m Bool
  readText : Path → m (Except FileFault String)
  /-- Make a directory and all that must hold it. -/
  makeDirectories : Path → m (Except FileFault Unit)
  writeText : Path → String → m (Except FileFault Unit)

/-- A change of a tree that may fail, and then leaves the tree as it is. -/
def attempt (change : FileTree → Except FileFault FileTree) :
    StateM FileTree (Except FileFault Unit) := fun tree =>
  match change tree with
  | .ok changed => (.ok (), changed)
  | .error fault => (.error fault, tree)

instance : FileAccess (StateM FileTree) where
  isThere path := fun tree => (tree.isThere path, tree)
  readText path := fun tree => (tree.readText path, tree)
  makeDirectories path := fun tree => tree.makeAll path
  writeText path text := attempt (·.writeText path text)

end ApiComponents.Files
