import WirelessScan.ScanError

/-!
# File trees

A file system as far as the program touches it: files and directories by location, a working
directory, and paths that are resolved one component after the other. A component is looked up in
what the components before it lead to, so a path through something that does not exist leads
nowhere, even if a later `..` would lead back. There are no links and no permissions.
-/

namespace WirelessScan

/-- What a file holds: a text, or bytes that are no text. -/
inductive Content where
  | text (s : String)
  | binary (bytes : List UInt8)
deriving DecidableEq, Repr

/-- The content that consists of some bytes. -/
def Content.ofBytes (bytes : List UInt8) : Content :=
  match String.fromUTF8? ⟨bytes.toArray⟩ with
  | some s => .text s
  | none => .binary bytes

/-- The names that lead from the root to a place. -/
abbrev Location := List String

/-- What exists at a location. -/
inductive FileEntry where
  | file (content : Content)
  | directory
deriving DecidableEq, Repr

/-- Files and directories, and the working directory. An entry in front hides those of the same
location behind it. The root is always a directory. -/
structure FileTree where
  entries : List (Location × FileEntry) := []
  workingDirectory : Location := []
deriving DecidableEq, Repr

/-! ## Paths -/

namespace Path

/-- The components of a path between slashes, empty ones included. -/
def split : List Char → List (List Char)
  | [] => [[]]
  | '/' :: cs => [] :: split cs
  | c :: cs =>
    match split cs with
    | [] => [[c]]
    | first :: rest => (c :: first) :: rest

/-- The components of a path between slashes, empty ones included. -/
def components (path : String) : List String :=
  (split path.toList).map String.ofList

/-- Whether a path starts at the root. -/
def isAbsolute (path : String) : Bool :=
  match path.toList with
  | '/' :: _ => true
  | _ => false

/-- Whether a component at an index adds nothing to a path. A single dot in front does. -/
def isIdle (component : String) (index : Nat) : Bool :=
  component == "" || (component == "." && index != 0)

/-- The components without those at the end that add nothing. -/
def dropIdle (components : List String) : List String :=
  ((components.zipIdx.reverse).dropWhile fun (c, i) => isIdle c i).reverse.map (·.1)

/-- The path of the directory that a path is in, as it is written; nothing for the root and for an
empty path. -/
def parent? (path : String) : Option String :=
  let cs := components path
  match dropIdle cs with
  | [] => none
  | kept =>
    let rest := dropIdle kept.dropLast
    if rest.isEmpty && isAbsolute path then some "/"
    else some ("/".intercalate rest)

/-- The location of a path from the root that has no dots. -/
def toLocation (path : String) : Location :=
  (components path).filter (· ≠ "")

/-- The path from the root to a location. -/
def ofLocation (loc : Location) : String :=
  "/" ++ "/".intercalate loc

end Path

namespace FileTree

/-- What exists at a location. -/
def entry? (t : FileTree) (loc : Location) : Option FileEntry :=
  if loc = [] then some .directory else t.entries.lookup loc

/-- Whether a directory exists at a location. -/
def isDirectory (t : FileTree) (loc : Location) : Bool :=
  t.entry? loc = some .directory

/-- The text or bytes of the file at a location. -/
def content? (t : FileTree) (loc : Location) : Option Content :=
  match t.entry? loc with
  | some (.file c) => some c
  | _ => none

/-- Puts an entry at a location. -/
def put (t : FileTree) (loc : Location) (e : FileEntry) : FileTree :=
  { t with entries := (loc, e) :: t.entries }

/-- Follows components from a location. Every location on the way has to be a directory. -/
def walk (t : FileTree) (loc : Location) : List String → Except FileFault Location
  | [] => .ok loc
  | c :: cs =>
    if !t.isDirectory loc then .error .notADirectory
    else if c = "" ∨ c = "." then t.walk loc cs
    else if c = ".." then t.walk loc.dropLast cs
    else
      match t.entry? (loc ++ [c]) with
      | none => .error .notFound
      | some _ => t.walk (loc ++ [c]) cs

/-- The location from which a path is followed. -/
def start (t : FileTree) (path : String) : Location :=
  if Path.isAbsolute path then [] else t.workingDirectory

/-- The location of what exists at a path. -/
def locate (t : FileTree) (path : String) : Except FileFault Location :=
  if path.isEmpty then .error .notFound else t.walk (t.start path) (Path.components path)

/-- Whether something exists at a path. -/
def pathExists (t : FileTree) (path : String) : Bool :=
  (t.locate path).toOption.isSome

/-- Whether a directory exists at a path. -/
def isDirectoryPath (t : FileTree) (path : String) : Bool :=
  ((t.locate path).toOption.map t.isDirectory).getD false

/-- The location at which a new entry comes to stand, given the components of its path. The last one
has to be a name that is still free, and the others have to lead to a directory. -/
def vacancy (t : FileTree) (loc : Location) (components : List String) :
    Except FileFault Location :=
  match components.getLast? with
  | none => .error .notFound
  | some name => do
    let parent ← t.walk loc components.dropLast
    if !t.isDirectory parent then throw .notADirectory
    if name = "" ∨ name = "." ∨ name = ".." then throw .isADirectory
    match t.entry? (parent ++ [name]) with
    | some _ => throw .alreadyExists
    | none => return parent ++ [name]

/-- The text of the file at a path. -/
def readText (t : FileTree) (path : String) : Except FileFault String := do
  let loc ← t.locate path
  match t.entry? loc with
  | none => throw .notFound
  | some .directory => throw .isADirectory
  | some (.file (.binary _)) => throw .invalidData
  | some (.file (.text s)) => return s

/-- Opens the file at a path for writing: its location, and whether it is there already. -/
def openFile (t : FileTree) (path : String) : Except FileFault (Location × Bool) :=
  match t.locate path with
  | .ok loc => if t.isDirectory loc then .error .isADirectory else .ok (loc, true)
  | .error _ => (t.vacancy (t.start path) (Path.components path)).map fun loc => (loc, false)

/-- Writes a text to the file at a path, in place of what it holds. -/
def writeText (t : FileTree) (path : String) (s : String) : Except FileFault FileTree := do
  let (loc, _) ← t.openFile path
  return t.put loc (.file (.text s))

/-- Makes sure that there is a file at a path. What it holds is kept. -/
def touch (t : FileTree) (path : String) : Except FileFault FileTree := do
  let (loc, existed) ← t.openFile path
  return if existed then t else t.put loc (.file (.text ""))

/-- Makes a directory. Slashes at the end of the path do not matter. -/
def createDirectory (t : FileTree) (path : String) : Except FileFault FileTree :=
  match t.locate path with
  | .ok _ => .error .alreadyExists
  | .error _ => do
    let named := ((Path.components path).reverse.dropWhile (· == "")).reverse
    let loc ← t.vacancy (t.start path) named
    return t.put loc .directory

/-- Makes a directory and those above it that are missing, within `fuel` levels. The tree is
answered also after a failure, since directories may have been made before it. -/
def createDirectoriesWithin : (fuel : Nat) → FileTree → String → Except FileFault Unit × FileTree
  | 0, t, _ => (.error .notFound, t)
  | fuel + 1, t, path =>
    if path.isEmpty then (.ok (), t)
    else
      let finish (t : FileTree) (failed : FileFault) : Except FileFault Unit × FileTree :=
        if t.isDirectoryPath path then (.ok (), t) else (.error failed, t)
      match t.createDirectory path with
      | .ok t => (.ok (), t)
      | .error .notFound =>
        match Path.parent? path with
        | none => (.error .notFound, t)
        | some parent =>
          match createDirectoriesWithin fuel t parent with
          | (.error e, t) => (.error e, t)
          | (.ok (), t) =>
            match t.createDirectory path with
            | .ok t => (.ok (), t)
            | .error e => finish t e
      | .error e => finish t e

/-- Makes a directory and those above it that are missing. -/
def createDirectories (t : FileTree) (path : String) : Except FileFault Unit × FileTree :=
  createDirectoriesWithin (path.length + 1) t path

/-- What stands in a tree where another tree had nothing, in the order in which it was put there. -/
def entriesSince (t before : FileTree) : List (Location × FileEntry) :=
  t.entries.reverse.filter fun (loc, _) => (before.entry? loc).isNone

/-- The files of a tree that another tree did not have, with what they hold. -/
def filesSince (t before : FileTree) : List (Location × Content) :=
  (t.entriesSince before).filterMap fun (loc, _) => (t.content? loc).map fun c => (loc, c)

/-- The locations that following components from a location may lead to. -/
def placesFrom (loc : Location) : List String → List Location
  | [] => []
  | c :: cs =>
    if c = "" ∨ c = "." then placesFrom loc cs
    else
      let next := if c = ".." then loc.dropLast else loc ++ [c]
      next :: placesFrom next cs

/-- The locations that following a path may lead to, each after the one above it. -/
def places (t : FileTree) (path : String) : List Location :=
  placesFrom (t.start path) (Path.components path)

end FileTree

end WirelessScan
