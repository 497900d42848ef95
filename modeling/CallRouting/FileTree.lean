import CallRouting.Dict
import CallRouting.Text.Search

/-!
# File trees

A `FileTree` holds files and folders, one of which is the working folder. Paths are resolved name by
name, the way a file system does it: each step needs a folder to start from, and `..` leads one
folder up.

* `Path.steps`, `Path.parent`, `Path.above` : the names of a path, and the paths of the folders on
  the way to what it leads to;
* `FileTree.locate` : the place that a path leads to, at which there may be something or not;
* `readText`, `isFolder`, `contains` : what is there;
* `writeFile`, `makeFolder`, `makeFolders`, `removeFile`, `removeFolder` : changes. A change that
  fails alters nothing, but `makeFolders` may have made some of the folders.
-/

namespace CallRouting

/-- Why a file could not be read or written. -/
inductive FileError where
  | notFound
  | alreadyExists
  | notADirectory
  | isADirectory
  | nameTooLong
  /-- The path has a NUL character in it. -/
  | nulInPath
  /-- The bytes of the file are no text. -/
  | notText
deriving DecidableEq

def FileError.message : FileError → String
  | notFound => "No such file or directory (os error 2)"
  | alreadyExists => "File exists (os error 17)"
  | notADirectory => "Not a directory (os error 20)"
  | isADirectory => "Is a directory (os error 21)"
  | nameTooLong => "File name too long (os error 36)"
  | nulInPath => "file name contained an unexpected NUL byte"
  | notText => "stream did not contain valid UTF-8"

/-! ## Paths -/

/-- A path as the names to follow. -/
structure Path where
  absolute : Bool
  names : List String
  /-- Whether it ends in a slash, and so can only lead to a folder. -/
  folder : Bool

namespace Path

def ofText (s : String) : Path where
  absolute := s.startsWith "/"
  names := (Text.pieces '/' s).filter (· ≠ "")
  folder := s.endsWith "/"

/-- The names of a path, but for those that lead nowhere. -/
def steps (s : String) : List String := (ofText s).names.filter (· ≠ ".")

/-- The path that follows these names from where another path starts. -/
def ofNames (s : String) (names : List String) : String :=
  (if (ofText s).absolute then "/" else "") ++ "/".intercalate names

/-- The path of the folder that something is in. -/
def parent (s : String) : String := ofNames s (steps s).dropLast

/-- The paths that some names, the last one first, lead to with and without the last ones. -/
def upward (s : String) : List String → List String
  | [] => []
  | name :: r => ofNames s (name :: r).reverse :: upward s r

/-- The paths of all folders on the way to something, the nearest first. -/
def above (s : String) : List String := upward s (steps s).dropLast.reverse

/-- The path of something in a folder. -/
def join (folder name : String) : String :=
  if name.startsWith "/" || folder = "" then name
  else if folder.endsWith "/" then folder ++ name
  else folder ++ "/" ++ name

/-- A file name without what follows its last dot, unless the dot comes first. -/
def stemOf (name : String) : String :=
  let cs := name.toList
  match (cs.reverse.dropWhile (· ≠ '.')).drop 1 with
  | [] => name
  | r => String.ofList r.reverse

/-- The stem of the file name that a path ends in. -/
def stem? (s : String) : Option String :=
  match (steps s).getLast? with
  | none => none
  | some ".." => none
  | some name => some (stemOf name)

/-- The most bytes in one name, and in a whole path. -/
def maxName : Nat := 255

def maxPath : Nat := 4095

end Path

/-! ## Trees -/

inductive Entry where
  | file (content : List UInt8)
  | folder
deriving DecidableEq

/-- The names that lead from the root to a place. -/
abbrev Place := List String

structure FileTree where
  /-- The working folder, from which paths start that do not start at the root. -/
  here : Place := []
  /-- By the names that lead there, with slashes between them. -/
  entries : Dict Entry := .empty

namespace FileTree

def key (p : Place) : String := "/".intercalate p

def entry? (t : FileTree) (p : Place) : Option Entry :=
  if p = [] then some .folder else t.entries.get? (key p)

/-- Follows one name. -/
def step (t : FileTree) (p : Place) (name : String) : Except FileError Place :=
  match t.entry? p with
  | none => .error .notFound
  | some (.file _) => .error .notADirectory
  | some .folder =>
    if name = "." then .ok p
    else if name = ".." then .ok p.dropLast
    else if name.utf8ByteSize > Path.maxName then .error .nameTooLong
    else .ok (p ++ [name])

def locate (t : FileTree) (path : String) : Except FileError Place :=
  let p := Path.ofText path
  if path = "" then .error .notFound
  else if path.toList.contains '\x00' then .error .nulInPath
  else if path.utf8ByteSize > Path.maxPath then .error .nameTooLong
  else p.names.foldlM t.step (if p.absolute then [] else t.here)

/-- What is at the end of a path. -/
def find? (t : FileTree) (path : String) : Except FileError Entry := do
  match t.entry? (← t.locate path) with
  | none => .error .notFound
  | some .folder => .ok .folder
  | some (.file content) =>
    if (Path.ofText path).folder then .error .notADirectory else .ok (.file content)

def isFolder (t : FileTree) (path : String) : Bool :=
  match t.find? path with
  | .ok .folder => true
  | _ => false

def contains (t : FileTree) (path : String) : Bool := (t.find? path).isOk

def readText (t : FileTree) (path : String) : Except FileError String := do
  match ← t.find? path with
  | .folder => .error .isADirectory
  | .file content =>
    match String.fromUTF8? ⟨content.toArray⟩ with
    | some s => .ok s
    | none => .error .notText

/-! ## Changes -/

def put (t : FileTree) (p : Place) (e : Entry) : FileTree :=
  { t with entries := t.entries.insert (key p) e }

def remove (t : FileTree) (p : Place) : FileTree := { t with entries := t.entries.erase (key p) }

def writeFile (t : FileTree) (path : String) (content : List UInt8) :
    Except FileError FileTree := do
  let p ← t.locate path
  if (Path.ofText path).folder then throw .isADirectory
  match t.entry? p with
  | some .folder => throw .isADirectory
  | _ => return t.put p (.file content)

def makeFolder (t : FileTree) (path : String) : Except FileError FileTree := do
  let p ← t.locate path
  if (t.entry? p).isSome then throw .alreadyExists
  return t.put p .folder

/-- Makes the folder at the first of these paths. The others are those of the folders on the way,
which are made first where they are missing. -/
def makeAll (t : FileTree) : List String → Except FileError Unit × FileTree
  | [] => (.ok (), t)
  | path :: above =>
    match t.makeFolder path with
    | .ok t => (.ok (), t)
    | .error .alreadyExists => (if t.isFolder path then .ok () else .error .alreadyExists, t)
    | .error .notFound =>
      match t.makeAll above with
      | (.error e, t) => (.error e, t)
      | (.ok (), t) =>
        match t.makeFolder path with
        | .ok t => (.ok (), t)
        | .error e => (if e = .alreadyExists && t.isFolder path then .ok () else .error e, t)
    | .error e => (.error e, t)

/-- Makes a folder and all folders on the way to it. Where the path starts there is one already. -/
def makeFolders (t : FileTree) (path : String) : Except FileError Unit × FileTree :=
  if Path.steps path = [] && ((Path.ofText path).absolute || path = "") then (.ok (), t)
  else t.makeAll (path :: Path.above path)

def removeFile (t : FileTree) (path : String) : FileTree :=
  match t.locate path, t.find? path with
  | .ok p, .ok (.file _) => t.remove p
  | _, _ => t

/-- Whether the first of two places is the second one or below it. -/
def isBelow (k : String) (p : Place) : Bool :=
  p = [] || k = key p || k.startsWith (key p ++ "/")

/-- Removes a folder and everything below it. -/
def removeFolder (t : FileTree) (path : String) : FileTree :=
  match t.locate path, t.find? path with
  | .ok p, .ok .folder =>
    { t with entries := ⟨t.entries.entries.filter fun (k, _) => !isBelow k p⟩ }
  | _, _ => t

/-- Writes a file after making the folders on the way to it; what fails is left out. -/
def place (t : FileTree) (path : String) (content : List UInt8) : FileTree :=
  let t := (t.makeFolders (Path.parent path)).2
  (t.writeFile path content).toOption.getD t

/-- An empty working folder with this name. -/
def withFolder (name : String) : FileTree :=
  { ({} : FileTree).put [name] .folder with here := [name] }

/-- What is below the working folder, by the path from there. -/
def below (t : FileTree) : List (String × Entry) :=
  let start := key t.here ++ "/"
  if t.here = [] then t.entries.toList
  else t.entries.toList.filterMap fun (k, e) =>
    if k.startsWith start then some (String.ofList (k.toList.drop start.length), e) else none

end FileTree
end CallRouting
