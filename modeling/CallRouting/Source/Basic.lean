import CallRouting.Channel
import CallRouting.FileTree

/-!
# Sources of rule texts

A source holds a text for each key under which a rule is published, and tells its subscribers of
every change. There are two of them, `Memory` and `Directory`.
-/

namespace CallRouting

/-- What happened to the text of a key. -/
inductive ChangeKind where
  | added
  | modified
  | deleted
deriving DecidableEq

def ChangeKind.name : ChangeKind → String
  | added => "Added"
  | modified => "Modified"
  | deleted => "Deleted"

/-- The kind of a change between two texts, either of which may be missing. -/
def ChangeKind.between : Option String → Option String → ChangeKind
  | none, _ => added
  | some _, none => deleted
  | some _, some _ => modified

structure Change where
  key : String
  /-- The new text; nothing after a deletion. -/
  value : Option String
  kind : ChangeKind
deriving DecidableEq

/-- What a subscriber of a key holds. -/
structure Subscription where
  key : String
  /-- The text at the time of subscribing. -/
  initial : Option String
  receiver : Receiver

/-- How many changes a source keeps for slow subscribers unless told otherwise. -/
def Source.defaultCapacity : Nat := 16

/-- Why a source could not be read. -/
inductive SourceError where
  | file (path : String) (e : FileError)
  | notAFileName (key : String)
  | noDirectory (key dir : String)
deriving DecidableEq

def SourceError.message : SourceError → String
  | file path e => "Failed to read " ++ path ++ ": " ++ e.message
  | notAFileName key =>
    "Configuration source unavailable for '" ++ key ++ "': key is not a plain file name"
  | noDirectory key dir =>
    "Configuration source unavailable for '" ++ key ++ "': rules directory " ++ dir ++
      " does not exist"

end CallRouting
