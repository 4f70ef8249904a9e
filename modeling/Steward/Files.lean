/-
The files of a moment. A path is followed name by name from the root, so that what lies behind a file
or behind something missing does not exist. Directories need not be listed: whatever has something in
it is one.
-/
import Steward.Text.Split

namespace Steward

inductive FileEntry
  | text (content : String)
  | directory
  deriving DecidableEq, Repr

/-- Why there is nothing to read. -/
inductive FileFault
  | missing
  | isDirectory
  deriving DecidableEq, Repr

def FileFault.message : FileFault → String
  | missing => "No such file or directory (os error 2)"
  | isDirectory => "Is a directory (os error 21)"

/-- The names that a path consists of, empty ones included. -/
def pathNames (path : String) : List String := Text.pieces (· == '/') path

/-- A path as it is meant in a directory. -/
def pathIn (directory path : String) : String :=
  if Text.startsWith path "/" then path else directory ++ "/" ++ path

/-- The place that a path leads to from the root, if there are directories all along. -/
def placeOf (path : String) : List String :=
  (pathNames path).foldl
    (fun place name =>
      if name = "" ∨ name = "." then place else if name = ".." then place.dropLast else place ++ [name]) []

/-- Files and directories, each under the names on its way from the root. -/
structure Files where
  entries : List (List String × FileEntry)

namespace Files

def ofList (entries : List (String × FileEntry)) : Files :=
  ⟨entries.map fun (path, entry) => (placeOf path, entry)⟩

/-- What is at a place. -/
def entry? (files : Files) (place : List String) : Option FileEntry :=
  match files.entries.find? fun e => e.1 == place with
  | some e => some e.2
  | none => if files.entries.any fun e => place.isPrefixOf e.1 then some .directory else none

/-- What is reached from a place by some names. -/
def follow (files : Files) (place : List String) : (names : List String) → Option FileEntry
  | [] => files.entry? place
  | name :: rest =>
    match files.entry? place with
    | some .directory =>
      if name = "" ∨ name = "." then follow files place rest
      else if name = ".." then follow files place.dropLast rest
      else follow files (place ++ [name]) rest
    | _ => none

def at? (files : Files) (path : String) : Option FileEntry := files.follow [] (pathNames path)

def hasPath (files : Files) (path : String) : Bool := (files.at? path).isSome

def read (files : Files) (path : String) : Except FileFault String :=
  match files.at? path with
  | some (.text content) => .ok content
  | some .directory => .error .isDirectory
  | none => .error .missing

end Files

end Steward
