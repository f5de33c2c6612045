import CallGate.Bytes
import CallGate.IoError

/-! The files a server is started from. -/

namespace CallGate

/-- How a file is read: its contents, or why they cannot be had. -/
abbrev ReadFile := (path : String) → Except IoError Bytes

/-- Reads a file that holds text. -/
def ReadFile.text (read : ReadFile) (path : String) : Except IoError String :=
  match read path with
  | .error error => .error error
  | .ok bytes =>
    match String.fromUTF8? ⟨bytes.toArray⟩ with
    | some text => .ok text
    | none => .error .invalidText

/-- The files of a machine, as far as a server can come across them.

Each entry has the names that lead to it from the top of the tree, and its contents unless it is a
directory. All places on the way to an entry are directories. -/
structure FileTree where
  entries : List (List String × Option Bytes)
  /-- The working directory, from which paths without a leading slash are followed. -/
  start : List String

namespace FileTree

/-- What stands at a place in the tree. -/
inductive Node where
  | file (bytes : Bytes)
  | directory

/-- The names in a path that lead on. Empty ones and single dots stay where they are. -/
def names (path : String) : List String := (path.splitOn "/").filter fun name => name ∉ ["", "."]

/-- Entries that are there on every machine: a file that is always empty, and directories. -/
def surroundings : List (List String × Option Bytes) :=
  (["dev", "null"], some []) ::
    ["bin", "etc", "home", "lib", "mnt", "opt", "proc", "run", "sbin", "srv", "sys", "tmp", "usr",
      "var"].map fun name => ([name], none)

/-- A tree whose working directory holds the given files, or nothing where no contents are given. -/
def ofFiles (files : List (String × Option Bytes)) : FileTree :=
  let start := ["tmp", "work"]
  { start
    entries := (start, none) :: surroundings ++
      files.map fun (path, contents) => (start ++ names path, contents) }

/-- What stands at the end of a list of names, if anything does. -/
def node? (tree : FileTree) (names : List String) : Option Node :=
  match tree.entries.find? fun entry => entry.1 == names with
  | some (_, some bytes) => some (.file bytes)
  | some (_, none) => some .directory
  | none =>
    if tree.entries.any fun entry => names.isPrefixOf entry.1 then some .directory else none

/-- The most bytes one name in a path can have. -/
def longestName : Nat := 255

/-- The most bytes a path can have. -/
def longestPath : Nat := 4095

/-- Follows the parts of a path from a directory, given by the names that lead to it.

The directory above the top is the top itself. -/
def walk (tree : FileTree) (place : List String) : List String → Except IoError Bytes
  | [] => .error .isADirectory
  | name :: rest =>
    if name = "" ∨ name = "." then walk tree place rest
    else if name = ".." then walk tree place.dropLast rest
    else if longestName < name.utf8ByteSize then .error .nameTooLong
    else
      match tree.node? (place ++ [name]) with
      | none => .error .noSuchFile
      | some .directory => walk tree (place ++ [name]) rest
      | some (.file bytes) => if rest.isEmpty then .ok bytes else .error .notADirectory

/-- Reads the file at a path. -/
def read (tree : FileTree) : ReadFile := fun path =>
  if path.toList.contains '\x00' then .error .zeroInName
  else if path.isEmpty then .error .noSuchFile
  else if longestPath < path.utf8ByteSize then .error .nameTooLong
  else walk tree (if path.startsWith "/" then [] else tree.start) (path.splitOn "/")

end FileTree

end CallGate
