import Statechart.Failure
import Statechart.Files.Path

/-!
# Files

A tree of files as data. Looking a path up walks through its names from the root: every name on the way has to be
a directory, and `..` leads back to the one above.
-/

set_option autoImplicit false
set_option relaxedAutoImplicit false

namespace Statechart

/-- Files by the names that lead to them from the root, and directories that may be empty. -/
structure Files where
  contents : List (List String × List UInt8) := []
  directories : List (List String) := []
deriving Repr, Inhabited

/-- What a path leads to. -/
inductive Found where
  | file (bytes : List UInt8)
  | directory
  | missing
  /-- A file stands where a directory is needed. -/
  | blocked
  /-- A name is longer than names can be. -/
  | tooLong
  /-- No file can have such a name. -/
  | unnameable
deriving DecidableEq, Repr

namespace Files

/-- The bytes of the file at a place. -/
def bytesAt? (files : Files) (place : List String) : Option (List UInt8) := files.contents.lookup place

/-- A directory is one that was made, or that has something in it. -/
def isDirectory (files : Files) (place : List String) : Bool :=
  place.isEmpty || (files.contents.any fun f ↦ place.isPrefixOf f.1 && place != f.1)
    || files.directories.any fun d ↦ place.isPrefixOf d

/-- The longest name in bytes. -/
def nameLimit : Nat := 255

def longestPath : Nat := 4095

/-- Walks from a directory through names. -/
def walk (files : Files) (here : List String) : List String → Found
  | [] => .directory
  | name :: rest =>
    if name == ".." then walk files here.dropLast rest
    else if name.utf8ByteSize > nameLimit then .tooLong
    else
      let place := here ++ [name]
      if files.isDirectory place then walk files place rest
      else
        match files.bytesAt? place, rest with
        | some bytes, [] => .file bytes
        | some _, _ => .blocked
        | none, _ => .missing

/-- What a path leads to from a current directory. -/
def find (files : Files) (here path : Path) : Found :=
  if path.names.any fun n ↦ n.toList.contains '\x00' then .unnameable
  else if path.text.utf8ByteSize > longestPath then .tooLong
  else files.walk [] (here.below path).names

/-- Whether a path leads to anything. -/
def has (files : Files) (here path : Path) : Outcome Bool :=
  match files.find here path with
  | .file _ | .directory => .ok true
  | .missing | .blocked | .unnameable => .ok false
  | .tooLong => .error (.plain .nameTooLong)

/-- The bytes of a file. -/
def read (files : Files) (here path : Path) : Outcome (List UInt8) :=
  match files.find here path with
  | .file bytes => .ok bytes
  | .directory => .error (.plain .isDirectory)
  | .missing => .error (.plain .fileNotFound)
  | .blocked => .error (.plain .notDirectory)
  | .tooLong => .error (.plain .nameTooLong)
  | .unnameable => .error .badValue

/-- What is said about a path that cannot be read, for faults of the file system. -/
def faultText? (path : String) : Fault → Option String
  | .fileNotFound => some ("[Errno 2] No such file or directory: " ++ Text.quoted path)
  | .isDirectory => some ("[Errno 21] Is a directory: " ++ Text.quoted path)
  | .notDirectory => some ("[Errno 20] Not a directory: " ++ Text.quoted path)
  | .nameTooLong => some ("[Errno 36] File name too long: " ++ Text.quoted path)
  | .fileExists => some ("[Errno 17] File exists: " ++ Text.quoted path)
  | .permissionDenied => some ("[Errno 13] Permission denied: " ++ Text.quoted path)
  | _ => none

/-- Text in which every line ends in the same way. -/
def unifyLines : List Char → List Char
  | [] => []
  | '\r' :: '\n' :: rest => '\n' :: unifyLines rest
  | '\r' :: rest => '\n' :: unifyLines rest
  | c :: rest => c :: unifyLines rest

def decode (bytes : List UInt8) : Outcome String :=
  match String.fromUTF8? ⟨bytes.toArray⟩ with
  | some s => .ok s
  | none => .error (.plain .undecodable)

/-- The text of a file. -/
def readText (files : Files) (here path : Path) : Outcome String := do
  let text ← decode (← files.read here path)
  return String.ofList (unifyLines text.toList)

/-- The tree with a file written. -/
def write (files : Files) (place : List String) (bytes : List UInt8) : Files :=
  { files with contents := (place, bytes) :: files.contents.filter fun f ↦ f.1 != place }

/-- The tree with a directory and all above it. -/
def makeDirectory (files : Files) (place : List String) : Files :=
  if files.isDirectory place then files else { files with directories := files.directories ++ [place] }

end Files

end Statechart
