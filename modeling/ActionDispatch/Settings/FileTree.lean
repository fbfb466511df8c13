/-!
# File trees

A file tree says what stands at which place, as far as it is known. A path is followed name by name, and
the way can end before the file is reached.
-/

namespace ActionDispatch

inductive ReadFault
  | missing
  /-- The path goes on below something that is no directory. -/
  | notDirectory
  | isDirectory
  | nameTooLong
  | tooManyLinks
  | zeroInName
  | notText

def ReadFault.reason : ReadFault → String
  | .missing => "No such file or directory (os error 2)"
  | .notDirectory => "Not a directory (os error 20)"
  | .isDirectory => "Is a directory (os error 21)"
  | .nameTooLong => "File name too long (os error 36)"
  | .tooManyLinks => "Too many levels of symbolic links (os error 40)"
  | .zeroInName => "file name contained an unexpected NUL byte"
  | .notText => "stream did not contain valid UTF-8"

inductive FileNode
  | file (content : ByteArray)
  | directory

def FileNode.text : FileNode → Except ReadFault String
  | .directory => throw .isDirectory
  | .file content => (String.fromUTF8? content).elim (throw .notText) pure

inductive FileEntry
  | file (content : ByteArray)
  /-- A directory; a strict one refuses a name that is too long, another one has nothing of that name. -/
  | directory (strict : Bool)
  /-- Leads on to a path. -/
  | link (path : String)

/-- What stands at each place, which is given by the names from the root down. A place whose names are
not known has empty names. -/
structure FileTree where
  entry? : List String → Option FileEntry
  start : List String

namespace FileTree

/-- The longest name, and the length at which a whole path is refused, in bytes. -/
def nameLimit : Nat := 255
def pathLimit : Nat := 4096

def linkLimit : Nat := 40

/-- Where a path starts that is met in a directory, and the names on its way. -/
def route (place : List String) (path : String) : List String × List String :=
  match path.splitOn "/" with
  | "" :: names => ([], names)
  | names => (place, names)

/-- Goes on from a place by names, and follows at most so many links. An empty name or a dot stays, two
dots go up. -/
def walk (tree : FileTree) : Nat → List String → List String → Except ReadFault FileNode
  | links, place, names =>
    match tree.entry? place with
    | none => throw .missing
    | some (.link path) =>
      match links with
      | 0 => throw .tooManyLinks
      | links + 1 =>
        let (place, way) := route place.dropLast path
        walk tree links place (way ++ names)
    | some (.file content) => if names.isEmpty then pure (.file content) else throw .notDirectory
    | some (.directory strict) =>
      match names with
      | [] => pure .directory
      | name :: names =>
        if name.isEmpty ∨ name = "." then walk tree links place names
        else if name = ".." then walk tree links place.dropLast names
        else if strict ∧ name.utf8ByteSize > nameLimit then throw .nameTooLong
        else walk tree links (place ++ [name]) names
termination_by links _ names => (links, names.length)

def lookup (tree : FileTree) (path : String) : Except ReadFault FileNode :=
  if path.toList.contains '\x00' then throw .zeroInName
  else if path.isEmpty then throw .missing
  else if path.utf8ByteSize ≥ pathLimit then throw .nameTooLong
  else
    let (place, names) := route tree.start path
    tree.walk linkLimit place names

end FileTree

end ActionDispatch
