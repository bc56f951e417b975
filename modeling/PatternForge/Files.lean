import PatternForge.Error
import PatternForge.Text.Quoted
import PatternForge.Text.Utf8

/-!
# Files

The files below a working directory. Nothing is known about what lies outside of it, except that the
directories above it are directories.
-/

namespace PatternForge

/-- A path without idle parts. -/
structure Path where
  /-- The slashes that it starts with: none, or two, or one. -/
  root : Text
  /-- The names between the slashes. -/
  parts : List Text
deriving DecidableEq

namespace Path

def slash : CodePoint := .ofChar '/'

/-- The name of the directory above. -/
def above : Text := ".."

/-- The path that a text writes. Empty names and dots for the directory itself are idle. -/
def ofText (text : Text) : Path where
  root :=
    match (text.takeWhile (· == slash)).length with
    | 0 => []
    | 2 => [slash, slash]
    | _ => [slash]
  parts := (text.splitOn slash).filter fun part => !part.isEmpty && part != Text.ofString "."

def display (path : Path) : Text :=
  if path.root.isEmpty && path.parts.isEmpty then "."
  else path.root ++ Text.joinWith [slash] path.parts

end Path

inductive FileEntry where
  | file (octets : List UInt8)
  | directory

/-- Why nothing is found at a path. -/
inductive Absence where
  | nothing
  /-- The path, or a name on the way, is longer than any there may be. -/
  | tooLong
deriving DecidableEq, Repr

/-- Why a file cannot be read. -/
inductive FileFault where
  | missing (path : Path)
  | tooLong (path : Path)
  | directory (path : Path)
  | undecodable (fault : Utf8.Fault)

def FileFault.report : FileFault → Report
  | missing path => ⟨.fileNotFoundError, "Scope description not found: " ++ path.display⟩
  | tooLong path => ⟨.osError, "[Errno 36] File name too long: " ++ path.display.quoted⟩
  | directory path => ⟨.isADirectoryError, "[Errno 21] Is a directory: " ++ path.display.quoted⟩
  | undecodable fault => ⟨.unicodeDecodeError, fault.message⟩

def FileFault.ofAbsence (path : Path) : Absence → FileFault
  | .nothing => missing path
  | .tooLong => tooLong path

/-- The text with every line ended by a line feed alone. -/
def Text.withLineFeeds : Text → Text
  | [] => []
  | [point] => if point = .ofChar '\r' then [.ofChar '\n'] else [point]
  | point :: next :: rest =>
    if point = .ofChar '\r' then
      if next = .ofChar '\n' then withLineFeeds (next :: rest)
      else .ofChar '\n' :: withLineFeeds (next :: rest)
    else point :: withLineFeeds (next :: rest)

/-- The files of a working directory, by their names from there. -/
structure FileStore where
  /-- The names on the way to each file, and its octets. -/
  files : List (List Text × List UInt8) := []

namespace FileStore

/-- One more file at the path that a text writes. -/
def insert (store : FileStore) (path : Text) (octets : List UInt8) : FileStore :=
  ⟨store.files ++ [((Path.ofText path).parts, octets)]⟩

def octets? (store : FileStore) (names : List Text) : Option (List UInt8) :=
  (store.files.reverse.find? fun file => file.1 == names).map Prod.snd

def isDirectory (store : FileStore) (names : List Text) : Bool :=
  names.isEmpty || store.files.any fun file =>
    names.isPrefixOf file.1 && names.length < file.1.length

/-- No name has more octets than these. -/
def longestName : Nat := 255

/-- No path has more octets than these. -/
def longestPath : Nat := 4095

/-- What stands some names on from a directory. Of the directories above the working directory
nothing is known but that they are there. A name is measured only once its directory is found. -/
def walk (store : FileStore) : Option (List Text) → List Text → Except Absence FileEntry
  | _, [] => .ok .directory
  | here, name :: rest =>
    if longestName < (Utf8.encode name).length then .error .tooLong
    else
      match here with
      | none => if name = Path.above then store.walk none rest else .error .nothing
      | some here =>
        let next := here ++ [name]
        if name = Path.above then
          store.walk (if here.isEmpty then none else some here.dropLast) rest
        else if store.isDirectory next then store.walk (some next) rest
        else
          match store.octets? next, rest with
          | some octets, [] => .ok (.file octets)
          | _, _ => .error .nothing

def entry (store : FileStore) (path : Path) : Except Absence FileEntry :=
  let text := path.display
  if !text.isEncodable || text.contains (.ofChar '\x00') then .error .nothing
  else if longestPath < (Utf8.encode text).length then .error .tooLong
  else store.walk (if path.root.isEmpty then some [] else none) path.parts

/-- The text that octets encode, every line ended by a line feed. -/
def textOf (octets : List UInt8) : Except FileFault Text :=
  match Utf8.decode octets with
  | .ok text => .ok text.withLineFeeds
  | .error fault => .error (.undecodable fault)

/-- The text of what stands at a path. -/
def textOfEntry (path : Path) : FileEntry → Except FileFault Text
  | .directory => .error (.directory path)
  | .file octets => textOf octets

end FileStore

end PatternForge
