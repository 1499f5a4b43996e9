import ChipEight.Numeral.Hex
import ChipEight.Text.Quoted

/-!
# Files

A tree of directories and files as data: every entry stands under its path from
the root, and names are followed from a working directory. A name is followed
component by component, and each of them but the last must name a directory; an
empty component or a single dot stays where it is, and two dots go up. So a
slash behind the name of a file is a mistake.

Reading yields all bytes of a file. Writing replaces a file or makes a new one,
never a directory.
-/

namespace ChipEight

/-- Why a file could not be opened. -/
inductive FileFault where
  | notFound
  | permissionDenied
  | notDirectory
  | isDirectory
  | nameTooLong
  /-- The name holds a character that no name may hold. -/
  | invalidName
  /-- Any other cause, with its number and its text. -/
  | other (code : Nat) (text : String)
  deriving DecidableEq, Repr

namespace FileFault

/-- The number of a cause. -/
def code : FileFault → Nat
  | notFound => 2
  | permissionDenied => 13
  | notDirectory => 20
  | isDirectory => 21
  | invalidName => 22
  | nameTooLong => 36
  | other code _ => code

/-- The text of a cause. -/
def text : FileFault → String
  | notFound => "No such file or directory"
  | permissionDenied => "Permission denied"
  | notDirectory => "Not a directory"
  | isDirectory => "Is a directory"
  | invalidName => "embedded null byte"
  | nameTooLong => "File name too long"
  | other _ text => text

/-- The one sentence that says what happened to a name. -/
def message (name : String) : FileFault → String
  | invalidName => text invalidName
  | f =>
      "[Errno " ++ Numeral.decimal f.code ++ "] " ++ f.text ++ ": " ++ Text.quoted name

end FileFault

/-- What stands under a path. -/
inductive FileEntry where
  | file (bytes : List UInt8)
  | directory
  deriving DecidableEq, Repr

/-- A tree of files. The root is always a directory. -/
structure Files where
  entries : List (List String × FileEntry) := []
  workingDirectory : List String := []
  deriving Repr

namespace Files

/-- A path that was followed, to an entry or to a place for a new one. -/
inductive Place where
  | entry (path : List String) (e : FileEntry)
  | vacant (path : List String)

/-- The greatest number of bytes in a component. -/
def maxComponent : Nat := 255

/-- The greatest number of bytes in a name. -/
def maxName : Nat := 4095

/-- The entry under a path. -/
def entry? (t : Files) (path : List String) : Option FileEntry :=
  if path.isEmpty then some .directory else t.entries.lookup path

/-- The tree with an entry under a path. -/
def put (t : Files) (path : List String) (e : FileEntry) : Files :=
  { t with entries := (path, e) :: t.entries.filter (·.1 != path) }

/-- The components of a name, which are what its slashes stand between. -/
def components (name : String) : List String := (name.toList.splitOn '/').map String.ofList

/-- Follows components from a path. -/
def follow (t : Files) (path : List String) : List String → Except FileFault Place
  | [] =>
      match t.entry? path with
      | some e => .ok (.entry path e)
      | none => .error .notFound
  | c :: rest =>
      match t.entry? path with
      | none => .error .notFound
      | some (.file _) => .error .notDirectory
      | some .directory =>
          if c = "" ∨ c = "." then follow t path rest
          else if c = ".." then follow t path.dropLast rest
          else if maxComponent < c.utf8ByteSize then .error .nameTooLong
          else if (t.entry? (path ++ [c])).isSome then follow t (path ++ [c]) rest
          else if rest.isEmpty then .ok (.vacant (path ++ [c]))
          else .error .notFound

/-- Follows a name, of which a slash at the end may be overlooked. -/
def resolve (t : Files) (overlookSlash : Bool) (name : String) : Except FileFault Place :=
  if name.isEmpty then .error .notFound
  else if name.toList.contains '\x00' then .error .invalidName
  else if maxName < name.utf8ByteSize then .error .nameTooLong
  else
    let components :=
      if overlookSlash then ((components name).reverse.dropWhile String.isEmpty).reverse
      else components name
    t.follow (if name.startsWith "/" then [] else t.workingDirectory) components

/-- The bytes of the file of a name. -/
def read (t : Files) (name : String) : Except FileFault (List UInt8) := do
  match ← t.resolve false name with
  | .entry _ (.file bytes) => .ok bytes
  | .entry _ .directory => .error .isDirectory
  | .vacant _ => .error .notFound

/-- The tree with these bytes in the file of a name. -/
def write (t : Files) (name : String) (bytes : List UInt8) : Except FileFault Files := do
  match ← t.resolve true name with
  | .entry _ .directory => .error .isDirectory
  | .entry path (.file _) | .vacant path =>
      if name.endsWith "/" then .error .isDirectory else .ok (t.put path (.file bytes))

end Files

end ChipEight
