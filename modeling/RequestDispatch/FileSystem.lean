import RequestDispatch.Text.Basic
import RequestDispatch.Text.Utf8

/-!
# Files by path

A file system is a list of files and directories by path; the directories on the way to an entry
exist with it. Reading follows a path from the current directory component by component.
-/

namespace RequestDispatch

namespace FilePath

/-- The components of a path. Empty ones and single dots name nothing of their own. -/
def components (path : String) : List String :=
  (Text.split '/' path).filter fun part => part != "" && part != "."

/-- The last component of a path, if it names something. -/
def fileName? (path : String) : Option String :=
  match (components path).getLast? with
  | some name => if name == ".." then none else some name
  | none => none

/-- What follows the last dot of a file name, unless the dot is its first character. -/
def extension? (path : String) : Option String :=
  (fileName? path).bind fun name =>
    let backwards := name.toList.reverse
    let tail := backwards.takeWhile (· != '.')
    match backwards.dropWhile (· != '.') with
    | _ :: _ :: _ => some (String.ofList tail.reverse)
    | _ => none

/-- A path below a directory; a path from the root stands for itself. -/
def join (dir path : String) : String :=
  if path.startsWith "/" then path
  else if dir.isEmpty || dir.endsWith "/" then dir ++ path
  else dir ++ "/" ++ path

end FilePath

/-- A file with its contents, or a directory. -/
inductive FileEntry where
  | file (contents : Bytes)
  | directory
  deriving DecidableEq, Repr

/-- Why a path cannot be read. -/
inductive FileFault where
  | notFound
  | isDirectory
  | notDirectory
  | nameTooLong
  | nulByte
  deriving DecidableEq, Repr

/-- The wording of a fault. A NUL octet is refused before the operating system is asked. -/
def FileFault.text : FileFault → String
  | .notFound => "No such file or directory (os error 2)"
  | .isDirectory => "Is a directory (os error 21)"
  | .notDirectory => "Not a directory (os error 20)"
  | .nameTooLong => "File name too long (os error 36)"
  | .nulByte => "file name contained an unexpected NUL byte"

/-- The files and directories that exist, by their components from the root. -/
structure FileSystem where
  entries : List (List String × FileEntry)
  /-- The components of the current directory. -/
  current : List String

namespace FileSystem

/-- The entry at given components: one that is listed, or a directory on the way to one. -/
def entryAt? (fs : FileSystem) (place : List String) : Option FileEntry :=
  match fs.entries.find? fun (p, _) => p == place with
  | some (_, entry) => some entry
  | none =>
    if place.isEmpty || fs.entries.any (fun (p, _) => place.isPrefixOf p) then some .directory
    else none

/-- Follows components from a directory; two dots lead to the directory above. A component has at
most 255 octets. -/
def follow (fs : FileSystem) (place : List String) : List String → Except FileFault (List String)
  | [] => .ok place
  | part :: parts =>
    match fs.entryAt? place with
    | none => .error .notFound
    | some (.file _) => .error .notDirectory
    | some .directory =>
      if 255 < part.utf8ByteSize then .error .nameTooLong
      else fs.follow (if part == ".." then place.dropLast else place ++ [part]) parts

/-- The place a path leads to. A path has less than 4096 octets. -/
def place (fs : FileSystem) (path : String) : Except FileFault (List String) :=
  if path.toList.any fun c => c.toNat == 0 then .error .nulByte
  else if path.isEmpty then .error .notFound
  else if 4096 ≤ path.utf8ByteSize then .error .nameTooLong
  else fs.follow (if path.startsWith "/" then [] else fs.current) (FilePath.components path)

/-- The entry a path leads to. A path that ends like a directory must lead to one. -/
def lookup (fs : FileSystem) (path : String) : Except FileFault FileEntry := do
  let place ← fs.place path
  match fs.entryAt? place with
  | none => .error .notFound
  | some (.file contents) =>
    if path.endsWith "/" || path.endsWith "/." then .error .notDirectory
    else .ok (.file contents)
  | some .directory => .ok .directory

/-- The contents of the file a path leads to. -/
def read (fs : FileSystem) (path : String) : Except FileFault Bytes := do
  match ← fs.lookup path with
  | .file contents => .ok contents
  | .directory => .error .isDirectory

/-- Whether a path leads to something. -/
def exists? (fs : FileSystem) (path : String) : Bool := (fs.lookup path).toBool

end FileSystem

end RequestDispatch
