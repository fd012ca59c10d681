import Peg.Text.Utf8

/-! # Files

What can go wrong when a file is read, and a folder of files kept in memory. A path is followed step
by step, so that the first step that leads nowhere says what is wrong. -/

namespace Peg.CommandLine

/-- Why a file cannot be read. The path is given as it was asked for. -/
inductive ReadFault where
  /-- There is no such file. -/
  | notFound (path : List Char)
  /-- The path names a folder. -/
  | isFolder (path : List Char)
  /-- The path goes through a file. -/
  | notFolder (path : List Char)
  /-- The path, or a name in it, is too long. -/
  | nameTooLong (path : List Char)
  /-- The path holds the null character. -/
  | nullInPath
  /-- There is no path. -/
  | noPath
  /-- The content is no UTF-8. -/
  | undecodable (error : Text.Utf8Error)

namespace ReadFault

/-- The class of a fault. -/
def className : ReadFault → String
  | .notFound _ => "FileNotFoundError"
  | .isFolder _ => "IsADirectoryError"
  | .notFolder _ => "NotADirectoryError"
  | .nameTooLong _ => "OSError"
  | .nullInPath => "ValueError"
  | .noPath => "TypeError"
  | .undecodable _ => "UnicodeDecodeError"

/-- The message of a fault. -/
def message : ReadFault → String
  | .notFound path => "[Errno 2] No such file or directory: " ++ Text.quoted path
  | .isFolder path => "[Errno 21] Is a directory: " ++ Text.quoted path
  | .notFolder path => "[Errno 20] Not a directory: " ++ Text.quoted path
  | .nameTooLong path => "[Errno 36] File name too long: " ++ Text.quoted path
  | .nullInPath => "embedded null byte"
  | .noPath => "expected str, bytes or os.PathLike object, not list"
  | .undecodable error => error.message

end ReadFault

/-- A folder: its files by name. A name with slashes lies in a subfolder. -/
abbrev Folder := List (List Char × List UInt8)

/-- Where a path has led so far. Folders are given by their names, innermost first. -/
inductive Location where
  /-- The folder itself or a subfolder of it. -/
  | inside (names : List (List Char))
  /-- A folder around it, of which nothing else is known. -/
  | above
  /-- A folder at the top of the system or below. -/
  | system (names : List (List Char))
  /-- A file. -/
  | file (content : List UInt8)

/-- The folder around a folder. The top of the system is around itself. -/
def Location.parent : Location → Location
  | .inside (_ :: names) => .inside names
  | .system (_ :: names) => .system names
  | .system [] => .system []
  | _ => .above

namespace Folder

/-- A path of this many bytes is too long. -/
def pathLimit : Nat := 4096

/-- A name may have so many bytes. -/
def nameLimit : Nat := 255

/-- The number of bytes of a text. -/
def byteCount (text : List Char) : Nat := (String.ofList text).utf8ByteSize

/-- The folder has a subfolder of that name. -/
def hasSubfolder (folder : Folder) (name : List Char) : Bool :=
  folder.any fun file => (name ++ ['/']).isPrefixOf file.1

/-- The folders that every system has at its top. -/
def topFolders : List String :=
  ["bin", "dev", "etc", "home", "lib", "opt", "proc", "sys", "tmp", "usr", "var"]

/-- What a folder of the system is known to hold: the top has folders, and one of them has a file
that is always empty. -/
def enterSystem? (names : List (List Char)) (name : List Char) : Option Location :=
  match names.map String.ofList, String.ofList name with
  | [], top => if topFolders.contains top then some (.system [name]) else none
  | ["dev"], "null" => some (.file [])
  | _, _ => none

/-- What a name stands for at a place. -/
def enter? (folder : Folder) (place : Location) (name : List Char) : Option Location :=
  match place with
  | .inside names =>
    let whole := ['/'].intercalate (name :: names).reverse
    match folder.lookup whole with
    | some content => some (.file content)
    | none => if folder.hasSubfolder whole then some (.inside (name :: names)) else none
  | .system names => enterSystem? names name
  | _ => none

/-- Takes one step of a path. Nothing comes after a file, not even an empty step. -/
def walk (folder : Folder) (path : List Char) (place : Location) (name : List Char) :
    Except ReadFault Location :=
  match place, name with
  | .file _, _ => .error (.notFolder path)
  | _, [] | _, ['.'] => .ok place
  | _, ['.', '.'] => .ok place.parent
  | _, _ =>
    if nameLimit < byteCount name then .error (.nameTooLong path)
    else
      match folder.enter? place name with
      | some next => .ok next
      | none => .error (.notFound path)

/-- Reads the file at a path: the steps between slashes are taken one after the other, and the
first that leads nowhere decides. -/
def read (folder : Folder) (path : List Char) : Except ReadFault (List UInt8) := do
  if path.contains (Char.ofNat 0) then throw .nullInPath
  if path.isEmpty then throw (.notFound path)
  if pathLimit ≤ byteCount path then throw (.nameTooLong path)
  let start : Location := if path.head? == some '/' then .system [] else .inside []
  match ← (path.splitOn '/').foldlM (folder.walk path) start with
  | .file content => return content
  | _ => throw (.isFolder path)

end Folder

end Peg.CommandLine
