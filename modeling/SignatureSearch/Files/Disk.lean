import SignatureSearch.Files.Path
import SignatureSearch.Text.Quoted

/-!
# Access to files

What the program can find out about files: the octets of those that can be read, and what stands in
the way of reading or writing the others.
-/

namespace SignatureSearch

/-- Why a text is the path of no file. -/
inductive NoPath where
  /-- It holds a character that no path can hold. -/
  | nullByte
  /-- The system has no octets for it, for a reason in words. -/
  | unencodable (reason : String)
  deriving DecidableEq, Repr

namespace NoPath

/-- The reason in words. -/
def message : NoPath → String
  | nullByte => "embedded null byte"
  | unencodable reason => reason

end NoPath

/-- Why a file cannot be read or written. -/
inductive FileError where
  /-- A step leads nowhere. -/
  | notFound
  /-- A step leads on from a file. -/
  | notDirectory
  /-- A directory stands in the place of the file. -/
  | isDirectory
  /-- A step or the whole path is too long. -/
  | nameTooLong
  /-- The system refuses for another reason, which has a number: that leave is not given, say. -/
  | system (number : Nat) (reason : String)
  /-- There is no such path. -/
  | noPath (why : NoPath)
  deriving DecidableEq, Repr

namespace FileError

/-- The error at a path in words. -/
def message (path : Path) : FileError → String
  | notFound => "[Errno 2] No such file or directory: " ++ Text.quoted path.text
  | notDirectory => "[Errno 20] Not a directory: " ++ Text.quoted path.text
  | isDirectory => "[Errno 21] Is a directory: " ++ Text.quoted path.text
  | nameTooLong => "[Errno 36] File name too long: " ++ Text.quoted path.text
  | system number reason =>
      "[Errno " ++ toString number ++ "] " ++ reason ++ ": " ++ Text.quoted path.text
  | noPath why => why.message

/-- The error that has a number, with the reason in words. -/
def ofNumber (number : Nat) (reason : String) : FileError :=
  match number with
  | 2 => notFound
  | 20 => notDirectory
  | 21 => isDirectory
  | 36 => nameTooLong
  | _ => system number reason

/-- The numbers that the system has for a bad descriptor and for links that lead in a circle. -/
def absenceNumbers : List Nat :=
  [9, 40]

/-- Whether the error says that there is nothing at a path, and not that it stays unknown. -/
def isAbsence : FileError → Bool
  | notFound | notDirectory | noPath _ => true
  | isDirectory | nameTooLong => false
  | system number _ => absenceNumbers.contains number

end FileError

/-- The files as the program sees them. -/
structure Disk where
  /-- The octets of the file at a path. -/
  read : Path → Except FileError (List UInt8)
  /-- Why the file at a path cannot be written, if it cannot. -/
  obstacle? : Path → Option FileError
  /-- Whether a file stands at a path. -/
  isFile : Path → Except FileError Bool := fun path =>
    match read path with
    | .ok _ => .ok true
    | .error .isDirectory => .ok false
    | .error error => .error error

end SignatureSearch
