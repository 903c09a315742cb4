/-
Files by absolute path. A path is read piece by piece from the root: an empty piece and `.` stay where they are,
`..` goes up. Every proper ancestor of a file is a directory, and so is the root. A path can be resolved by its pieces
alone, or walked, and then every piece has to lead on from a directory.
-/
import EnquiryMail.Text.Blank
import EnquiryMail.Text.Utf8

namespace EnquiryMail

open Text.Utf8 (Bytes)

/-- the names on the way from the root -/
abbrev Path := List String

namespace Path

/-- one piece of a path further -/
def step (p : Path) (piece : List Char) : Path :=
  if piece = [] ∨ piece = ['.'] then p
  else if piece = ['.', '.'] then p.dropLast
  else p ++ [String.ofList piece]

/-- a path begins at the root -/
def isAbsolute (path : String) : Bool := path.toList.head? == some '/'

/-- where a path leads from a directory -/
def resolve (base : Path) (path : String) : Path :=
  (Text.splitOn '/' path.toList).foldl step (if isAbsolute path then [] else base)

/-- a path as text -/
def shown (p : Path) : String := "/" ++ String.intercalate "/" p

end Path

/-- why a file cannot be read -/
inductive FileError
  | missing (path : String)
  | isDirectory
  deriving DecidableEq, Repr

/-- the wording of a file error -/
def FileError.message : FileError → String
  | .missing path => "ENOENT: no such file or directory, open '" ++ path ++ "'"
  | .isDirectory => "EISDIR: illegal operation on a directory, read"

/-- a file tree -/
abbrev Files := List (Path × Bytes)

namespace Files

/-- a directory of the tree -/
def isDirectory (fs : Files) (p : Path) : Bool :=
  p = [] || fs.any fun f => p.length < f.1.length && f.1.take p.length == p

/-- what lies at the end of a way -/
inductive Node
  | file (content : Bytes)
  | directory
  deriving DecidableEq, Repr

/-- what lies at the end of a way from the root -/
def find? (fs : Files) (p : Path) : Option Node :=
  match fs.lookup p with
  | some content => some (.file content)
  | none => if fs.isDirectory p then some .directory else none

/-- walks on from a directory, piece by piece -/
def walk? (fs : Files) (base : Path) (pieces : List (List Char)) : Option Path :=
  pieces.foldl (fun at? piece => (at?.filter fun p => p == base || fs.isDirectory p).map (Path.step · piece)) (some base)

/-- what a path leads to that is walked from a directory -/
def reach? (fs : Files) (base : Path) (path : String) : Option Node :=
  (fs.walk? (if Path.isAbsolute path then [] else base) (Text.splitOn '/' path.toList)).bind fs.find?

/-- the content of what has been found at a path -/
def content (path : String) : Option Node → Except FileError Bytes
  | some (.file bytes) => .ok bytes
  | some .directory => .error .isDirectory
  | none => .error (.missing path)

/-- the content of a file, named by a path that is walked from a directory -/
def read (fs : Files) (base : Path) (path : String) : Except FileError Bytes := content path (fs.reach? base path)

end Files

end EnquiryMail
