/-
The body of a message as it is given on the command line: a text, in which the two characters `\n` stand for a line
feed, or an at sign and the path of a file whose content is taken as it is.

`unescape_of_no_backslash`: a text without backslash is taken as it is.
-/
import EnquiryMail.Files

namespace EnquiryMail.Cli

/-- line feeds for their two-character spelling -/
def unescape : List Char → List Char
  | [] => []
  | '\\' :: 'n' :: rest => '\n' :: unescape rest
  | c :: rest => c :: unescape rest

/-- why a body cannot be had -/
inductive BodyError
  | notFound (path : String)
  | unreadable (e : FileError)
  deriving DecidableEq, Repr

/-- the wording of a body error -/
def BodyError.message : BodyError → String
  | .notFound path => "File not found: " ++ path
  | .unreadable e => e.message

/-- the path that a body is to be read from -/
def bodyPath? (given : String) : Option String :=
  match given.toList with
  | '@' :: path => some (String.ofList path)
  | _ => none

/-- a path as it is named in an error: absolute as given, else from the root -/
def shownPath (directory : Path) (path : String) : String :=
  if Path.isAbsolute path then path else Path.shown (Path.resolve directory path)

/-- what a path leads to: an absolute one is walked, any other is resolved in a directory -/
def bodyNode? (files : Files) (directory : Path) (path : String) : Option Files.Node :=
  if Path.isAbsolute path then files.reach? [] path else files.find? (Path.resolve directory path)

/-- the body that is meant -/
def readBody (files : Files) (directory : Path) (given : String) : Except BodyError String :=
  match bodyPath? given with
  | none => .ok (String.ofList (unescape given.toList))
  | some path =>
    match bodyNode? files directory path with
    | none => .error (.notFound (shownPath directory path))
    | some node =>
      match Files.content path (some node) with
      | .ok bytes => .ok (ofUtf8 bytes)
      | .error e => .error (.unreadable e)

theorem unescape_of_no_backslash (cs : List Char) (h : '\\' ∉ cs) : unescape cs = cs := by
  fun_induction unescape cs with
  | case1 => rfl
  | case2 rest ih => simp at h
  | case3 c rest hc ih => simp_all

end EnquiryMail.Cli
