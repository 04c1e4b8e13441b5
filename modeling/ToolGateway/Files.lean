/-
# Files

Documents and allow-lists are read from files. A path is brought into its short form, then followed
step by step from the working directory, or from the root if it begins there; what it leads to is a
file with octets, a directory, or a place that the system refuses to read.
-/
import ToolGateway.Outcome

namespace ToolGateway

/-- What stands at a place. -/
inductive FileEntry where
  | file (octets : List UInt8)
  | directory
  | refused (number : Nat) (reason : String)
deriving DecidableEq

/-- What stands under the names of places. A name may lead through directories. It begins at the
root if it begins with a slash, and else at the working directory, from which two dots lead up. -/
abbrev Files := Table FileEntry

namespace Files

/-- The steps of a path; empty steps and single dots are left out. -/
def steps (path : String) : List String :=
  (path.toList.splitOn '/').map String.ofList |>.filter fun s => s != "" && s != "."

/-- The front of a path from the root: two slashes alone are kept as two. -/
def root (path : String) : String :=
  match path.toList with
  | '/' :: '/' :: '/' :: _ => "/"
  | '/' :: '/' :: _ => "//"
  | '/' :: _ => "/"
  | _ => ""

/-- The short form of a path; the empty path is a dot. -/
def shortPath (path : String) : String :=
  let text := root path ++ "/".intercalate (steps path)
  if text = "" then "." else text

/-- The most octets that a step and a path may have. -/
def stepLimit : Nat := 255

/-- A path may have fewer octets than this. -/
def pathLimit : Nat := 4096

/-- The name of the place at the end of steps from the root, or from the working directory. -/
def nameOf (fromRoot : Bool) (names : List String) : String :=
  (if fromRoot then "/" else "") ++ "/".intercalate names

/-- What stands at the end of steps from the root, or from the working directory. Upwards there are
directories. -/
def entryAt (files : Files) (fromRoot : Bool) (names : List String) : Option FileEntry :=
  let name := nameOf fromRoot names
  if names.all (· = "..") then some .directory
  else
    match files.get? name with
    | some e => some e
    | none =>
      if files.names.any fun n => (name ++ "/").isPrefixOf n then some .directory else none

/-- The steps to a place after one more step. Two dots take one back, or lead up; the root has
nothing above it. -/
def goOn (fromRoot : Bool) (names : List String) (s : String) : List String :=
  if s ≠ ".." then names ++ [s]
  else if names.all (· = "..") then if fromRoot then names else names ++ [s]
  else names.dropLast

/-- Follows steps; `names` are the steps to the place reached. -/
def follow (files : Files) (path : String) (fromRoot : Bool) :
    List String → List String → Except FileFault (Option FileEntry)
  | names, [] => .ok (entryAt files fromRoot names)
  | names, s :: rest =>
    match entryAt files fromRoot names with
    | some .directory | some (.refused _ _) =>
      if stepLimit < s.utf8ByteSize then .error (.nameTooLong path)
      else follow files path fromRoot (goOn fromRoot names s) rest
    | _ => .ok none

/-- What a path leads to. -/
def find (files : Files) (path : String) : Except FileFault (Option FileEntry) :=
  let short := shortPath path
  if short.toList.contains '\x00' then .ok none
  else if pathLimit ≤ short.utf8ByteSize then .error (.nameTooLong short)
  else follow files short (root short ≠ "") [] (steps short)

/-- Line ends are single line feeds. -/
def unifyLineEnds : List Char → List Char
  | '\r' :: '\n' :: rest => '\n' :: unifyLineEnds rest
  | '\r' :: rest => '\n' :: unifyLineEnds rest
  | c :: rest => c :: unifyLineEnds rest
  | [] => []

/-- The text of an entry. -/
def textOf (path : String) : FileEntry → Except Failure String
  | .directory => .error (.file (.isDirectory (shortPath path)))
  | .refused number reason => .error (.file (.refused number reason (shortPath path)))
  | .file octets =>
    match Text.decodeUtf8 octets with
    | .ok s => .ok (.ofList (unifyLineEnds s.toList))
    | .error f => .error (.utf8 f)

/-- The text of the file at a path, or nothing if there is none. -/
def read? (files : Files) (path : String) : Except Failure (Option String) :=
  match files.find path with
  | .error f => .error (.file f)
  | .ok none => .ok none
  | .ok (some e) => (textOf path e).map some

end Files
end ToolGateway
