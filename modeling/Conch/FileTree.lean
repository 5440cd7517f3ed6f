/-! The files a shell can read: a tree of text files and directories, paths read the POSIX way, and
what a path names (`FileTree.resolve`). -/
namespace Conch

namespace PathText

/-- The root of a path: `//` for exactly two leading slashes, `/` for one or more than two. -/
def root (cs : List Char) : String × List Char :=
  let rest := cs.dropWhile (· = '/')
  match cs.length - rest.length with
  | 0 => ("", cs)
  | 2 => ("//", rest)
  | _ => ("/", rest)

def pieces : List Char → (acc : List Char := []) → List String
  | [], acc => [String.ofList acc.reverse]
  | c :: cs, acc =>
    if c = '/' then String.ofList acc.reverse :: pieces cs [] else pieces cs (c :: acc)

def parts (cs : List Char) : List String :=
  (pieces cs).filter fun p => !p.isEmpty && p != "."

/-- The names a lookup of the path follows after its root: every part but the empty ones. A
`.` stays, as a lookup checks that what comes before it is a directory. -/
def steps (cs : List Char) : List String :=
  (pieces cs).filter fun p => !p.isEmpty

def normalize (s : String) : String :=
  let (r, rest) := root s.toList
  let body := "/".intercalate (parts rest)
  if r.isEmpty && body.isEmpty then "." else r ++ body

example : normalize "./a//b/" = "a/b" ∧ normalize "" = "." ∧ normalize "//x/./y" = "//x/y" ∧
    normalize "///x" = "/x" ∧ normalize "sub/../f" = "sub/../f" := by decide

inductive HomeFault where
  | unknownUser
  | nulInName
  deriving Repr, DecidableEq

def home : String := "/root"

/-- The home directory of a user, the empty name standing for the shell's user: only the
superuser is known. -/
def homeOf? (user : String) : Option String :=
  if user = "" ∨ user = "root" then some home else none

/-- A written path with a leading `~user` part (or `~` alone) replaced by that user's home
directory. -/
def expandHome (p : String) : Except HomeFault String :=
  match p.toList with
  | '~' :: rest =>
    let user := rest.takeWhile (· ≠ '/')
    let after := rest.drop user.length
    if user.contains '\x00' then .error .nulInName
    else match homeOf? (String.ofList user) with
      | some h => .ok (normalize (h ++ String.ofList after))
      | none => .error .unknownUser
  | _ => .ok p

example : expandHome "~nobody_here/a" = .error .unknownUser ∧ expandHome "~/a" = .ok "/root/a" ∧
    expandHome "~root" = .ok "/root" ∧ expandHome "a/~b" = .ok "a/~b" :=
  ⟨rfl, rfl, rfl, rfl⟩

end PathText

def nameMax : Nat := 255

def pathMax : Nat := 4095

/-- What a path names: a file with its contents, a directory, nothing, a path through a file, or a
name too long. -/
inductive Entry where
  | file (contents : String)
  | directory
  | missing
  | notADirectory
  | tooLong
  deriving Repr, DecidableEq

inductive ReadFault where
  | missing
  | isDirectory
  | notADirectory
  | nameTooLong
  deriving Repr, DecidableEq

def ReadFault.message : ReadFault → String
  | .missing => "No such file or directory"
  | .isDirectory => "Is a directory"
  | .notADirectory => "Not a directory"
  | .nameTooLong => "File name too long"

/-- Text files and directories keyed by their paths' parts, an absolute path by `"/"` and its parts;
a directory is known when it is listed or when something known lies below it. -/
structure FileTree where
  files : List (List String × String) := []
  dirs : List (List String) := []
  deriving Repr

namespace FileTree

def ofList (fs : List (String × String)) : FileTree :=
  ⟨fs.map fun (p, c) => (PathText.parts p.toList, c), []⟩

def isDirectory (t : FileTree) (dir : List String) : Bool :=
  dir == ["/"] || dir == ["/", "root"] || t.dirs.contains dir ||
    t.files.any (fun (p, _) => dir.length < p.length && p.take dir.length == dir) ||
    t.dirs.any fun d => dir.length < d.length && d.take dir.length == dir

/-- Where a walk through the tree is: at a directory of the tree (its key), or above the
working directory. -/
inductive Place where
  | inside (dir : List String)
  | above
  deriving Repr, DecidableEq

def Place.parent : Place → Place
  | .inside [] => .above
  | .inside ["/"] => .inside ["/"]
  | .inside dir => .inside dir.dropLast
  | .above => .above

/-- Follows the parts of a path from `here`; a name longer than `nameMax` bytes is refused
where a directory is asked for it. -/
def walk (t : FileTree) : Place → List String → Entry
  | _, [] => .directory
  | here, "." :: ps => walk t here ps
  | here, ".." :: ps => walk t here.parent ps
  | .above, p :: _ => if p.utf8ByteSize > nameMax then .tooLong else .missing
  | .inside dir, p :: ps =>
    if p.utf8ByteSize > nameMax then .tooLong
    else
      let here := dir ++ [p]
      match t.files.lookup here with
      | some c => if ps.isEmpty then .file c else .notADirectory
      | none => if t.isDirectory here then walk t (.inside here) ps else .missing

def start (r : String) : Place := if r.isEmpty then .inside [] else .inside ["/"]

/-- What a path names; a path that ends with `/` must name a directory. -/
def resolve (t : FileTree) (path : String) : Entry :=
  let (r, rest) := PathText.root path.toList
  if path.utf8ByteSize > pathMax then .tooLong
  else match walk t (start r) (PathText.steps rest) with
  | .file c => if path.endsWith "/" then .notADirectory else .file c
  | e => e

def read (t : FileTree) (path : String) : Except ReadFault String :=
  match t.resolve path with
  | .file c => .ok c
  | .directory => .error .isDirectory
  | .missing => .error .missing
  | .notADirectory => .error .notADirectory
  | .tooLong => .error .nameTooLong

def trace : Place → List String → Option (List (List String) × List String)
  | .above, _ => none
  | .inside dir, [] => some ([], dir)
  | .inside dir, p :: ps =>
    let next := if p = ".." then (Place.inside dir).parent else .inside (dir ++ [p])
    (trace next ps).map fun (ds, e) => (dir :: ds, e)

/-- Adds what a path was found to name: the directories on the way and the file or directory itself;
a missing path adds nothing. -/
def learn (t : FileTree) (path : String) (e : Entry) : FileTree :=
  let (r, rest) := PathText.root path.toList
  match trace (start r) (PathText.parts rest), e with
  | some (ds, last), .file c => { t with files := (last, c) :: t.files, dirs := ds ++ t.dirs }
  | some (ds, last), .directory => { t with dirs := last :: ds ++ t.dirs }
  | _, _ => t

/-- The paths a lookup of `path` passes through before its end, from the shortest: where a
path is not a directory, one of these is a file. -/
def prefixes (path : String) : List String :=
  let (r, rest) := PathText.root path.toList
  let ps := PathText.parts rest
  ((List.range ps.length).map fun n => r ++ "/".intercalate (ps.take n)).filter (!·.isEmpty)

example : (ofList [("sub/f", "x")]).resolve "sub/../sub/f" = .file "x" ∧
    (ofList [("sub/f", "x")]).resolve "sub/f/" = .notADirectory ∧
    (ofList [("sub/f", "x")]).resolve "./sub//f/." = .notADirectory ∧
    (ofList [("sub/f", "x")]).resolve "sub/./f" = .file "x" ∧
    (ofList [("sub/f", "x")]).resolve "../sub" = .missing ∧
    (ofList []).resolve "/.." = .directory := by decide +kernel

example : (({} : FileTree).learn "a/../b" (.file "y")).resolve "a/../b" = .file "y" ∧
    (({} : FileTree).learn "d/e" .directory).resolve "d" = .directory := by decide +kernel

end FileTree

end Conch
