import Conch.Shell.Table
/-! The state of a shell session: variables, functions, running calls, flags and the last status;
`@{status}` spells the last status and `@{argv}` the innermost call's arguments. -/
namespace Conch

structure FunctionDef where
  name : String
  body : String
  description : String := ""
  deriving Repr, DecidableEq

/-- A running function call: the function's name, its arguments, and the value `@{argv}` had
when it started. -/
structure Frame where
  name : String
  argv : List String
  savedArgv : Option String
  deriving Repr, DecidableEq

/-- The flags that steer a run. -/
structure Flags where
  /-- A prompt reads the lines, so a top-level `return` ends nothing. -/
  interactive : Bool := false
  /-- A top-level `return` asked to leave the running script. -/
  exitScript : Bool := false
  returning : Bool := false
  quit : Bool := false
  deriving Repr, DecidableEq

/-- A run unwinds while one of these flags is raised. -/
def Flags.halted (f : Flags) : Bool := f.quit || f.returning || f.exitScript

structure Shell where
  vars : Table String
  functions : Table FunctionDef := {}
  frames : List Frame := []
  flags : Flags := {}
  lastStatus : Int := 0
  deriving Repr

namespace Shell

def fresh (interactive : Bool) : Shell where
  vars := Table.empty.insert "status" "0"
  flags := { interactive }

def lookup (s : Shell) (k : String) : Option String := s.vars.get? k

def assign (s : Shell) (k v : String) : Shell := { s with vars := s.vars.insert k v }

/-- Records a status, in the state and in `@{status}`. -/
def setStatus (s : Shell) (v : Int) : Shell :=
  { s with lastStatus := v, vars := s.vars.insert "status" (toString v) }

def depth (s : Shell) : Nat := s.frames.length

def currentFunction (s : Shell) : Option String := s.frames.head?.map (·.name)

/-- Enters a function: a new frame, and `@{argv}` set to its arguments joined by spaces. -/
def push (s : Shell) (name : String) (argv : List String) : Shell :=
  { s with
    frames := ⟨name, argv, s.lookup "argv"⟩ :: s.frames
    vars := s.vars.insert "argv" (" ".intercalate argv) }

/-- Leaves the innermost function and restores `@{argv}`; `none` when no function runs. -/
def pop (s : Shell) : Option Shell :=
  match s.frames with
  | [] => none
  | f :: fs =>
    some { s with
      frames := fs
      vars := match f.savedArgv with
        | some a => s.vars.insert "argv" a
        | none => s.vars.erase "argv" }

def setFlags (s : Shell) (f : Flags → Flags) : Shell := { s with flags := f s.flags }

def define (s : Shell) (f : FunctionDef) : Shell :=
  { s with functions := s.functions.insert f.name f }

def undefine (s : Shell) (name : String) : Shell × Bool :=
  ({ s with functions := s.functions.erase name }, s.functions.contains name)

@[simp] theorem lookup_setStatus (s : Shell) (v : Int) :
    (s.setStatus v).lookup "status" = some (toString v) := by
  simp [setStatus, lookup]

@[simp] theorem depth_push (s : Shell) (name : String) (argv : List String) :
    (s.push name argv).depth = s.depth + 1 := rfl

end Shell

end Conch
