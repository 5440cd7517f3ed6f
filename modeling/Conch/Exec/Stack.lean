/-! The call stack of the machine the shell runs on: at most `limit` frames, each step of the
shell's code and each routine it calls taking some; a step that finds no room ends the run with a
fault naming where. -/
namespace Conch.Stack

/-- Where a full stack is noticed: entering a routine of the shell's own code, calling a native
routine, or comparing while passing arguments. -/
inductive Edge where
  | frame
  | native
  | comparison
  deriving Repr, DecidableEq

def Edge.message : Edge → String
  | .frame => "maximum recursion depth exceeded"
  | .native => "maximum recursion depth exceeded while calling a Python object"
  | .comparison => "maximum recursion depth exceeded in comparison"

/-- The most frames the stack holds. -/
def limit : Nat := 1000

/-- The frames in use when the host hands the shell a line, a script or a builtin to run. -/
def hostFrames : Nat := 5

/-- An excursion: the edge met with `i` free frames, for each `i` below its height. -/
abbrev Excursion := List Edge

def Excursion.blocked? (x : Excursion) (free : Nat) : Option Edge := x[free]?

/-- Reading a command line that is not blank: the reader, the word splitter and its set-up, and the
native calls on the way. -/
def readingLine : Excursion := [.frame, .frame, .native, .frame, .native, .frame]

def readingBlank : Excursion := [.frame]

def inspectingBuiltin : Excursion :=
  [.frame, .frame, .frame, .native, .native, .native, .native, .frame, .native]

/-- Starting a program named by a path: the call's keyword match, the native call making the process
object, its set-up and a clean-up routine, then native calls where the pipes are made. -/
def startingProgramAt : Excursion :=
  [.comparison, .native, .frame, .frame, .native, .native, .native, .native]

/-- Starting a program by a bare name: two more comparisons than by a path. -/
def startingProgram : Excursion := startingProgramAt ++ [.comparison, .comparison]

def splittingKeywords : Excursion := [.frame, .frame]

def logging : Excursion := [.frame, .frame]

def lookingUp : Excursion := [.frame, .frame]

def makingCallFrame : Excursion := [.native, .frame]

def capturingOutput : Excursion := [.native, .frame]

/-- Printing a value as indented JSON, `depth` levels deep: the printer and its set-up, then one
native call per level. -/
def printingJson (depth : Nat) : Excursion :=
  [.frame, .native, .frame, .frame] ++ List.replicate depth .native

/-- How far expanding a command's arguments goes: not at all for `get`, no arguments, plain ones,
references kept, or references looked up. -/
inductive Expansion where
  | none
  | noArguments
  | plain
  | kept
  | lookedUp
  deriving Repr, DecidableEq

/-- The excursion of expanding arguments: the expander, the name test, the loop, and for each
reference its replacement, the native read of its name and the lookup. -/
def Expansion.excursion : Expansion → Excursion
  | .none => [.frame]
  | .noArguments => [.frame, .comparison]
  | .plain => [.frame, .comparison, .frame, .native]
  | .kept => [.frame, .comparison, .frame, .native, .frame, .native]
  | .lookedUp => [.frame, .comparison, .frame, .native, .frame, .native, .frame]

example : inspectingBuiltin.blocked? 3 = some .native ∧ inspectingBuiltin.blocked? 9 = none := by
  decide

end Conch.Stack
