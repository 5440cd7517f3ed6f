import Conch.Shell.State
import Conch.Config.Store
import Conch.Config.LogLevel
import Conch.FileTree
import Conch.Text.Literal
import Conch.Exec.Stack
import Conch.Numeral
/-! The world a command runs in, and the actions on it (`Exec`), which may end in a fault that ends
the whole run, keeping what happened before. -/
namespace Conch

inductive Target where
  | function
  | builtin
  | program
  deriving Repr, DecidableEq

/-- A started command: what it is, its name and arguments, what it reads, and the flags when
it started. -/
structure Launch where
  target : Target
  name : String
  args : List String
  stdin : Option String
  flags : Flags
  deriving Repr

/-- A fault that ends a run. -/
inductive Fault where
  | tooDeep (edge : Stack.Edge)
  | notADirectory (path : String)
  | conversion (f : Setting.ConvertFault)
  | logLevel (f : LogLevel.Fault)
  | noHome
  | nulInName
  | nameTooLong (path : String)
  | commandNotText
  | tooManyDigits (count : Nat)
  deriving Repr, DecidableEq

def Fault.message : Fault → String
  | .tooDeep e => e.message
  | .notADirectory p => "[Errno 20] Not a directory: " ++ Text.literal p
  | .conversion f => f.message
  | .logLevel f => f.message
  | .noHome => "Could not determine home directory."
  | .nulInName => "embedded null byte"
  | .nameTooLong p => "[Errno 36] File name too long: " ++ Text.literal p
  | .commandNotText => "'list' object has no attribute 'strip'"
  | .tooManyDigits n => NumeralError.digitsMessage n

/-- What a program that ran gives back: its exit status and the text it wrote to its output. -/
structure ProgramRun where
  status : Int
  output : String

/-- The programs the system has, by the name a command gives them, each run on its arguments and its
input. -/
abbrev Programs := String → Option (List String → String → ProgramRun)

/-- The performance counter: its `n`-th reading, in units of ten microseconds, and the number of
readings taken so far. -/
structure Clock where
  reading : Nat → Nat := fun _ => 0
  taken : Nat := 0

def Clock.tick (c : Clock) : Clock := { c with taken := c.taken + 1 }

/-- A time in units of ten microseconds, in milliseconds with two decimals. -/
def Clock.millis (d : Nat) : String :=
  toString (d / 100) ++ "." ++ (if d % 100 < 10 then "0" else "") ++ toString (d % 100)

structure World where
  shell : Shell
  config : Config := Config.defaults
  files : FileTree := {}
  programs : Programs := fun _ => none
  clock : Clock := {}
  out : String := ""
  err : String := ""
  launches : Array Launch := #[]
  /-- The frames of the machine's call stack in use. -/
  stack : Nat := Stack.hostFrames

abbrev Exec := ExceptT Fault (StateM World)

namespace Exec

def say (s : String) : Exec Unit := modify fun w => { w with out := w.out ++ s }

def warn (s : String) : Exec Unit := modify fun w => { w with err := w.err ++ s }

def world : Exec World := get

/-- Takes the next reading of the performance counter. -/
def now : Exec Nat := do
  let c := (← get).clock
  modify fun w => { w with clock := c.tick }
  return c.reading c.taken

def shell : Exec Shell := return (← get).shell

def modifyShell (f : Shell → Shell) : Exec Unit := modify fun w => { w with shell := f w.shell }

def flags : Exec Flags := return (← get).shell.flags

def modifyFlags (f : Flags → Flags) : Exec Unit := modifyShell (·.setFlags f)

def setStatus (v : Int) : Exec Unit := modifyShell (·.setStatus v)

def launch (t : Target) (name : String) (args : List String) (stdin : Option String) :
    Exec Unit :=
  modify fun w => { w with launches := w.launches.push ⟨t, name, args, stdin, w.shell.flags⟩ }

/-- Runs an excursion from the current frame: it fails when the stack has too little room. -/
def reach (x : Stack.Excursion) : Exec Unit := do
  match x.blocked? (Stack.limit - (← get).stack) with
  | some e => throw (.tooDeep e)
  | none => pure ()

/-- Runs an action and tells a fault apart from a result, keeping the world either way. -/
def attempt {α : Type} (act : Exec α) : Exec (Except Fault α) :=
  tryCatch (Except.ok <$> act) fun f => return Except.error f

/-- Runs an action with its output collected apart; the output written before it is kept.
On a fault the collected output is dropped. -/
def capture {α : Type} (act : Exec α) : Exec (α × String) := do
  let before := (← get).out
  modify fun w => { w with out := "" }
  let r ← attempt act
  let collected := (← get).out
  modify fun w => { w with out := before }
  match r with
  | .ok a => return (a, collected)
  | .error f => throw f

def ensuring {α : Type} (act : Exec α) (cleanup : Exec Unit) : Exec α := do
  let r ← attempt act
  cleanup
  match r with
  | .ok a => return a
  | .error f => throw f

/-- Runs an action in a new frame of the machine's stack, which it leaves again, also on a
fault; entering fails when the stack is full. -/
def frame {α : Type} (act : Exec α) : Exec α := do
  reach [.frame]
  modify fun w => { w with stack := w.stack + 1 }
  ensuring act (modify fun w => { w with stack := w.stack - 1 })

end Exec

end Conch
