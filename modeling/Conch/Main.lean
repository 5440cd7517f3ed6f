import Conch.Cli.Run
/-! The shell as a program over the files of the disk, filled into the tree as runs ask for paths;
its program table is empty, so a command naming a program finds none. -/
namespace Conch.Cli

def probe (path : String) : IO Entry := do
  match ← (IO.FS.readFile path).toBaseIO with
  | .ok text => return .file text
  | .error (.inappropriateType _ code _) => return if code == 21 then .directory else .notADirectory
  | .error _ => return .missing

/-- Adds to a tree what the disk says a path names; for a path that passes through a file, the
file is found among the path's prefixes. -/
def learnFromDisk (t : FileTree) (path : String) : IO FileTree := do
  match ← probe path with
  | .notADirectory =>
    for p in FileTree.prefixes path do
      if let .file c ← probe p then return t.learn p (.file c)
    return t
  | e => return t.learn path e

/-- Runs `act` over a tree filled from the disk as it asks for paths; a run sees the files only
through its lookups, so the run that asks for nothing new is the run over the disk. -/
partial def settle {α : Type} (act : FileTree → α × List String) (t : FileTree)
    (probed : List String) : IO α := do
  let (a, wanted) := act t
  let fresh := wanted.eraseDups.filter (· ∉ probed)
  if fresh.isEmpty then return a
  let t ← fresh.foldlM learnFromDisk t
  settle act t (probed ++ fresh)

def exitCode (st : Int) : UInt32 := (st % 4294967296).toNat.toUInt32

/-- Reads and runs lines at the prompt until the input ends, `quit` is run, or a fault ends
the shell. -/
partial def promptLoop (stdin : IO.FS.Stream) (prompt : String) (w : World) :
    IO (World × Option Fault) := do
  IO.print prompt
  (← IO.getStdout).flush
  let line ← stdin.getLine
  if line.isEmpty then return (w, none)
  let text := Text.trim line
  if text.isEmpty then return ← promptLoop stdin prompt w
  let (r, w) ← settle (fun t => promptLine w text t) w.files []
  IO.print w.out
  IO.eprint w.err
  let w := { w with out := "", err := "" }
  match r with
  | .error f => return (w, some f)
  | .ok _ => if w.shell.flags.quit then return (w, none) else promptLoop stdin prompt w

end Conch.Cli

open Conch Cli in
def main (args : List String) : IO UInt32 := do
  let t ← settle (fun files => let t := runTracing args files; (t, t.lookups)) {} []
  match t.ending with
  | .ok (.finished code out err) =>
    IO.print out
    IO.eprint err
    return exitCode code
  | .ok .prompt =>
    IO.print welcome
    let w : World := { shell := Shell.fresh true }
    let (w, fault) ← promptLoop (← IO.getStdin) (promptText w.config) w
    IO.print farewell
    match fault with
    | some f =>
      IO.eprintln f.message
      return 1
    | none => return exitCode w.shell.lastStatus
  | .error f =>
    IO.print t.written.1
    IO.eprint t.written.2
    IO.eprintln f.message
    return 1
