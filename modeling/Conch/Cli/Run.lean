import Conch.Cli.Args
import Conch.Exec.Engine
/-! What the program does with its command line: `-c COMMAND` runs one line, `SCRIPT` the lines of a
file, and otherwise it would start its prompt. -/
namespace Conch.Cli

inductive Ending where
  | finished (exit : Int) (out err : String)
  | prompt
  deriving Repr, DecidableEq

/-- The paths a run looked up, as its launch log shows them: the files it sourced and the
programs it started by a path. -/
def lookups (launches : List Launch) : List String :=
  launches.filterMap fun l =>
    match l.target, l.name, l.args with
    | .builtin, "source", [file] => some (PathText.normalize file)
    | .program, name, _ => if name.contains '/' then some name else none
    | _, _, _ => none

/-- A run of the program: how it ended, what it wrote before a fault ended it, and the paths it
looked up. -/
structure Trace where
  ending : Except Fault Ending
  written : String × String := ("", "")
  lookups : List String := []

def runLines (files : FileTree) (lines : List String) : Trace :=
  let w : World := { shell := Shell.fresh false, files }
  match ((Engine.executeScript lines).run).run w with
  | (.ok st, w') => ⟨.ok (.finished st w'.out w'.err), ("", ""), lookups w'.launches.toList⟩
  | (.error f, w') => ⟨.error f, (w'.out, w'.err), lookups w'.launches.toList⟩

/-- The log level a command line asks for: its `--log-level` word, or else the configured
level. -/
def levelOf (inv : Invocation) : Setting :=
  match inv.logLevel with
  | some (.word w) => if w.isEmpty then configured else .text w
  | _ => configured
where
  configured : Setting := (Config.defaults.get? "debug.level").getD (.text "WARNING")

def failed (f : Fault) (lookups : List String := []) : Trace := ⟨.error f, ("", ""), lookups⟩

/-- Runs the program with its arguments over the given files: the log level first, then the command
or the script's lines. -/
def runTracing (args : List String) (files : FileTree) : Trace :=
  match parse args with
  | .error .help => ⟨.ok (.finished 0 helpText ""), ("", ""), []⟩
  | .error (.error msg) => ⟨.ok (.finished 2 "" (errorReport msg)), ("", ""), []⟩
  | .ok inv =>
    match LogLevel.check (levelOf inv) with
    | .error f => failed (.logLevel f)
    | .ok () =>
    match inv.command, inv.script with
    | some (.word cmd), _ => runLines files [cmd]
    | some .nothing, _ => failed .commandNotText
    | none, some script =>
      let path := PathText.normalize script
      if path.contains '\x00' then failed .nulInName
      else match files.read path with
      | .ok text =>
        let t := runLines files (Text.fileLines text)
        { t with lookups := path :: t.lookups }
      | .error e =>
        ⟨.ok (.finished 1 "" ("flowshell: cannot read '" ++ path ++ "': " ++ e.message ++ "\n")),
          ("", ""), [path]⟩
    | none, none => ⟨.ok .prompt, ("", ""), []⟩

/-- Runs one line read at the prompt in world `w`, over the given files, and gives the paths it
looked up. -/
def promptLine (w : World) (line : String) (files : FileTree) :
    (Except Fault Int × World) × List String :=
  let (r, w') := ((Engine.executeLine line).run).run { w with files }
  ((r, w'), lookups (w'.launches.toList.drop w.launches.size))

def run (args : List String) (files : FileTree) : Except Fault Ending :=
  (runTracing args files).ending

def promptText (c : Config) : String := ((c.get? "shell.prompt").map Setting.display).getD "flowshell> "

def welcome : String := "Welcome to flowshell (type 'help' for commands)\n"

def farewell : String := "Bye!\n"

end Conch.Cli
