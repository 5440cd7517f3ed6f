import Conch.CommandLine
import Conch.Exec.Prefix
import Conch.Builtin.Echo
import Conch.Builtin.Variables
import Conch.Builtin.Return
import Conch.Builtin.Define
import Conch.Builtin.Settings
import Conch.Text.Lines
/-! Running command lines: pipelines of stages, commands looked up as a function, a builtin or a
program, and deeper levels for function bodies and sourced files, every step taking its frames on
the machine's stack (`Stack`). -/
namespace Conch.Engine

/-- A body to run one level deeper: a function's commands or a file's lines. -/
inductive Job where
  | commands (cmds : List Command)
  | script (lines : List String)

abbrev Deeper := Job → Exec Int

def maxFunctionDepth : Nat := 128

/-- The pipelines of a command list: the first command starts one, and so does every later
command whose operator is not `|`. -/
def pipelines : List Command → List (List Command)
  | [] => []
  | c :: cs =>
    match pipelines cs with
    | (d :: ds) :: ps => if d.joint = some .pipe then (c :: d :: ds) :: ps else [c] :: (d :: ds) :: ps
    | ps => [c] :: ps

/-- The arguments a command receives: every variable reference expanded, except for `get`
and `function`, which read them themselves. -/
def expandArgs (s : Shell) (name : String) (args : List String) : List String :=
  if name = "get" ∨ name = "function" then args else args.map (VarRef.expand s.lookup)

/-- What the file tree holds for a name the system has no program for: a bare name is looked up in
the search directory, where only `""`, `.` and `..` name something (directories); a name with `/` is
a path. -/
def programEntry (files : FileTree) (name : String) : Entry :=
  if name.contains '/' then files.resolve name
  else if name = "" ∨ name = "." ∨ name = ".." then .directory
  else if name.utf8ByteSize > nameMax then .tooLong
  else .missing

/-- Runs a program: one the system has runs on the input, its output printed only when captured
(otherwise it goes to the terminal), and its status is returned; any other name cannot be run or is
not found. -/
def runProgram (name : String) (args : List String) (stdin : Option String) (capture : Bool) :
    Exec Int := do
  if (name :: args).any (·.contains '\x00') then throw .nulInName
  let w ← Exec.world
  match w.programs name with
  | some prog =>
    let r := prog args (stdin.getD "")
    Exec.say (if capture then r.output else "")
    return r.status
  | none =>
    match programEntry w.files name with
    | .file _ | .directory =>
      Exec.warn (name ++ ": permission denied\n")
      return Status.notExecutable
    | .missing =>
      Exec.warn (name ++ ": command not found\n")
      return Status.unknown
    | .notADirectory => throw (.notADirectory name)
    | .tooLong => throw (.nameTooLong name)

/-- Runs `source`: the lines of one file, one level deeper, a leading `~user` naming that user's
home. -/
def source (deeper : Deeper) (args : List String) : Exec Int := do
  match args with
  | [file] =>
    let path ← match PathText.expandHome (PathText.normalize file) with
      | .ok p => pure p
      | .error .unknownUser => throw .noHome
      | .error .nulInName => throw .nulInName
    if path.contains '\x00' then throw .nulInName
    match (← Exec.world).files.read path with
    | .ok text => deeper (.script (Text.fileLines text))
    | .error e =>
      Exec.warn ("source: Error encountered while sourcing file '" ++ path ++ "': " ++
        e.message ++ "\n")
      return Status.failure
  | _ =>
    Exec.warn ("source: Expected exactly one file name\n" ++ Builtin.trailer "source")
    return Status.invalidArgs

def runBuiltin (deeper : Deeper) (b : Builtin) (args : List String) (stdin : Option String) :
    Exec Int :=
  Exec.frame <| match b with
  | .config => Builtin.Settings.run args
  | .echo => Builtin.Echo.run args stdin
  | .function => Builtin.Define.runFunction args
  | .functions => Builtin.Define.runFunctions args
  | .get => Builtin.getVariable args
  | .help => Builtin.Settings.help args
  | .quit => Builtin.Return.quit
  | .ret => Builtin.Return.run args
  | .set => Builtin.setVariable args
  | .source => source deeper args

def readingOf (line : String) : Stack.Excursion :=
  if (Text.trim line).isEmpty then Stack.readingBlank else Stack.readingLine

/-- Calls a function: its body runs one level deeper in a new frame, left again afterwards, a
`return` in it then spent; calls `maxFunctionDepth` deep are refused. -/
def callFunction (deeper : Deeper) (f : FunctionDef) (args : List String) : Exec Int := do
  Exec.reach [.frame]
  if (← Exec.shell).depth ≥ maxFunctionDepth then
    Exec.warn (f.name ++ ": The function call stack limit has been exceeded\n")
    return Status.failure
  Exec.reach (readingOf f.body)
  let body := CommandLine.parse f.body
  Exec.frame do
    Exec.reach Stack.makingCallFrame
    Exec.modifyShell (·.push f.name args)
    Exec.reach Stack.logging
  Exec.ensuring (deeper (.commands body)) do
    Exec.frame do
      Exec.modifyShell fun s => s.pop.getD s
      Exec.reach Stack.logging
    Exec.modifyFlags fun fl => { fl with returning := false }

def startProgram (name : String) (args : List String) (stdin : Option String) (capture : Bool) :
    Exec Int := do
  Exec.launch .program name args stdin
  Exec.frame do
    Exec.reach (if name.contains '/' then Stack.startingProgramAt else Stack.startingProgram)
    runProgram name args stdin capture

/-- Runs a command by name in a mode: a function, a builtin or a program, whose output is
captured when `capture` says so. -/
def dispatch (deeper : Deeper) (name : String) (args : List String) (stdin : Option String)
    (mode : Mode) (capture : Bool) : Exec Int := Exec.frame do
  let s ← Exec.shell
  match mode, s.functions.get? name with
  | .any, some f =>
    Exec.launch .function name args stdin
    Exec.frame (callFunction deeper f args)
  | _, _ =>
    match mode, Builtin.ofName? name with
    | .programOnly, _ => startProgram name args stdin capture
    | _, some b =>
      Exec.launch .builtin name args stdin
      Exec.frame do
        Exec.reach Stack.inspectingBuiltin
        runBuiltin deeper b args stdin
    | .builtinOnly, none =>
      Exec.warn ("builtin: Unknown builtin '" ++ name ++ "'\n")
      return Status.unknown
    | _, none => startProgram name args stdin capture

/-- Runs one command: its keywords, then the command they lead to, timed by the counter. -/
def runCommand (deeper : Deeper) (name : String) (args : List String) (stdin : Option String)
    (capture : Bool) : Exec Int := Exec.frame do
  Exec.reach Stack.splittingKeywords
  let (keywords, rest) := CommandLine.splitPrefix (name :: args)
  match rest with
  | [] =>
    Exec.warn (keywords.getLast?.getD "" ++ ": expected a command\n")
    return Status.invalidArgs
  | cmd :: cargs =>
    match Plan.ofKeywords (← Exec.shell).lastStatus keywords {} with
    | .error (.skip st) => return st
    | .error (.block k) =>
      Exec.warn (k ++ ": block syntax is not supported by this shell\n")
      return Status.illegal
    | .ok p =>
      let started ← Exec.now
      let code ← dispatch deeper cmd cargs stdin p.mode capture
      if p.timed then
        let elapsed := (← Exec.now) - started
        Exec.warn ("time: '" ++ cmd ++ "' executed in " ++ Clock.millis elapsed ++ " ms\n")
      return p.finish code

/-- How a pipeline ended: the line goes on, or unwinds because a flag was raised. -/
inductive Flow where
  | next (status : Int)
  | unwind (status : Int)
  deriving Repr, DecidableEq

def expansionOf (name : String) (args : List String) : Stack.Expansion :=
  if name = "get" then .none
  else if name = "function" ∨ args.isEmpty then .noArguments
  else
    let refs := args.flatMap fun a => VarRef.followers (VarRef.pieces a.toList)
    if refs.isEmpty then .plain else if refs.all id then .kept else .lookedUp

/-- Runs the stages of a pipeline from the given input on; a stage that is just a reference
`@{name}` prints the variable's value and succeeds. -/
def runStages (deeper : Deeper) : List Command → Option String → Int → Exec Flow
  | [], _, last => return .next last
  | c :: rest, stdin, _ => do
    let s ← Exec.shell
    Exec.reach (expansionOf c.name c.args).excursion
    let args := expandArgs s c.name c.args
    match VarRef.whole? c.name with
    | some key =>
      Exec.reach Stack.lookingUp
      Exec.say ((s.lookup key).getD ("@\x7b" ++ key ++ "\x7d not set") ++ "\n")
      Exec.setStatus 0
      runStages deeper rest stdin 0
    | none =>
      if rest.isEmpty then
        let code ← runCommand deeper c.name args stdin false
        Exec.setStatus code
        return if (← Exec.flags).halted then .unwind code else .next code
      else
        Exec.reach Stack.capturingOutput
        let (code, piped) ← Exec.capture (runCommand deeper c.name args stdin true)
        Exec.setStatus code
        if (← Exec.flags).halted then return .unwind code
        if code ≠ 0 then return .next code
        runStages deeper rest (some piped) code

def runPipelines (deeper : Deeper) : List (List Command) → Int → Exec Int
  | [], last => return last
  | [] :: ps, last => runPipelines deeper ps last
  | (c :: stages) :: ps, last => do
    if (c.joint = some .onSuccess ∧ last ≠ 0) ∨ (c.joint = some .onFailure ∧ last = 0) then
      runPipelines deeper ps last
    else
      match ← runStages deeper (c :: stages) none last with
      | .unwind code => return code
      | .next code => runPipelines deeper ps code

def runSequence (deeper : Deeper) (cmds : List Command) : Exec Int := Exec.frame do
  if cmds.isEmpty then return (← Exec.shell).lastStatus
  runPipelines deeper (pipelines cmds) 0

def runLine (deeper : Deeper) (line : String) : Exec Int := Exec.frame do
  Exec.reach (readingOf line)
  runSequence deeper (CommandLine.parse line)

/-- Runs the lines of a script after the status `st`, skipping blank lines and comments, until
a line raises `quit` or `return`. -/
def runLines (deeper : Deeper) : List String → Int → Exec Int
  | [], st => return st
  | l :: ls, st => do
    let line := Text.trim l
    if line.isEmpty ∨ line.startsWith "#" then runLines deeper ls st
    else
      let st' ← runLine deeper line
      if (← Exec.flags).halted then return st' else runLines deeper ls st'

/-- Runs a script: its lines run as if no prompt read them, and afterwards a `return` that
left the script is spent and the prompt is back as it was. -/
def runScript (deeper : Deeper) (lines : List String) : Exec Int := Exec.frame do
  let s ← Exec.shell
  let wasInteractive := s.flags.interactive
  Exec.modifyFlags fun f => { f with interactive := false }
  Exec.ensuring (runLines deeper lines s.lastStatus) do
    Exec.modifyFlags fun f => { f with exitScript := false, interactive := wasInteractive }

/-- Runs jobs with `n` more levels of nesting allowed. -/
def run : Nat → Deeper
  | 0 => fun _ => throw (.tooDeep .frame)
  | n + 1 => fun
    | .commands cmds => runSequence (run n) cmds
    | .script lines => runScript (run n) lines

def nestingBudget : Nat := 256

def executeLine (line : String) : Exec Int := runLine (run nestingBudget) line

def executeScript (lines : List String) : Exec Int := runScript (run nestingBudget) lines

def callBuiltin (name : String) (args : List String) (stdin : Option String) :
    Exec (Option Int) := do
  match Builtin.ofName? name with
  | some b => return some (← runBuiltin (run nestingBudget) b args stdin)
  | none => return none

end Conch.Engine
