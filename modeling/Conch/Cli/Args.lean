import Conch.Text.Literal
import Conch.Text.DecimalDigit
/-! The program's own command line, `[-h] [-c COMMAND] [--log-level LOG_LEVEL] [script]`, read as
the runtime's argument reader reads it: unique prefixes of long options, values glued on or in the
next word, and reading stopped at `-h` or at an error. -/
namespace Conch.Cli

inductive Opt where
  | help
  | command
  | logLevel
  deriving Repr, DecidableEq

namespace Opt

def takesValue : Opt → Bool
  | help => false
  | _ => true

def display : Opt → String
  | help => "-h/--help"
  | command => "-c/--command"
  | logLevel => "--log-level"

end Opt

def optionWords : List (String × Opt) :=
  [("-h", .help), ("--help", .help), ("-c", .command), ("--command", .command),
    ("--log-level", .logLevel)]

/-- What a word of the command line is. -/
inductive Token where
  | arg
  | separator
  | opt (o : Opt) (word : String) (explicit : Option String)
  | unknown
  deriving Repr, DecidableEq

inductive Stop where
  | help
  | error (msg : String)
  deriving Repr, DecidableEq

/-- Whether a word reads as a negative number: `-` then digits, or digits around a point; one
line feed may end it. -/
def isNegativeNumber (w : String) : Bool :=
  let isD (c : Char) : Bool := (Text.digitValue? c).isSome
  let cs := w.toList
  match if cs.getLast? = some '\n' then cs.dropLast else cs with
  | '-' :: cs =>
    let (ds, rest) := cs.span isD
    match rest with
    | [] => !ds.isEmpty
    | '.' :: fs => !fs.isEmpty && fs.all isD
    | _ => false
  | _ => false

def classify (w : String) : Except Stop Token :=
  let cs := w.toList
  if cs.head? ≠ some '-' then .ok .arg
  else match optionWords.lookup w with
    | some o => .ok (.opt o w none)
    | none =>
      if cs.length = 1 then .ok .arg
      else
        let beforeEq := String.ofList (cs.takeWhile (· ≠ '='))
        let afterEq := String.ofList ((cs.dropWhile (· ≠ '=')).drop 1)
        match (if cs.contains '=' then optionWords.lookup beforeEq else none) with
        | some o => .ok (.opt o beforeEq (some afterEq))
        | none =>
          let found : List Token :=
            if cs.take 2 = ['-', '-'] then
              let (pre, ex) := if cs.contains '=' then (beforeEq, some afterEq) else (w, none)
              (optionWords.filter fun (s, _) => pre.isPrefixOf s).map fun (s, o) => .opt o s ex
            else
              let short := String.ofList (cs.take 2)
              optionWords.filterMap fun (s, o) =>
                if s = short then some (.opt o s (some (String.ofList (cs.drop 2))))
                else if w.isPrefixOf s then some (.opt o s none) else none
          match found with
          | [t] => .ok t
          | [] =>
            if isNegativeNumber w ∨ cs.contains ' ' then .ok .arg else .ok .unknown
          | ts =>
            let names := ts.filterMap fun t => match t with
              | .opt _ s _ => some s
              | _ => none
            .error (.error ("ambiguous option: " ++ w ++ " could match " ++ ", ".intercalate names))

/-- What each word is: everything after the first `--` is positional. -/
def tokens : List String → Except Stop (List Token)
  | [] => .ok []
  | w :: ws =>
    if w = "--" then .ok (.separator :: ws.map fun _ => .arg)
    else do
      let t ← classify w
      let ts ← tokens ws
      return t :: ts

/-- The value an option was given: its word, or nothing when that word is `--`, which the
reader takes out of the words of every option. -/
inductive OptValue where
  | word (s : String)
  | nothing
  deriving Repr, DecidableEq

def OptValue.ofWord (w : String) : OptValue := if w = "--" then .nothing else .word w

structure Invocation where
  command : Option OptValue := none
  script : Option String := none
  logLevel : Option OptValue := none
  deriving Repr, DecidableEq

def Invocation.set (inv : Invocation) : Opt → String → Invocation
  | .command, v => { inv with command := some (.ofWord v) }
  | .logLevel, v => { inv with logLevel := some (.ofWord v) }
  | .help, _ => inv

/-- How many leading words an optional positional takes: separators, at most one word, and
separators again; and that word. -/
def positionalSpan (ts : List (String × Token)) : Nat × Option String :=
  let lead := ts.takeWhile (·.2 = .separator)
  match ts.drop lead.length with
  | (w, .arg) :: rest =>
    (lead.length + 1 + (rest.takeWhile (·.2 = .separator)).length, some w)
  | _ => (lead.length, none)

/-- The options that one option word stands for, with their values, and the words after those it
used: one-letter options without a value may share a word, and an option needing a value takes the
next word, which must be positional. -/
def optionGroup (o : Opt) (word : String) (explicit : Option String)
    (rest : List (String × Token)) (fuel : Nat) :
    Except Stop (List (Opt × Option String) × List (String × Token)) :=
  match fuel, explicit with
  | 0, _ => .ok ([], rest)
  | _ + 1, none =>
    if !o.takesValue then .ok ([(o, none)], rest)
    else
      match rest with
      | (w, .arg) :: more => .ok ([(o, some w)], more)
      | _ => .error (.error ("argument " ++ o.display ++ ": expected one argument"))
  | fuel + 1, some e =>
    if o.takesValue then .ok ([(o, some e)], rest)
    else
      match word.toList, e.toList with
      | [_, l], c :: tail =>
        let next := String.ofList ['-', c]
        if l ≠ '-' then
          match optionWords.lookup next with
          | some o' => do
            let (more, rest') ←
              optionGroup o' next (if tail.isEmpty then none else some (String.ofList tail)) rest fuel
            return ((o, none) :: more, rest')
          | none => ignored e
        else ignored e
      | _, _ => ignored e
where
  ignored (e : String) : Except Stop (List (Opt × Option String) × List (String × Token)) :=
    .error (.error ("argument " ++ o.display ++ ": ignored explicit argument " ++ Text.literal e))

/-- Reads the tokens from the left; each round reads at least one token, so `fuel` above their
number reads them all. -/
def consume (fuel : Nat) (inv : Invocation) (scriptFree : Bool) (extras : List String)
    (ts : List (String × Token)) : Except Stop (Invocation × List String) :=
  match fuel, ts with
  | 0, _ => .ok (inv, extras)
  | _, [] => .ok (inv, extras)
  | fuel + 1, (w, t) :: more =>
    match t with
    | .unknown => consume fuel inv scriptFree (extras ++ [w]) more
    | .opt o word ex => do
      let (group, rest) ← optionGroup o word ex more (w.length + 1)
      if group.any (·.1 = .help) then throw .help
      let inv' := group.foldl (fun i (o, v) => i.set o (v.getD "")) inv
      consume fuel inv' scriptFree extras rest
    | _ =>
      if scriptFree then
        let (n, v) := positionalSpan ((w, t) :: more)
        consume fuel { inv with script := v } false extras (((w, t) :: more).drop n)
      else consume fuel inv false (extras ++ [w]) more

def usage : String := "usage: flowshell [-h] [-c COMMAND] [--log-level LOG_LEVEL] [script]\n"

def helpText : String := usage ++ "\n".intercalate [
  "",
  "A small command shell.",
  "",
  "positional arguments:",
  "  script                Run the commands in SCRIPT and exit.",
  "",
  "options:",
  "  -h, --help            show this help message and exit",
  "  -c COMMAND, --command COMMAND",
  "                        Run COMMAND non-interactively and exit.",
  "  --log-level LOG_LEVEL",
  "                        Override debug.level from settings.json.",
  ""]

def parse (args : List String) : Except Stop Invocation := do
  let ts ← tokens args
  let (inv, extras) ← consume (args.length + 1) {} true [] (args.zip ts)
  if extras.isEmpty then return inv
  else throw (.error ("unrecognized arguments: " ++ " ".intercalate extras))

def errorReport (msg : String) : String := usage ++ "flowshell: error: " ++ msg ++ "\n"

end Conch.Cli
