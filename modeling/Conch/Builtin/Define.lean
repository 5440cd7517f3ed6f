import Conch.Builtin.Basic
import Conch.Options
import Conch.Keyword
import Conch.Words
import Conch.Help
/-! `function` stores a function under a name it accepts; `functions` lists, shows or erases them.
-/
namespace Conch.Builtin.Define

def functionOptions : List Options.LongOption := [⟨"help", false, "h"⟩, ⟨"description", true, "d"⟩]

def functionsOptions : List Options.LongOption := [⟨"help", false, "h"⟩, ⟨"erase", false, "e"⟩]

/-- What `function` does with its arguments: shows its help, stores a definition, or refuses
with a message. -/
inductive Decision where
  | help
  | store (f : FunctionDef)
  | refuse (msg : String)

def refusal (msg : String) : Decision := .refuse (msg ++ trailer "function")

def decideFunction (args : List String) : Decision :=
  let (steps, sc) := Options.scan "hd:" functionOptions args .halt true
  match steps.find? (·.kind ≠ .flag) with
  | some st =>
    if st.kind = .missingArgument then .refuse (missingArgument "function" st.token)
    else .refuse (unknownOption "function" st.token)
  | none =>
    if steps.any (·.option = some "h") then .help
    else
      let desc := (steps.filter (·.option = some "d")).getLast?.map (·.value.getD "") |>.getD ""
      match sc.positionals with
      | [] => refusal "function: Expected a function name\n"
      | name :: body =>
        if Keyword.isReserved name ∨ name.startsWith "-" then
          refusal ("function: The name '" ++ name ++
            "' is reserved, and cannot be used as a function name\n")
        else if body.isEmpty then
          refusal ("function: Expected a body for function '" ++ name ++ "'\n")
        else .store ⟨name, " ".intercalate body, desc⟩

def runFunction (args : List String) : Exec Int := do
  match decideFunction args with
  | .help =>
    Exec.say (Help.of "function" ++ "\n")
    return 0
  | .store f =>
    Exec.modifyShell (·.define f)
    return 0
  | .refuse msg =>
    Exec.warn msg
    return 2

/-- The `function` command that makes a definition. -/
def writeDefinition (f : FunctionDef) : String :=
  " ".intercalate (["function"] ++
    (if f.description.isEmpty then [] else ["-d", Words.quote f.description]) ++
    [f.name, Words.quote f.body])

/-- Erases the named functions; `1` when one of them did not exist. -/
def erase (names : List String) : Exec Int := do
  let mut missing := false
  for n in names do
    let (s, had) := (← Exec.shell).undefine n
    Exec.modifyShell fun _ => s
    if !had then missing := true
  return if missing then 1 else 0

/-- Shows the named functions; `1` when one of them does not exist. -/
def display (names : List String) : Exec Int := do
  let mut code := 0
  for n in names do
    match (← Exec.shell).functions.get? n with
    | some f => Exec.say (writeDefinition f ++ "\n")
    | none =>
      Exec.warn ("functions: No function named '" ++ n ++ "'\n")
      code := 1
  return code

def runFunctions (args : List String) : Exec Int := do
  let (steps, sc) := Options.scan "he" functionsOptions args .halt true
  match steps.find? (·.kind ≠ .flag) with
  | some st =>
    Exec.warn (unknownOption "functions" st.token)
    return 2
  | none =>
    if steps.any (·.option = some "h") then
      Exec.say (Help.of "functions" ++ "\n")
      return 0
    else if steps.any (·.option = some "e") then
      if sc.positionals.isEmpty then
        Exec.warn ("functions: Expected at least one function name\n" ++ trailer "functions")
        return 2
      else erase sc.positionals
    else if sc.positionals.isEmpty then
      for n in (← Exec.shell).functions.keys do
        Exec.say (n ++ "\n")
      return 0
    else display sc.positionals

end Conch.Builtin.Define
