import Conch.Builtin.Basic
import Conch.VarRef
import Conch.Text.Blank
/-! `get` and `set`: reading `@{name}` and assigning `@{name}=value`, the value trimmed and
unquoted; `@{status}` and `@{argv}` are read-only. -/
namespace Conch.Builtin

/-- The variables that only the shell sets. -/
def readOnly : List String := ["status", "argv"]

def unquote (s : String) : String :=
  match s.toList with
  | '"' :: cs => if cs.getLast? = some '"' ∨ cs.isEmpty then String.ofList cs.dropLast else s
  | _ => s

def getVariable (args : List String) : Exec Int := do
  match args with
  | [] =>
    Exec.warn "Usage: get @{name}\n"
    return 1
  | a :: _ =>
    let token := Text.trim a
    match VarRef.whole? token with
    | some key =>
      if VarRef.isReading token then
        match (← Exec.shell).lookup key with
        | some v =>
          Exec.say (v ++ "\n")
          return 0
        | none =>
          Exec.warn ("Error: Variable '@\x7b" ++ key ++ "\x7d' not found in context.\n")
          return 1
      else invalid token
    | none => invalid token
where
  invalid (token : String) : Exec Int := do
    Exec.warn ("Invalid variable format: " ++ token ++ ". Must be in the format @{name}.\n")
    return 1

/-- What `set` does with its arguments: the variable and value it assigns, or the message that
refuses them. -/
def assignment (args : List String) : Except String (String × String) :=
  if args.isEmpty then .error "Usage: set @{name}=value\n"
  else match VarRef.assignment? (" ".intercalate args) with
    | none => .error "Usage: set @{name}=value\n"
    | some (k, v) =>
      let key := Text.trim k
      if key ∈ readOnly then .error ("set: Tried to change the read-only variable '" ++ key ++ "'\n")
      else .ok (key, unquote (Text.trim v))

def setVariable (args : List String) : Exec Int := do
  match assignment args with
  | .ok (k, v) =>
    Exec.modifyShell (·.assign k v)
    return 0
  | .error msg =>
    Exec.warn msg
    return 1

example : unquote "\"a\"" = "a" ∧ unquote "\"" = "" ∧ unquote "\"a" = "\"a" := by decide

end Conch.Builtin
