import Conch.Builtin.Basic
import Conch.Options
import Conch.Numeral
import Conch.Status
import Conch.Help
/-! `return` leaves a function or a script with a status wrapped into `0 … 255`; `quit` asks the
shell to stop. -/
namespace Conch.Builtin.Return

def longOptions : List Options.LongOption := [⟨"help", false, "h"⟩]

/-- What `return` decides from its arguments and the last status, with what it writes; the status is
not yet wrapped, and a status with too many digits gives their count. -/
def plan (args : List String) (last : Int) : Except Nat (Outcome × String × String) :=
  let (steps, sc) := Options.scan "h" longOptions args .stopAt true
  match steps.find? (·.kind = .missingArgument) with
  | some st => .ok (.invalidArgs, "", missingArgument "return" st.token)
  | none =>
    if steps.any (·.kind = .flag) then .ok (.help, Help.of "return" ++ "\n", "")
    else match sc.positionals with
      | [] => .ok (.resolved last, "", "")
      | [p] =>
        match Numeral.parse p with
        | .ok v => .ok (.resolved v, "", "")
        | .error (.tooManyDigits d) => .error d
        | .error (.refused _ _) => .ok (.invalidArgs, "", notANumber "return" p)
      | _ => .ok (.invalidArgs, "", tooManyArguments "return")

/-- The flags after a successful `return`: inside a function it leaves the function; outside
one a script is left, a prompt goes on. -/
def unwind (inFunction : Bool) (f : Flags) : Flags :=
  if inFunction then { f with returning := true }
  else if f.interactive then f
  else { f with exitScript := true }

/-- Runs `return` on the session: the outcome, its status wrapped. -/
def resolve (args : List String) : Exec Outcome := do
  let s ← Exec.shell
  let (o, out, err) ← match plan args s.lastStatus with
    | .ok r => pure r
    | .error d => throw (.tooManyDigits d)
  Exec.say out
  Exec.warn err
  match o with
  | .resolved v =>
    Exec.modifyFlags (unwind (s.depth > 0))
    return .resolved (Status.normalize v)
  | o => return o

def run (args : List String) : Exec Int := do
  return (← resolve args).exitCode

def quit : Exec Int := do
  Exec.modifyFlags fun f => { f with quit := true }
  return (← Exec.shell).lastStatus

end Conch.Builtin.Return
