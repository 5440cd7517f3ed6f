import Conch.Builtin.Basic
import Conch.Numeral
/-! `echo` prints its words joined by spaces, or what was piped to it, and takes its status from
`--code N` pairs. -/
namespace Conch.Builtin.Echo

/-- The words `echo` prints and the number of the last `--code N` pair, read left to right; a
number with more digits than conversion takes ends the reading with their count. -/
def scan : List String → Except Nat (List String × Option Int)
  | [] => .ok ([], none)
  | "--code" :: v :: more =>
    match Numeral.parse v with
    | .ok n => do
      let (ws, c) ← scan more
      return (ws, some (c.getD n))
    | .error (.tooManyDigits d) => .error d
    | .error (.refused _ _) => do
      let (ws, c) ← scan (v :: more)
      return ("--code" :: ws, c)
  | w :: rest => do
    let (ws, c) ← scan rest
    return (w :: ws, c)

/-- The text `echo` prints for its kept words, without its final line feed. -/
def text (words : List String) (stdin : Option String) : String :=
  match words with
  | [] => String.ofList ((stdin.getD "").toList.reverse.dropWhile (· = '\n')).reverse
  | ws => " ".intercalate ws

def run (args : List String) (stdin : Option String) : Exec Int := do
  match scan args with
  | .error d => throw (.tooManyDigits d)
  | .ok (ws, code) =>
    Exec.say (text ws stdin ++ "\n")
    return code.getD 0

example : scan ["a", "--code", "3", "b", "--code", "x"] = .ok (["a", "b", "--code", "x"], some 3) :=
  rfl

end Conch.Builtin.Echo
