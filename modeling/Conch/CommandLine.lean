import Conch.Words
import Conch.VarRef
import Conch.Keyword
/-! Command lines: a line is read into words, and the operator words `;`, `&&`, `||` and `|` cut it
into commands, each remembering the operator in front of it. -/
namespace Conch

/-- How a command is joined to the one before it: `;`, `&&`, `||` or `|`. -/
inductive Connector where
  | always
  | onSuccess
  | onFailure
  | pipe
  deriving Repr, DecidableEq

namespace Connector

def word : Connector → String
  | .always => ";"
  | .onSuccess => "&&"
  | .onFailure => "||"
  | .pipe => "|"

def ofWord? : String → Option Connector
  | ";" => some .always
  | "&&" => some .onSuccess
  | "||" => some .onFailure
  | "|" => some .pipe
  | _ => none

end Connector

/-- One command of a line: its name, its arguments and the operator in front of it. -/
structure Command where
  name : String
  args : List String
  joint : Option Connector
  deriving Repr, DecidableEq

namespace CommandLine

/-- The command that a first word starts: an assignment word is the argument of `set`, a
reading word that of `get`, and any other word is the command's name. -/
def start (w : String) : String × List String :=
  if (VarRef.assignment? w).isSome then ("set", [w])
  else if VarRef.isReading w then ("get", [w])
  else (w, [])

/-- Commands from words: `pending` is the command being gathered (its name and reversed
arguments), `joint` the operator in front of it. -/
def group (joint : Option Connector) (pending : Option (String × List String)) :
    List String → List Command
  | [] => close joint pending []
  | w :: ws =>
    match Connector.ofWord? w with
    | some op => close joint pending (group (some op) none ws)
    | none =>
      match pending with
      | none => group joint (some (start w |>.1, (start w).2.reverse)) ws
      | some (n, args) => group joint (some (n, w :: args)) ws
where
  close (joint : Option Connector) : Option (String × List String) → List Command →
      List Command
    | none, cs => cs
    | some (n, args), cs => ⟨n, args.reverse, joint⟩ :: cs

def parse (line : String) : List Command :=
  group none none (Words.readOrSplit (Text.trim line))

/-- Splits a command's words into the keywords in front and the rest, which starts with the
command to run. -/
def splitPrefix (words : List String) : List String × List String :=
  (words.takeWhile Keyword.isCommandPrefix, words.dropWhile Keyword.isCommandPrefix)

example : parse "echo a && b ; ; c | d" =
    [⟨"echo", ["a"], none⟩, ⟨"b", [], some .onSuccess⟩, ⟨"c", [], some .always⟩,
      ⟨"d", [], some .pipe⟩] := by decide
example : splitPrefix ["not", "builtin", "echo", "x"] = (["not", "builtin"], ["echo", "x"]) := by
  decide

end CommandLine

end Conch
