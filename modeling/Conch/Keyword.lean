/-! The shell's keywords: those that lead a command, the block keywords this shell refuses, and the
reserved words no function may be named. -/
namespace Conch.Keyword

/-- Keywords that a command line may skip over in front of a command. -/
def skipping : List String := ["else", "begin"]

/-- Keywords that lead a command and act on it. -/
def leading : List String :=
  ["and", "begin", "builtin", "command", "exec", "if", "not", "or", "time", "while"]

/-- Keywords that open a block. -/
def opening : List String := ["begin", "for", "function", "if", "switch", "while"]

def otherReserved : List String :=
  ["[", "_", "argparse", "break", "case", "continue", "else", "end", "eval", "read", "return",
    "set", "status", "string", "test"]

def reserved : List String := skipping ++ leading ++ opening ++ otherReserved

/-- A word that stands before a command and is taken off before the command runs. -/
def isCommandPrefix (w : String) : Bool := w ∈ leading ∨ w ∈ skipping

def isReserved (w : String) : Bool := w ∈ reserved

example : isCommandPrefix "not" ∧ isCommandPrefix "else" ∧ !isCommandPrefix "for" ∧
    isReserved "for" ∧ isReserved "[" ∧ !isReserved "echo" := by decide

end Conch.Keyword
