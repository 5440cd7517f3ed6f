import Conch.Exec.World
/-! The builtins of the shell and the messages they share. -/
namespace Conch

inductive Builtin where
  | config
  | echo
  | function
  | functions
  | get
  | help
  | quit
  | ret
  | set
  | source
  deriving Repr, DecidableEq

namespace Builtin

/-- Every builtin, in the order of its name. -/
def all : List Builtin := [config, echo, function, functions, get, help, quit, ret, set, source]

def name : Builtin → String
  | config => "config"
  | echo => "echo"
  | function => "function"
  | functions => "functions"
  | get => "get"
  | help => "help"
  | quit => "quit"
  | ret => "return"
  | set => "set"
  | source => "source"

def ofName? (n : String) : Option Builtin := all.find? (·.name = n)

/-- The words a builtin takes as its first argument, where it has a fixed set of them. -/
def subcommands : Builtin → Option (List String)
  | config => some ["list", "set", "reset"]
  | _ => none

/-- The line that points to a command's help. -/
def trailer (cmd : String) : String := "(Type 'help " ++ cmd ++ "' for related documentation)\n"

def unknownOption (cmd arg : String) : String :=
  cmd ++ ": " ++ arg ++ ": unknown option\n" ++ trailer cmd

def missingArgument (cmd arg : String) : String :=
  cmd ++ ": " ++ arg ++ ": option requires an argument\n" ++ trailer cmd

def tooManyArguments (cmd : String) : String :=
  cmd ++ ": too many arguments\n" ++ trailer cmd

def notANumber (cmd arg : String) : String :=
  cmd ++ ": " ++ arg ++ ": invalid integer\n" ++ trailer cmd

example : ofName? "return" = some ret ∧ ofName? "ret" = none := by decide

end Builtin

end Conch
