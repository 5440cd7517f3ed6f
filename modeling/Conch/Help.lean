import Conch.Keyword
/-! Help texts: the general part, the help of each command that has one, and the reserved names. -/
namespace Conch.Help

/-- The general part of the help: operators, keywords, variables and the general commands. -/
def header : String := "\n".intercalate [
  "flowshell - Help",
  "",
  "A small command shell with functions, scripts and structured exit statuses.",
  "",
  "---",
  "OPERATORS",
  "---",
  "  A ; B               Execute B after A, regardless of the outcome.",
  "  A && B              Execute B only if A was successful (exit code 0).",
  "  A || B              Execute B only if A failed (exit code != 0).",
  "  A | B               Pipe the output (stdout) of A as input (stdin) for B.",
  "",
  "---",
  "KEYWORDS",
  "---",
  "  not CMD             Run CMD and invert its status.",
  "  and CMD / or CMD    Run CMD only if the previous status was zero / non-zero.",
  "  builtin CMD         Run CMD as a builtin, never as a function or program.",
  "  command CMD         Run CMD as an external program.",
  "  time CMD            Run CMD and report how long it took.",
  "",
  "---",
  "VARIABLES & SHORTHANDS",
  "---",
  "  Variables are accessed using @{name}. @{status} holds the last exit status",
  "  and @{argv} the arguments of the running function.",
  "",
  "  set @{name}=value   Create or overwrite a variable.",
  "  Shorthand:          @{name}=value",
  "",
  "  get @{name}         Display the value of a variable.",
  "  Shorthand:          @{name}",
  "",
  "---",
  "COMMANDS",
  "---",
  "GENERAL:",
  "  help [COMMAND]      Show this help text, or the help of one command.",
  "  quit                Exit the shell.",
  "  echo <text...>      Display the specified text (--code N sets the status)."]

def config : String := "\n".intercalate [
  "CONFIGURATION:",
  "  config list                Show the current configuration as JSON.",
  "  config set <key> <value>   Set a config value for the session (e.g., debug.level INFO).",
  "  config reset               Reload the configuration from settings.json."]

def function : String := "\n".intercalate [
  "FUNCTIONS & SCRIPTS (function):",
  "  function [-d DESC] NAME \"BODY\"",
  "                      Define NAME to run the command line BODY. Inside the body",
  "                      @{argv} holds the call's arguments and 'return N' stops it.",
  "                      Reserved keywords (see RESERVED NAMES) cannot be used."]

def functions : String := "\n".intercalate [
  "FUNCTIONS & SCRIPTS (functions):",
  "  functions           List all defined functions.",
  "  functions NAME...   Show the definition of each NAME.",
  "  functions -e NAME...",
  "                      Erase the named functions."]

def ret : String := "\n".intercalate [
  "FUNCTIONS & SCRIPTS:",
  "  return [-h | --help] [STATUS]",
  "                      Stop the running function with STATUS. Outside a function,",
  "                      stop the running script (an interactive prompt keeps going).",
  "                      Without STATUS the last status (@{status}) is reused.",
  "                      Negative values wrap around: 'return -1' gives 255."]

def source : String := "\n".intercalate [
  "FUNCTIONS & SCRIPTS (source):",
  "  source FILE         Run the commands in FILE in this shell. A top-level",
  "                      'return' in FILE stops the file, not the shell."]

def topics : List (String × String) :=
  [("config", config), ("function", function), ("functions", functions), ("return", ret),
    ("source", source)]

def of (cmd : String) : String :=
  match topics.lookup cmd with
  | some text => text
  | none => cmd ++ ": no help available"

def reservedLine : String :=
  "RESERVED NAMES:\n  " ++ " ".intercalate (Keyword.otherReserved.mergeSort (decide <| · ≤ ·))

def full : String :=
  "\n\n".intercalate (header :: topics.map (·.2) ++ [reservedLine])

end Conch.Help
