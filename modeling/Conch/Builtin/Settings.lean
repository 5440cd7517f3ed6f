import Conch.Builtin.Basic
import Conch.Config.Store
import Conch.Help
/-! `config` lists, sets and resets the configuration, setting the log level anew when `debug.level`
changes; `help` prints the help texts. -/
namespace Conch.Builtin.Settings

def usage : String := "Usage:\n  config list\n  config set <key> <value>\n  config reset\n"

def unquote (s : String) : String :=
  match s.toList with
  | '"' :: cs => if cs.getLast? = some '"' ∨ cs.isEmpty then String.ofList cs.dropLast else s
  | _ => s

/-- Sets the log level from a configuration, `WARNING` where it has none. -/
def applyLevel (c : Config) : Exec Unit :=
  match LogLevel.check ((c.get? "debug.level").getD (.text "WARNING")) with
  | .error f => throw (.logLevel f)
  | .ok () => pure ()

def run (args : List String) : Exec Int := do
  match args with
  | [] =>
    Exec.warn usage
    return 1
  | "list" :: _ =>
    let c := (← Exec.world).config
    Exec.reach (Stack.printingJson c.printDepth)
    Exec.say (c.render ++ "\n")
    return 0
  | "set" :: key :: v :: vs =>
    let value := unquote (" ".intercalate (v :: vs))
    match (← Exec.world).config.set? key (.text value) with
    | .error f => throw (.conversion f)
    | .ok (false, c) =>
      modify fun w => { w with config := c }
      Exec.warn ("Error: Failed to set config value for key '" ++ key ++ "'.\n")
      return 1
    | .ok (true, c) =>
      modify fun w => { w with config := c }
      let stored := (c.get? key).getD .none
      if key = "debug.level" then applyLevel c
      Exec.say ("Config updated: " ++ key ++ " = " ++ stored.display ++ " (type: " ++
        stored.kindName ++ ")\n")
      return 0
  | "set" :: _ =>
    Exec.warn "Usage: config set <key> <value>\n"
    return 1
  | "reset" :: _ =>
    modify fun w => { w with config := Config.defaults }
    applyLevel Config.defaults
    Exec.say "Configuration has been reset to the values from settings.json.\n"
    return 0
  | cmd :: _ =>
    Exec.warn ("Unknown command: 'config " ++ cmd ++ "'.\n" ++ usage)
    return 1

/-- Runs `help`: the full help, or the help of each named command. -/
def help (args : List String) : Exec Int := do
  match args with
  | [] => Exec.say (Help.full ++ "\n")
  | names => for n in names do Exec.say (Help.of n ++ "\n")
  return 0

end Conch.Builtin.Settings
