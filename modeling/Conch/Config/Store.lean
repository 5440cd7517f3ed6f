import Conch.Config.Convert
/-! The configuration: a table of settings at dotted paths such as `shell.prompt`. -/
namespace Conch

structure Config where
  entries : List (Setting × Setting)
  deriving Repr

namespace Config

/-- The configuration a session starts with. -/
def defaults : Config where
  entries :=
    [(.text "debug", .table [(.text "level", .text "WARNING")]),
     (.text "shell", .table [(.text "prompt", .text "flowshell> "),
       (.text "history_file", .text ".flowshell_history")]),
     (.text "autocomplete", .table [(.text "h_max_len", .int 5)])]

def keys (path : String) : List String := (path.toList.splitOn '.').map String.ofList

def find? (es : List (Setting × Setting)) : List String → Option Setting
  | [] => Option.none
  | [k] => Setting.valueAt? es k
  | k :: ks =>
    match Setting.valueAt? es k with
    | some (.table sub) => find? sub ks
    | _ => Option.none

def get? (c : Config) (path : String) : Option Setting :=
  match find? c.entries (keys path) with
  | some .none => Option.none
  | v => v

/-- The table a write walks into from a key holding `old`: a new empty one where the key is
missing, the table it holds, and none where it holds anything else. -/
def enter? : Option Setting → Option (List (Setting × Setting))
  | Option.none => some []
  | some (.table sub) => some sub
  | some _ => Option.none

/-- What a write of `v` leaves where `old` was: `v` converted to the kind of `old`, or `v`
itself where there was nothing. -/
def overwrite (old : Option Setting) (v : Setting) : Setting :=
  (old.map (·.convertTo v)).getD v

/-- Walks a path of keys through a table and stores `v` at its end, adding missing keys as empty
tables; the walk stops with `false` at a value that is no table, keeping the tables it added. -/
def store (es : List (Setting × Setting)) (v : Setting) : List String →
    Bool × List (Setting × Setting)
  | [] => (true, es)
  | [k] => (true, Setting.putEntry es (.text k) (overwrite (Setting.valueAt? es k) v))
  | k :: ks =>
    match enter? (Setting.valueAt? es k) with
    | some sub => Prod.map id (fun sub' => Setting.putEntry es (.text k) (.table sub'))
        (store sub v ks)
    | Option.none => (false, es)

/-- Stores a value at a dotted path: `false` when the path passes through a value that is no table,
the configuration as the walk left it; a conversion that fails outright is an error. -/
def set? (c : Config) (path : String) (v : Setting) :
    Except Setting.ConvertFault (Bool × Config) :=
  let walked := store c.entries v (keys path)
  if walked.1 then
    match (find? c.entries (keys path)).bind (Setting.convertFault? · v) with
    | some f => .error f
    | Option.none => .ok (true, ⟨walked.2⟩)
  else .ok (false, ⟨walked.2⟩)

def render (c : Config) : String := (Setting.table c.entries).toJson (some 2) 0

/-- How many levels printing the whole configuration as indented JSON descends. -/
def printDepth (c : Config) : Nat := (Setting.table c.entries).printDepth

end Config

end Conch
