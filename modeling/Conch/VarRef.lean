import Conch.Text.WordChar
/-! Variable references `@{name}`: assignment and reading words, and expansion, which replaces
references left to right without rescanning what it inserts. -/
namespace Conch.VarRef

def whole? (s : String) : Option String :=
  match s.toList with
  | '@' :: '{' :: cs =>
    match cs.reverse with
    | '}' :: rn => if rn ≠ [] ∧ '}' ∉ rn then some (String.ofList rn.reverse) else none
    | _ => none
  | _ => none

/-- A name that a reading word may hold: a letter or underscore, then word characters and
dots. -/
def isPlainName : List Char → Bool
  | c :: cs => (c.isAlpha || c = '_') && cs.all fun d => Text.isWordChar d || d = '.'
  | [] => false

def isReading (s : String) : Bool :=
  match whole? s with
  | some name => isPlainName name.toList
  | none => false

/-- The value of an assignment word, which ends at the first line feed; a line feed may only
stand at the very end, and is then dropped. -/
def assignedValue (cs : List Char) : Option (List Char) :=
  match cs.span (· ≠ '\n') with
  | (v, []) => some v
  | (v, ['\n']) => some v
  | _ => none

def assignment? (s : String) : Option (String × String) :=
  match s.toList with
  | '@' :: '{' :: cs =>
    match cs.span (fun c => c ≠ '}' ∧ c ≠ '=') with
    | (name@(_ :: _), '}' :: '=' :: rest) =>
      (assignedValue rest).map fun v => (String.ofList name, String.ofList v)
    | _ => none
  | _ => none

inductive Piece where
  | plain (c : Char)
  | ref (name : List Char)
  deriving Repr, DecidableEq

/-- What the cutter has just read: plain text, an `@` that may open a reference, or `@{` and the
name so far, reversed. -/
inductive Cut where
  | text
  | sawAt
  | name (acc : List Char)

/-- The pieces of the rest of a text. A reference runs from `@{` to the first `}` after a
non-empty name; where no `}` closes it, or the name is empty, its characters are plain. -/
def piecesFrom : Cut → List Char → List Piece
  | .text, [] => []
  | .sawAt, [] => [.plain '@']
  | .name acc, [] => .plain '@' :: .plain '{' :: acc.reverse.map .plain
  | .text, c :: cs => if c = '@' then piecesFrom .sawAt cs else .plain c :: piecesFrom .text cs
  | .sawAt, c :: cs =>
    if c = '{' then piecesFrom (.name []) cs
    else if c = '@' then .plain '@' :: piecesFrom .sawAt cs
    else .plain '@' :: .plain c :: piecesFrom .text cs
  | .name acc, c :: cs =>
    if c = '}' then
      if acc = [] then .plain '@' :: .plain '{' :: .plain '}' :: piecesFrom .text cs
      else .ref acc.reverse :: piecesFrom .text cs
    else piecesFrom (.name (c :: acc)) cs

def pieces (cs : List Char) : List Piece := piecesFrom .text cs

/-- The text of a list of pieces, each reference replaced as `value` says, given whether an
`=` follows it. -/
def render (value : List Char → Bool → List Char) : List Piece → List Char
  | [] => []
  | .plain c :: ps => c :: render value ps
  | .ref name :: ps =>
    let followedByEq := match ps with
      | .plain '=' :: _ => true
      | _ => false
    value name followedByEq ++ render value ps

def followers : List Piece → List Bool
  | [] => []
  | .plain _ :: ps => followers ps
  | .ref _ :: ps =>
    (match ps with
      | .plain '=' :: _ => true
      | _ => false) :: followers ps

/-- Expands the references of a text: a reference not followed by `=` whose name `lookup`
knows becomes its value; every other piece is kept. -/
def expand (lookup : String → Option String) (text : String) : String :=
  let keep (name : List Char) : List Char := '@' :: '{' :: name ++ ['}']
  String.ofList <| render (fun name eq =>
    if eq then keep name
    else match lookup (String.ofList name) with
      | some v => v.toList
      | none => keep name) (pieces text.toList)

example : whole? "@{a b}" = some "a b" ∧ whole? "@{}" = none ∧ !isReading "@{1x}" := by
  decide
example : assignment? "@{k}=v w" = some ("k", "v w") ∧ assignment? "@{k=}=v" = none := by decide
example : expand (fun n => if n = "v" then some "1" else none) "@{v}@{w}=@{v}=@{@{v}}" =
    "1@{w}=@{v}=@{@{v}}" := by decide

end Conch.VarRef
