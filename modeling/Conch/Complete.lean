import Conch.Builtin.Basic
import Conch.Keyword
import Conch.Config.Store
import Conch.Shell.State
import Conch.Text.Blank
/-! Completion at a prompt from the text before the cursor: `!h` from the history, otherwise the
segment after the last operator, from the variables, the commands or the subcommands. -/
namespace Conch

/-- A suggestion: the text to insert, where it starts relative to the cursor, and what it
is. -/
structure Completion where
  text : String
  start : Int
  label : String
  deriving Repr, DecidableEq

namespace Complete

def operators : List (List Char) := [['&', '&'], ['|', '|'], [';'], ['|']]

def operatorLength (cs : List Char) : Option Nat :=
  (operators.find? fun op =>
    op.isPrefixOf cs && ((cs.drop op.length).head?.any Text.isBlank)).map List.length

/-- At the start of a text, an operator with blanks on both sides (a run of blanks, `&&`, `||`,
`;` or `|`, and another run of blanks): its length less one. -/
def operatorAt (cs : List Char) : Option Nat :=
  let lead := cs.takeWhile Text.isBlank
  let rest := cs.drop lead.length
  if lead.isEmpty then none
  else (operatorLength rest).map fun n =>
    lead.length - 1 + n + ((rest.drop n).takeWhile Text.isBlank).length

/-- The text after the last operator, operators being found left to right without overlap:
`skip` more characters belong to the operator just found, and `rel` is the text after the last
one found so far. -/
def afterLastOperator : List Char → (skip : Nat) → (rel : List Char) → List Char
  | [], _, rel => rel
  | _ :: cs, skip + 1, rel => afterLastOperator cs skip rel
  | c :: cs, 0, rel =>
    (operatorAt (c :: cs)).elim (afterLastOperator cs 0 rel) fun n =>
      afterLastOperator cs n (cs.drop n)

def hasReference : List Char → Bool
  | '@' :: '{' :: _ => true
  | _ :: cs => hasReference cs
  | [] => false

def leadingKeywords : List String := Keyword.leading

/-- What the prompt's document gives as the word before the cursor of `cs`: the run of non-blank
characters at its end, as long as it goes. -/
def IsWordBefore (cs word : List Char) : Prop :=
  (∀ x ∈ word, Text.isBlank x = false) ∧
    ∃ pre, cs = pre ++ word ∧ ∀ x ∈ pre.getLast?, Text.isBlank x

/-- The word before the cursor as a document reads it, one getter that `IsWordBefore` holds of. -/
def wordBefore (cs : List Char) : List Char :=
  (cs.reverse.takeWhile (fun c => !Text.isBlank c)).reverse

def dropLeading (endsWithSpace : Bool) : List String → List String
  | w :: ws => if w ∈ leadingKeywords ∧ (ws ≠ [] ∨ endsWithSpace) then dropLeading endsWithSpace ws
    else w :: ws
  | [] => []

/-- The names a first word may complete to, each with what it is, in order; a keyword hides a
command of its name, and a function hides both. -/
def firstWordCandidates (s : Shell) : List (String × String) :=
  let commands := Builtin.all.map fun b => (b.name, "Command")
  let keywords := (Keyword.leading ++ Keyword.opening).map (·, "Keyword")
  let functions := s.functions.keys.map (·, "Function")
  let add (acc : List (String × String)) (e : String × String) : List (String × String) :=
    if acc.any (·.1 = e.1) then acc.map fun a => if a.1 = e.1 then e else a else acc ++ [e]
  ((commands ++ keywords ++ functions).foldl add []).mergeSort fun a b => decide (a.1 ≤ b.1)

def firstWord (s : Shell) (word : String) : List Completion :=
  (firstWordCandidates s).filterMap fun (n, m) =>
    if word.isPrefixOf n then some ⟨n, -(word.length : Int), m⟩ else none

def references (s : Shell) (word : String) : List Completion :=
  let pre := if "@\x7b".isPrefixOf word then word else ""
  s.vars.keys.filterMap fun n =>
    let sug := "@\x7b" ++ n ++ "\x7d"
    if pre.isPrefixOf sug then some ⟨sug, -(pre.length : Int), "Context Variable"⟩ else none

def secondWord (cmd word : String) : List Completion :=
  match (Builtin.ofName? cmd).bind Builtin.subcommands with
  | some subs =>
    (subs.mergeSort fun a b => decide (a ≤ b)).filterMap fun sub =>
      if word.isPrefixOf sub then some ⟨sub, -(word.length : Int), ""⟩ else none
  | none => []

/-- One history entry taken into the commands found so far: once `enough` says there are
enough nothing is taken; otherwise the entry without blanks around it, unless it is empty, `!h`
or already found. -/
def recentStep (enough : Nat → Bool) (acc : List String) (h : String) : List String :=
  if enough acc.length then acc
  else
    let c := Text.trim h
    if c.isEmpty ∨ c = "!h" ∨ c ∈ acc then acc else acc ++ [c]

def recent (enough : Nat → Bool) (history : List String) : List String :=
  history.reverse.foldl (recentStep enough) []

/-- How many history entries a limit setting allows, as a test on the number found so far; a
limit that is not a number cannot be compared. -/
def limitTest : Setting → Except String (Nat → Bool)
  | .int n => .ok fun k => (k : Int) ≥ n ∧ k > 0
  | .bool b => .ok fun k => (k : Int) ≥ (if b then 1 else 0) ∧ k > 0
  | .real x => .ok fun k => Float.ofNat k ≥ x ∧ k > 0
  | v => .error v.kindName

structure CursorFault where
  position : Int
  length : Nat
  deriving Repr, DecidableEq

def CursorFault.message (f : CursorFault) : String :=
  "cursor_position=" ++ toString f.position ++ ", len_text=" ++ toString f.length

/-- The text before a cursor. A negative position counts back from the end of the text, and one
further back than the start leaves nothing before it; a position past the end is refused. -/
def textBefore (text : String) (cursor : Int) : Except CursorFault String :=
  let n := text.length
  if cursor > n then .error ⟨cursor, n⟩
  else
    let k := if cursor < 0 then ((n : Int) + cursor).toNat else cursor.toNat
    .ok (String.ofList (text.toList.take k))

example : textBefore "config s" (-1) = .ok "config " ∧ textBefore "ab" (-5) = .ok "" ∧
    textBefore "ab" 3 = .error ⟨3, 2⟩ := ⟨rfl, rfl, rfl⟩

def segment (s : Shell) (rel : List Char) (word : String) (afterBrace : Bool) :
    List Completion :=
  let endsWithSpace := rel.getLast? = some ' '
  if hasReference rel ∧ ("@\x7b".isPrefixOf word ∨ afterBrace) then references s word
  else
    match dropLeading endsWithSpace (Text.words (String.ofList rel)) with
    | [] => firstWord s word
    | [w] => if endsWithSpace then secondWord w "" else firstWord s word
    | [w, sub] => if endsWithSpace then [] else secondWord w sub
    | _ => []

/-- The completions of the text before the cursor, `wordOf` reading the word before it. A history
limit that is no number fails, naming the kind it has, once the history offers an entry. -/
def suggest (wordOf : List Char → List Char) (s : Shell) (c : Config) (history : List String)
    (before : String) : Except String (List Completion) :=
  let cs := before.toList
  if "!h".toList.isSuffixOf cs then
    let limit := (c.get? "autocomplete.h_max_len").getD (.int 5)
    match limitTest limit with
    | .ok enough => .ok ((recent enough history).map (⟨·, -2, "Command History"⟩))
    | .error kind =>
      if (recent (fun _ => false) history).isEmpty then .ok [] else .error kind
  else
    .ok (segment s (afterLastOperator cs 0 cs) (String.ofList (wordOf cs))
      (cs.getLast? = some '{'))

end Complete

end Conch
