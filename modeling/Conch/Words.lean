import Conch.Text.Blank
/-! Words of a command line under the quoting rules of a POSIX shell, and `quote`, which writes a
word so that reading gives it back. -/
namespace Conch.Words

def isSeparator (c : Char) : Bool :=
  c = ' ' || c = '\t' || c = '\r' || c = '\n'

/-- Where the reader is inside a line: between words, in a bare word, inside single or double
quotes, or after a backslash outside or inside double quotes. -/
inductive Mode where
  | between
  | bare
  | single
  | double
  | escapeBare
  | escapeDouble
  deriving Repr, DecidableEq

inductive ReadError where
  | unclosedQuote
  | danglingEscape
  deriving Repr, DecidableEq

/-- The reader's state: its mode, the word being read (reversed), whether that word has seen a
quote (so that `''` is a word), and the words read so far (reversed). -/
structure Reader where
  mode : Mode := .between
  word : List Char := []
  quoted : Bool := false
  done : List String := []

namespace Reader

def push (r : Reader) (c : Char) : Reader := { r with word := c :: r.word }

def close (r : Reader) : Reader :=
  { mode := .between, word := [], quoted := false,
    done := String.ofList r.word.reverse :: r.done }

def step (r : Reader) (c : Char) : Reader :=
  match r.mode with
  | .between =>
    if isSeparator c then r
    else if c = '\\' then { r with mode := .escapeBare }
    else if c = '\'' then { r with mode := .single }
    else if c = '"' then { r with mode := .double }
    else { r with mode := .bare, word := [c] }
  | .bare =>
    if isSeparator c then r.close
    else if c = '\\' then { r with mode := .escapeBare }
    else if c = '\'' then { r with mode := .single }
    else if c = '"' then { r with mode := .double }
    else r.push c
  | .single =>
    if c = '\'' then { r with mode := .bare, quoted := true }
    else { r.push c with quoted := true }
  | .double =>
    if c = '"' then { r with mode := .bare, quoted := true }
    else if c = '\\' then { r with mode := .escapeDouble, quoted := true }
    else { r.push c with quoted := true }
  | .escapeBare => { r.push c with mode := .bare }
  | .escapeDouble =>
    if c = '"' ∨ c = '\\' then { r.push c with mode := .double }
    else { (r.push '\\').push c with mode := .double }

def finish (r : Reader) : Except ReadError (List String) :=
  match r.mode with
  | .between => .ok r.done.reverse
  | .bare => .ok r.close.done.reverse
  | .single | .double => .error .unclosedQuote
  | .escapeBare | .escapeDouble => .error .danglingEscape

end Reader

def read (line : String) : Except ReadError (List String) :=
  (line.toList.foldl Reader.step {}).finish

/-- The words of a line under the quoting rules; a line those rules cannot read is cut at
blanks instead. -/
def readOrSplit (line : String) : List String :=
  match read line with
  | .ok ws => ws
  | .error _ => Text.words line

def isSafe (c : Char) : Bool :=
  c.isAlphanum || c = '_' || c = '@' || c = '%' || c = '+' || c = '=' || c = ':' ||
    c = ',' || c = '.' || c = '/' || c = '-'

/-- Writes a word so that reading gives it back: bare when it is made of safe characters
only, else in single quotes, a single quote inside being written `'"'"'`. -/
def quote (w : String) : String :=
  if w.isEmpty then "''"
  else if w.toList.all isSafe then w
  else "'" ++ String.ofList (w.toList.flatMap fun c =>
    if c = '\'' then ['\'', '"', '\'', '"', '\''] else [c]) ++ "'"

example : read "echo 'a b' \"c\\\"d\" e\\ f ''" = .ok ["echo", "a b", "c\"d", "e f", ""] := rfl
example : read "a 'b" = .error .unclosedQuote := rfl
example : quote "it's" = "'it'\"'\"'s'" ∧ quote "a-b" = "a-b" ∧ quote "" = "''" := by decide

end Conch.Words
