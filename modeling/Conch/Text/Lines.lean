/-! Lines of a text file: carriage returns made line feeds, then the text cut at every line break.
-/
namespace Conch.Text

/-- The characters that end a line: line feed, carriage return, vertical tab, form feed,
`0x1C`–`0x1E`, next line, and the line and paragraph separators. -/
def isLineBreak (c : Char) : Bool :=
  c = '\n' || c = '\r' || c = '\x0b' || c = '\x0c' || c = '\x1c' || c = '\x1d' ||
    c = '\x1e' || c = '\x85' || c = ' ' || c = ' '

def unifyNewlines : List Char → List Char
  | [] => []
  | '\r' :: '\n' :: cs => '\n' :: unifyNewlines cs
  | '\r' :: cs => '\n' :: unifyNewlines cs
  | c :: cs => c :: unifyNewlines cs

/-- The lines of a text, given the line being read (reversed); a carriage return and line feed
together make one break. -/
def linesOfChars : List Char → (acc : List Char := []) → List String
  | [], acc => if acc.isEmpty then [] else [String.ofList acc.reverse]
  | '\r' :: '\n' :: cs, acc => String.ofList acc.reverse :: linesOfChars cs []
  | c :: cs, acc =>
    if isLineBreak c then String.ofList acc.reverse :: linesOfChars cs []
    else linesOfChars cs (c :: acc)

def lines (s : String) : List String := linesOfChars s.toList

def fileLines (contents : String) : List String := linesOfChars (unifyNewlines contents.toList)

example : lines "a\nb\r\nc\n" = ["a", "b", "c"] ∧ lines "" = [] ∧ lines "\n\nx" = ["", "", "x"] := by
  decide

end Conch.Text
