/-! Blank characters, the Unicode whitespace set, with trimming and cutting a text into words. -/
namespace Conch.Text

/-- A blank is a character of the Unicode whitespace set: tab to carriage return, `0x1C`–`0x1F`,
space, `0x85`, `0xA0`, `0x1680`, `0x2000`–`0x200A`, `0x2028`, `0x2029`, `0x202F`, `0x205F` and
`0x3000`; the zero width space is none. -/
def isBlank (c : Char) : Bool :=
  let n := c.toNat
  (9 ≤ n && n ≤ 13) || (28 ≤ n && n ≤ 32) || n == 0x85 || n == 0xA0 || n == 0x1680 ||
    (0x2000 ≤ n && n ≤ 0x200A) || n == 0x2028 || n == 0x2029 || n == 0x202F ||
    n == 0x205F || n == 0x3000

def trimChars (cs : List Char) : List Char :=
  ((cs.dropWhile isBlank).reverse.dropWhile isBlank).reverse

def trim (s : String) : String :=
  String.ofList (trimChars s.toList)

def trimLeft (s : String) : String :=
  String.ofList (s.toList.dropWhile isBlank)

/-- The maximal runs of non-blank characters, in order; `acc` holds the word being read,
reversed. -/
def wordsOfChars : List Char → (acc : List Char := []) → List (List Char)
  | [], acc => if acc.isEmpty then [] else [acc.reverse]
  | c :: cs, acc =>
    if isBlank c then
      if acc.isEmpty then wordsOfChars cs [] else acc.reverse :: wordsOfChars cs []
    else wordsOfChars cs (c :: acc)

def words (s : String) : List String :=
  (wordsOfChars s.toList).map String.ofList

example : isBlank '\x1c' ∧ isBlank '　' ∧ !isBlank '​' := by decide

end Conch.Text
