import Conch.Text.Printable
/-! Text literals: a text between quotes that reads back as itself. -/
namespace Conch.Text

def hexDigits (width n : Nat) : List Char :=
  let ds := Nat.toDigits 16 n
  List.replicate (width - ds.length) '0' ++ ds

/-- The escape of an unprintable character: the short forms for tab, line feed and carriage
return, else its code point in two, four or eight hexadecimal places. -/
def escapeUnprintable (c : Char) : List Char :=
  if c = '\t' then ['\\', 't']
  else if c = '\n' then ['\\', 'n']
  else if c = '\r' then ['\\', 'r']
  else if c.toNat < 0x100 then '\\' :: 'x' :: hexDigits 2 c.toNat
  else if c.toNat < 0x10000 then '\\' :: 'u' :: hexDigits 4 c.toNat
  else '\\' :: 'U' :: hexDigits 8 c.toNat

def literalChar (q c : Char) : List Char :=
  if c = q ∨ c = '\\' then ['\\', c]
  else if isPrintable c then [c]
  else escapeUnprintable c

/-- The quote a literal uses: the double quote only when that spares an escape. -/
def literalQuote (cs : List Char) : Char :=
  if '\'' ∈ cs ∧ '"' ∉ cs then '"' else '\''

def literal (s : String) : String :=
  let q := literalQuote s.toList
  String.ofList (q :: s.toList.flatMap (literalChar q) ++ [q])

end Conch.Text
