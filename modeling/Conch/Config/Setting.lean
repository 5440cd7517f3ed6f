import Conch.Decimal.Shortest
import Conch.Text.Literal
/-! Setting values as a JSON document holds them, integers and reals kept apart, with their text,
quoted and JSON forms. -/
namespace Conch

inductive Setting where
  | none
  | bool (b : Bool)
  | int (n : Int)
  | real (x : Float)
  | text (s : String)
  | list (xs : List Setting)
  /-- Values under keys, in the order added; a key is a text, or, in a table made from pairs, any
  value but a list or a table. -/
  | table (entries : List (Setting × Setting))
  deriving Repr, Inhabited

namespace Setting

def kindName : Setting → String
  | .none => "NoneType"
  | .bool _ => "bool"
  | .int _ => "int"
  | .real _ => "float"
  | .text _ => "str"
  | .list _ => "list"
  | .table _ => "dict"

end Setting

/-- How a real is written: decimal points from `lowest` (exclusive) to `highest` (inclusive)
are written positionally, others with an exponent of at least two digits and a sign; a whole
number keeps `.0`. -/
structure RealStyle where
  lowest : Int := -4
  highest : Int := 16
  infinity : String
  notANumber : String

def RealStyle.plain : RealStyle := { infinity := "inf", notANumber := "nan" }

def RealStyle.json : RealStyle := { infinity := "Infinity", notANumber := "NaN" }

def RealStyle.write (st : RealStyle) (x : Float) : String :=
  match Decimal.Binary.ofFloat x with
  | .nan => st.notANumber
  | .infinite neg => (if neg then "-" else "") ++ st.infinity
  | .finite neg m q =>
    let sign := if neg then "-" else ""
    if m = 0 then sign ++ "0.0"
    else
      let (c, t) := Decimal.shortest m q
      let ds := Decimal.digitsOf c
      let point : Int := t + ds.length
      let body :=
        if point ≤ st.lowest ∨ point > st.highest then
          let e := point - 1
          let mant := match ds with
            | d :: [] => [d]
            | d :: rest => d :: '.' :: rest
            | [] => []
          let ed := Nat.toDigits 10 e.natAbs
          String.ofList (mant ++ ['e', if e < 0 then '-' else '+'] ++
            List.replicate (2 - ed.length) '0' ++ ed)
        else if point ≤ 0 then
          "0." ++ String.ofList (List.replicate point.natAbs '0' ++ ds)
        else if point.toNat ≥ ds.length then
          String.ofList (ds ++ List.replicate (point.toNat - ds.length) '0') ++ ".0"
        else String.ofList (ds.take point.toNat ++ '.' :: ds.drop point.toNat)
      sign ++ body

namespace Setting

mutual
def display : Setting → String
  | .text s => s
  | v => v.quoted

/-- The quoted form of a value: texts as literals, `None`, `True` and `False`, lists in
brackets and tables in braces. -/
def quoted : Setting → String
  | .none => "None"
  | .bool b => if b then "True" else "False"
  | .int n => toString n
  | .real x => RealStyle.plain.write x
  | .text s => Text.literal s
  | .list xs => "[" ++ ", ".intercalate (quotedList xs) ++ "]"
  | .table es => "\x7b" ++ ", ".intercalate (quotedEntries es) ++ "\x7d"

def quotedList : List Setting → List String
  | [] => []
  | x :: xs => x.quoted :: quotedList xs

def quotedEntries : List (Setting × Setting) → List String
  | [] => []
  | (k, v) :: es => (k.quoted ++ ": " ++ v.quoted) :: quotedEntries es
end

end Setting

namespace Json

/-- How JSON writes a character of a string: quote and backslash escaped, the usual short
escapes, and every character outside printable ASCII as `\u` with four hexadecimal digits
(two of them, a surrogate pair, above the basic plane). -/
def escapeChar (c : Char) : List Char :=
  let hex4 (n : Nat) : List Char := '\\' :: 'u' :: Text.hexDigits 4 n
  if c = '"' then ['\\', '"']
  else if c = '\\' then ['\\', '\\']
  else if c = '\n' then ['\\', 'n']
  else if c = '\r' then ['\\', 'r']
  else if c = '\t' then ['\\', 't']
  else if c = '\x08' then ['\\', 'b']
  else if c = '\x0c' then ['\\', 'f']
  else if ' '.toNat ≤ c.toNat ∧ c.toNat ≤ '~'.toNat then [c]
  else if c.toNat < 0x10000 then hex4 c.toNat
  else
    let v := c.toNat - 0x10000
    hex4 (0xD800 + v / 0x400) ++ hex4 (0xDC00 + v % 0x400)

def quote (s : String) : String :=
  String.ofList ('"' :: s.toList.flatMap escapeChar ++ ['"'])

end Json

namespace Setting

def newline (width level : Nat) : String :=
  "\n" ++ String.ofList (List.replicate (width * level) ' ')

def keyText : Setting → String
  | .text s => s
  | .none => "null"
  | .bool b => if b then "true" else "false"
  | .int n => toString n
  | .real x => RealStyle.json.write x
  | k => k.quoted

mutual
/-- The JSON text of a value: on one line without `width`, else one item per line, indented
by `width` spaces per level. -/
def toJson (width : Option Nat) (level : Nat) : Setting → String
  | .none => "null"
  | .bool b => if b then "true" else "false"
  | .int n => toString n
  | .real x => RealStyle.json.write x
  | .text s => Json.quote s
  | .list [] => "[]"
  | .list xs =>
    match width with
    | some w => "[" ++ newline w (level + 1) ++
        (("," ++ newline w (level + 1)).intercalate (listJson width (level + 1) xs)) ++
        newline w level ++ "]"
    | Option.none => "[" ++ ", ".intercalate (listJson width level xs) ++ "]"
  | .table [] => "{}"
  | .table es =>
    match width with
    | some w => "\x7b" ++ newline w (level + 1) ++
        (("," ++ newline w (level + 1)).intercalate (entriesJson width (level + 1) es)) ++
        newline w level ++ "\x7d"
    | Option.none => "\x7b" ++ ", ".intercalate (entriesJson width level es) ++ "\x7d"

def listJson (width : Option Nat) (level : Nat) : List Setting → List String
  | [] => []
  | x :: xs => toJson width level x :: listJson width level xs

def entriesJson (width : Option Nat) (level : Nat) : List (Setting × Setting) → List String
  | [] => []
  | (k, v) :: es =>
    (Json.quote k.keyText ++ ": " ++ toJson width level v) :: entriesJson width level es
end

mutual
/-- How many levels the indented JSON printer descends into a value: one per list or table with
items on the way down, and one for a finite real. -/
def printDepth : Setting → Nat
  | .real x => if x.isFinite then 1 else 0
  | .list [] => 0
  | .list xs => listPrintDepth xs + 1
  | .table [] => 0
  | .table es => entriesPrintDepth es + 1
  | _ => 0

def listPrintDepth : List Setting → Nat
  | [] => 0
  | x :: xs => max x.printDepth (listPrintDepth xs)

def entriesPrintDepth : List (Setting × Setting) → Nat
  | [] => 0
  | (k, v) :: es => max (max k.printDepth v.printDepth) (entriesPrintDepth es)
end

example : (Setting.table [(.text "a", .table [(.text "b", .list [.text "x"])]),
    (.text "c", .table [(.text "d", .table [])])]).printDepth = 3 := rfl

end Setting

end Conch
