import Conch.Text.Blank
import Conch.Text.DecimalDigit
/-! Reading numbers from text by the rules of general-purpose conversion: blanks around the number
ignored, digits of any script, single underscores between digits, and at most 4300 digits for an
integer. -/
namespace Conch.Decimal

def asciiDigits (cs : List Char) : List Char :=
  cs.map fun c => match Text.digitValue? c with
    | some d => Char.ofNat ('0'.toNat + d)
    | none => c

/-- The text without its underscores, when every underscore stands between two ASCII
digits. -/
def dropUnderscores : List Char → (prev : Char := ' ') → Option (List Char)
  | [], prev => if prev = '_' then none else some []
  | c :: cs, prev =>
    if c = '_' then
      if prev.isDigit then dropUnderscores cs c else none
    else if prev = '_' ∧ !c.isDigit then none
    else (dropUnderscores cs c).map (c :: ·)

/-- The blanks skipped around a number: every blank except the information separators
`0x1C`–`0x1F`, which count as characters of the number and so spoil it. -/
def isSkipped (c : Char) : Bool :=
  Text.isBlank c && !(28 ≤ c.toNat && c.toNat ≤ 31)

/-- The characters of a number: skipped blanks at both ends dropped, digits made ASCII,
underscores checked and dropped. -/
def numberChars (s : String) : Option (List Char) :=
  let cs := ((s.toList.dropWhile isSkipped).reverse.dropWhile isSkipped).reverse
  dropUnderscores (asciiDigits cs)

def digitsValue (ds : List Char) : Nat :=
  ds.foldl (fun n d => 10 * n + (d.toNat - '0'.toNat)) 0

/-- The most digits an integer text may have. -/
def maxIntegerDigits : Nat := 4300

def readInt? (s : String) : Option Int :=
  match numberChars s with
  | none => none
  | some cs =>
    let (neg, ds) := match cs with
      | '-' :: ds => (true, ds)
      | '+' :: ds => (false, ds)
      | ds => (false, ds)
    if ds.isEmpty || !ds.all Char.isDigit || ds.length > maxIntegerDigits then none
    else
      let v : Int := digitsValue ds
      some (if neg then -v else v)

/-- `m · 10^e` as the nearest double; far out of range it is zero or infinity. -/
def scaled (m : Nat) (e : Int) : Float :=
  let size : Int := (Nat.toDigits 10 m).length
  if m = 0 then 0
  else if e + size > 400 then Float.ofScientific 1 false 400
  else if e + size < -400 then 0
  else if e < 0 then Float.ofScientific m true e.natAbs
  else Float.ofScientific m false e.toNat

def spanDigits (cs : List Char) : List Char × List Char := cs.span Char.isDigit

def readMagnitude (cs : List Char) : Option Float :=
  let lower := cs.map Char.toLower
  if lower = "inf".toList ∨ lower = "infinity".toList then some (Float.ofScientific 1 false 400)
  else if lower = "nan".toList then some (0 / 0)
  else
    let (whole, rest) := spanDigits cs
    let (frac, rest) := match rest with
      | '.' :: r => spanDigits r
      | r => ([], r)
    if whole.isEmpty && frac.isEmpty then none
    else
      let expo : Option Int := match rest with
        | [] => some 0
        | c :: r =>
          if c = 'e' ∨ c = 'E' then
            let (neg, ds) := match r with
              | '-' :: ds => (true, ds)
              | '+' :: ds => (false, ds)
              | ds => (false, ds)
            if ds.isEmpty || !ds.all Char.isDigit then none
            else some (if neg then -(digitsValue ds : Int) else digitsValue ds)
          else none
      expo.map fun e => scaled (digitsValue (whole ++ frac)) (e - frac.length)

def readReal? (s : String) : Option Float :=
  match numberChars s with
  | none => none
  | some ('-' :: cs) => (readMagnitude cs).map (- ·)
  | some ('+' :: cs) => readMagnitude cs
  | some cs => readMagnitude cs

example : readInt? " 1_000 " = some 1000 ∧ readInt? "1__0" = none ∧ readInt? "-07" = some (-7) ∧
    readInt? "1e3" = none := by decide

end Conch.Decimal
