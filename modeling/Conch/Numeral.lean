import Conch.Text.Blank
import Conch.Text.Literal
import Conch.Decimal.Parse
/-! Reading a status number: blanks around it ignored, an optional sign and ASCII digits, and a
value in the signed 32-bit range; a refusal names its cause and quotes the text. -/
namespace Conch

/-- Why a text is not a status number: nothing but a sign, a character that is no ASCII digit, or a
value out of range. -/
inductive NumeralFault where
  | empty
  | invalidChar
  | overflow
  deriving Repr, DecidableEq

def NumeralFault.reason : NumeralFault → String
  | .empty => "empty"
  | .invalidChar => "invalid_char"
  | .overflow => "overflow"

/-- Why a text gives no status number: the reader refuses it, or it has more digits than conversion
takes. -/
inductive NumeralError where
  | refused (text : String) (fault : NumeralFault)
  | tooManyDigits (count : Nat)
  deriving Repr, DecidableEq

def NumeralError.digitsMessage (count : Nat) : String :=
  "Exceeds the limit (" ++ toString Decimal.maxIntegerDigits ++
    " digits) for integer string conversion: value has " ++ toString count ++
    " digits; use sys.set_int_max_str_digits() to increase the limit"

def NumeralError.message : NumeralError → String
  | .refused text fault => Text.literal text ++ ": " ++ fault.reason
  | .tooManyDigits count => NumeralError.digitsMessage count

namespace Numeral

def least : Int := -2147483648
def greatest : Int := 2147483647

def digitsValue (ds : List Char) : Nat :=
  ds.foldl (fun n d => 10 * n + (d.toNat - '0'.toNat)) 0

def splitSign : List Char → Bool × List Char
  | '-' :: ds => (true, ds)
  | '+' :: ds => (false, ds)
  | ds => (false, ds)

/-- Reads the characters of a text with no blank at either end: the value, a refusal's cause, or a
digit count past the conversion's limit. -/
def readTrimmed (cs : List Char) : Except (NumeralFault ⊕ Nat) Int :=
  let (neg, ds) := splitSign cs
  if ds.isEmpty then .error (.inl .empty)
  else if !ds.all Char.isDigit then .error (.inl .invalidChar)
  else if ds.length > Decimal.maxIntegerDigits then .error (.inr ds.length)
  else
    let v : Int := if neg then -(digitsValue ds : Int) else digitsValue ds
    if v < least ∨ greatest < v then .error (.inl .overflow) else .ok v

def parse (text : String) : Except NumeralError Int :=
  match readTrimmed (Text.trimChars text.toList) with
  | .ok v => .ok v
  | .error (.inl f) => .error (.refused text f)
  | .error (.inr n) => .error (.tooManyDigits n)

example : parse " -42 " = .ok (-42) ∧ parse "+7" = .ok 7 ∧
    parse "-" = .error (.refused "-" .empty) ∧ parse "1x" = .error (.refused "1x" .invalidChar) ∧
    parse "2147483648" = .error (.refused "2147483648" .overflow) :=
  ⟨rfl, rfl, rfl, rfl, rfl⟩

end Numeral

end Conch
