import Conch.Config.Setting
import Conch.Decimal.Parse
/-! Converting a value to the kind of another: a changed setting keeps its kind, the new value
converted to the old one's kind, or stored as it is where the conversion does not apply. -/
namespace Conch.Setting

/-- Whether a value counts as true: everything but `None`, `False`, zero, and the empty text,
list and table. -/
def truthy : Setting → Bool
  | .none => false
  | .bool b => b
  | .int n => n ≠ 0
  | .real x => !(x == 0)
  | .text s => !s.isEmpty
  | .list xs => !xs.isEmpty
  | .table es => !es.isEmpty

def truncate (x : Float) : Option Int :=
  match Decimal.Binary.ofFloat x with
  | .finite neg m q =>
    let v : Int := if q ≥ 0 then (m * Nat.pow 2 q.toNat : Nat) else (m / Nat.pow 2 q.natAbs : Nat)
    some (if neg then -v else v)
  | _ => Option.none

def realIsInt (x : Float) (n : Int) : Bool :=
  match Decimal.Binary.ofFloat x with
  | .finite neg m q =>
    let whole : Option Nat :=
      if q ≥ 0 then some (m * Nat.pow 2 q.toNat)
      else if m % Nat.pow 2 q.natAbs = 0 then some (m / Nat.pow 2 q.natAbs) else Option.none
    match whole with
    | some v => (if neg then -(v : Int) else v) == n
    | Option.none => false
  | _ => false

/-- A number as a key compares it: truth values as `0` and `1`, integers, and reals. -/
inductive Number where
  | int (n : Int)
  | real (x : Float)

def number? : Setting → Option Number
  | .bool b => some (.int (if b then 1 else 0))
  | .int n => some (.int n)
  | .real x => some (.real x)
  | _ => Option.none

/-- Whether two numbers are the same key: equal values exactly, and any two not-a-numbers, all being
the one value read from the input. -/
def Number.same : Number → Number → Bool
  | .int a, .int b => a == b
  | .int a, .real x => realIsInt x a
  | .real x, .int a => realIsInt x a
  | .real x, .real y => x == y || (x.isNaN && y.isNaN)

def isKey : Setting → Bool
  | .list _ | .table _ => false
  | _ => true

/-- Whether two keys are the same key: texts equal as texts, `None` only to itself, and numbers
(truth values among them) equal as numbers. -/
def sameKey (a b : Setting) : Bool :=
  match a, b with
  | .text s, .text t => s == t
  | .none, .none => true
  | _, _ =>
    match a.number?, b.number? with
    | some x, some y => x.same y
    | _, _ => false

def valueAt? (es : List (Setting × Setting)) (k : String) : Option Setting :=
  (es.find? fun e => sameKey e.1 (.text k)).map (·.2)

/-- Puts an entry into a table: a key already present keeps its place, and its first form, and
takes the new value. -/
def putEntry : List (Setting × Setting) → Setting → Setting → List (Setting × Setting)
  | [], k, v => [(k, v)]
  | e :: es, k, v => if sameKey e.1 k then (e.1, v) :: es else e :: putEntry es k v

def pairOf : Setting → Option (Setting × Setting)
  | .list [k, v] => if k.isKey then some (k, v) else Option.none
  | .text s =>
    match s.toList with
    | [a, b] => some (.text (String.ofList [a]), .text (String.ofList [b]))
    | _ => Option.none
  | .table [(a, _), (b, _)] => some (a, b)
  | _ => Option.none

def tableOfPairs (xs : List Setting) : Option (List (Setting × Setting)) :=
  xs.foldlM (fun es x => (pairOf x).map fun (k, v) => putEntry es k v) []

example : (tableOfPairs [.list [.bool true, .text "b"], .list [.int 1, .text "c"]]).map
    (·.map (·.1.keyText)) = some ["true"] := by decide

/-- `new` converted to the kind of `old`, or `new` itself where the conversion does not
apply. Nothing is converted to the kind of `None`. -/
def convertTo (old new : Setting) : Setting :=
  match old with
  | .none => new
  | .bool _ => .bool new.truthy
  | .int _ =>
    match new with
    | .int n => .int n
    | .bool b => .int (if b then 1 else 0)
    | .real x => ((truncate x).map .int).getD new
    | .text s => ((Decimal.readInt? s).map .int).getD new
    | _ => new
  | .real _ =>
    match new with
    | .real x => .real x
    | .int n => .real (Float.ofInt n)
    | .bool b => .real (if b then 1 else 0)
    | .text s => ((Decimal.readReal? s).map .real).getD new
    | _ => new
  | .text _ => .text new.display
  | .list _ =>
    match new with
    | .text s => .list (s.toList.map fun c => .text (String.ofList [c]))
    | .list xs => .list xs
    | .table es => .list (es.map (·.1))
    | _ => new
  | .table _ =>
    match new with
    | .table es => .table es
    | .list xs => ((tableOfPairs xs).map .table).getD new
    | .text s => if s.isEmpty then .table [] else new
    | _ => new

/-- Conversions that fail outright: an infinite real has no integer, and an integer too large for a
real has no real. -/
inductive ConvertFault where
  | infiniteToInt
  | intTooLarge
  deriving Repr, DecidableEq

def ConvertFault.message : ConvertFault → String
  | .infiniteToInt => "cannot convert float infinity to integer"
  | .intTooLarge => "int too large to convert to float"

def convertFault? (old new : Setting) : Option ConvertFault :=
  match old, new with
  | .int _, .real x => if x.isInf then some .infiniteToInt else Option.none
  | .real _, .int n => if (Float.ofInt n).isInf then some .intTooLarge else Option.none
  | _, _ => Option.none

end Conch.Setting
