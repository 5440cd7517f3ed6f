/-! The shortest decimal of a double: the first digit count with a decimal among the reals that
round to it, the nearer of two, in exact arithmetic on `Nat`. -/
namespace Conch.Decimal

inductive Binary where
  /-- A finite value `(-1)^neg · m · 2^q`. -/
  | finite (neg : Bool) (m : Nat) (q : Int)
  | infinite (neg : Bool)
  | nan
  deriving Repr, DecidableEq

def Binary.ofFloat (x : Float) : Binary :=
  let bits : Nat := x.toBits.toNat
  let neg : Bool := (bits / Nat.pow 2 63) % 2 == 1
  let e : Nat := (bits / Nat.pow 2 52) % Nat.pow 2 11
  let f : Nat := bits % Nat.pow 2 52
  if e = 2047 then (if f = 0 then .infinite neg else .nan)
  else if e = 0 then .finite neg f (-1074)
  else .finite neg (f + Nat.pow 2 52) ((e : Int) - 1075)

def compareScaled (a : Nat) (s : Int) (b : Nat) (r : Int) : Ordering :=
  compare (a * Nat.pow 10 s.toNat * Nat.pow 2 (-r).toNat)
    (b * Nat.pow 2 r.toNat * Nat.pow 10 (-s).toNat)

/-- The greatest `n` with `10^n ≤ m · 2^q`, for `m > 0`: the estimate from the bit length is
off by at most one either way, and three corrections each way are allowed. -/
def floorLog10 (m : Nat) (q : Int) : Int :=
  let est : Int := ((Nat.log2 m : Int) + q) * 30103 / 100000
  let up := fun (n : Int) => if compareScaled 1 (n + 1) m q != .gt then n + 1 else n
  let down := fun (n : Int) => if compareScaled 1 n m q == .gt then n - 1 else n
  down (down (down (up (up (up est)))))

/-- Whether `c · 10^t` lies in the interval of reals that round to `m · 2^q`. -/
def rounds (m : Nat) (q : Int) (narrowBelow : Bool) (c : Nat) (t : Int) : Bool :=
  -- in units of 2^(q-2) the value is 4m, the upper end 4m + 2, the lower end 4m - 2 or,
  -- just above a power of two, 4m - 1
  let low := if narrowBelow then 4 * m - 1 else 4 * m - 2
  let high := 4 * m + 2
  let cLow := compareScaled c t low (q - 2)
  let cHigh := compareScaled c t high (q - 2)
  if m % 2 = 0 then cLow != .lt && cHigh != .gt else cLow == .gt && cHigh == .lt

/-- The decimal with `k` significant digits nearest to `m · 2^q` (at most `10^n` apart) that
rounds to it, if any: `c` with the value `c · 10^t`. -/
def candidate (m : Nat) (q : Int) (narrowBelow : Bool) (n : Int) (k : Nat) : Option (Nat × Int) :=
  let t : Int := n + 1 - k
  let num := m * Nat.pow 2 q.toNat * Nat.pow 10 (-t).toNat
  let den := Nat.pow 10 t.toNat * Nat.pow 2 (-q).toNat
  let lo := num / den
  if num % den = 0 then some (lo, t)
  else
    let inLo := rounds m q narrowBelow lo t
    let inHi := rounds m q narrowBelow (lo + 1) t
    if inLo && inHi then
      match compare (2 * num) ((2 * lo + 1) * den) with
      | .lt => some (lo, t)
      | .gt => some (lo + 1, t)
      | .eq => some (if lo % 2 = 0 then lo else lo + 1, t)
    else if inLo then some (lo, t)
    else if inHi then some (lo + 1, t)
    else none

def firstCandidate (m : Nat) (q : Int) (narrowBelow : Bool) (n : Int) :
    List Nat → Option (Nat × Int)
  | [] => none
  | k :: ks =>
    match candidate m q narrowBelow n k with
    | some r => some r
    | none => firstCandidate m q narrowBelow n ks

def stripZeros (c : Nat) (t : Int) (fuel : Nat) : Nat × Int :=
  match fuel with
  | 0 => (c, t)
  | fuel + 1 => if c ≠ 0 ∧ c % 10 = 0 then stripZeros (c / 10) (t + 1) fuel else (c, t)

/-- The shortest decimal `c · 10^t` of `m · 2^q`, with no trailing zero in `c`; seventeen
digits always suffice for a double. -/
def shortest (m : Nat) (q : Int) : Nat × Int :=
  if m = 0 then (0, 0)
  else
    let narrowBelow := m = Nat.pow 2 52 ∧ q > -1074
    let n := floorLog10 m q
    match firstCandidate m q narrowBelow n (List.range' 1 17) with
    | some (c, t) => stripZeros c t 20
    | none => (m, 0)

def digitsOf (c : Nat) : List Char := Nat.toDigits 10 c

example : shortest (2 ^ 52 + 2 ^ 51) (-52) = (15, -1) := by decide

end Conch.Decimal
