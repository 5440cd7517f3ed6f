/-! Exit statuses, named where the shell produces them, and the outcome of a builtin. -/
namespace Conch

/-- An exit status: `0` is success, every other value a failure. -/
abbrev Status := Int

namespace Status

def ok : Status := 0
def failure : Status := 1
def invalidArgs : Status := 2
def illegal : Status := 123
def notExecutable : Status := 126
def unknown : Status := 127

/-- A negative status wraps around modulo 256 (`-1` becomes `255`); others stay as they are,
however large. -/
def normalize (v : Int) : Int :=
  if v < 0 then v % 256 else v

theorem normalize_of_nonneg {v : Int} (h : 0 ≤ v) : normalize v = v := by
  simp [normalize, Int.not_lt.mpr h]

theorem normalize_of_neg {v : Int} (h : v < 0) : normalize v = v % 256 := by
  simp [normalize, h]

theorem normalize_nonneg (v : Int) : 0 ≤ normalize v := by
  unfold normalize
  split
  · exact Int.emod_nonneg v (by decide)
  · omega

example : normalize (-1) = 255 ∧ normalize (-256) = 0 ∧ normalize (-257) = 255 ∧
    normalize 300 = 300 := by decide

end Status

/-- What a builtin that reads its own options ends with. -/
inductive Outcome where
  | resolved (status : Status)
  | help
  | invalidArgs
  deriving Repr, DecidableEq

namespace Outcome

def ok : Outcome → Bool
  | .resolved _ => true
  | _ => false

/-- The status a command returns for the outcome: help succeeds and refused arguments give
`Status.invalidArgs`. -/
def exitCode : Outcome → Status
  | .resolved s => s
  | .help => Status.ok
  | .invalidArgs => Status.invalidArgs

end Outcome

end Conch
