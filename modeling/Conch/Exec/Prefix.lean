/-! The keywords in front of a command, read left to right into a `Plan`. -/
namespace Conch

/-- Where a command is looked up: anywhere, builtins only, or programs only. -/
inductive Mode where
  | any
  | builtinOnly
  | programOnly
  deriving Repr, DecidableEq

/-- How a command runs, as its keywords say. -/
structure Plan where
  negate : Bool := false
  mode : Mode := .any
  timed : Bool := false
  deriving Repr, DecidableEq

inductive PrefixStop where
  | skip (status : Int)
  | block (keyword : String)
  deriving Repr, DecidableEq

namespace Plan

/-- Reads the keywords in front of a command, given the last status. -/
def ofKeywords (last : Int) : List String → Plan → Except PrefixStop Plan
  | [], p => .ok p
  | k :: ks, p =>
    if k = "not" then ofKeywords last ks { p with negate := !p.negate }
    else if k = "and" then (if last ≠ 0 then .error (.skip last) else ofKeywords last ks p)
    else if k = "or" then (if last = 0 then .error (.skip last) else ofKeywords last ks p)
    else if k = "builtin" then ofKeywords last ks { p with mode := .builtinOnly }
    else if k = "command" then ofKeywords last ks { p with mode := .programOnly }
    else if k = "time" then ofKeywords last ks { p with timed := true }
    else .error (.block k)

/-- The status a command ends with under a plan: `not` makes a failure `0` and a success
`1`. -/
def finish (p : Plan) (code : Int) : Int :=
  if p.negate then (if code ≠ 0 then 0 else 1) else code

end Plan

end Conch
