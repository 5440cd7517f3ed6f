import Conch.Proofs.OptionScan
import Conch.Proofs.NumeralReading
import Conch.Proofs.Triple
import Conch.Builtin.Return
/-! What `return` does with its arguments (`return_outcome`): its scan never finds a value missing
and stops at the first unknown option, so `-1` is read as a status. -/
namespace Conch.Status

theorem normalize_modEq (v : Int) : normalize v ≡ v [ZMOD 256] := by
  unfold normalize
  split
  · exact Int.mod_modEq v 256
  · rfl

theorem normalize_lt_of_neg {v : Int} (h : v < 0) : normalize v < 256 := by
  rw [normalize_of_neg h]
  exact Int.emod_lt_of_pos v (by decide)

/-- A signed 32-bit status wraps to one that is neither negative nor above the greatest. -/
theorem normalize_le_greatest {v : Int} (h : v ≤ Numeral.greatest) :
    normalize v ≤ Numeral.greatest := by
  by_cases hv : v < 0
  · have := normalize_lt_of_neg hv
    unfold Numeral.greatest
    omega
  · rw [normalize_of_nonneg (not_lt.1 hv)]
    exact h

end Conch.Status

namespace Conch.Builtin.Return

open Options

/-- The scan `return` makes of its arguments: `-h` and `--help` known, stopped at the first
unknown option. -/
def scanned (args : List String) : List Step × Scanner :=
  Options.scan "h" longOptions args .stopAt true

theorem init_valueless (args : List String) : (Scanner.init "h" longOptions args).Valueless := by
  refine ⟨fun c => ?_, fun name o ho => ?_⟩
  · have hshorts : (Scanner.init "h" longOptions args).shorts = [('h', false)] := rfl
    rw [hshorts]
    by_cases hc : c = 'h'
    · simp [hc]
    · have hne : (c == 'h') = false := by simpa using hc
      simp [List.lookup, hne]
  · have hmem : o ∈ longOptions := Scanner.matchLong_mem ho
    rw [longOptions, List.mem_singleton] at hmem
    rw [hmem]

theorem scanned_no_missing (args : List String) :
    ∀ st ∈ (scanned args).1, st.kind ≠ .missingArgument :=
  Scanner.run_valueless (init_valueless args) _ _ _

theorem find?_missing (args : List String) :
    (scanned args).1.find? (·.kind = .missingArgument) = none := by
  simpa using scanned_no_missing args

section Plan

variable {args : List String} {last : Int}

theorem plan_flagged (hf : (scanned args).1.any (·.kind = .flag) = true) :
    plan args last = .ok (.help, Help.of "return" ++ "\n", "") := by
  have hm := find?_missing args
  rcases hs : scanned args with ⟨steps, sc⟩
  rw [hs] at hm hf
  unfold plan
  rw [show Options.scan "h" longOptions args .stopAt true = scanned args from rfl, hs]
  simp only [hm, hf, if_true]

theorem plan_unflagged (hf : (scanned args).1.any (·.kind = .flag) = false) :
    ((scanned args).2.positionals = [] → plan args last = .ok (.resolved last, "", "")) ∧
    (∀ p v, (scanned args).2.positionals = [p] → Numeral.parse p = .ok v →
      plan args last = .ok (.resolved v, "", "")) ∧
    (∀ p t f, (scanned args).2.positionals = [p] → Numeral.parse p = .error (.refused t f) →
      plan args last = .ok (.invalidArgs, "", notANumber "return" p)) ∧
    (∀ p d, (scanned args).2.positionals = [p] → Numeral.parse p = .error (.tooManyDigits d) →
      plan args last = .error d) ∧
    (2 ≤ (scanned args).2.positionals.length →
      plan args last = .ok (.invalidArgs, "", tooManyArguments "return")) := by
  have hm := find?_missing args
  have hplan : plan args last = plan args last := rfl
  rcases hs : scanned args with ⟨steps, sc⟩
  rw [hs] at hm hf
  nth_rewrite 2 [plan] at hplan
  rw [show Options.scan "h" longOptions args .stopAt true = scanned args from rfl, hs] at hplan
  simp only [hm, hf, Bool.false_eq_true, if_false] at hplan
  refine ⟨fun hp => ?_, fun p v hp hv => ?_, fun p t f hp hv => ?_, fun p d hp hv => ?_,
    fun hlen => ?_⟩
  · rw [hplan, hp]
  · rw [hplan, hp]
    simp only [hv]
  · rw [hplan, hp]
    simp only [hv]
  · rw [hplan, hp]
    simp only [hv]
  · obtain ⟨a, b, rest, hps⟩ : ∃ a b rest, sc.positionals = a :: b :: rest := by
      match hps : sc.positionals, hlen with
      | a :: b :: rest, _ => exact ⟨a, b, rest, rfl⟩
    rw [hplan, hps]

end Plan

section Resolve

variable {args : List String} {w : World}

theorem run_resolve_resolved {v : Int} {out err : String}
    (h : plan args w.shell.lastStatus = .ok (.resolved v, out, err)) :
    (resolve args).run.run w = (.ok (.resolved (Status.normalize v)),
      { w with out := w.out ++ out, err := w.err ++ err,
               shell := w.shell.setFlags (unwind (decide (w.shell.depth > 0))) }) := by
  have hs : (Exec.shell).run.run w = (.ok w.shell, w) := rfl
  unfold resolve
  rw [Exec.run_bind, hs]
  dsimp only
  rw [h]
  rfl

theorem run_resolve_shown {o : Outcome} {out err : String}
    (h : plan args w.shell.lastStatus = .ok (o, out, err)) (ho : o.ok = false) :
    (resolve args).run.run w = (.ok o, { w with out := w.out ++ out, err := w.err ++ err }) := by
  have hs : (Exec.shell).run.run w = (.ok w.shell, w) := rfl
  unfold resolve
  rw [Exec.run_bind, hs]
  dsimp only
  rw [h]
  cases o with
  | resolved v => cases ho
  | help => rfl
  | invalidArgs => rfl

theorem run_resolve_fault {d : Nat} (h : plan args w.shell.lastStatus = .error d) :
    (resolve args).run.run w = (.error (.tooManyDigits d), w) := by
  have hs : (Exec.shell).run.run w = (.ok w.shell, w) := rfl
  unfold resolve
  rw [Exec.run_bind, hs]
  dsimp only
  rw [h]
  rfl

end Resolve

/-- What `return` does: help when asked for, refused arguments when there are too many or the one
given is no integer, else the given or last status, wrapped into `0 … 255`, with the flags set to
unwind; a status with too many digits is a fault. Only the resolved case changes the session, and
only its flags. -/
theorem return_outcome (args : List String) (w : World)
    (hlast : Numeral.least ≤ w.shell.lastStatus ∧ w.shell.lastStatus ≤ Numeral.greatest) :
    ((scanned args).1.any (·.kind = .flag) = true →
      (resolve args).run.run w =
        (.ok .help, { w with out := w.out ++ (Help.of "return" ++ "\n") })) ∧
    ((scanned args).1.any (·.kind = .flag) = false →
      2 ≤ (scanned args).2.positionals.length →
      (resolve args).run.run w =
        (.ok .invalidArgs, { w with err := w.err ++ tooManyArguments "return" })) ∧
    (∀ p t f, (scanned args).1.any (·.kind = .flag) = false →
      (scanned args).2.positionals = [p] → Numeral.parse p = .error (.refused t f) →
      (resolve args).run.run w =
        (.ok .invalidArgs, { w with err := w.err ++ notANumber "return" p })) ∧
    (∀ v, (scanned args).1.any (·.kind = .flag) = false →
      ((scanned args).2.positionals = [] ∧ v = w.shell.lastStatus ∨
        ∃ p, (scanned args).2.positionals = [p] ∧ Numeral.parse p = .ok v) →
      (resolve args).run.run w = (.ok (.resolved (Status.normalize v)),
        { w with shell := { w.shell with flags :=
          if 0 < w.shell.depth then { w.shell.flags with returning := true }
          else if w.shell.flags.interactive then w.shell.flags
          else { w.shell.flags with exitScript := true } } }) ∧
      0 ≤ Status.normalize v ∧ Status.normalize v ≤ Numeral.greatest ∧
      Status.normalize v ≡ v [ZMOD 256] ∧ (v < 0 → Status.normalize v < 256) ∧
      (0 ≤ v → Status.normalize v = v)) ∧
    (∀ p d, (scanned args).1.any (·.kind = .flag) = false →
      (scanned args).2.positionals = [p] → Numeral.parse p = .error (.tooManyDigits d) →
      (resolve args).run.run w = (.error (.tooManyDigits d), w)) := by
  refine ⟨fun hf => ?_, fun hf hlen => ?_, fun p t f hf hp hv => ?_, fun v hf hv => ?_,
    fun p d hf hp hv => ?_⟩
  · rw [run_resolve_shown (plan_flagged hf) rfl, String.append_empty]
  · rw [run_resolve_shown ((plan_unflagged hf).2.2.2.2 hlen) rfl, String.append_empty]
  · rw [run_resolve_shown ((plan_unflagged hf).2.2.1 p t f hp hv) rfl, String.append_empty]
  · have hrange : Numeral.least ≤ v ∧ v ≤ Numeral.greatest := by
      rcases hv with ⟨-, rfl⟩ | ⟨p, -, hv⟩
      · exact hlast
      · exact Numeral.parse_ok_bounds hv
    have hplan : plan args w.shell.lastStatus = .ok (.resolved v, "", "") := by
      rcases hv with ⟨hp, rfl⟩ | ⟨p, hp, hv⟩
      · exact (plan_unflagged hf).1 hp
      · exact (plan_unflagged hf).2.1 p v hp hv
    refine ⟨?_, Status.normalize_nonneg v, Status.normalize_le_greatest hrange.2,
      Status.normalize_modEq v, Status.normalize_lt_of_neg, Status.normalize_of_nonneg⟩
    rw [run_resolve_resolved hplan]
    simp [Shell.setFlags, unwind]
  · -- one positional word with more digits than conversion takes
    exact run_resolve_fault ((plan_unflagged hf).2.2.2.1 p d hp hv)

theorem return_minus_one_leaves_script :
    (resolve ["-1"]).run.run { shell := Shell.fresh false } =
      (.ok (.resolved 255),
        { shell := { Shell.fresh false with flags := { exitScript := true } } }) := by
  have h := ((return_outcome ["-1"] { shell := Shell.fresh false } (by decide)).2.2.2.1 (-1)
    (by decide +kernel) (.inr ⟨"-1", by decide +kernel, by decide +kernel⟩)).1
  rw [h]
  rfl

end Conch.Builtin.Return
