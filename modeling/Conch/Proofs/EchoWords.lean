import Conch.Builtin.Echo
import Mathlib.Data.List.DropRight
/-! What `echo` prints and returns: it reads its words left to right into kept words and `--code N`
pairs (`Reads`). -/
namespace Conch.Builtin.Echo

/-- Whether `echo` keeps `w` before `rest`: every word but `--code`, and `--code` when nothing
follows it or the next word is refused as a number. -/
def Keeps (w : String) (rest : List String) : Prop :=
  w ≠ "--code" ∨ rest = [] ∨
    ∃ v more t f, rest = v :: more ∧ Numeral.parse v = .error (.refused t f)

/-- How `echo` reads its words: the kept words and the numbers of the `--code N` pairs, or the digit
count of the first number with more digits than conversion takes. -/
inductive Reads : List String → Except Nat (List String × List Int) → Prop
  | nil : Reads [] (.ok ([], []))
  | pair {v : String} {n : Int} {rest : List String} {r : Except Nat (List String × List Int)} :
      Numeral.parse v = .ok n → Reads rest r →
      Reads ("--code" :: v :: rest) (r.map (Prod.map id (n :: ·)))
  | overlong {v : String} {d : Nat} {rest : List String} :
      Numeral.parse v = .error (.tooManyDigits d) → Reads ("--code" :: v :: rest) (.error d)
  | keep {w : String} {rest : List String} {r : Except Nat (List String × List Int)} :
      Keeps w rest → Reads rest r → Reads (w :: rest) (r.map (Prod.map (w :: ·) id))

/-- What `echo` prints before its line feed: the kept words joined by spaces, or its input without
its last line feeds when it keeps none. -/
def shown (ws : List String) (stdin : Option String) : String :=
  if ws = [] then String.ofList ((stdin.getD "").toList.rdropWhile (· = '\n'))
  else " ".intercalate ws

theorem text_eq_shown (ws : List String) (stdin : Option String) :
    text ws stdin = shown ws stdin := by
  cases ws <;> simp [text, shown, List.rdropWhile]

theorem scan_cons_of_keeps {w : String} {rest : List String} (h : Keeps w rest) :
    scan (w :: rest) = (scan rest).map (Prod.map (w :: ·) id) := by
  by_cases hw : w = "--code"
  · subst hw
    rcases h with h | rfl | ⟨v, more, t, f, rfl, hv⟩
    · exact absurd rfl h
    · rfl
    · -- a refused number: `--code` is kept and the number read on its own
      rw [scan.eq_2, hv]
      rcases scan (v :: more) with _ | ⟨ws, c⟩ <;> rfl
  · rw [scan.eq_3 _ _ fun _ _ h _ => hw h]
    rcases scan rest with _ | ⟨ws, c⟩ <;> rfl

theorem scan_eq_of_reads {args : List String} {r : Except Nat (List String × List Int)}
    (h : Reads args r) : scan args = r.map (Prod.map id List.getLast?) := by
  induction h with
  | nil => rfl
  | @pair v n rest r hv _ ih =>
    rw [scan.eq_2, hv]
    dsimp only
    rw [ih]
    rcases r with _ | ⟨ws, ns⟩
    · rfl
    · simp [Except.map, List.getLast?_cons]
  | overlong hv =>
    rw [scan.eq_2, hv]
    rfl
  | @keep w rest r hk _ ih =>
    rw [scan_cons_of_keeps hk, ih]
    rcases r with _ | ⟨ws, ns⟩ <;> rfl

theorem reads_exists (args : List String) : ∃ r, Reads args r := by
  -- on the length: a pair takes two words at once
  induction hn : args.length using Nat.strong_induction_on generalizing args with
  | _ n ih =>
    rcases args with _ | ⟨w, _ | ⟨v, more⟩⟩
    · exact ⟨_, .nil⟩
    · exact ⟨_, .keep (.inr (.inl rfl)) .nil⟩
    · have hmore : more.length < n := by
        simp only [← hn, List.length_cons]
        omega
      have hnext : (v :: more).length < n := by
        simp only [← hn, List.length_cons]
        omega
      obtain ⟨r, hr⟩ := ih _ hnext (v :: more) rfl
      by_cases hw : w = "--code"
      · subst hw
        rcases hv : Numeral.parse v with (⟨t, f⟩ | d) | m
        · exact ⟨_, .keep (.inr (.inr ⟨v, more, t, f, rfl, hv⟩)) hr⟩
        · exact ⟨_, .overlong hv⟩
        · obtain ⟨r', hr'⟩ := ih _ hmore more rfl
          exact ⟨_, .pair hv hr'⟩
      · exact ⟨_, .keep (.inl hw) hr⟩

theorem run_of_scan (args : List String) (stdin : Option String) (w : World) :
    (∀ ws c, scan args = .ok (ws, c) →
      (run args stdin).run.run w = (.ok (c.getD 0), { w with out := w.out ++ (text ws stdin ++ "\n") })) ∧
    (∀ d, scan args = .error d → (run args stdin).run.run w = (.error (.tooManyDigits d), w)) :=
  ⟨fun ws c h => by rw [run, h]; rfl, fun d h => by rw [run, h]; rfl⟩

/-- Every list of words is read as `Reads` says, and `echo` prints `shown` and a line feed and
returns the last pair's number, `0` without one; a number with more digits than conversion takes
ends it with the conversion's fault, printing nothing. -/
theorem echo_reads_its_words (args : List String) (stdin : Option String) (w : World) :
    (∃ r, Reads args r) ∧
    (∀ ws ns, Reads args (.ok (ws, ns)) →
      (run args stdin).run.run w =
        (.ok (ns.getLast?.getD 0), { w with out := w.out ++ (shown ws stdin ++ "\n") })) ∧
    (∀ d, Reads args (.error d) →
      (run args stdin).run.run w = (.error (.tooManyDigits d), w)) := by
  obtain ⟨hok, herr⟩ := run_of_scan args stdin w
  refine ⟨reads_exists args, fun ws ns h => ?_, fun d h => herr d (scan_eq_of_reads h)⟩
  rw [hok ws ns.getLast? (scan_eq_of_reads h), text_eq_shown]

end Conch.Builtin.Echo
