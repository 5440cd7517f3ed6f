import Conch.Proofs.SessionSteps
import Conch.Proofs.CallStack
/-! Sessions stay consistent: in every session a host reaches, `@{status}` spells the last status,
`@{argv}` follows the call stack, and every function is stored under its own name. -/
namespace Conch

namespace Table

variable {α : Type}

theorem mem_insertEntry {k : String} {v : α} {es : List (String × α)} {e : String × α}
    (h : e ∈ insertEntry k v es) : e = (k, v) ∨ e ∈ es := by
  induction es with
  | nil => simpa [insertEntry] using h
  | cons e' es ih =>
    unfold insertEntry at h
    split at h
    · simpa using h
    · split at h
      · rcases List.mem_cons.1 h with h | h
        · exact .inl h
        · exact .inr (List.mem_cons_of_mem _ h)
      · rcases List.mem_cons.1 h with h | h
        · exact .inr (h ▸ List.mem_cons_self)
        · exact (ih h).imp_right (List.mem_cons_of_mem _)

end Table

namespace Shell

/-- What `@{argv}` holds while these calls run: the innermost call's arguments joined by spaces,
nothing outside functions. -/
def argvOf : List Frame → Option String
  | [] => none
  | f :: _ => some (" ".intercalate f.argv)

/-- Each frame saved what `@{argv}` held for the calls below it. -/
def SavedChain : List Frame → Prop
  | [] => True
  | f :: fs => f.savedArgv = argvOf fs ∧ SavedChain fs

/-- A session whose mirrors agree with what they mirror: `@{status}`, `@{argv}` and the frames'
saved values follow the status and the call stack, and every function is stored under its own
accepted name. -/
structure Consistent (s : Shell) : Prop where
  status : s.lookup "status" = some (toString s.lastStatus)
  argv : s.lookup "argv" = argvOf s.frames
  saved : SavedChain s.frames
  functions : ∀ e ∈ s.functions.entries, e.2.name = e.1 ∧ FunctionDef.Accepted e.1

theorem fresh_consistent (interactive : Bool) : Consistent (fresh interactive) where
  status := by simp [fresh, lookup]; rfl
  argv := by simp [fresh, lookup, argvOf]
  saved := trivial
  functions := by simp [fresh, Table.empty]

theorem lookup_insert_ne (s : Shell) {k j : String} (v : String) (h : j ≠ k) :
    lookup { s with vars := s.vars.insert k v } j = s.lookup j := by
  simp [lookup, h]

theorem lookup_erase_ne (s : Shell) {k j : String} (h : j ≠ k) :
    lookup { s with vars := s.vars.erase k } j = s.lookup j := by
  simp [lookup, h]

namespace Consistent

variable {s s' : Shell}

/-- Leaving a function restores what its frame saved, which the calls below left in `@{argv}`. -/
theorem pop (h : Consistent s) (hp : s.pop = some s') : Consistent s' := by
  unfold Shell.pop at hp
  split at hp
  · cases hp
  · rename_i f fs hframes
    cases hp
    have hsaved : SavedChain (f :: fs) := hframes ▸ h.saved
    have hf : f.savedArgv = argvOf fs := hsaved.1
    refine ⟨?_, ?_, hsaved.2, h.functions⟩
    · split
      · exact (lookup_insert_ne s _ (by decide)).trans h.status
      · exact (lookup_erase_ne s (by decide)).trans h.status
    · show lookup _ "argv" = argvOf fs
      split <;> simp_all [lookup]

/-- Every step of a run keeps a session consistent. -/
theorem step (h : Consistent s) (hs : Step s s') : Consistent s' := by
  cases hs with
  | setStatus v => exact ⟨lookup_setStatus s v, (Engine.lookup_argv_setStatus s v).trans h.argv,
      h.saved, h.functions⟩
  | push name argv =>
    refine ⟨(lookup_insert_ne s _ (by decide)).trans h.status, by simp [push, lookup, argvOf],
      ⟨h.argv, h.saved⟩, h.functions⟩
  | pop hp => exact h.pop hp
  | setFlags g => exact ⟨h.status, h.argv, h.saved, h.functions⟩
  | @assign k v hk =>
    -- the builtins never write `@{status}` or `@{argv}`
    have hst : "status" ≠ k := fun he => hk (he ▸ (by decide : "status" ∈ Builtin.readOnly))
    have harg : "argv" ≠ k := fun he => hk (he ▸ (by decide : "argv" ∈ Builtin.readOnly))
    exact ⟨(lookup_insert_ne s v hst).trans h.status, (lookup_insert_ne s v harg).trans h.argv,
      h.saved, h.functions⟩
  | define hf =>
    refine ⟨h.status, h.argv, h.saved, fun e he => ?_⟩
    rcases Table.mem_insertEntry he with rfl | he
    · exact ⟨rfl, hf⟩
    · exact h.functions e he
  | undefine name =>
    exact ⟨h.status, h.argv, h.saved, fun e he => h.functions e (List.mem_filter.1 he).1⟩

theorem steps (h : Consistent s) (hs : Steps s s') : Consistent s' := by
  induction hs with
  | refl => exact h
  | tail _ hst ih => exact ih.step hst

end Consistent

/-- The sessions a host reaches from a fresh one: by a run of a line, a script or a builtin,
whatever it ends with, and by entering or leaving a function itself. -/
inductive Reachable : Shell → Prop where
  | fresh (interactive : Bool) : Reachable (Shell.fresh interactive)
  | line {w : World} (line : String) :
      Reachable w.shell → Reachable ((Engine.executeLine line).run.run w).2.shell
  | script {w : World} (lines : List String) :
      Reachable w.shell → Reachable ((Engine.executeScript lines).run.run w).2.shell
  | builtin {w : World} (name : String) (args : List String) (stdin : Option String) :
      Reachable w.shell → Reachable ((Engine.callBuiltin name args stdin).run.run w).2.shell
  | push {s : Shell} (name : String) (argv : List String) : Reachable s → Reachable (s.push name argv)
  | pop {s s' : Shell} : Reachable s → s.pop = some s' → Reachable s'

theorem Reachable.consistent {s : Shell} (h : Reachable s) : Consistent s := by
  induction h with
  | fresh i => exact fresh_consistent i
  | line line _ ih => exact ih.steps ((Engine.executeLine_orderly line).run _).1
  | script lines _ ih => exact ih.steps ((Engine.executeScript_orderly lines).run _).1
  | builtin name args stdin _ ih =>
    exact ih.steps ((Engine.callBuiltin_orderly name args stdin).run _).1
  | push name argv _ ih => exact ih.step (.push _ name argv)
  | pop _ hp ih => exact ih.pop hp

/-- Every session a host reaches from a fresh one is consistent: `@{status}` spells the last status,
`@{argv}` holds the innermost call's arguments joined by spaces and is unset outside functions, each
frame saved what the frame below it showed, and every function is stored under its own name, which
is no reserved word and does not start with `-`. -/
theorem reachable_sessions_consistent {s : Shell} (h : Reachable s) :
    s.lookup "status" = some (toString s.lastStatus) ∧
    (s.frames = [] → s.lookup "argv" = none) ∧
    (∀ f fs, s.frames = f :: fs → s.lookup "argv" = some (" ".intercalate f.argv)) ∧
    SavedChain s.frames ∧
    ∀ e ∈ s.functions.entries,
      e.2.name = e.1 ∧ Keyword.isReserved e.1 = false ∧ e.1.startsWith "-" = false := by
  have hc := h.consistent
  refine ⟨hc.status, fun he => ?_, fun f fs he => ?_, hc.saved, fun e he => ?_⟩
  · simpa [he, argvOf] using hc.argv
  · simpa [he, argvOf] using hc.argv
  · obtain ⟨hname, hacc⟩ := hc.functions e he
    simp only [FunctionDef.Accepted, not_or, Bool.not_eq_true] at hacc
    exact ⟨hname, hacc⟩

theorem entered_session_consistent :
    Reachable ((fresh false).push "f" ["a", "b"]) ∧
    ((fresh false).push "f" ["a", "b"]).lookup "status" =
      some (toString ((fresh false).push "f" ["a", "b"]).lastStatus) ∧
    (((fresh false).push "f" ["a", "b"]).frames = [] →
      ((fresh false).push "f" ["a", "b"]).lookup "argv" = none) ∧
    (∀ f fs, ((fresh false).push "f" ["a", "b"]).frames = f :: fs →
      ((fresh false).push "f" ["a", "b"]).lookup "argv" = some (" ".intercalate f.argv)) ∧
    SavedChain ((fresh false).push "f" ["a", "b"]).frames ∧
    ∀ e ∈ ((fresh false).push "f" ["a", "b"]).functions.entries,
      e.2.name = e.1 ∧ Keyword.isReserved e.1 = false ∧ e.1.startsWith "-" = false :=
  ⟨.push "f" ["a", "b"] (.fresh false),
    reachable_sessions_consistent (.push "f" ["a", "b"] (.fresh false))⟩

end Shell

end Conch
