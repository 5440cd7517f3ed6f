import Conch.Proofs.OutputFrame
/-! What a pipeline stage hands on: a non-last stage's output, collected apart, is the next stage's
input on `0` and dropped otherwise, and a reference stage prints past the collecting. -/

namespace Conch

namespace Exec

variable {α : Type}

theorem run_capture_ok {act : Exec α} {w w' : World} {a : α}
    (h : act.run.run { w with out := "" } = (.ok a, w')) :
    (Exec.capture act).run.run w = (.ok (a, w'.out), { w' with out := w.out }) := by
  unfold Exec.capture
  simp only [run_bind, run_get, run_modify, run_attempt, h]
  rfl

theorem run_capture_error {act : Exec α} {w w' : World} {e : Fault}
    (h : act.run.run { w with out := "" } = (.error e, w')) :
    (Exec.capture act).run.run w = (.error e, { w' with out := w.out }) := by
  unfold Exec.capture
  simp only [run_bind, run_get, run_modify, run_attempt, h]
  rfl

theorem Appends.run_of_empty {act : Exec α} (h : Appends act) {w w₁ : World} {r : Except Fault α}
    (hr : act.run.run { w with out := "" } = (r, w₁)) (o : String) :
    act.run.run { w with out := o } = (r, { w₁ with out := o ++ w₁.out }) := by
  have hw : ({ w with out := o } : World) = World.prepend o { w with out := "" } := by
    simp [World.prepend]
  rw [hw, h o, hr]
  rfl

end Exec

@[simp] theorem Shell.flags_setStatus (s : Shell) (v : Int) : (s.setStatus v).flags = s.flags := rfl

namespace Engine

open Exec

variable {deeper : Deeper} {c : Command} {rest : List Command} {stdin : Option String}
  {last : Int} {w : World}

/-- A non-last stage whose command ends normally records its status, takes its output off the
enclosing output, and on `0` hands it on. -/
theorem run_runStages_command_ok (hroom : Roomy 7 w) (hname : VarRef.whole? c.name = none)
    (hrest : rest ≠ []) {code : Int} {w₁ : World}
    (hr : (runCommand deeper c.name (expandArgs w.shell c.name c.args) stdin true).run.run
      { w with out := "" } = (.ok code, w₁)) :
    (runStages deeper (c :: rest) stdin last).run.run w =
      if w₁.shell.flags.halted then
        (.ok (.unwind code), { w₁ with out := w.out, shell := w₁.shell.setStatus code })
      else if code ≠ 0 then
        (.ok (.next code), { w₁ with out := w.out, shell := w₁.shell.setStatus code })
      else (runStages deeper rest (some w₁.out) code).run.run
        { w₁ with out := w.out, shell := w₁.shell.setStatus code } := by
  have hempty : rest.isEmpty = false := List.isEmpty_eq_false_iff.2 hrest
  simp only [runStages]
  rw [run_bind, run_shell]
  dsimp only
  rw [run_bind, run_reach (hroom.reach (Stack.Expansion.excursion_length_le _))]
  dsimp only
  simp only [hname, hempty, Bool.false_eq_true, if_false]
  rw [run_bind, run_reach (hroom.reach (by decide))]
  dsimp only
  rw [run_bind, run_capture_ok hr]
  dsimp only
  rw [run_bind, run_setStatus]
  dsimp only
  rw [run_bind, run_flags]
  dsimp only
  rw [Shell.flags_setStatus]
  split_ifs <;> rfl

theorem run_runStages_command_error (hroom : Roomy 7 w) (hname : VarRef.whole? c.name = none)
    (hrest : rest ≠ []) {e : Fault} {w₁ : World}
    (hr : (runCommand deeper c.name (expandArgs w.shell c.name c.args) stdin true).run.run
      { w with out := "" } = (.error e, w₁)) :
    (runStages deeper (c :: rest) stdin last).run.run w = (.error e, { w₁ with out := w.out }) := by
  have hempty : rest.isEmpty = false := List.isEmpty_eq_false_iff.2 hrest
  simp only [runStages]
  rw [run_bind, run_shell]
  dsimp only
  rw [run_bind, run_reach (hroom.reach (Stack.Expansion.excursion_length_le _))]
  dsimp only
  simp only [hname, hempty, Bool.false_eq_true, if_false]
  rw [run_bind, run_reach (hroom.reach (by decide))]
  dsimp only
  rw [run_bind, run_capture_error hr]

/-- A stage `@{key}` writes the value of `key` to the enclosing output and passes its own input
on to the next stage. -/
theorem run_runStages_reference (hroom : Roomy 7 w) {key : String}
    (hname : VarRef.whole? c.name = some key) :
    (runStages deeper (c :: rest) stdin last).run.run w =
      (runStages deeper rest stdin 0).run.run
        { w with out := w.out ++ ((w.shell.lookup key).getD ("@\x7b" ++ key ++ "\x7d not set") ++ "\n"),
                 shell := w.shell.setStatus 0 } := by
  simp only [runStages]
  rw [run_bind, run_shell]
  dsimp only
  rw [run_bind, run_reach (hroom.reach (Stack.Expansion.excursion_length_le _))]
  dsimp only
  simp only [hname]
  rw [run_bind, run_reach (hroom.reach (by decide))]
  dsimp only
  rw [run_bind, Exec.say, run_modify]
  dsimp only
  rw [run_bind, run_setStatus]

/-- A program the system has runs on the stage's input and returns its status; what it writes
is printed only when the output is captured. -/
theorem run_runProgram_of_found {name : String} {args : List String} (stdin : Option String)
    (capture : Bool) {w : World} {prog : List String → String → ProgramRun}
    (hnul : ∀ a ∈ name :: args, a.contains '\x00' = false) (hprog : w.programs name = some prog) :
    (runProgram name args stdin capture).run.run w =
      (.ok (prog args (stdin.getD "")).status,
        { w with out := w.out ++ if capture then (prog args (stdin.getD "")).output else "" }) := by
  have hany : (name :: args).any (·.contains '\x00') = false :=
    List.any_eq_false.2 fun a ha => by simp [hnul a ha]
  unfold runProgram
  rw [hany]
  simp only [Bool.false_eq_true, ↓reduceIte]
  rw [run_bind_of_ok (run_world w), hprog]
  rfl

/-- For every stage but the last, with room on the stack: the command's output, the same text
wherever it runs, is the next stage's input on `0` and never reaches the enclosing output, and a
failure or fault ends the pipeline dropping it; a stage `@{key}` prints its value to the enclosing
output and hands on its own input. -/
theorem stage_hands_on_its_output (n : Nat) (c : Command) (rest : List Command)
    (stdin : Option String) (last : Int) (w : World) (hroom : Roomy 7 w) (hrest : rest ≠ []) :
    (VarRef.whole? c.name = none → ∀ r w₁,
      (runCommand (run n) c.name (expandArgs w.shell c.name c.args) stdin true).run.run
        { w with out := "" } = (r, w₁) →
      (∀ o, (runCommand (run n) c.name (expandArgs w.shell c.name c.args) stdin true).run.run
        { w with out := o } = (r, { w₁ with out := o ++ w₁.out })) ∧
      (∀ code, r = .ok code →
        (runStages (run n) (c :: rest) stdin last).run.run w =
          if w₁.shell.flags.halted then
            (.ok (.unwind code), { w₁ with out := w.out, shell := w₁.shell.setStatus code })
          else if code ≠ 0 then
            (.ok (.next code), { w₁ with out := w.out, shell := w₁.shell.setStatus code })
          else (runStages (run n) rest (some w₁.out) code).run.run
            { w₁ with out := w.out, shell := w₁.shell.setStatus code }) ∧
      (∀ e, r = .error e →
        (runStages (run n) (c :: rest) stdin last).run.run w = (.error e, { w₁ with out := w.out }))) ∧
    (∀ key, VarRef.whole? c.name = some key →
      (runStages (run n) (c :: rest) stdin last).run.run w =
        (runStages (run n) rest stdin 0).run.run
          { w with out := w.out ++ ((w.shell.lookup key).getD ("@\x7b" ++ key ++ "\x7d not set") ++ "\n"), shell := w.shell.setStatus 0 }) := by
  refine ⟨fun hname r w₁ hr => ?_, fun key hname => run_runStages_reference hroom hname⟩
  have happ :=
    runCommand_appends (run_appends n) c.name (expandArgs w.shell c.name c.args) stdin true
  refine ⟨happ.run_of_empty hr, fun code hcode => ?_, fun e he => ?_⟩
  · subst hcode
    exact run_runStages_command_ok hroom hname hrest hr
  · subst he
    exact run_runStages_command_error hroom hname hrest hr

theorem reference_stage_skips_the_pipe :
    (runStages (run nestingBudget) [⟨"@\x7b1x\x7d", [], some .pipe⟩, ⟨"echo", [], some .pipe⟩]
        (some "a\n") 0).run.run { shell := Shell.fresh false } =
      (runStages (run nestingBudget) [⟨"echo", [], some .pipe⟩] (some "a\n") 0).run.run
        { shell := (Shell.fresh false).setStatus 0, out := "@\x7b1x\x7d not set\n" } :=
  (stage_hands_on_its_output nestingBudget _ _ _ 0 _ (by unfold Roomy; decide)
    (List.cons_ne_nil _ _)).2 "1x" (by decide)

end Engine

end Conch
