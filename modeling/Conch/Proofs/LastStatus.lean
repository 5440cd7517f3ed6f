import Conch.Proofs.Pipelines
/-! What a command list returns: the status recorded last, except that a non-empty list whose every
pipeline is led by `||` starts from `0`, skips them all and returns `0`. -/
namespace Conch.Engine

open Exec

def Flow.status : Flow → Int
  | .next st => st
  | .unwind st => st

/-- Every pipeline of a non-empty command list is led by `||`. -/
def OrLed (cmds : List Command) : Prop :=
  cmds ≠ [] ∧ ∀ p ∈ pipelines cmds, ∀ c ∈ p.head?, c.joint = some .onFailure

theorem skips_zero_iff (c : Command) : Reference.Skips c 0 ↔ c.joint = some .onFailure := by
  simp [Reference.Skips]

theorem setStatus_records {pre fault : World → Prop} (v : Int) :
    Triple pre (Exec.setStatus v) (fun _ w => w.shell.lastStatus = v) fault :=
  Triple.modifyShell fun _ _ => rfl

/-- A pipeline ends with a status that `R` holds of, for any `R` that recording a status
establishes. -/
theorem runStages_ends_with {R : Int → World → Prop}
    (hR : ∀ {pre fault : World → Prop} (v : Int),
      Triple pre (Exec.setStatus v) (fun _ => R v) fault)
    (deeper : Deeper) (cs : List Command) (stdin : Option String) (st : Int) :
    Triple (fun w => cs = [] → R st w) (runStages deeper cs stdin st)
      (fun f w => R f.status w) (fun _ => True) := by
  induction cs generalizing stdin st with
  | nil => exact Triple.pure fun _ h => h rfl
  | cons c rest ih =>
    simp only [runStages]
    refine Triple.shell_bind_of fun s => Triple.bind Triple.trivial fun _ => ?_
    split
    · refine Triple.bind Triple.trivial fun _ => Triple.bind Triple.trivial fun _ => ?_
      exact Triple.bind (hR 0) fun _ => (ih _ _).conseq (fun _ h _ => h)
        (fun _ _ h => h) (fun _ h => h)
    · split
      · refine Triple.bind Triple.trivial fun code => ?_
        refine Triple.bind (hR code) fun _ => Triple.flags_bind fun fl => ?_
        refine Triple.pure fun _ h => ?_
        cases fl.halted <;> exact h.1
      · refine Triple.bind Triple.trivial fun _ => Triple.bind Triple.trivial fun r => ?_
        refine Triple.bind (hR _) fun _ => Triple.flags_bind fun fl => ?_
        split
        · exact Triple.pure fun _ h => h.1
        · split
          · exact Triple.pure fun _ h => h.1
          · exact (ih _ _).conseq (fun _ h _ => h.1) (fun _ _ h => h) (fun _ h => h)

/-- A pipeline returns the status it recorded last; an empty one returns the status it was
given. -/
theorem runStages_status (deeper : Deeper) (cs : List Command) (stdin : Option String) (st : Int) :
    Triple (fun w => cs = [] → w.shell.lastStatus = st) (runStages deeper cs stdin st)
      (fun r w => r.status = w.shell.lastStatus) (fun _ => True) :=
  (runStages_ends_with (R := fun v w => w.shell.lastStatus = v) (fun v => setStatus_records v)
    deeper cs stdin st).conseq (fun _ h => h) (fun _ _ h => h.symm) (fun _ h => h)

theorem runPipelines_skipped (deeper : Deeper) {ps : List (List Command)} {last : Int}
    (h : ∀ p ∈ ps, ∀ c ∈ p.head?, Reference.Skips c last) :
    runPipelines deeper ps last = pure last := by
  induction ps with
  | nil => rfl
  | cons p ps ih =>
    have hps : ∀ p ∈ ps, ∀ c ∈ p.head?, Reference.Skips c last :=
      fun p hp => h p (List.mem_cons_of_mem _ hp)
    rcases p with _ | ⟨c, stages⟩
    · simp only [runPipelines]
      exact ih hps
    · have hc : Reference.Skips c last := h _ List.mem_cons_self c rfl
      unfold Reference.Skips at hc
      simp only [runPipelines]
      rw [if_pos hc]
      exact ih hps

theorem runPipelines_status (deeper : Deeper) (ps : List (List Command)) (last : Int) :
    Triple (fun w => w.shell.lastStatus = last) (runPipelines deeper ps last)
      (fun r w => r = w.shell.lastStatus) (fun _ => True) := by
  induction ps generalizing last with
  | nil => exact Triple.pure fun _ h => h.symm
  | cons p ps ih =>
    rcases p with _ | ⟨c, stages⟩
    · exact ih last
    · simp only [runPipelines]
      split
      · exact ih last
      · refine Triple.bind ((runStages_status deeper _ none last).conseq
          (fun _ _ h => absurd h (List.cons_ne_nil _ _)) (fun _ _ h => h) (fun _ h => h)) fun r => ?_
        rcases r with code | code
        · exact (ih code).conseq (fun _ h => h.symm) (fun _ _ h => h) (fun _ h => h)
        · exact Triple.pure fun _ h => h

/-- Once a pipeline runs, the pipelines return the status recorded last, whatever status they
were given. -/
theorem runPipelines_status_of_runs (deeper : Deeper) {ps : List (List Command)} {last : Int}
    (h : ∃ p ∈ ps, ∃ c ∈ p.head?, ¬Reference.Skips c last) :
    Triple (fun _ => True) (runPipelines deeper ps last)
      (fun r w => r = w.shell.lastStatus) (fun _ => True) := by
  induction ps with
  | nil => simp at h
  | cons p ps ih =>
    rcases p with _ | ⟨c, stages⟩
    · -- an empty pipeline has no head, so the one that runs comes later
      have hps : ∃ p ∈ ps, ∃ c ∈ p.head?, ¬Reference.Skips c last := by simpa using h
      simp only [runPipelines]
      exact ih hps
    · simp only [runPipelines]
      split
      · rename_i hc
        have hps : ∃ p ∈ ps, ∃ c ∈ p.head?, ¬Reference.Skips c last := by
          obtain ⟨p, hp, c', hc', hs⟩ := h
          rcases List.mem_cons.1 hp with rfl | hp
          · cases hc'
            exact absurd hc hs
          · exact ⟨p, hp, c', hc', hs⟩
        exact ih hps
      · refine Triple.bind ((runStages_status deeper _ none last).conseq
          (fun _ _ h => absurd h (List.cons_ne_nil _ _)) (fun _ _ h => h) (fun _ h => h)) fun r => ?_
        rcases r with code | code
        · exact (runPipelines_status deeper ps code).conseq (fun _ h => h.symm) (fun _ _ h => h)
            (fun _ h => h)
        · exact Triple.pure fun _ h => h

theorem frame_pure {α : Type} (a : α) (w : World) :
    Triple (· = w) (Exec.frame (Pure.pure a : Exec α)) (fun r w' => r = a ∧ w' = w)
      (fun _ => True) := by
  unfold Exec.frame
  have hentered : Triple (· = w) (modify fun v => { v with stack := v.stack + 1 } : Exec PUnit)
      (fun _ v => v = { w with stack := w.stack + 1 }) (fun _ => True) :=
    Triple.modify fun _ h => by rw [h]
  have hleft : ∀ b : α, Triple (fun v => b = a ∧ v = { w with stack := w.stack + 1 })
      (modify fun v => { v with stack := v.stack - 1 } : Exec PUnit)
      (fun _ v => b = a ∧ v = w) (fun _ => True) :=
    fun _ => Triple.modify fun _ h => ⟨h.1, by rw [h.2]; simp⟩
  refine Triple.bind (Triple.reach fun _ _ => trivial) fun _ => Triple.bind hentered fun _ => ?_
  exact Triple.ensuring (Triple.pure fun _ h => ⟨rfl, h⟩) hleft
    (Triple.trivial : Triple (fun _ => True) _ _ _)

theorem runSequence_records (deeper : Deeper) {cmds : List Command} (h : ¬OrLed cmds) :
    Triple (fun _ => True) (runSequence deeper cmds) (fun r w => r = w.shell.lastStatus)
      (fun _ => True) := by
  have htrue : Visible (fun _ => True) := fun _ _ _ _ h => h
  unfold runSequence
  refine Triple.frame ?_ htrue (fun r _ _ hs _ h => hs ▸ h) htrue fun _ h => h
  split
  · exact Triple.shell_bind fun _ => Triple.pure fun _ h => congrArg Shell.lastStatus h.2.symm
  · rename_i hne
    have hruns : ∃ p ∈ pipelines cmds, ∃ c ∈ p.head?, ¬Reference.Skips c 0 := by
      have hcmds : cmds ≠ [] := fun hc => hne (hc ▸ rfl)
      simpa [OrLed, hcmds, skips_zero_iff] using h
    exact runPipelines_status_of_runs deeper hruns

theorem runSequence_orLed (deeper : Deeper) {cmds : List Command} (h : OrLed cmds) :
    runSequence deeper cmds = Exec.frame (Pure.pure 0) := by
  have hskips : ∀ p ∈ pipelines cmds, ∀ c ∈ p.head?, Reference.Skips c 0 :=
    fun p hp c hc => (skips_zero_iff c).2 (h.2 p hp c hc)
  have hempty : cmds.isEmpty = false := List.isEmpty_eq_false_iff.2 h.1
  simp [runSequence, hempty, runPipelines_skipped deeper hskips]

/-- A command list returns the status it recorded last, except a non-empty list whose every pipeline
is led by `||`: from the status `0` a list starts from, each is skipped, and `0` comes back while
the recorded status stays. -/
theorem runSequence_status (deeper : Deeper) (cmds : List Command) {w w' : World} {r : Int}
    (hr : (runSequence deeper cmds).run.run w = (.ok r, w')) :
    (OrLed cmds → r = 0 ∧ w' = w) ∧ (¬OrLed cmds → r = w'.shell.lastStatus) := by
  by_cases h : OrLed cmds
  · refine ⟨fun _ => ?_, fun hn => absurd h hn⟩
    rw [runSequence_orLed deeper h] at hr
    exact (frame_pure 0 w).post_of_ok rfl hr
  · exact ⟨fun hn => absurd hn h, fun _ => (runSequence_records deeper h).post_of_ok trivial hr⟩

theorem or_led_list_returns_zero :
    (runSequence (run nestingBudget) (CommandLine.parse "|| echo x")).run.run
        { shell := (Shell.fresh false).setStatus 3 } =
      (.ok 0, { shell := (Shell.fresh false).setStatus 3 }) ∧
    (OrLed (CommandLine.parse "|| echo x") →
      (0 : Int) = 0 ∧ ({ shell := (Shell.fresh false).setStatus 3 } : World) =
        { shell := (Shell.fresh false).setStatus 3 }) ∧
    (¬OrLed (CommandLine.parse "|| echo x") →
      (0 : Int) = ((Shell.fresh false).setStatus 3).lastStatus) :=
  ⟨rfl, runSequence_status (run nestingBudget) (CommandLine.parse "|| echo x") rfl⟩

end Conch.Engine
