import Conch.Proofs.SessionSteps
import Conch.Proofs.Invariant
/-! Every run ends by the shell's own limits, with never more than `maxFunctionDepth` calls running:
each level of nesting takes at least four frames of the machine's stack, so the nesting budget never
decides how a run ends (`run_agree`). -/
namespace Conch.Engine

open Exec

/-! ## The depth of calls -/

theorem depth_pop_getD_le (s : Shell) : (s.pop.getD s).depth ≤ s.depth := by
  unfold Shell.pop
  split
  · exact Nat.le_refl _
  · rename_i f fs h
    simp [Shell.depth, h]

theorem depth_leftShell_le (s : Shell) : (leftShell s).depth ≤ s.depth :=
  depth_pop_getD_le s

/-- Never more than `maxFunctionDepth` calls run, if no more ran at the start. -/
def depthBound : Invariant where
  holds w₀ w := w₀.shell.depth ≤ maxFunctionDepth → w.shell.depth ≤ maxFunctionDepth
  faulted w₀ w := w₀.shell.depth ≤ maxFunctionDepth → w.shell.depth ≤ maxFunctionDepth
  refl _ := id
  faulted_of_holds h := h
  settled h hs _ h₀ := by simpa only [Shell.depth, hs.1] using h h₀
  faulted_settled h hs _ h₀ := by simpa only [Shell.depth, hs.1] using h h₀
  launch _ h := h
  setStatus _ h := h
  raise h hs _ _ h₀ := by simpa only [Shell.depth, hs.1] using h h₀
  enter _ _ _ hd _ := hd
  leave _ _ _ hd hb _ h _ := Nat.le_trans (depth_leftShell_le _) (h (hb ▸ hd))
  leave_faulted _ _ _ hd hb _ h :=
    ⟨fun _ => Nat.le_trans (depth_leftShell_le _) (h (hb ▸ hd)), fun _ => h (hb ▸ hd),
      fun _ => Nat.le_trans (depth_pop_getD_le _) (h (hb ▸ hd))⟩

end Conch.Engine

namespace Conch.Exec

/-! ## Runs alike on a cramped stack -/

/-- The worlds whose machine stack has at most `r` frames of room left. -/
def Cramped (r : Nat) (w : World) : Prop := Stack.limit ≤ w.stack + r

theorem Cramped.mono {r r' : Nat} (h : r ≤ r') {w : World} (hw : Cramped r w) : Cramped r' w := by
  unfold Cramped at *
  omega

theorem cramped_frame {r : Nat} (w : World) (h : Cramped (r + 1) w) :
    Cramped r { w with stack := w.stack + 1 } := by
  unfold Cramped at *
  show Stack.limit ≤ w.stack + 1 + r
  omega

variable {α β : Type}

theorem Orderly.cramped {act : Exec α} (h : Orderly act) (r : Nat) :
    Triple (Cramped r) act (fun _ => Cramped r) (fun _ => True) := by
  intro w hw
  have hk := (h.run w).2
  rcases hx : act.run.run w with ⟨_ | a, w'⟩ <;> rw [hx] at hk
  · trivial
  · show Stack.limit ≤ w'.stack + r
    rw [hk]
    exact hw

theorem run_reach {x : Stack.Excursion} {w : World} (h : w.stack + x.length ≤ Stack.limit) :
    (Exec.reach x).run.run w = (.ok (), w) := by
  have hb : x.blocked? (Stack.limit - w.stack) = none := by
    simp only [Stack.Excursion.blocked?, List.getElem?_eq_none_iff]
    omega
  simp only [Exec.reach, run_bind, run_get, hb]
  rfl

theorem run_reach_blocked {x : Stack.Excursion} {w : World} {e : Stack.Edge}
    (h : x.blocked? (Stack.limit - w.stack) = some e) :
    (Exec.reach x).run.run w = (.error (.tooDeep e), w) := by
  simp only [Exec.reach, run_bind, run_get, h]
  rfl

namespace Agree

variable {pre : World → Prop}

theorem get_bind {f g : World → Exec β} (h : ∀ v, Agree pre (f v) (g v)) :
    Agree pre (get >>= f) (get >>= g) := by
  have hget : Triple pre (get : Exec World) (fun v w => pre w ∧ w = v) fun _ => True :=
    Triple.get fun _ h => ⟨h, rfl⟩
  exact Agree.bind (Agree.refl _ _) hget fun v => (h v).mono fun _ h => h.1

theorem shell_bind {f g : Shell → Exec β} (h : ∀ s, Agree pre (f s) (g s)) :
    Agree pre (Exec.shell >>= f) (Exec.shell >>= g) :=
  Agree.bind (Agree.refl _ _) Triple.shell_read fun s => (h s).mono fun _ h => h.1

theorem frame_deeper {pre' : World → Prop} {a b : Exec α} (h : Agree pre' a b)
    (hp : ∀ w, pre w → pre' { w with stack := w.stack + 1 }) :
    Agree pre (Exec.frame a) (Exec.frame b) := by
  have henter : Triple pre (modify fun w => { w with stack := w.stack + 1 } : Exec PUnit)
      (fun _ => pre') fun _ => True := Triple.modify hp
  unfold Exec.frame Exec.ensuring
  refine Agree.bind (Agree.refl _ _) (Triple.reach fun _ _ => trivial) fun _ => ?_
  refine Agree.bind (Agree.refl _ _) henter fun _ => ?_
  exact Agree.bind h.attempt Triple.trivial fun _ => Agree.refl _ _

theorem frame_cramped {r : Nat} {a b : Exec α} (h : Agree (Cramped r) a b) :
    Agree (Cramped (r + 1)) (Exec.frame a) (Exec.frame b) :=
  frame_deeper h cramped_frame

theorem capture {a b : Exec α} (h : Agree pre a b) (hp : ∀ w, pre w → pre { w with out := "" }) :
    Agree pre (Exec.capture a) (Exec.capture b) := by
  have hclear : Triple pre (modify fun w => { w with out := "" } : Exec PUnit) (fun _ => pre)
      fun _ => True := Triple.modify hp
  unfold Exec.capture
  refine get_bind fun _ => Agree.bind (Agree.refl _ _) hclear fun _ => ?_
  exact Agree.bind h.attempt Triple.trivial fun _ => Agree.refl _ _

theorem symm {a b : Exec α} (h : Agree pre a b) : Agree pre b a := fun w hw => (h w hw).symm

theorem ensuring {a b : Exec α} {cleanup : Exec Unit} (h : Agree pre a b) :
    Agree pre (Exec.ensuring a cleanup) (Exec.ensuring b cleanup) := by
  unfold Exec.ensuring
  exact Agree.bind h.attempt Triple.trivial fun _ => Agree.refl _ _

end Agree

end Conch.Exec

namespace Conch.Engine

open Exec

variable {α : Type} {d₁ d₂ : Deeper} {r : Nat}

section Levels

variable (hd : ∀ j, Agree (Cramped r) (d₁ j) (d₂ j))
include hd

theorem source_agree (args : List String) :
    Agree (Cramped r) (source d₁ args) (source d₂ args) := by
  unfold source
  split
  · split
    · simp only [pure_bind]
      split
      · exact Agree.refl _ _
      · refine Agree.get_bind fun v => ?_
        split
        · exact hd _
        · exact Agree.refl _ _
    · exact Agree.refl _ _
    · exact Agree.refl _ _
  · exact Agree.refl _ _

theorem runBuiltin_agree (b : Builtin) (args : List String) (stdin : Option String) :
    Agree (Cramped (r + 1)) (runBuiltin d₁ b args stdin) (runBuiltin d₂ b args stdin) := by
  unfold runBuiltin
  refine Agree.frame_cramped ?_
  cases b
  case source => exact source_agree hd args
  all_goals exact Agree.refl _ _

theorem callFunction_agree (f : FunctionDef) (args : List String) :
    Agree (Cramped r) (callFunction d₁ f args) (callFunction d₂ f args) := by
  unfold callFunction
  refine Agree.bind (Agree.refl _ _) ((Orderly.reach _).cramped r) fun _ => ?_
  refine Agree.shell_bind fun s => ?_
  split
  · exact Agree.refl _ _
  · generalize readingOf f.body = x
    refine Agree.bind (Agree.refl _ _) ((Orderly.reach _).cramped r) fun _ => ?_
    have henter := (Orderly.frame ((Orderly.reach Stack.makingCallFrame).bind fun _ =>
      (Orderly.modifyShell fun s => .single (.push s f.name args)).bind fun _ =>
        Orderly.reach Stack.logging)).cramped r
    exact Agree.bind (Agree.refl _ _) henter fun _ => (hd _).ensuring

theorem dispatch_agree (name : String) (args : List String) (stdin : Option String) (mode : Mode)
    (capture : Bool) :
    Agree (Cramped (r + 2)) (dispatch d₁ name args stdin mode capture)
      (dispatch d₂ name args stdin mode capture) := by
  unfold dispatch
  refine Agree.frame_cramped (Agree.shell_bind fun s => ?_)
  split
  · refine Agree.bind (Agree.refl _ _) ((Orderly.launch _ _ _ _).cramped _) fun _ => ?_
    exact Agree.frame_cramped (callFunction_agree hd _ _)
  · split
    · exact Agree.refl _ _
    · refine Agree.bind (Agree.refl _ _) ((Orderly.launch _ _ _ _).cramped _) fun _ => ?_
      refine Agree.frame_cramped ?_
      exact Agree.bind (Agree.refl _ _) ((Orderly.reach _).cramped _) fun _ =>
        (runBuiltin_agree hd _ _ _).mono fun _ h => h.mono (Nat.le_succ r)
    · exact Agree.refl _ _
    · exact Agree.refl _ _

theorem runCommand_agree (name : String) (args : List String) (stdin : Option String)
    (capture : Bool) :
    Agree (Cramped (r + 3)) (runCommand d₁ name args stdin capture)
      (runCommand d₂ name args stdin capture) := by
  unfold runCommand
  refine Agree.frame_cramped ?_
  refine Agree.bind (Agree.refl _ _) ((Orderly.reach _).cramped _) fun _ => ?_
  dsimp only
  split
  · exact Agree.refl _ _
  · refine Agree.shell_bind fun s => ?_
    split
    · exact Agree.refl _ _
    · exact Agree.refl _ _
    · refine Agree.bind (Agree.refl _ _) (Orderly.now.cramped _) fun _ => ?_
      exact Agree.bind (dispatch_agree hd _ _ _ _ _) Triple.trivial fun _ => Agree.refl _ _

variable (ho : ∀ j, Orderly (d₁ j))
include ho

theorem runStages_agree_deeper (cs : List Command) (stdin : Option String) (st : Int) :
    Agree (Cramped (r + 3)) (runStages d₁ cs stdin st) (runStages d₂ cs stdin st) := by
  induction cs generalizing stdin st with
  | nil => exact Agree.refl _ _
  | cons c rest ih =>
    simp only [runStages]
    refine Agree.shell_bind fun s => ?_
    refine Agree.bind (Agree.refl _ _) ((Orderly.reach _).cramped _) fun _ => ?_
    split
    · refine Agree.bind (Agree.refl _ _) ((Orderly.reach _).cramped _) fun _ => ?_
      refine Agree.bind (Agree.refl _ _) ((Orderly.say _).cramped _) fun _ => ?_
      exact Agree.bind (Agree.refl _ _) ((Orderly.setStatus _).cramped _) fun _ => ih _ _
    · split
      · exact Agree.bind (runCommand_agree hd _ _ _ _) Triple.trivial fun _ => Agree.refl _ _
      · refine Agree.bind (Agree.refl _ _) ((Orderly.reach _).cramped _) fun _ => ?_
        refine Agree.bind ((runCommand_agree hd _ _ _ _).capture fun _ h => h)
          ((runCommand_orderly ho _ _ _ _).capture.cramped _) fun _ => ?_
        refine Agree.bind (Agree.refl _ _) ((Orderly.setStatus _).cramped _) fun _ => ?_
        refine Agree.bind (Agree.refl _ _) (Triple.flags_read) fun fl => ?_
        split
        · exact Agree.refl _ _
        · split
          · exact Agree.refl _ _
          · exact (ih _ _).mono fun _ h => h.1

theorem runPipelines_agree_deeper (ps : List (List Command)) (last : Int) :
    Agree (Cramped (r + 3)) (runPipelines d₁ ps last) (runPipelines d₂ ps last) := by
  induction ps generalizing last with
  | nil => exact Agree.refl _ _
  | cons p ps ih =>
    rcases p with _ | ⟨c, stages⟩
    · exact ih last
    · simp only [runPipelines]
      split
      · exact ih last
      · refine Agree.bind (runStages_agree_deeper hd ho _ _ _)
          ((runStages_orderly ho _ _ _).cramped _) fun flow => ?_
        rcases flow with code | code
        · exact ih code
        · exact Agree.refl _ _

theorem runSequence_agree_deeper (cmds : List Command) :
    Agree (Cramped (r + 4)) (runSequence d₁ cmds) (runSequence d₂ cmds) := by
  unfold runSequence
  refine Agree.frame_cramped ?_
  split
  · exact Agree.refl _ _
  · exact runPipelines_agree_deeper hd ho _ _

theorem runLine_agree_deeper (line : String) :
    Agree (Cramped (r + 5)) (runLine d₁ line) (runLine d₂ line) := by
  unfold runLine
  generalize readingOf line = x
  exact Agree.frame_cramped (Agree.bind (Agree.refl _ _) ((Orderly.reach _).cramped _) fun _ =>
    runSequence_agree_deeper hd ho _)

theorem runLines_agree_deeper (lines : List String) (st : Int) :
    Agree (Cramped (r + 5)) (runLines d₁ lines st) (runLines d₂ lines st) := by
  induction lines generalizing st with
  | nil => exact Agree.refl _ _
  | cons l ls ih =>
    simp only [runLines]
    split
    · exact ih st
    · refine Agree.bind (runLine_agree_deeper hd ho _) ((runLine_orderly ho _).cramped _)
        fun st' => Agree.bind (Agree.refl _ _) Triple.flags_read fun fl => ?_
      split
      · exact Agree.refl _ _
      · exact (ih st').mono fun _ h => h.1

theorem runScript_agree_deeper (lines : List String) :
    Agree (Cramped (r + 6)) (runScript d₁ lines) (runScript d₂ lines) := by
  unfold runScript
  refine Agree.frame_cramped (Agree.shell_bind fun s => ?_)
  dsimp only
  exact Agree.bind (Agree.refl _ _) ((Orderly.modifyFlags _).cramped _) fun _ =>
    (runLines_agree_deeper hd ho _ _).ensuring

end Levels

theorem frame_full {act : Exec α} (w : World) (h : Stack.limit ≤ w.stack) :
    (Exec.frame act).run.run w = (.error (.tooDeep .frame), w) := by
  have hblocked : Stack.Excursion.blocked? [.frame] (Stack.limit - w.stack) = some .frame := by
    have hfree : Stack.limit - w.stack = 0 := by omega
    rw [hfree]
    rfl
  unfold Exec.frame
  rw [run_bind, run_reach_blocked hblocked]

theorem run_zero_agree (m : Nat) (j : Job) : Agree (Cramped 0) (run 0 j) (run m j) := by
  intro w hw
  rcases m with _ | m
  · rfl
  · have hfull : Stack.limit ≤ w.stack := hw
    rcases j with cmds | lines
    · exact (frame_full w hfull).symm
    · exact (frame_full w hfull).symm

/-- A budget of `n` levels runs as every larger budget wherever the stack has at most `4 n` frames
of room: each level takes at least four frames before the next begins. -/
theorem run_agree : ∀ (n m : Nat), n ≤ m → ∀ j, Agree (Cramped (4 * n)) (run n j) (run m j)
  | 0, m, _, j => run_zero_agree m j
  | n + 1, m + 1, h, j => by
    have hd : ∀ j, Agree (Cramped (4 * n)) (run n j) (run m j) :=
      run_agree n m (Nat.le_of_succ_le_succ h)
    rcases j with cmds | lines
    · exact runSequence_agree_deeper hd (run_orderly n) cmds
    · exact (runScript_agree_deeper hd (run_orderly n) lines).mono fun _ hw => hw.mono (by omega)

/-- Budgets that both cover the stack four frames a level run every job alike, from every world. -/
theorem run_budgets_agree {n m : Nat} (hn : Stack.limit ≤ 4 * n) (hm : Stack.limit ≤ 4 * m)
    (j : Job) : Agree (fun _ => True) (run n j) (run m j) := by
  have roomy : ∀ k, Stack.limit ≤ 4 * k → ∀ w, Cramped (4 * k) w := fun k hk w => by
    unfold Cramped
    omega
  rcases Nat.le_total n m with h | h
  · exact (run_agree n m h j).mono fun w _ => roomy n hn w
  · exact ((run_agree m n h j).mono fun w _ => roomy m hm w).symm

theorem nestingBudget_covers_stack : Stack.limit ≤ 4 * nestingBudget := by decide

theorem runLine_runScript_budget {n : Nat} (hn : Stack.limit ≤ 4 * n) (line : String)
    (lines : List String) (w : World) :
    (runLine (run n) line).run.run w = (executeLine line).run.run w ∧
    (runScript (run n) lines).run.run w = (executeScript lines).run.run w := by
  have hd : ∀ j, Agree (Cramped Stack.limit) (run n j) (run nestingBudget j) := fun j =>
    (run_budgets_agree hn nestingBudget_covers_stack j).mono fun _ _ => trivial
  have hroom : ∀ k, Cramped (Stack.limit + k) w := fun k => by
    unfold Cramped
    omega
  exact ⟨runLine_agree_deeper hd (run_orderly n) line w (hroom 5),
    runScript_agree_deeper hd (run_orderly n) lines w (hroom 6)⟩

/-- An action that keeps the depth bound ends, at a result or at a fault, with no more than
`maxFunctionDepth` calls running if no more ran at its start. -/
theorem depth_le_of_keeps {act : Exec α} (h : Keeps depthBound act) {w : World}
    (hw : w.shell.depth ≤ maxFunctionDepth) : (act.run.run w).2.shell.depth ≤ maxFunctionDepth := by
  have hend := h w w (depthBound.refl w)
  rcases hr : act.run.run w with ⟨_ | a, w'⟩ <;> rw [hr] at hend <;> exact hend hw

/-- Every run ends by the shell's own limits: a command line or a script runs with every budget that
covers the stack four frames a level as with the shell's, and a run started with at most
`maxFunctionDepth` calls running ends with at most that many, at a result or at a fault, as does
every body, file and builtin run within it. -/
theorem runs_end_within_limits (line : String) (lines : List String) (w : World)
    (hw : w.shell.depth ≤ maxFunctionDepth) :
    (∀ n, Stack.limit ≤ 4 * n →
      (runLine (run n) line).run.run w = (executeLine line).run.run w ∧
      (runScript (run n) lines).run.run w = (executeScript lines).run.run w) ∧
    ((executeLine line).run.run w).2.shell.depth ≤ maxFunctionDepth ∧
    ((executeScript lines).run.run w).2.shell.depth ≤ maxFunctionDepth ∧
    (∀ n j (v : World), v.shell.depth ≤ maxFunctionDepth →
      ((run n j).run.run v).2.shell.depth ≤ maxFunctionDepth) ∧
    ∀ n b args stdin (v : World), v.shell.depth ≤ maxFunctionDepth →
      ((runBuiltin (run n) b args stdin).run.run v).2.shell.depth ≤ maxFunctionDepth := by
  have hrun := run_keeps depthBound
  refine ⟨fun n hn => runLine_runScript_budget hn line lines w, ?_, ?_, ?_, ?_⟩
  · exact depth_le_of_keeps (runLine_keeps (hrun nestingBudget) line) hw
  · exact depth_le_of_keeps (runScript_keeps (hrun nestingBudget) lines) hw
  · exact fun n j v hv => depth_le_of_keeps (hrun n j) hv
  · exact fun n b args stdin v hv => depth_le_of_keeps (runBuiltin_keeps (hrun n) b args stdin) hv

theorem self_sourcing_ends_alike :
    (Shell.fresh false).depth ≤ maxFunctionDepth ∧ Stack.limit ≤ 4 * 1024 ∧
    (runLine (run 1024) "source a").run.run
        { shell := Shell.fresh false, files := FileTree.ofList [("a", "source a")] } =
      (executeLine "source a").run.run
        { shell := Shell.fresh false, files := FileTree.ofList [("a", "source a")] } :=
  ⟨by decide, by decide,
    ((runs_end_within_limits "source a" []
      { shell := Shell.fresh false, files := FileTree.ofList [("a", "source a")] }
      (by decide)).1 1024 (by decide)).1⟩

end Conch.Engine
