import Conch.Proofs.EngineRules
/-! Nothing starts while a run unwinds: after `quit` or a `return`, the commands that follow are
never started, at any depth of pipelines, calls and sourced files
(`nothing_starts_while_unwinding`). -/
namespace Conch.Engine

open Exec

/-- The log `ls` is `L` followed by commands started while every flag was lowered. -/
def CalmSince (L ls : Array Launch) : Prop :=
  ∃ new : List Launch, ls.toList = L.toList ++ new ∧ ∀ l ∈ new, l.flags.halted = false

theorem calmSince_refl (L : Array Launch) : CalmSince L L := ⟨[], by simp, by simp⟩

theorem CalmSince.push {L ls : Array Launch} (h : CalmSince L ls) {l : Launch}
    (hl : l.flags.halted = false) : CalmSince L (ls.push l) := by
  obtain ⟨new, hls, hnew⟩ := h
  refine ⟨new ++ [l], by simp [hls], fun l' hl' => ?_⟩
  rcases List.mem_append.1 hl' with h | h
  · exact hnew l' h
  · rw [List.mem_singleton.1 h]
    exact hl

/-- A world whose log is calm since `L` and whose flags are all lowered. -/
def Calm (L : Array Launch) (w : World) : Prop :=
  CalmSince L w.launches ∧ w.shell.flags.halted = false

/-- Started with every flag lowered, `act` starts commands only while every flag is lowered. -/
def StartsCalmly {α : Type} (act : Exec α) : Prop :=
  ∀ L, Triple (Calm L) act (fun _ w => CalmSince L w.launches) (fun w => CalmSince L w.launches)

theorem calm_visible (L : Array Launch) : Visible (Calm L) := by
  intro w w' hs hl h
  rwa [Calm, hs, hl]

theorem calmSince_visible (L : Array Launch) : Visible (fun w => CalmSince L w.launches) := by
  intro w w' _ hl h
  rwa [hl]

theorem calmConds (L : Array Launch) :
    Conds (Calm L) (fun w => CalmSince L w.launches) (fun w => CalmSince L w.launches) :=
  ⟨calm_visible L, calmSince_visible L, calmSince_visible L, fun _ h => h.1, fun _ h => h.1⟩

variable {α : Type} {act : Exec α}

theorem calm_of_keepsSteady (h : KeepsSteady act) (L : Array Launch) :
    Triple (Calm L) act (fun _ => Calm L) (Calm L) := by
  refine Triple.of_start fun w₀ hw₀ => (h w₀).conseq (fun _ hw => hw ▸ Steady.refl w₀) ?_ ?_
  · intro _ w ⟨⟨_, _, _, hl⟩, hfl⟩
    exact ⟨hl ▸ hw₀.1, hfl ▸ hw₀.2⟩
  · intro w ⟨⟨_, _, _, hl⟩, hfl⟩
    exact ⟨hl ▸ hw₀.1, hfl ▸ hw₀.2⟩

theorem StartsCalmly.of_keepsSteady (h : KeepsSteady act) : StartsCalmly act := fun L =>
  (calm_of_keepsSteady h L).conseq (fun _ h => h) (fun _ _ h => h.1) (fun _ h => h.1)

theorem StartsCalmly.of_settled (h : ∀ w₀, Triple (Steady w₀) act (fun _ => Settled w₀) (Steady w₀)) :
    StartsCalmly act := by
  intro L
  refine Triple.of_start fun w₀ hw₀ => (h w₀).conseq (fun _ hw => hw ▸ Steady.refl w₀) ?_ ?_
  · intro _ w ⟨_, _, _, hl⟩
    exact hl ▸ hw₀.1
  · intro w ⟨⟨_, _, _, hl⟩, _⟩
    exact hl ▸ hw₀.1

theorem StartsCalmly.frame (h : StartsCalmly act) : StartsCalmly (Exec.frame act) := fun L =>
  Triple.frame (h L) (calm_visible L) (fun _ => calmSince_visible L) (calmSince_visible L)
    fun _ hw => hw.1

theorem calm_launch (L : Array Launch) (t : Target) (name : String) (args : List String)
    (stdin : Option String) :
    Triple (Calm L) (Exec.launch t name args stdin) (fun _ => Calm L) (Calm L) :=
  Triple.modify fun _ hw => ⟨hw.1.push hw.2, hw.2⟩

theorem calmSince_modifyShell (L : Array Launch) (f : Shell → Shell) :
    Triple (fun w => CalmSince L w.launches) (Exec.modifyShell f)
      (fun _ w => CalmSince L w.launches) (fun w => CalmSince L w.launches) :=
  Triple.modifyShell fun _ h => h

variable {deeper : Deeper}

theorem startProgram_calm (L : Array Launch) (name : String) (args : List String)
    (stdin : Option String) (capture : Bool) :
    Triple (Calm L) (startProgram name args stdin capture) (fun _ => Calm L) (Calm L) := by
  unfold startProgram
  refine Triple.bind (calm_launch L _ _ _ _) fun _ => ?_
  refine Triple.frame ?_ (calm_visible L) (fun _ => calm_visible L) (calm_visible L) fun _ h => h
  exact Triple.bind_inv (Triple.reach fun _ h => h) fun _ =>
    calm_of_keepsSteady (runProgram_keepsSteady _ _ _ _) L

theorem runBuiltin_calm (hd : ∀ j, StartsCalmly (deeper j)) (b : Builtin) (args : List String)
    (stdin : Option String) : StartsCalmly (runBuiltin deeper b args stdin) := by
  have hquit : StartsCalmly Builtin.Return.quit := .of_settled fun w₀ =>
    (Builtin.quit_settled w₀).conseq (fun _ h => h) (fun _ _ h => h.1) (fun _ h => h)
  have hret : ∀ args, StartsCalmly (Builtin.Return.run args) := fun args => .of_settled fun w₀ =>
    (Builtin.return_settled args w₀).conseq (fun _ h => h) (fun _ _ h => h.1) (fun _ h => h)
  exact fun L => runBuiltin_rule (calmConds L) (fun h => StartsCalmly.of_keepsSteady h L) (hquit L)
    (fun args => hret args L) (fun j => hd j L) b args stdin

theorem calmSince_leave (L : Array Launch) :
    Triple (fun w => CalmSince L w.launches)
      (Exec.frame (do
        Exec.modifyShell fun s => s.pop.getD s
        Exec.reach Stack.logging) >>= fun _ =>
        Exec.modifyFlags fun fl => { fl with returning := false })
      (fun _ w => CalmSince L w.launches) (fun w => CalmSince L w.launches) := by
  exact (leave_rule (calmSince_visible L) (calmSince_visible L)).conseq (fun _ h => ⟨h, h, h⟩)
    (fun _ _ h => h) (fun _ h => h)

theorem callFunction_calm (hd : ∀ j, StartsCalmly (deeper j)) (f : FunctionDef)
    (args : List String) : StartsCalmly (callFunction deeper f args) := by
  intro L
  unfold callFunction
  refine Triple.bind_inv (Triple.reach fun _ h => h.1) fun _ => Triple.shell_bind_of fun s => ?_
  dsimp only
  split
  · exact Triple.warn_pure (calm_visible L) fun _ h => h.1
  · generalize readingOf f.body = x
    refine Triple.bind_inv (Triple.reach fun _ h => h.1) fun _ => Triple.bind_inv ?_ fun _ => ?_
    · refine Triple.frame ?_ (calm_visible L) (fun _ => calm_visible L) (calmSince_visible L)
        fun _ h => h.1
      refine Triple.bind_inv (Triple.reach fun _ h => h.1) fun _ =>
        Triple.bind_inv (Triple.modifyShell fun _ h => h) fun _ => Triple.reach fun _ h => h.1
    · exact Triple.ensuring (hd _ L) (fun _ => calmSince_leave L) (calmSince_leave L)

theorem dispatch_calm (hd : ∀ j, StartsCalmly (deeper j)) (name : String) (args : List String)
    (stdin : Option String) (mode : Mode) (capture : Bool) :
    StartsCalmly (dispatch deeper name args stdin mode capture) := fun L =>
  dispatch_rule (calmConds L)
    (fun t => (calm_launch L t name args stdin).conseq (fun _ h => h) (fun _ _ h => h)
      (fun _ h => h.1))
    (fun f => callFunction_calm hd f args L) (fun b => runBuiltin_calm hd b args stdin L)
    ((startProgram_calm L name args stdin capture).conseq (fun _ h => h) (fun _ _ h => h.1)
      (fun _ h => h.1)) mode

theorem runCommand_calm (hd : ∀ j, StartsCalmly (deeper j)) (name : String)
    (args : List String) (stdin : Option String) (capture : Bool) :
    StartsCalmly (runCommand deeper name args stdin capture) := fun L =>
  runCommand_rule (calmConds L) (fun _ _ _ _ _ => dispatch_calm hd _ _ _ _ _ L) name args stdin
    capture

/-- A pipeline that ends normally ends with every flag lowered: the flags are checked after each
command, and a reference changes none. -/
theorem runStages_next_lowered (deeper : Deeper) (cs : List Command) (stdin : Option String)
    (st : Int) :
    Triple (fun w => w.shell.flags.halted = false) (runStages deeper cs stdin st)
      (fun r w => ∀ c, r = .next c → w.shell.flags.halted = false) (fun _ => True) := by
  induction cs generalizing stdin st with
  | nil => exact Triple.pure fun _ h _ _ => h
  | cons c rest ih =>
    simp only [runStages]
    refine Triple.shell_bind_of fun s => Triple.bind_inv (Triple.reach fun _ _ => trivial) fun _ => ?_
    split
    · exact Triple.bind_inv (Triple.reach fun _ _ => trivial) fun _ =>
        Triple.bind_inv (Triple.say fun _ _ hs _ h => hs ▸ h) fun _ =>
          Triple.bind_inv (Triple.modifyShell fun _ h => h) fun _ => ih _ _
    · have hvis : Visible (fun _ => True) := fun _ _ _ _ _ => True.intro
      split
      · refine Triple.bind Triple.trivial fun code => Triple.bind Triple.trivial fun _ =>
          Triple.flags_bind fun fl => Triple.pure fun w hw c hc => ?_
        obtain ⟨_, hfl⟩ := hw
        cases h : fl.halted
        · rw [hfl, h]
        · simp [h] at hc
      · refine Triple.bind Triple.trivial fun _ => Triple.bind (Triple.capture Triple.trivial hvis
          (fun _ => hvis) hvis) fun r => Triple.bind Triple.trivial fun _ => ?_
        refine Triple.flags_bind fun fl => ?_
        split
        · exact Triple.pure fun _ _ c hc => by cases hc
        · rename_i hfl
          split
          · exact Triple.pure fun w h _ _ => h.2 ▸ eq_false_of_ne_true hfl
          · exact (ih _ _).conseq (fun w h => h.2 ▸ eq_false_of_ne_true hfl) (fun _ _ h => h)
              (fun _ h => h)

theorem runStages_calm (hd : ∀ j, StartsCalmly (deeper j)) (cs : List Command)
    (stdin : Option String) (st : Int) : StartsCalmly (runStages deeper cs stdin st) := by
  intro L
  induction cs generalizing stdin st with
  | nil => exact Triple.pure fun _ h => h.1
  | cons c rest ih =>
    simp only [runStages]
    refine Triple.shell_bind_of fun s => Triple.bind_inv (Triple.reach fun _ h => h.1) fun _ => ?_
    split
    · exact Triple.bind_inv (Triple.reach fun _ h => h.1) fun _ =>
        Triple.bind_inv (Triple.say (calm_visible L)) fun _ =>
          Triple.bind_inv (Triple.modifyShell fun _ h => h) fun _ => ih _ _
    · split
      · refine Triple.bind (runCommand_calm hd _ _ _ _ L) fun code =>
          Triple.bind (calmSince_modifyShell L _) fun _ =>
            Triple.flags_bind fun fl => Triple.pure fun _ h => h.1
      · refine Triple.bind_inv (Triple.reach fun _ h => h.1) fun _ => ?_
        refine Triple.bind (Triple.capture (runCommand_calm hd _ _ _ _ L) (calm_visible L)
          (fun _ => calmSince_visible L) (calmSince_visible L)) fun r => ?_
        refine Triple.bind (calmSince_modifyShell L _) fun _ => Triple.flags_bind fun fl => ?_
        split
        · exact Triple.pure fun _ h => h.1
        · rename_i hfl
          split
          · exact Triple.pure fun _ h => h.1
          · exact (ih _ _).conseq (fun w h => ⟨h.1, h.2 ▸ eq_false_of_ne_true hfl⟩)
              (fun _ _ h => h) (fun _ h => h)

theorem runStages_calm_next (hd : ∀ j, StartsCalmly (deeper j)) (cs : List Command)
    (stdin : Option String) (st : Int) (L : Array Launch) :
    Triple (Calm L) (runStages deeper cs stdin st)
      (fun r w => CalmSince L w.launches ∧ ∀ c, r = .next c → w.shell.flags.halted = false)
      (fun w => CalmSince L w.launches) :=
  ((runStages_calm hd cs stdin st L).and (runStages_next_lowered deeper cs stdin st)).conseq
    (fun _ h => ⟨h, h.2⟩) (fun _ _ h => h) (fun _ h => h.1)

theorem runPipelines_calm (hd : ∀ j, StartsCalmly (deeper j)) (ps : List (List Command))
    (last : Int) : StartsCalmly (runPipelines deeper ps last) := by
  intro L
  induction ps generalizing last with
  | nil => exact Triple.pure fun _ h => h.1
  | cons p ps ih =>
    rcases p with _ | ⟨c, stages⟩
    · exact ih last
    · simp only [runPipelines]
      split
      · exact ih last
      · refine Triple.bind (runStages_calm_next hd _ _ _ L) fun r => ?_
        rcases r with code | code
        · exact (ih code).conseq (fun _ h => ⟨h.1, h.2 code rfl⟩) (fun _ _ h => h) (fun _ h => h)
        · exact Triple.pure fun _ h => h.1

theorem runSequence_calm (hd : ∀ j, StartsCalmly (deeper j)) (cmds : List Command) :
    StartsCalmly (runSequence deeper cmds) := fun L =>
  runSequence_rule (calmConds L) (fun _ _ => runPipelines_calm hd _ _ L) cmds

theorem runLine_calm (hd : ∀ j, StartsCalmly (deeper j)) (line : String) :
    StartsCalmly (runLine deeper line) := fun L =>
  runLine_rule (calmConds L) (fun _ => runSequence_calm hd _ L) line

theorem runLines_calm (hd : ∀ j, StartsCalmly (deeper j)) (lines : List String) (st : Int) :
    StartsCalmly (runLines deeper lines st) := by
  intro L
  induction lines generalizing st with
  | nil => exact Triple.pure fun _ h => h.1
  | cons l ls ih =>
    simp only [runLines]
    split
    · exact ih st
    · refine Triple.bind (runLine_calm hd _ L) fun st' => Triple.flags_bind fun fl => ?_
      split
      · exact Triple.pure fun _ h => h.1
      · rename_i hfl
        exact (ih st').conseq (fun w h => ⟨h.1, h.2 ▸ eq_false_of_ne_true hfl⟩)
          (fun _ _ h => h) (fun _ h => h)

theorem runScript_calm (hd : ∀ j, StartsCalmly (deeper j)) (lines : List String) :
    StartsCalmly (runScript deeper lines) := by
  unfold runScript
  refine StartsCalmly.frame fun L => Triple.shell_bind_of fun s => ?_
  refine Triple.bind_inv (Triple.modifyShell fun w h => ⟨h.1, ?_⟩) fun _ => ?_
  · simpa [Shell.setFlags, Flags.halted] using h.2
  · exact Triple.ensuring (runLines_calm hd _ _ L) (fun _ => calmSince_modifyShell L _)
      (calmSince_modifyShell L _)

theorem run_calm : ∀ n j, StartsCalmly (run n j)
  | 0, _ => fun _ => Triple.throw fun _ h => h.1
  | n + 1, .commands cmds => runSequence_calm (run_calm n) cmds
  | n + 1, .script lines => runScript_calm (run_calm n) lines

/-- A command line or a script run with every flag lowered starts a function, a builtin or a
program only while every flag is lowered: the log of started commands grows only by commands
started with `quit`, `returning` and `exitScript` all lowered, whether the run ends with a status
or with a fault. -/
theorem nothing_starts_while_unwinding (w : World) (hw : w.shell.flags.halted = false) :
    (∀ line, ∃ new, ((executeLine line).run.run w).2.launches.toList = w.launches.toList ++ new ∧
      ∀ l ∈ new, l.flags.halted = false) ∧
    (∀ lines, ∃ new, ((executeScript lines).run.run w).2.launches.toList =
      w.launches.toList ++ new ∧ ∀ l ∈ new, l.flags.halted = false) := by
  have hcalm : Calm w.launches w := ⟨calmSince_refl _, hw⟩
  constructor
  · intro line
    have h := runLine_calm (run_calm nestingBudget) line w.launches w hcalm
    unfold executeLine
    rcases hr : (runLine (run nestingBudget) line).run.run w with ⟨_ | _, w'⟩ <;> rw [hr] at h <;>
      exact h
  · intro lines
    have h := runScript_calm (run_calm nestingBudget) lines w.launches w hcalm
    unfold executeScript
    rcases hr : (runScript (run nestingBudget) lines).run.run w with ⟨_ | _, w'⟩ <;> rw [hr] at h <;>
      exact h

theorem nothing_starts_after_quit :
    (Shell.fresh false).flags.halted = false ∧
    ∃ new, ((executeLine "quit ; echo a").run.run { shell := Shell.fresh false }).2.launches.toList =
      new ∧ ∀ l ∈ new, l.flags.halted = false :=
  ⟨rfl, (nothing_starts_while_unwinding { shell := Shell.fresh false } rfl).1 "quit ; echo a"⟩

end Conch.Engine
