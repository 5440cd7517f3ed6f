import Conch.Proofs.Footprint
/-! One rule per level of the engine that only passes control on, for any conditions that look only
at the session and the log (`Conds`); the properties of whole runs are its instances. -/
namespace Conch.Engine

open Exec

/-- The session once a function is left: its frame popped and `returning` lowered. -/
def leftShell (s : Shell) : Shell :=
  (s.pop.getD s).setFlags fun fl => { fl with returning := false }

/-- What the rules ask of the conditions: they look only at the session and the log, and `P` implies
the other two, since a level may stop before it changes anything. -/
structure Conds (P Q F : World → Prop) : Prop where
  pre : Visible P
  post : Visible Q
  fault : Visible F
  pre_post : ∀ w, P w → Q w
  pre_fault : ∀ w, P w → F w

variable {P Q F : World → Prop} {deeper : Deeper} {α : Type}

theorem Conds.frame (hc : Conds P Q F) {act : Exec α} (h : Triple P act (fun _ => Q) F) :
    Triple P (Exec.frame act) (fun _ => Q) F :=
  Triple.frame h hc.pre (fun _ => hc.post) hc.fault hc.pre_fault

theorem source_rule (hc : Conds P Q F) (hd : ∀ j, Triple P (deeper j) (fun _ => Q) F)
    (args : List String) : Triple P (source deeper args) (fun _ => Q) F := by
  unfold source
  split
  · split
    · refine Triple.bind_inv (Triple.pure fun _ h => h) fun path => ?_
      dsimp only
      split
      · exact Triple.throw_bind hc.pre_fault
      · refine Triple.world_bind_of fun v => ?_
        split
        · exact hd _
        · exact Triple.warn_pure hc.pre hc.pre_post
    · exact Triple.throw_bind hc.pre_fault
    · exact Triple.throw_bind hc.pre_fault
  · exact Triple.warn_pure hc.pre hc.pre_post

/-- A builtin other than `quit`, `return` and `source` keeps the world steady. -/
theorem runBuiltin_rule (hc : Conds P Q F)
    (hsteady : ∀ {β : Type} {act : Exec β}, KeepsSteady act → Triple P act (fun _ => Q) F)
    (hquit : Triple P Builtin.Return.quit (fun _ => Q) F)
    (hret : ∀ args, Triple P (Builtin.Return.run args) (fun _ => Q) F)
    (hd : ∀ j, Triple P (deeper j) (fun _ => Q) F) (b : Builtin) (args : List String)
    (stdin : Option String) : Triple P (runBuiltin deeper b args stdin) (fun _ => Q) F := by
  unfold runBuiltin
  refine hc.frame ?_
  cases b
  · exact hsteady (Builtin.config_keepsSteady args)
  · exact hsteady (Builtin.echo_keepsSteady args stdin)
  · exact hsteady (Builtin.runFunction_keepsSteady args)
  · exact hsteady (Builtin.runFunctions_keepsSteady args)
  · exact hsteady (Builtin.getVariable_keepsSteady args)
  · exact hsteady (Builtin.help_keepsSteady args)
  · exact hquit
  · exact hret args
  · exact hsteady (Builtin.setVariable_keepsSteady args)
  · exact source_rule hc hd args

theorem dispatch_rule (hc : Conds P Q F) {name : String} {args : List String}
    {stdin : Option String} {capture : Bool} (hlaunch : ∀ t, Triple P (Exec.launch t name args stdin) (fun _ => P) F)
    (hcall : ∀ f, Triple P (callFunction deeper f args) (fun _ => Q) F)
    (hbuiltin : ∀ b, Triple P (runBuiltin deeper b args stdin) (fun _ => Q) F)
    (hprogram : Triple P (startProgram name args stdin capture) (fun _ => Q) F) (mode : Mode) :
    Triple P (dispatch deeper name args stdin mode capture) (fun _ => Q) F := by
  unfold dispatch
  refine hc.frame (Triple.shell_bind_of fun s => ?_)
  split
  · exact Triple.bind_inv (hlaunch _) fun _ => hc.frame (hcall _)
  · split
    · exact hprogram
    · exact Triple.bind_inv (hlaunch _) fun _ =>
        hc.frame (Triple.bind_inv (Triple.reach hc.pre_fault) fun _ => hbuiltin _)
    · exact Triple.warn_pure hc.pre hc.pre_post
    · exact hprogram

theorem runCommand_rule (hc : Conds P Q F)
    (hdispatch : ∀ name args stdin mode capture,
      Triple P (dispatch deeper name args stdin mode capture) (fun _ => Q) F)
    (name : String) (args : List String) (stdin : Option String) (capture : Bool) :
    Triple P (runCommand deeper name args stdin capture) (fun _ => Q) F := by
  unfold runCommand
  refine hc.frame (Triple.bind_inv (Triple.reach hc.pre_fault) fun _ => ?_)
  dsimp only
  split
  · exact Triple.warn_pure hc.pre hc.pre_post
  · refine Triple.shell_bind_of fun s => ?_
    split
    · exact Triple.pure hc.pre_post
    · exact Triple.warn_pure hc.pre hc.pre_post
    · refine Triple.bind_inv (Triple.now hc.pre) fun started => ?_
      refine Triple.bind (hdispatch _ _ _ _ _) fun code => ?_
      split
      · exact Triple.bind (Triple.now hc.post) fun _ => Triple.warn_pure hc.post fun _ h => h
      · exact Triple.pure fun _ h => h

theorem runSequence_rule (hc : Conds P Q F)
    (hpipelines : ∀ ps last, Triple P (runPipelines deeper ps last) (fun _ => Q) F)
    (cmds : List Command) : Triple P (runSequence deeper cmds) (fun _ => Q) F := by
  unfold runSequence
  refine hc.frame ?_
  split
  · exact Triple.shell_bind_of fun _ => Triple.pure hc.pre_post
  · exact hpipelines _ 0

theorem runLine_rule (hc : Conds P Q F)
    (hsequence : ∀ cmds, Triple P (runSequence deeper cmds) (fun _ => Q) F) (line : String) :
    Triple P (runLine deeper line) (fun _ => Q) F := by
  unfold runLine
  -- naming the excursion keeps elaboration from evaluating the line's trimming
  generalize readingOf line = x
  exact hc.frame (Triple.bind_inv (Triple.reach hc.pre_fault) fun _ => hsequence _)

/-! The loops over the stages of a pipeline, the pipelines of a line and the lines of a script
keep a property that recording a status and each command, pipeline or line keep. -/

theorem runStages_rule (hc : Conds P P F) (hstatus : ∀ v, Triple P (Exec.setStatus v) (fun _ => P) F)
    (hcommand : ∀ name args stdin capture,
      Triple P (runCommand deeper name args stdin capture) (fun _ => P) F)
    (cs : List Command) (stdin : Option String) (st : Int) :
    Triple P (runStages deeper cs stdin st) (fun _ => P) F := by
  induction cs generalizing stdin st with
  | nil => exact Triple.pure fun _ h => h
  | cons c rest ih =>
    simp only [runStages]
    refine Triple.shell_bind_of fun s => Triple.bind_inv (Triple.reach hc.pre_fault) fun _ => ?_
    split
    · exact Triple.bind_inv (Triple.reach hc.pre_fault) fun _ =>
        Triple.bind_inv (Triple.say hc.pre) fun _ => Triple.bind_inv (hstatus 0) fun _ => ih _ _
    · split
      · refine Triple.bind_inv (hcommand _ _ _ _) fun code =>
          Triple.bind_inv (hstatus code) fun _ =>
            Triple.flags_bind fun fl => Triple.pure fun _ h => h.1
      · refine Triple.bind_inv (Triple.reach hc.pre_fault) fun _ => ?_
        refine Triple.bind_inv ((hcommand _ _ _ _).capture hc.pre (fun _ => hc.pre) hc.fault)
          fun r => ?_
        refine Triple.bind_inv (hstatus _) fun _ => Triple.flags_bind fun fl => ?_
        split
        · exact Triple.pure fun _ h => h.1
        · split
          · exact Triple.pure fun _ h => h.1
          · exact (ih _ _).conseq (fun _ h => h.1) (fun _ _ h => h) (fun _ h => h)

theorem runPipelines_rule
    (hstages : ∀ cs stdin st, Triple P (runStages deeper cs stdin st) (fun _ => P) F)
    (ps : List (List Command)) (last : Int) :
    Triple P (runPipelines deeper ps last) (fun _ => P) F := by
  induction ps generalizing last with
  | nil => exact Triple.pure fun _ h => h
  | cons p ps ih =>
    rcases p with _ | ⟨c, stages⟩
    · exact ih last
    · simp only [runPipelines]
      split
      · exact ih last
      · refine Triple.bind_inv (hstages _ _ _) fun r => ?_
        rcases r with code | code
        · exact ih code
        · exact Triple.pure fun _ h => h

theorem runLines_rule (hline : ∀ line, Triple P (runLine deeper line) (fun _ => P) F)
    (lines : List String) (st : Int) : Triple P (runLines deeper lines st) (fun _ => P) F := by
  induction lines generalizing st with
  | nil => exact Triple.pure fun _ h => h
  | cons l ls ih =>
    simp only [runLines]
    split
    · exact ih st
    · refine Triple.bind_inv (hline _) fun st' => Triple.flags_bind fun fl => ?_
      split
      · exact Triple.pure fun _ h => h.1
      · exact (ih st').conseq (fun _ h => h.1) (fun _ _ h => h) (fun _ h => h)

/-- Leaving a function pops its frame and lowers `returning`, possibly stopping at a fault on the
way. -/
theorem leave_rule {p q : World → Prop} (hp : Visible p) (hq : Visible q) :
    Triple (fun w => p { w with shell := leftShell w.shell } ∧ q w ∧
        q { w with shell := w.shell.pop.getD w.shell })
      (Exec.frame (do
        Exec.modifyShell fun s => s.pop.getD s
        Exec.reach Stack.logging) >>= fun _ =>
        Exec.modifyFlags fun fl => { fl with returning := false })
      (fun _ => p) q := by
  have hin := (hp.comp leftShell).and (hq.and (hq.comp fun s => s.pop.getD s))
  have hpopped := (hp.comp fun s => s.setFlags fun fl => { fl with returning := false }).and hq
  refine Triple.bind (Triple.frame ?_ hin (fun _ => hpopped) hq fun _ h => h.2.1) fun _ =>
    Triple.modifyShell fun _ h => h.1
  exact Triple.bind (Triple.modifyShell fun _ h => ⟨h.1, h.2.2⟩) fun _ =>
    Triple.reach fun _ h => h.2

end Conch.Engine
