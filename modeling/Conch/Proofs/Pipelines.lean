import Conch.Proofs.Unwind
import Mathlib.Data.List.SplitBy
/-! Command lists run pipeline by pipeline, as the reference here reads them: pipelines skipped
whole by `&&` and `||`, stages run left to right, and a raised flag ending the list
(`runSequence_eq_reference`). -/
namespace Conch.Engine

def continues (_ c : Command) : Bool := c.joint == some .pipe

theorem flatten_pipelines (cmds : List Command) : (pipelines cmds).flatten = cmds := by
  induction cmds with
  | nil => rfl
  | cons c cs ih =>
    simp only [pipelines]
    split
    · rename_i d ds ps h
      rw [h] at ih
      split <;> simpa using ih
    · simpa using ih

theorem nil_not_mem_pipelines (cmds : List Command) : [] ∉ pipelines cmds := by
  induction cmds with
  | nil => simp [pipelines]
  | cons c cs ih =>
    simp only [pipelines]
    split
    · rename_i d ds ps h
      rw [h] at ih
      split <;> simpa using ih
    · simpa using ih

theorem isChain_of_mem_pipelines {cmds : List Command} {p : List Command}
    (hp : p ∈ pipelines cmds) : p.IsChain fun x y => continues x y := by
  induction cmds generalizing p with
  | nil => simp [pipelines] at hp
  | cons c cs ih =>
    simp only [pipelines] at hp
    split at hp
    · rename_i d ds ps h
      rw [h] at ih
      split at hp
      · rename_i hd
        rcases List.mem_cons.1 hp with rfl | hp
        · exact List.isChain_cons_cons.2 ⟨by simp [continues, hd], ih List.mem_cons_self⟩
        · exact ih (List.mem_cons_of_mem _ hp)
      · rcases List.mem_cons.1 hp with rfl | hp
        · exact List.isChain_singleton c
        · exact ih hp
    · rcases List.mem_cons.1 hp with rfl | hp
      · exact List.isChain_singleton c
      · exact ih hp

theorem pipelines_heads (cmds : List Command) :
    (pipelines cmds).IsChain fun a b => ∃ ha hb, continues (a.getLast ha) (b.head hb) = false := by
  induction cmds with
  | nil => exact List.isChain_nil
  | cons c cs ih =>
    simp only [pipelines]
    split
    · rename_i d ds ps h
      rw [h] at ih
      split
      · rw [List.isChain_cons] at ih ⊢
        refine ⟨fun y hy => ?_, ih.2⟩
        obtain ⟨_, hb, hy'⟩ := ih.1 y hy
        exact ⟨List.cons_ne_nil _ _, hb, by simpa [continues] using hy'⟩
      · rename_i hd
        exact List.isChain_cons_cons.2
          ⟨⟨List.cons_ne_nil _ _, List.cons_ne_nil _ _, by simp [continues, hd]⟩, ih⟩
    · rename_i h
      rcases hp : pipelines cs with _ | ⟨_ | ⟨d, ds⟩, ps⟩
      · exact List.isChain_singleton _
      · exact absurd (hp ▸ List.mem_cons_self) (nil_not_mem_pipelines cs)
      · exact absurd hp (h d ds ps)

/-- The pipelines of a command list are its longest runs of commands joined by `|`. -/
theorem pipelines_eq_splitBy (cmds : List Command) : pipelines cmds = cmds.splitBy continues :=
  (List.splitBy_eq_iff.2 ⟨(flatten_pipelines cmds).symm, nil_not_mem_pipelines cmds,
    fun _ hp => isChain_of_mem_pipelines hp, pipelines_heads cmds⟩).symm

namespace Reference

/-- Whether the operator in front of a pipeline skips it after the status `st`: `&&` after a
failure, `||` after a success. -/
def Skips (c : Command) (st : Int) : Prop :=
  (c.joint = some .onSuccess ∧ st ≠ 0) ∨ (c.joint = some .onFailure ∧ st = 0)

instance (c : Command) (st : Int) : Decidable (Skips c st) :=
  inferInstanceAs (Decidable ((_ ∧ _) ∨ (_ ∧ _)))

/-- One stage, given what the stage before handed on and whether it is the last: its status and what
it hands on. -/
def stage (deeper : Deeper) (c : Command) (stdin : Option String) (last : Bool) :
    Exec (Int × Option String) := do
  let s ← Exec.shell
  Exec.reach (expansionOf c.name c.args).excursion
  let args := expandArgs s c.name c.args
  match VarRef.whole? c.name with
  | some key =>
    Exec.reach Stack.lookingUp
    Exec.say ((s.lookup key).getD ("@\x7b" ++ key ++ "\x7d not set") ++ "\n")
    return (0, stdin)
  | none =>
    if last then return (← runCommand deeper c.name args stdin false, none)
    else
      Exec.reach Stack.capturingOutput
      let (code, piped) ← Exec.capture (runCommand deeper c.name args stdin true)
      return (code, some piped)

/-- The stages of a pipeline, left to right: each sets the status; a raised flag ends the list,
a failing stage that is not the last ends the pipeline. -/
def stages (deeper : Deeper) : List Command → Option String → Int → Exec Flow
  | [], _, st => return .next st
  | c :: rest, stdin, _ => do
    let (st, out) ← stage deeper c stdin rest.isEmpty
    Exec.setStatus st
    if (← Exec.flags).halted then return .unwind st
    if st ≠ 0 ∧ rest ≠ [] then return .next st
    stages deeper rest out st

def pipelines (deeper : Deeper) : List (List Command) → Int → Exec Int
  | [], st => return st
  | [] :: ps, st => pipelines deeper ps st
  | (c :: cs) :: ps, st =>
    if Skips c st then pipelines deeper ps st
    else do
      match ← stages deeper (c :: cs) none st with
      | .unwind st' => return st'
      | .next st' => pipelines deeper ps st'

/-- A command list: the recorded status when it is empty, else its pipelines from status `0`. -/
def sequence (deeper : Deeper) (cmds : List Command) : Exec Int :=
  if cmds = [] then return (← Exec.shell).lastStatus
  else pipelines deeper (cmds.splitBy continues) 0

end Reference

open Exec

theorem lowered_visible : Visible fun w => w.shell.flags.halted = false := by
  intro w w' hs _ h
  rw [hs]
  exact h

theorem agree_flags_lowered {β : Type} {a b c : Exec β}
    (h : Agree (fun w => w.shell.flags.halted = false) a c) :
    Agree (fun w => w.shell.flags.halted = false) a
      (Exec.flags >>= fun fl => if fl.halted then b else c) := by
  intro w hw
  rw [h w hw, run_bind]
  show _ = (if w.shell.flags.halted then b else c).run.run w
  rw [hw]
  rfl

theorem setStatus_lowered (v : Int) :
    Triple (fun w => w.shell.flags.halted = false) (Exec.setStatus v)
      (fun _ w => w.shell.flags.halted = false) fun _ => True :=
  Triple.modifyShell fun _ h => h

theorem runStages_agree (deeper : Deeper) (cs : List Command) (stdin : Option String) (st : Int) :
    Agree (fun w => w.shell.flags.halted = false) (runStages deeper cs stdin st)
      (Reference.stages deeper cs stdin st) := by
  induction cs generalizing stdin st with
  | nil => exact Agree.refl _ _
  | cons c rest ih =>
    simp only [runStages, Reference.stages, Reference.stage, bind_assoc]
    refine Agree.bind (Agree.refl _ _) Triple.shell_read fun s => ?_
    refine Agree.bind (Agree.refl _ _) (Triple.reach fun _ _ => True.intro) fun _ => ?_
    rcases hv : VarRef.whole? c.name with _ | key
    · dsimp only
      refine Agree.mono ?_ fun _ _ => True.intro
      rcases rest with _ | ⟨d, rest⟩
      · simp only [List.isEmpty_nil, if_true, bind_assoc, pure_bind]
        refine Agree.bind (Agree.refl _ _) Triple.trivial fun code => ?_
        refine Agree.bind (Agree.refl _ _) Triple.trivial fun _ => ?_
        refine Agree.bind (Agree.refl _ _) Triple.trivial fun fl => ?_
        cases fl.halted <;> simp [Reference.stages] <;> exact Agree.refl _ _
      · simp only [List.isEmpty_cons, Bool.false_eq_true, if_false, bind_assoc, pure_bind]
        refine Agree.bind (Agree.refl _ _) Triple.trivial fun _ => ?_
        refine Agree.bind (Agree.refl _ _) Triple.trivial fun r => ?_
        refine Agree.bind (Agree.refl _ _) Triple.trivial fun _ => ?_
        refine Agree.bind (Agree.refl _ _) Triple.flags_read fun fl => ?_
        cases hfl : fl.halted
        · simp only [Bool.false_eq_true, if_false, ne_eq, reduceCtorEq, not_false_eq_true,
            and_true]
          split
          · exact Agree.refl _ _
          · exact (ih _ _).mono fun w h => h.2 ▸ hfl
        · exact Agree.refl _ _
    · -- a reference prints and goes on: the flags it leaves lowered need no check
      simp only [bind_assoc, pure_bind]
      refine Agree.mono ?_ fun _ h => h.1
      refine Agree.bind (Agree.refl _ _) (Triple.reach fun _ _ => True.intro) fun _ => ?_
      refine Agree.bind (Agree.refl _ _) (Triple.say lowered_visible) fun _ => ?_
      refine Agree.bind (Agree.refl _ _) (setStatus_lowered 0) fun _ => ?_
      refine agree_flags_lowered ?_
      simpa using ih stdin 0

theorem runPipelines_agree (deeper : Deeper) (ps : List (List Command)) (last : Int) :
    Agree (fun w => w.shell.flags.halted = false) (runPipelines deeper ps last)
      (Reference.pipelines deeper ps last) := by
  induction ps generalizing last with
  | nil => exact Agree.refl _ _
  | cons p ps ih =>
    rcases p with _ | ⟨c, cs⟩
    · exact ih last
    · simp only [runPipelines, Reference.pipelines]
      split
      · rename_i hs
        rw [if_pos (show Reference.Skips c last from hs)]
        exact ih last
      · rename_i hs
        rw [if_neg (show ¬Reference.Skips c last from hs)]
        -- a pipeline that ends normally leaves every flag lowered for the next one
        refine Agree.bind (runStages_agree deeper _ _ _) (runStages_next_lowered deeper _ _ _)
          fun r => ?_
        rcases r with code | code
        · exact (ih code).mono fun _ h => h code rfl
        · exact Agree.refl _ _

/-- A command list runs as the reference says from every world where no flag is raised: the same
commands start in the same order, every status is recorded as there, and the result and final world
agree. -/
theorem runSequence_eq_reference (deeper : Deeper) (cmds : List Command) (w : World)
    (hw : w.shell.flags.halted = false) :
    (runSequence deeper cmds).run.run w =
      (Exec.frame (Reference.sequence deeper cmds)).run.run w := by
  refine Agree.frame ?_ lowered_visible w hw
  unfold Reference.sequence
  by_cases hc : cmds = []
  · subst hc
    exact Agree.refl _ _
  · have he : cmds.isEmpty = false := List.isEmpty_eq_false_iff.2 hc
    rw [if_neg hc, he, if_neg Bool.false_ne_true, pipelines_eq_splitBy]
    exact runPipelines_agree deeper _ 0

theorem pipe_then_and_as_reference :
    (Shell.fresh false).flags.halted = false ∧
    (runSequence (run nestingBudget) (CommandLine.parse "echo a | b && c")).run.run
        { shell := Shell.fresh false } =
      (Exec.frame (Reference.sequence (run nestingBudget)
        (CommandLine.parse "echo a | b && c"))).run.run { shell := Shell.fresh false } :=
  ⟨rfl, runSequence_eq_reference _ _ _ rfl⟩

end Conch.Engine
