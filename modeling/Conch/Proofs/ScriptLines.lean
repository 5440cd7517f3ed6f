import Conch.Proofs.Termination
/-! How a script runs its lines: only a script changes the prompt flag, and it puts it back
afterwards (`run_keepsPrompt`); it runs exactly its command lines (`script_runs_command_lines`). -/
namespace Conch

theorem Builtin.Return.interactive_unwind (inFunction : Bool) (fl : Flags) :
    (Builtin.Return.unwind inFunction fl).interactive = fl.interactive := by
  unfold Builtin.Return.unwind
  split
  · rfl
  · split <;> rfl

theorem Shell.flags_pop_getD (s : Shell) : (s.pop.getD s).flags = s.flags := by
  unfold Shell.pop
  split <;> rfl

namespace Engine

open Exec

def Prompted (b : Bool) (w : World) : Prop := w.shell.flags.interactive = b

/-- `act` leaves the prompt flag as it found it, when it ends and when it stops at a fault. -/
def KeepsPrompt {α : Type} (act : Exec α) : Prop :=
  ∀ b, Triple (Prompted b) act (fun _ => Prompted b) (Prompted b)

theorem prompted_visible (b : Bool) : Visible (Prompted b) := fun _ _ hs _ h => by
  rwa [Prompted, hs]

theorem promptConds (b : Bool) : Conds (Prompted b) (Prompted b) (Prompted b) :=
  ⟨prompted_visible b, prompted_visible b, prompted_visible b, fun _ h => h, fun _ h => h⟩

namespace KeepsPrompt

variable {α : Type} {act : Exec α}

theorem of_keepsSteady (h : KeepsSteady act) : KeepsPrompt act := fun _ =>
  Triple.of_start fun w₁ h₁ => (h w₁).conseq (fun _ hw => hw ▸ Steady.refl w₁)
    (fun _ _ hs => (congrArg Flags.interactive hs.2).trans h₁)
    (fun _ hs => (congrArg Flags.interactive hs.2).trans h₁)

theorem launch (t : Target) (name : String) (args : List String) (stdin : Option String) :
    KeepsPrompt (Exec.launch t name args stdin) := fun _ =>
  Triple.modify fun _ h => h

theorem setStatus (v : Int) : KeepsPrompt (Exec.setStatus v) := fun _ =>
  Triple.modifyShell fun _ h => h

end KeepsPrompt

variable {deeper : Deeper}

theorem return_keepsPrompt (args : List String) : KeepsPrompt (Builtin.Return.run args) := fun _ =>
  Triple.of_start fun w₁ h₁ => (Builtin.return_settled args w₁).conseq
    (fun _ hw => hw ▸ Steady.refl w₁)
    (fun _ _ ⟨_, hfl⟩ => by
      -- `return` either keeps the flags or unwinds, and unwinding leaves the prompt alone
      rcases hfl with hfl | hfl <;>
        simp only [Prompted, hfl, Builtin.Return.interactive_unwind] <;> exact h₁)
    (fun _ hs => (congrArg Flags.interactive hs.2).trans h₁)

theorem quit_keepsPrompt : KeepsPrompt Builtin.Return.quit := fun _ =>
  Triple.of_start fun w₁ h₁ => (Builtin.quit_settled w₁).conseq
    (fun _ hw => hw ▸ Steady.refl w₁) (fun _ _ ⟨_, hfl⟩ => (congrArg Flags.interactive hfl).trans h₁)
    (fun _ hs => (congrArg Flags.interactive hs.2).trans h₁)

theorem runBuiltin_keepsPrompt (hd : ∀ j, KeepsPrompt (deeper j)) (b : Builtin)
    (args : List String) (stdin : Option String) :
    KeepsPrompt (runBuiltin deeper b args stdin) := fun p =>
  runBuiltin_rule (promptConds p) (fun h => KeepsPrompt.of_keepsSteady h p) (quit_keepsPrompt p)
    (fun args => return_keepsPrompt args p) (fun j => hd j p) b args stdin

theorem startProgram_keepsPrompt (name : String) (args : List String) (stdin : Option String)
    (capture : Bool) : KeepsPrompt (startProgram name args stdin capture) := fun b => by
  unfold startProgram
  exact Triple.bind_inv (KeepsPrompt.launch _ _ _ _ b) fun _ =>
    (promptConds b).frame (Triple.bind_inv (Triple.reach fun _ h => h) fun _ =>
      KeepsPrompt.of_keepsSteady (runProgram_keepsSteady name args stdin capture) b)

theorem callFunction_keepsPrompt (hd : ∀ j, KeepsPrompt (deeper j)) (f : FunctionDef)
    (args : List String) : KeepsPrompt (callFunction deeper f args) := by
  intro b
  have hv := prompted_visible b
  unfold callFunction
  refine Triple.bind_inv (Triple.reach fun _ h => h) fun _ => Triple.shell_bind_of fun s => ?_
  dsimp only
  split
  · exact Triple.warn_pure hv fun _ h => h
  · generalize readingOf f.body = x
    refine Triple.bind_inv (Triple.reach fun _ h => h) fun _ => Triple.bind_inv ?_ fun _ => ?_
    · exact (promptConds b).frame (Triple.bind_inv (Triple.reach fun _ h => h) fun _ =>
        Triple.bind_inv (Triple.modifyShell fun _ h => h) fun _ => Triple.reach fun _ h => h)
    · have hleft : ∀ w, Prompted b w → Prompted b { w with shell := leftShell w.shell } ∧
          Prompted b w ∧ Prompted b { w with shell := w.shell.pop.getD w.shell } := fun w h =>
        ⟨(congrArg Flags.interactive (Shell.flags_pop_getD w.shell)).trans h, h,
          (congrArg Flags.interactive (Shell.flags_pop_getD w.shell)).trans h⟩
      exact Triple.ensuring ((hd _ b).conseq (fun _ h => h) (fun _ => hleft) hleft)
        (fun _ => leave_rule hv hv) (leave_rule hv hv)

theorem dispatch_keepsPrompt (hd : ∀ j, KeepsPrompt (deeper j)) (name : String)
    (args : List String) (stdin : Option String) (mode : Mode) (capture : Bool) :
    KeepsPrompt (dispatch deeper name args stdin mode capture) := fun b =>
  dispatch_rule (promptConds b) (fun _ => KeepsPrompt.launch _ _ _ _ b)
    (fun f => callFunction_keepsPrompt hd f args b)
    (fun c => runBuiltin_keepsPrompt hd c args stdin b)
    (startProgram_keepsPrompt name args stdin capture b) mode

theorem runCommand_keepsPrompt (hd : ∀ j, KeepsPrompt (deeper j)) (name : String)
    (args : List String) (stdin : Option String) (capture : Bool) :
    KeepsPrompt (runCommand deeper name args stdin capture) := fun b =>
  runCommand_rule (promptConds b) (fun _ _ _ _ _ => dispatch_keepsPrompt hd _ _ _ _ _ b) name args
    stdin capture

theorem runStages_keepsPrompt (hd : ∀ j, KeepsPrompt (deeper j)) (cs : List Command)
    (stdin : Option String) (st : Int) : KeepsPrompt (runStages deeper cs stdin st) := fun b =>
  runStages_rule (promptConds b) (fun v => KeepsPrompt.setStatus v b)
    (fun _ _ _ _ => runCommand_keepsPrompt hd _ _ _ _ b) cs stdin st

theorem runPipelines_keepsPrompt (hd : ∀ j, KeepsPrompt (deeper j)) (ps : List (List Command))
    (last : Int) : KeepsPrompt (runPipelines deeper ps last) := fun b =>
  runPipelines_rule (fun _ _ _ => runStages_keepsPrompt hd _ _ _ b) ps last

theorem runSequence_keepsPrompt (hd : ∀ j, KeepsPrompt (deeper j)) (cmds : List Command) :
    KeepsPrompt (runSequence deeper cmds) := fun b =>
  runSequence_rule (promptConds b) (fun _ _ => runPipelines_keepsPrompt hd _ _ b) cmds

theorem runLine_keepsPrompt (hd : ∀ j, KeepsPrompt (deeper j)) (line : String) :
    KeepsPrompt (runLine deeper line) := fun b =>
  runLine_rule (promptConds b) (fun _ => runSequence_keepsPrompt hd _ b) line

theorem runLines_keepsPrompt (hd : ∀ j, KeepsPrompt (deeper j)) (lines : List String) (st : Int) :
    KeepsPrompt (runLines deeper lines st) := fun b =>
  runLines_rule (fun _ => runLine_keepsPrompt hd _ b) lines st

theorem runScript_keepsPrompt (hd : ∀ j, KeepsPrompt (deeper j)) (lines : List String) :
    KeepsPrompt (runScript deeper lines) := by
  intro b
  unfold runScript
  refine (promptConds b).frame (Triple.shell_bind fun s => Triple.of_start fun w ⟨hw, hs⟩ => ?_)
  have hb : s.flags.interactive = b := hs ▸ hw
  have hback : Triple (Prompted false)
      (Exec.modifyFlags fun f => { f with exitScript := false, interactive := s.flags.interactive })
      (fun _ => Prompted b) (Prompted b) := Triple.modifyShell fun _ _ => hb
  have hlower : Triple (· = w) (Exec.modifyFlags fun f => { f with interactive := false })
      (fun _ => Prompted false) (Prompted b) := Triple.modifyShell fun _ _ => rfl
  exact Triple.bind hlower fun _ =>
    Triple.ensuring (runLines_keepsPrompt hd _ _ false) (fun _ => hback) hback

theorem run_keepsPrompt : ∀ n j, KeepsPrompt (run n j)
  | 0, _ => fun _ => Triple.throw fun _ h => h
  | n + 1, .commands cmds => runSequence_keepsPrompt (run_keepsPrompt n) cmds
  | n + 1, .script lines => runScript_keepsPrompt (run_keepsPrompt n) lines

/-! ## The lines of a script -/

/-- The lines a script runs: each trimmed, and neither empty nor a comment. -/
def commandLines (lines : List String) : List String :=
  (lines.map Text.trim).filter fun l => ¬(l.isEmpty ∨ l.startsWith "#")

example : commandLines ["  echo a ", "", " # note", "b"] = ["echo a", "b"] := by decide +kernel

/-- Runs lines one after another, each with the prompt lowered, until one ends with a flag raised
that unwinds the run; the status is the last line's, or `st` when no line runs. -/
def runEach (deeper : Deeper) : List String → Int → Exec Int
  | [], st => return st
  | l :: ls, _ => do
    Exec.modifyFlags fun f => { f with interactive := false }
    let st' ← runLine deeper l
    if (← Exec.flags).halted then return st' else runEach deeper ls st'

theorem lower_bind {β : Type} (f : Unit → Exec β) :
    Agree (Prompted false) ((Exec.modifyFlags fun fl => { fl with interactive := false }) >>= f)
      (f ()) := by
  intro w hw
  have hs : w.shell.setFlags (fun fl => { fl with interactive := false }) = w.shell := by
    unfold Shell.setFlags
    rw [← hw]
  rw [run_bind]
  show (f ()).run.run { w with shell := w.shell.setFlags _ } = _
  rw [hs]

theorem runLines_agree_runEach (hd : ∀ j, KeepsPrompt (deeper j)) (lines : List String)
    (st : Int) :
    Agree (Prompted false) (runLines deeper lines st) (runEach deeper (commandLines lines) st) := by
  induction lines generalizing st with
  | nil => exact Agree.refl _ _
  | cons l ls ih =>
    by_cases hskip : (Text.trim l).isEmpty ∨ (Text.trim l).startsWith "#"
    · have hc : commandLines (l :: ls) = commandLines ls :=
        List.filter_cons_of_neg (by simp only [hskip, not_true_eq_false, decide_false,
          Bool.false_eq_true, not_false_eq_true])
      simp only [runLines, hc, if_pos hskip]
      exact ih st
    · have hc : commandLines (l :: ls) = Text.trim l :: commandLines ls :=
        List.filter_cons_of_pos (by simp only [hskip, not_false_eq_true, decide_true])
      simp only [runLines, hc, if_neg hskip, runEach]
      intro w hw
      rw [lower_bind _ w hw]
      have hline := (runLine_keepsPrompt hd (Text.trim l) false).conseq (fun _ h => h)
        (fun _ _ h => h) fun _ _ => trivial
      refine Agree.bind (Agree.refl _ _) hline (fun st' => ?_) w hw
      refine Agree.bind (Agree.refl _ _) Triple.flags_read fun fl => ?_
      split
      · exact Agree.refl _ _
      · exact (ih st').mono fun _ h => h.1

/-- A script runs exactly its command lines, trimmed, with the prompt lowered, one after another
until one raises a flag that unwinds the run; its status is the last line's, or the status on the
way in when no line runs, and the prompt is put back. -/
theorem script_runs_command_lines (n : Nat) (lines : List String) :
    runScript (run n) lines = Exec.frame (do
      let s ← Exec.shell
      Exec.modifyFlags fun f => { f with interactive := false }
      Exec.ensuring (runEach (run n) (commandLines lines) s.lastStatus) do
        Exec.modifyFlags fun f => { f with exitScript := false, interactive := s.flags.interactive }) := by
  unfold runScript
  congr 1
  refine ExceptT.ext (StateT.ext fun w => ?_)
  have hlower : Triple (fun _ => True) (Exec.modifyFlags fun f => { f with interactive := false })
      (fun _ => Prompted false) fun _ => True := Triple.modifyShell fun _ _ => rfl
  refine (Agree.shell_bind fun s => ?_ : Agree (fun _ => True) _ _) w trivial
  exact Agree.bind (Agree.refl _ _) hlower fun _ =>
    (runLines_agree_runEach (run_keepsPrompt n) _ _).ensuring

end Engine

end Conch
