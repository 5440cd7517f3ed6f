import Conch.Proofs.EngineRules
/-! Relations that every run of the engine keeps (`Invariant`), asked only of the steps that change
the session or the log of started commands; every level of the engine `Keeps` them. -/
namespace Conch.Engine

open Exec

/-- A relation between the world a run starts from and the worlds it reaches; `faulted` is what is
left of it where a fault stops the run. -/
structure Invariant where
  holds : World → World → Prop
  faulted : World → World → Prop
  refl : ∀ w, holds w w
  faulted_of_holds : ∀ {w₀ w}, holds w₀ w → faulted w₀ w
  /-- A step that keeps the call stack, the status, the read-only variables, the log and
  `returning`. -/
  settled : ∀ {w₀ w w'}, holds w₀ w → Settled w w' →
    w'.shell.flags.returning = w.shell.flags.returning → holds w₀ w'
  faulted_settled : ∀ {w₀ w w'}, faulted w₀ w → Settled w w' →
    w'.shell.flags.returning = w.shell.flags.returning → faulted w₀ w'
  launch : ∀ {w₀ w} (l : Launch), holds w₀ w → holds w₀ { w with launches := w.launches.push l }
  setStatus : ∀ {w₀ w} (v : Int), holds w₀ w → holds w₀ { w with shell := w.shell.setStatus v }
  /-- A `return` inside a function. -/
  raise : ∀ {w₀ w w'}, holds w₀ w → Settled w w' → 0 < w.shell.depth →
    w'.shell.flags = { w.shell.flags with returning := true } → holds w₀ w'
  /-- Entering a function, which may stop at a fault before its body starts. -/
  enter : ∀ {w₀ w} (name : String) (args : List String), holds w₀ w →
    w.shell.depth < maxFunctionDepth → faulted w₀ { w with shell := w.shell.push name args }
  /-- Leaving a function whose body, started in `b`, ended normally in `w`. -/
  leave : ∀ {w₀ w₁ b w} (name : String) (args : List String), holds w₀ w₁ →
    w₁.shell.depth < maxFunctionDepth → b.shell = w₁.shell.push name args →
    b.launches = w₁.launches → holds b w → holds w₀ { w with shell := leftShell w.shell }
  /-- Leaving a function whose body stopped at a fault, at each point where leaving stops. -/
  leave_faulted : ∀ {w₀ w₁ b w} (name : String) (args : List String), holds w₀ w₁ →
    w₁.shell.depth < maxFunctionDepth → b.shell = w₁.shell.push name args →
    b.launches = w₁.launches → faulted b w →
    faulted w₀ { w with shell := leftShell w.shell } ∧ faulted w₀ w ∧
      faulted w₀ { w with shell := w.shell.pop.getD w.shell }

/-- `act` keeps `I`: run from a world where `I` holds of `w₀`, it ends in one too, or at a fault
in a world where `I.faulted` holds of `w₀`. -/
def Keeps (I : Invariant) {α : Type} (act : Exec α) : Prop :=
  ∀ w₀, Triple (I.holds w₀) act (fun _ => I.holds w₀) (I.faulted w₀)

namespace Invariant

variable (I : Invariant) {w₀ w w' : World}

theorem visible (w₀ : World) : Visible (I.holds w₀) := fun _ _ hs hl h =>
  I.settled h (Settled.of_eq hs hl) (by rw [hs])

theorem faulted_visible (w₀ : World) : Visible (I.faulted w₀) := fun _ _ hs hl h =>
  I.faulted_settled h (Settled.of_eq hs hl) (by rw [hs])

theorem conds (w₀ : World) : Conds (I.holds w₀) (I.holds w₀) (I.faulted w₀) :=
  ⟨I.visible w₀, I.visible w₀, I.faulted_visible w₀, fun _ h => h, fun _ => I.faulted_of_holds⟩

theorem of_steady (h : I.holds w₀ w) (hs : Steady w w') : I.holds w₀ w' :=
  I.settled h hs.1 (by rw [hs.2])

/-- A resolved `return` raises `returning` inside a function and keeps it at top level. -/
theorem of_unwind (h : I.holds w₀ w) (hs : Settled w w')
    (hfl : w'.shell.flags = Builtin.Return.unwind (decide (w.shell.depth > 0)) w.shell.flags) :
    I.holds w₀ w' := by
  by_cases hd : 0 < w.shell.depth
  · exact I.raise h hs hd (by simpa [Builtin.Return.unwind, hd] using hfl)
  · refine I.settled h hs ?_
    simp only [hfl, Builtin.Return.unwind, hd, decide_false, Bool.false_eq_true, if_false]
    split <;> rfl

end Invariant

namespace Keeps

variable {I : Invariant} {α : Type} {act : Exec α}

theorem of_keepsSteady (h : KeepsSteady act) : Keeps I act := fun _ =>
  Triple.of_start fun w₁ h₁ => (h w₁).conseq (fun _ hw => hw ▸ Steady.refl w₁)
    (fun _ _ hs => I.of_steady h₁ hs) (fun _ hs => I.faulted_of_holds (I.of_steady h₁ hs))

theorem holds_of_ok (h : Keeps I act) {w w' : World} {a : α} (hr : act.run.run w = (.ok a, w')) :
    I.holds w w' :=
  (h w).post_of_ok (I.refl w) hr

theorem frame (h : Keeps I act) : Keeps I (Exec.frame act) := fun w₀ =>
  Triple.frame (h w₀) (I.visible w₀) (fun _ => I.visible w₀) (I.faulted_visible w₀)
    fun _ => I.faulted_of_holds

theorem setStatus (v : Int) : Keeps I (Exec.setStatus v) := fun _ =>
  Triple.modifyShell fun _ h => I.setStatus v h

theorem launch (t : Target) (name : String) (args : List String) (stdin : Option String) :
    Keeps I (Exec.launch t name args stdin) := fun _ =>
  Triple.modify fun _ h => I.launch _ h

theorem modifyFlags {g : Flags → Flags} (hg : ∀ fl, (g fl).returning = fl.returning) :
    Keeps I (Exec.modifyFlags g) := fun _ =>
  Triple.modifyShell fun w h => I.settled h (Settled.setFlags w g) (hg _)

end Keeps

variable {I : Invariant} {deeper : Deeper}

theorem runProgram_keeps (name : String) (args : List String) (stdin : Option String)
    (capture : Bool) : Keeps I (runProgram name args stdin capture) :=
  .of_keepsSteady (runProgram_keepsSteady name args stdin capture)

theorem startProgram_keeps (name : String) (args : List String) (stdin : Option String)
    (capture : Bool) : Keeps I (startProgram name args stdin capture) := fun w₀ => by
  unfold startProgram
  refine Triple.bind_inv (Keeps.launch _ _ _ _ w₀) fun _ => (Keeps.frame ?_) w₀
  exact fun w₀ => Triple.bind_inv (Triple.reach fun _ => I.faulted_of_holds) fun _ =>
    runProgram_keeps name args stdin capture w₀

theorem return_keeps (args : List String) : Keeps I (Builtin.Return.run args) := fun w₀ =>
  Triple.of_start fun w₁ h₁ => (Builtin.return_settled args w₁).conseq
    (fun _ hw => hw ▸ Steady.refl w₁)
    (fun _ _ ⟨hs, hfl⟩ => hfl.elim (fun hfl => I.settled h₁ hs (by rw [hfl]))
      (I.of_unwind h₁ hs))
    (fun _ hs => I.faulted_of_holds (I.of_steady h₁ hs))

theorem quit_keeps : Keeps I Builtin.Return.quit := fun w₀ =>
  Triple.of_start fun w₁ h₁ => (Builtin.quit_settled w₁).conseq
    (fun _ hw => hw ▸ Steady.refl w₁) (fun _ _ ⟨hs, hfl⟩ => I.settled h₁ hs (by rw [hfl]))
    (fun _ hs => I.faulted_of_holds (I.of_steady h₁ hs))

theorem runBuiltin_keeps (hd : ∀ j, Keeps I (deeper j)) (b : Builtin) (args : List String)
    (stdin : Option String) : Keeps I (runBuiltin deeper b args stdin) := fun w₀ =>
  runBuiltin_rule (I.conds w₀) (fun h => Keeps.of_keepsSteady h w₀) (quit_keeps w₀)
    (fun args => return_keeps args w₀) (fun j => hd j w₀) b args stdin

/-- The worlds that show the session and the log of `w`. -/
def Shows (w : World) (v : World) : Prop := v.shell = w.shell ∧ v.launches = w.launches

theorem shows_visible (w : World) : Visible (Shows w) := fun _ _ hs hl h =>
  ⟨hs.trans h.1, hl.trans h.2⟩

theorem enter_keeps (h₁ : I.holds w₀ w₁) (hdepth : w₁.shell.depth < maxFunctionDepth)
    (name : String) (args : List String) :
    Triple (Shows w₁)
      (Exec.frame (do
        Exec.reach Stack.makingCallFrame
        Exec.modifyShell (·.push name args)
        Exec.reach Stack.logging))
      (fun _ => Shows { w₁ with shell := w₁.shell.push name args }) (I.faulted w₀) := by
  have hin : ∀ w, Shows w₁ w → I.faulted w₀ w := fun w hw =>
    I.faulted_of_holds (I.visible w₀ w₁ w hw.1 hw.2 h₁)
  have hpushed : ∀ w, Shows { w₁ with shell := w₁.shell.push name args } w → I.faulted w₀ w :=
    fun w hw => I.faulted_visible w₀ _ w hw.1 hw.2 (I.enter name args h₁ hdepth)
  refine Triple.frame ?_ (shows_visible w₁) (fun _ => shows_visible _) (I.faulted_visible w₀) hin
  refine Triple.bind_inv (Triple.reach hin) fun _ => Triple.bind ?_ fun _ => Triple.reach hpushed
  exact Triple.modifyShell fun w hw => ⟨by rw [hw.1], hw.2⟩

theorem callFunction_keeps (hd : ∀ j, Keeps I (deeper j)) (f : FunctionDef) (args : List String) :
    Keeps I (callFunction deeper f args) := by
  intro w₀
  refine Triple.of_start fun w₁ h₁ => ?_
  have hat : ∀ w, Shows w₁ w → I.holds w₀ w := fun w hw => I.visible w₀ w₁ w hw.1 hw.2 h₁
  refine (?_ : Triple (Shows w₁) _ _ _).conseq (fun _ hw => hw ▸ ⟨rfl, rfl⟩) (fun _ _ h => h)
    (fun _ h => h)
  unfold callFunction
  refine Triple.bind_inv (Triple.reach fun w hw => I.faulted_of_holds (hat w hw)) fun _ =>
    Triple.shell_bind_known (fun _ hw => hw.1) ?_
  dsimp only
  split
  · exact Triple.warn_pure (shows_visible w₁) hat
  · rename_i hdepth
    replace hdepth : w₁.shell.depth < maxFunctionDepth := Nat.lt_of_not_le hdepth
    -- naming the excursion keeps elaboration from evaluating the body's trimming
    generalize readingOf f.body = x
    refine Triple.bind_inv (Triple.reach fun w hw => I.faulted_of_holds (hat w hw)) fun _ => ?_
    refine Triple.bind (enter_keeps h₁ hdepth f.name args) fun _ => ?_
    -- the body starts in a world `b` showing the pushed frame; leaving is judged from there
    have hbody : Triple (Shows { w₁ with shell := w₁.shell.push f.name args })
        (deeper (.commands (CommandLine.parse f.body)))
        (fun _ w => I.holds w₀ { w with shell := leftShell w.shell } ∧ I.faulted w₀ w ∧
          I.faulted w₀ { w with shell := w.shell.pop.getD w.shell })
        (fun w => I.faulted w₀ { w with shell := leftShell w.shell } ∧ I.faulted w₀ w ∧
          I.faulted w₀ { w with shell := w.shell.pop.getD w.shell }) :=
      Triple.of_start fun b hb => (hd _ b).conseq (fun _ hw => hw ▸ I.refl b)
        (fun _ _ h => ⟨I.leave f.name args h₁ hdepth hb.1 hb.2 h,
          (I.leave_faulted f.name args h₁ hdepth hb.1 hb.2 (I.faulted_of_holds h)).2⟩)
        (fun _ h => I.leave_faulted f.name args h₁ hdepth hb.1 hb.2 h)
    exact Triple.ensuring hbody (fun _ => leave_rule (I.visible w₀) (I.faulted_visible w₀))
      (leave_rule (I.faulted_visible w₀) (I.faulted_visible w₀))

theorem dispatch_keeps (hd : ∀ j, Keeps I (deeper j)) (name : String) (args : List String)
    (stdin : Option String) (mode : Mode) (capture : Bool) :
    Keeps I (dispatch deeper name args stdin mode capture) :=
  fun w₀ => dispatch_rule (I.conds w₀) (fun _ => Keeps.launch _ _ _ _ w₀)
    (fun f => callFunction_keeps hd f args w₀) (fun b => runBuiltin_keeps hd b args stdin w₀)
    (startProgram_keeps name args stdin capture w₀) mode

theorem runCommand_keeps (hd : ∀ j, Keeps I (deeper j)) (name : String) (args : List String)
    (stdin : Option String) (capture : Bool) : Keeps I (runCommand deeper name args stdin capture) :=
  fun w₀ => runCommand_rule (I.conds w₀) (fun _ _ _ _ _ => dispatch_keeps hd _ _ _ _ _ w₀) name args
    stdin capture

theorem runStages_keeps (hd : ∀ j, Keeps I (deeper j)) (cs : List Command)
    (stdin : Option String) (st : Int) : Keeps I (runStages deeper cs stdin st) := fun w₀ =>
  runStages_rule (I.conds w₀) (fun v => Keeps.setStatus v w₀)
    (fun _ _ _ _ => runCommand_keeps hd _ _ _ _ w₀) cs stdin st

theorem runPipelines_keeps (hd : ∀ j, Keeps I (deeper j)) (ps : List (List Command)) (last : Int) :
    Keeps I (runPipelines deeper ps last) := fun w₀ =>
  runPipelines_rule (fun _ _ _ => runStages_keeps hd _ _ _ w₀) ps last

theorem runSequence_keeps (hd : ∀ j, Keeps I (deeper j)) (cmds : List Command) :
    Keeps I (runSequence deeper cmds) := fun w₀ =>
  runSequence_rule (I.conds w₀) (fun _ _ => runPipelines_keeps hd _ _ w₀) cmds

theorem runLine_keeps (hd : ∀ j, Keeps I (deeper j)) (line : String) :
    Keeps I (runLine deeper line) := fun w₀ =>
  runLine_rule (I.conds w₀) (fun _ => runSequence_keeps hd _ w₀) line

theorem runLines_keeps (hd : ∀ j, Keeps I (deeper j)) (lines : List String) (st : Int) :
    Keeps I (runLines deeper lines st) := fun w₀ =>
  runLines_rule (fun _ => runLine_keeps hd _ w₀) lines st

theorem runScript_keeps (hd : ∀ j, Keeps I (deeper j)) (lines : List String) :
    Keeps I (runScript deeper lines) := by
  unfold runScript
  refine Keeps.frame fun w₀ => Triple.shell_bind_of fun s => ?_
  refine Triple.bind_inv (Keeps.modifyFlags (fun _ => ?_) w₀) fun _ => ?_
  · rfl
  refine Triple.ensuring (runLines_keeps hd _ _ w₀) (fun _ => Keeps.modifyFlags (fun _ => ?_) w₀) ?_
  · rfl
  exact Triple.modifyShell fun w h => I.faulted_settled h (Settled.setFlags w _) rfl

/-- Every nesting budget keeps an invariant. -/
theorem run_keeps (I : Invariant) : ∀ n j, Keeps I (run n j)
  | 0, _ => fun _ => Triple.throw fun _ => I.faulted_of_holds
  | n + 1, .commands cmds => runSequence_keeps (run_keeps I n) cmds
  | n + 1, .script lines => runScript_keeps (run_keeps I n) lines

end Conch.Engine
