import Conch.Proofs.Invariant
/-! Function calls leave the call stack as they found it: each frame saves the `@{argv}` it
replaces, and frames are pushed and popped in strict order. -/
namespace Conch.Engine

open Exec

/-- `w` has the call stack and `@{argv}` of `w₀`, and at top level a lowered `returning` if `w₀`
had one. -/
structure Restored (w₀ w : World) : Prop where
  frames : w.shell.frames = w₀.shell.frames
  argv : w.shell.lookup "argv" = w₀.shell.lookup "argv"
  returning : w₀.shell.frames = [] → w₀.shell.flags.returning = false →
    w.shell.flags.returning = false

theorem lookup_argv_setStatus (s : Shell) (v : Int) :
    (s.setStatus v).lookup "argv" = s.lookup "argv" := by
  simp [Shell.setStatus, Shell.lookup]

theorem pop_of_frames {s : Shell} {fr : Frame} {fs : List Frame} (h : s.frames = fr :: fs) :
    (s.pop.getD s).frames = fs ∧ (s.pop.getD s).lookup "argv" = fr.savedArgv := by
  rcases fr with ⟨name, argv, _ | saved⟩ <;> simp [Shell.pop, h, Shell.lookup]

theorem Restored.setStatus {w₀ w : World} (h : Restored w₀ w) (v : Int) :
    Restored w₀ { w with shell := w.shell.setStatus v } :=
  ⟨h.frames, (lookup_argv_setStatus w.shell v).trans h.argv, h.returning⟩

/-- A body that ends with the stack it started with is left with the stack and `@{argv}` from before
the call. -/
theorem Restored.leave {w₀ w₁ b w : World} {name : String} {args : List String}
    (h₁ : Restored w₀ w₁) (hb : b.shell = w₁.shell.push name args) (h : Restored b w) :
    Restored w₀ { w with shell := leftShell w.shell } := by
  have hframes : w.shell.frames = ⟨name, args, w₁.shell.lookup "argv"⟩ :: w₁.shell.frames := by
    rw [h.frames, hb]
    rfl
  obtain ⟨hf, ha⟩ := pop_of_frames hframes
  exact ⟨hf.trans h₁.frames, ha.trans h₁.argv, fun _ _ => rfl⟩

/-- Restoring the call stack is an invariant of the engine; a fault may leave any stack. -/
def restoring : Invariant where
  holds := Restored
  faulted _ _ := True
  refl _ := ⟨rfl, rfl, fun _ h => h⟩
  faulted_of_holds _ := trivial
  settled h hs hr :=
    ⟨hs.1.trans h.frames, (hs.2.2.1 "argv" (by decide)).trans h.argv,
      fun h₀ hr₀ => hr.trans (h.returning h₀ hr₀)⟩
  faulted_settled _ _ _ := trivial
  launch _ h := ⟨h.frames, h.argv, h.returning⟩
  setStatus v h := h.setStatus v
  raise {w₀ w _} h hs hd _ := by
    -- inside a function the start had frames too, so its `returning` is not at stake
    refine ⟨hs.1.trans h.frames, (hs.2.2.1 "argv" (by decide)).trans h.argv, fun h₀ _ => ?_⟩
    have hw : w.shell.frames = [] := h.frames.trans h₀
    simp [Shell.depth, hw] at hd
  enter _ _ _ _ := trivial
  leave _ _ h₁ _ hb _ h := h₁.leave hb h
  leave_faulted _ _ _ _ _ _ _ := ⟨trivial, trivial, trivial⟩

/-- A function call that enters its body ends with `returning` lowered, whatever the body did. -/
theorem callFunction_lowers (deeper : Deeper) (f : FunctionDef) (args : List String) :
    Triple (fun w => w.shell.depth < maxFunctionDepth) (callFunction deeper f args)
      (fun _ w => w.shell.flags.returning = false) (fun _ => True) := by
  have htrue : Visible (fun _ => True) := fun _ _ _ _ h => h
  unfold callFunction
  refine Triple.bind_inv (Triple.reach fun _ _ => trivial) fun _ => Triple.shell_bind fun s => ?_
  dsimp only
  split
  · rename_i hdeep
    intro w hw
    exact absurd (hw.2 ▸ hw.1) (Nat.not_lt_of_le hdeep)
  · generalize readingOf f.body = x
    refine Triple.bind Triple.trivial fun _ => Triple.bind Triple.trivial fun _ => ?_
    refine Triple.ensuring Triple.trivial (fun _ => ?_) Triple.trivial
    refine Triple.bind (Triple.frame Triple.trivial htrue (fun _ => htrue) htrue fun _ h => h)
      fun _ => Triple.modifyShell fun _ _ => rfl

/-- A script ends with `exitScript` lowered and the prompt as it was at the start. -/
theorem runScript_flags (deeper : Deeper) (lines : List String) (i : Bool) :
    Triple (fun w => w.shell.flags.interactive = i) (runScript deeper lines)
      (fun _ w => w.shell.flags.exitScript = false ∧ w.shell.flags.interactive = i)
      (fun _ => True) := by
  unfold runScript
  refine Triple.frame ?_ (fun _ _ hs _ h => hs ▸ h) (fun _ _ _ hs _ h => hs ▸ h)
    (fun _ _ _ _ h => h) fun _ _ => trivial
  refine Triple.shell_bind fun s => ?_
  have hstart : Triple (fun w => w.shell.flags.interactive = i ∧ w.shell = s)
      (Exec.modifyFlags fun f => { f with interactive := false })
      (fun _ _ => s.flags.interactive = i) (fun _ => True) :=
    Triple.modifyShell fun _ hw => hw.2 ▸ hw.1
  exact Triple.bind hstart fun _ => Triple.ensuring Triple.const
    (fun _ => Triple.modifyShell fun _ h => ⟨rfl, h⟩) Triple.trivial

/-- A command line or a script that ends normally leaves the frames and `@{argv}` as they were, and
`returning` lowered at top level; a script also lowers `exitScript`, and every call that enters its
body ends with `returning` lowered. -/
theorem calls_restore_the_stack (w : World) (hw : w.shell.flags.returning = false) :
    (∀ line r w', (executeLine line).run.run w = (.ok r, w') →
      w'.shell.frames = w.shell.frames ∧ w'.shell.lookup "argv" = w.shell.lookup "argv" ∧
      (w.shell.frames = [] → w'.shell.flags.returning = false)) ∧
    (∀ lines r w', (executeScript lines).run.run w = (.ok r, w') →
      w'.shell.frames = w.shell.frames ∧ w'.shell.lookup "argv" = w.shell.lookup "argv" ∧
      (w.shell.frames = [] → w'.shell.flags.returning = false) ∧
      w'.shell.flags.exitScript = false ∧ w'.shell.flags.interactive = w.shell.flags.interactive) ∧
    (∀ (deeper : Deeper) f args (v : World) r v', v.shell.depth < maxFunctionDepth →
      (callFunction deeper f args).run.run v = (.ok r, v') → v'.shell.flags.returning = false) := by
  refine ⟨fun line r w' hr => ?_, fun lines r w' hr => ?_, fun deeper f args v r v' hv hr => ?_⟩
  · have h : Restored w w' := (runLine_keeps (run_keeps restoring nestingBudget) line).holds_of_ok hr
    exact ⟨h.frames, h.argv, fun h₀ => h.returning h₀ hw⟩
  · have h : Restored w w' :=
      (runScript_keeps (run_keeps restoring nestingBudget) lines).holds_of_ok hr
    have hfl := (runScript_flags (run nestingBudget) lines _).post_of_ok rfl hr
    exact ⟨h.frames, h.argv, fun h₀ => h.returning h₀ hw, hfl⟩
  · exact (callFunction_lowers deeper f args).post_of_ok hv hr

theorem top_level_return_keeps_stack :
    (Shell.fresh false).flags.returning = false ∧
    ∀ r w', (executeLine "return 3").run.run { shell := Shell.fresh false } = (.ok r, w') →
      w'.shell.frames = (Shell.fresh false).frames ∧
      w'.shell.lookup "argv" = (Shell.fresh false).lookup "argv" ∧
      ((Shell.fresh false).frames = [] → w'.shell.flags.returning = false) :=
  ⟨rfl, (calls_restore_the_stack { shell := Shell.fresh false } rfl).1 "return 3"⟩

end Conch.Engine
