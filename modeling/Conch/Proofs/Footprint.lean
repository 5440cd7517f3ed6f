import Conch.Proofs.Triple
import Conch.Exec.Engine
/-! What the builtins change: apart from `source`, a builtin keeps the world `Steady`, and all but
`return` and `quit` keep the flags as well. -/
namespace Conch.Exec

/-- Worlds with the same call stack, last status, read-only variables and log of started commands.
-/
def Settled (w w' : World) : Prop :=
  w'.shell.frames = w.shell.frames ∧ w'.shell.lastStatus = w.shell.lastStatus ∧
    (∀ k ∈ Builtin.readOnly, w'.shell.lookup k = w.shell.lookup k) ∧ w'.launches = w.launches

/-- Two settled worlds with the same flags. -/
def Steady (w w' : World) : Prop := Settled w w' ∧ w'.shell.flags = w.shell.flags

/-- `act` keeps every world steady. -/
def KeepsSteady {α : Type} (act : Exec α) : Prop :=
  ∀ w₀, Triple (Steady w₀) act (fun _ => Steady w₀) (Steady w₀)

theorem steady_visible (w₀ : World) : Visible (Steady w₀) := by
  intro w w' hs hl h
  rwa [Steady, Settled, hs, hl]

theorem Settled.of_eq {w w' : World} (hs : w'.shell = w.shell) (hl : w'.launches = w.launches) :
    Settled w w' :=
  ⟨by rw [hs], by rw [hs], fun _ _ => by rw [hs], hl⟩

theorem Steady.refl (w : World) : Steady w w := ⟨Settled.of_eq rfl rfl, rfl⟩

theorem Settled.setFlags (w : World) (g : Flags → Flags) :
    Settled w { w with shell := w.shell.setFlags g } :=
  ⟨rfl, rfl, fun _ _ => rfl, rfl⟩

namespace KeepsSteady

variable {α β : Type}

theorem pure (a : α) : KeepsSteady (Pure.pure a : Exec α) :=
  fun _ => Triple.pure fun _ h => h

theorem bind {x : Exec α} {f : α → Exec β} (hx : KeepsSteady x) (hf : ∀ a, KeepsSteady (f a)) :
    KeepsSteady (x >>= f) :=
  fun w₀ => Triple.bind (hx w₀) fun a => hf a w₀

theorem throw (e : Fault) : KeepsSteady (MonadExcept.throw e : Exec α) :=
  fun _ => Triple.throw fun _ h => h

theorem say (s : String) : KeepsSteady (Exec.say s) :=
  fun w₀ => Triple.say (steady_visible w₀)

theorem warn (s : String) : KeepsSteady (Exec.warn s) :=
  fun w₀ => Triple.warn (steady_visible w₀)

theorem say_pure (s : String) (a : α) :
    KeepsSteady (Exec.say s >>= fun _ => (Pure.pure a : Exec α)) :=
  (say s).bind fun _ => pure a

theorem warn_pure (s : String) (a : α) :
    KeepsSteady (Exec.warn s >>= fun _ => (Pure.pure a : Exec α)) :=
  (warn s).bind fun _ => pure a

theorem reach (x : Stack.Excursion) : KeepsSteady (Exec.reach x) :=
  fun _ => Triple.reach fun _ h => h

theorem world_bind {f : World → Exec β} (hf : ∀ v, KeepsSteady (f v)) :
    KeepsSteady (Exec.world >>= f) :=
  fun w₀ => Triple.world_bind fun v => (hf v w₀).conseq (fun _ h => h.1) (fun _ _ h => h)
    (fun _ h => h)

theorem shell_bind {f : Shell → Exec β} (hf : ∀ s, KeepsSteady (f s)) :
    KeepsSteady (Exec.shell >>= f) :=
  fun w₀ => Triple.shell_bind fun s => (hf s w₀).conseq (fun _ h => h.1) (fun _ _ h => h)
    (fun _ h => h)

theorem modify_outside {f : World → World} (hs : ∀ w, (f w).shell = w.shell)
    (hl : ∀ w, (f w).launches = w.launches) : KeepsSteady (modify f : Exec PUnit) :=
  fun w₀ => Triple.modify fun w h => steady_visible w₀ w (f w) (hs w) (hl w) h

/-- A change of the session that keeps the call stack, flags, status and read-only variables. -/
theorem modifyShell {g : Shell → Shell} (hf : ∀ s, (g s).frames = s.frames)
    (hfl : ∀ s, (g s).flags = s.flags) (hst : ∀ s, (g s).lastStatus = s.lastStatus)
    (hro : ∀ s, ∀ k ∈ Builtin.readOnly, (g s).lookup k = s.lookup k) :
    KeepsSteady (Exec.modifyShell g) := by
  intro w₀
  refine Triple.modifyShell fun w ⟨⟨h₁, h₂, h₃, h₄⟩, h₅⟩ => ⟨⟨?_, ?_, ?_, h₄⟩, ?_⟩
  · exact (hf _).trans h₁
  · exact (hst _).trans h₂
  · exact fun k hk => (hro _ k hk).trans (h₃ k hk)
  · exact (hfl _).trans h₅

theorem forIn_list {γ : Type} {body : γ → β → Exec (ForInStep β)}
    (h : ∀ x b, KeepsSteady (body x b)) (xs : List γ) (b : β) : KeepsSteady (forIn xs b body) :=
  fun w₀ => Triple.forIn_list (fun x b => h x b w₀) xs b

end KeepsSteady

end Conch.Exec

namespace Conch.Builtin

open Exec

theorem echo_keepsSteady (args : List String) (stdin : Option String) :
    KeepsSteady (Echo.run args stdin) := by
  unfold Echo.run
  split
  · exact KeepsSteady.throw _
  · exact KeepsSteady.say_pure _ _

theorem getVariable_keepsSteady (args : List String) : KeepsSteady (getVariable args) := by
  have hinvalid : ∀ t, KeepsSteady (getVariable.invalid t) := fun _ =>
    KeepsSteady.warn_pure _ _
  unfold getVariable
  split
  · exact KeepsSteady.warn_pure _ _
  · dsimp only
    split
    · split
      · refine KeepsSteady.shell_bind fun s => ?_
        split
        · exact KeepsSteady.say_pure _ _
        · exact KeepsSteady.warn_pure _ _
      · exact hinvalid _
    · exact hinvalid _

/-- `set` never assigns a read-only variable. -/
theorem assignment_not_readOnly {args : List String} {k v : String}
    (h : assignment args = .ok (k, v)) : k ∉ readOnly := by
  unfold assignment at h
  split at h
  · cases h
  · split at h
    · cases h
    · dsimp only at h
      split at h
      · cases h
      · cases h
        assumption

theorem setVariable_keepsSteady (args : List String) : KeepsSteady (setVariable args) := by
  unfold setVariable
  split
  · rename_i k v hkv
    have hk := assignment_not_readOnly hkv
    refine KeepsSteady.bind ?_ fun _ => KeepsSteady.pure _
    refine KeepsSteady.modifyShell (fun _ => rfl) (fun _ => rfl) (fun _ => rfl) fun s j hj => ?_
    have hne : j ≠ k := fun h => hk (h ▸ hj)
    simp [Shell.assign, Shell.lookup, hne]
  · exact KeepsSteady.warn_pure _ _

theorem runFunction_keepsSteady (args : List String) :
    KeepsSteady (Define.runFunction args) := by
  unfold Define.runFunction
  split
  · exact KeepsSteady.say_pure _ _
  · refine KeepsSteady.bind ?_ fun _ => KeepsSteady.pure _
    exact KeepsSteady.modifyShell (fun _ => rfl) (fun _ => rfl) (fun _ => rfl) fun _ _ _ => rfl
  · exact KeepsSteady.warn_pure _ _

theorem erase_keepsSteady (names : List String) : KeepsSteady (Define.erase names) := by
  unfold Define.erase
  refine KeepsSteady.bind (KeepsSteady.forIn_list (fun n b => ?_) _ _) fun _ => ?_
  · intro w₀
    refine Triple.shell_bind fun s => ?_
    have hwrite : Triple (fun w => Steady w₀ w ∧ w.shell = s)
        (Exec.modifyShell fun _ => (s.undefine n).1) (fun _ => Steady w₀) (Steady w₀) :=
      Triple.modifyShell fun w ⟨h, hs⟩ => by subst hs; exact h
    refine Triple.bind hwrite fun _ => ?_
    split <;> exact Triple.pure fun _ h => h
  · exact KeepsSteady.pure _

theorem display_keepsSteady (names : List String) : KeepsSteady (Define.display names) := by
  unfold Define.display
  refine KeepsSteady.bind (KeepsSteady.forIn_list (fun n b => ?_) _ _) fun _ => ?_
  · refine KeepsSteady.shell_bind fun s => ?_
    split
    · exact KeepsSteady.say_pure _ _
    · exact KeepsSteady.warn_pure _ _
  · exact KeepsSteady.pure _

theorem runFunctions_keepsSteady (args : List String) :
    KeepsSteady (Define.runFunctions args) := by
  unfold Define.runFunctions
  dsimp only
  split
  · exact KeepsSteady.warn_pure _ _
  · split
    · exact KeepsSteady.say_pure _ _
    · split
      · split
        · exact KeepsSteady.warn_pure _ _
        · exact erase_keepsSteady _
      · split
        · refine KeepsSteady.shell_bind fun s => ?_
          refine KeepsSteady.bind (KeepsSteady.forIn_list (fun n b => ?_) _ _) fun _ => ?_
          · exact KeepsSteady.say_pure _ _
          · exact KeepsSteady.pure _
        · exact display_keepsSteady _

theorem applyLevel_keepsSteady (c : Config) : KeepsSteady (Settings.applyLevel c) := by
  unfold Settings.applyLevel
  split
  · exact KeepsSteady.throw _
  · exact KeepsSteady.pure _

theorem config_keepsSteady (args : List String) : KeepsSteady (Settings.run args) := by
  have hconfig : ∀ c : Config, KeepsSteady (modify fun w => { w with config := c } : Exec PUnit) :=
    fun _ => KeepsSteady.modify_outside (fun _ => rfl) (fun _ => rfl)
  unfold Settings.run
  split
  · exact KeepsSteady.warn_pure _ _
  · refine KeepsSteady.world_bind fun v => ?_
    exact (KeepsSteady.reach _).bind fun _ => KeepsSteady.say_pure _ _
  · refine KeepsSteady.world_bind fun v => ?_
    split
    · exact KeepsSteady.throw _
    · exact (hconfig _).bind fun _ => KeepsSteady.warn_pure _ _
    · refine (hconfig _).bind fun _ => ?_
      dsimp only
      split
      · exact (applyLevel_keepsSteady _).bind fun _ => KeepsSteady.say_pure _ _
      · exact KeepsSteady.say_pure _ _
  · exact KeepsSteady.warn_pure _ _
  · exact (hconfig _).bind fun _ => (applyLevel_keepsSteady _).bind fun _ =>
      KeepsSteady.say_pure _ _
  · exact KeepsSteady.warn_pure _ _

theorem help_keepsSteady (args : List String) : KeepsSteady (Settings.help args) := by
  unfold Settings.help
  dsimp only
  split
  · exact KeepsSteady.say_pure _ _
  · refine KeepsSteady.bind (KeepsSteady.forIn_list (fun n b => ?_) _ _) fun _ => ?_
    · exact KeepsSteady.say_pure _ _
    · exact KeepsSteady.pure _

/-- `return` keeps the world settled and changes the flags as `unwind` says. -/
theorem resolve_settled (args : List String) (w₀ : World) :
    Triple (Steady w₀) (Return.resolve args)
      (fun _ w => Settled w₀ w ∧ (w.shell.flags = w₀.shell.flags ∨
        w.shell.flags = Return.unwind (decide (w₀.shell.depth > 0)) w₀.shell.flags))
      (Steady w₀) := by
  have hvis : ∀ s, Visible (fun w => Steady w₀ w ∧ w.shell = s) := by
    intro s w w' hs hl ⟨h, h'⟩
    exact ⟨steady_visible w₀ w w' hs hl h, hs ▸ h'⟩
  unfold Return.resolve
  refine Triple.shell_bind fun s => ?_
  dsimp only
  rcases hp : Return.plan args s.lastStatus with d | ⟨o, out, err⟩
  · exact Triple.throw_bind fun _ h => h.1
  · simp only [pure_bind]
    refine Triple.bind (Triple.say (hvis s)) fun _ =>
      Triple.bind (Triple.warn (hvis s)) fun _ => ?_
    split
    · refine Triple.bind (Triple.modifyShell fun w ⟨⟨h, hfl⟩, hs⟩ => ?_) fun _ =>
        Triple.pure fun _ h => h
      subst hs
      refine ⟨h, .inr ?_⟩
      simp only [Shell.setFlags, hfl, Shell.depth, h.1]
      rfl
    · exact Triple.pure fun _ h => ⟨h.1.1, .inl h.1.2⟩

theorem return_settled (args : List String) (w₀ : World) :
    Triple (Steady w₀) (Return.run args)
      (fun _ w => Settled w₀ w ∧ (w.shell.flags = w₀.shell.flags ∨
        w.shell.flags = Return.unwind (decide (w₀.shell.depth > 0)) w₀.shell.flags))
      (Steady w₀) :=
  Triple.bind (resolve_settled args w₀) fun _ => Triple.pure fun _ h => h

theorem quit_settled (w₀ : World) :
    Triple (Steady w₀) Return.quit
      (fun _ w => Settled w₀ w ∧ w.shell.flags = { w₀.shell.flags with quit := true })
      (Steady w₀) := by
  unfold Return.quit
  refine Triple.bind (Triple.modifyShell fun w ⟨h, hfl⟩ => ?_) fun _ =>
    Triple.shell_bind fun _ => Triple.pure fun _ h => h.1
  exact ⟨h, by simp [Shell.setFlags, hfl]⟩

end Conch.Builtin

namespace Conch.Engine

open Exec

/-- Running a program, or trying to, changes nothing but the streams. -/
theorem runProgram_keepsSteady (name : String) (args : List String) (stdin : Option String)
    (capture : Bool) : KeepsSteady (runProgram name args stdin capture) := by
  unfold runProgram
  dsimp only
  split
  · exact KeepsSteady.throw _
  · refine KeepsSteady.world_bind fun v => ?_
    split
    · exact KeepsSteady.say_pure _ _
    · split
      · exact KeepsSteady.warn_pure _ _
      · exact KeepsSteady.warn_pure _ _
      · exact KeepsSteady.warn_pure _ _
      · exact KeepsSteady.throw _
      · exact KeepsSteady.throw _

end Conch.Engine
