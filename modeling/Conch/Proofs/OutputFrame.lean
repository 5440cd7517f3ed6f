import Conch.Proofs.GuardKeywords
/-! Every run of the engine reads nothing of the output written before it and writes only after it
(`Engine.run_appends`), by one rule per kind of step (`Exec.Appends`). -/

namespace Conch

/-- A world with `o` written to the output before what it holds. -/
def World.prepend (o : String) (w : World) : World := { w with out := o ++ w.out }

namespace Exec

variable {α β : Type}

/-- `act` reads nothing of the output before it and writes only after it: run after the output `o`,
it ends as it does alone, with `o` in front. -/
def Appends (act : Exec α) : Prop :=
  ∀ o w, act.run.run (w.prepend o) = ((act.run.run w).1, (act.run.run w).2.prepend o)

namespace Appends

variable {act : Exec α}

theorem pure (a : α) : Appends (Pure.pure a : Exec α) := fun _ _ => rfl

theorem throw (e : Fault) : Appends (MonadExcept.throw e : Exec α) := fun _ _ => rfl

theorem throw_bind (e : Fault) (f : α → Exec β) : Appends (MonadExcept.throw e >>= f) :=
  fun _ _ => rfl

theorem bind {f : α → Exec β} (hx : Appends act) (hf : ∀ a, Appends (f a)) :
    Appends (act >>= f) := by
  intro o w
  rw [run_bind, run_bind, hx o w]
  rcases act.run.run w with ⟨_ | a, w'⟩
  · rfl
  · exact hf a o w'

/-- A change of the world that commutes with writing before the output. -/
theorem modify_comm {f : World → World} (hf : ∀ o w, f (w.prepend o) = (f w).prepend o) :
    Appends (modify f : Exec PUnit) := fun o w => by
  rw [run_modify, run_modify, hf]

/-- Reading the world, then going on by what is read of it other than the output. -/
theorem get_bind {f : World → Exec β} (hread : ∀ o w, f (w.prepend o) = f w)
    (hf : ∀ w, Appends (f w)) : Appends ((MonadState.get : Exec World) >>= f) := by
  intro o w
  rw [run_bind, run_bind, run_get, run_get]
  dsimp only
  rw [hread]
  exact hf w o w

theorem world_bind {f : World → Exec β} (hread : ∀ o w, f (w.prepend o) = f w)
    (hf : ∀ w, Appends (f w)) : Appends (Exec.world >>= f) :=
  get_bind hread hf

theorem shell_bind {f : Shell → Exec β} (hf : ∀ s, Appends (f s)) :
    Appends (Exec.shell >>= f) := fun o w => hf w.shell o w

theorem flags_bind {f : Flags → Exec β} (hf : ∀ fl, Appends (f fl)) :
    Appends (Exec.flags >>= f) := fun o w => hf w.shell.flags o w

theorem reach (x : Stack.Excursion) : Appends (Exec.reach x) := by
  unfold Exec.reach
  refine get_bind (fun _ _ => rfl) fun w => ?_
  split
  · exact throw _
  · exact pure _

theorem attempt (h : Appends act) : Appends (Exec.attempt act) := by
  intro o w
  rw [run_attempt, run_attempt, h o w]
  rcases act.run.run w with ⟨_ | a, w'⟩ <;> rfl

theorem ensuring {cleanup : Exec Unit} (h : Appends act) (hc : Appends cleanup) :
    Appends (Exec.ensuring act cleanup) := by
  unfold Exec.ensuring
  refine h.attempt.bind fun r => hc.bind fun _ => ?_
  rcases r with e | a
  · exact throw e
  · exact pure a

theorem frame (h : Appends act) : Appends (Exec.frame act) := by
  unfold Exec.frame
  exact (reach _).bind fun _ => (modify_comm fun _ _ => rfl).bind fun _ =>
    h.ensuring (modify_comm fun _ _ => rfl)

/-- Collecting the output of any action keeps the output before it, so it appends. -/
theorem capture (act : Exec α) : Appends (Exec.capture act) := by
  intro o w
  unfold Exec.capture
  simp only [run_bind, run_get, run_modify, run_attempt, World.prepend]
  rcases act.run.run { w with out := "" } with ⟨_ | a, w'⟩ <;> rfl

theorem say (t : String) : Appends (Exec.say t) :=
  modify_comm fun o w => by simp [World.prepend, String.append_assoc]

theorem warn (t : String) : Appends (Exec.warn t) := modify_comm fun _ _ => rfl

theorem modifyShell (g : Shell → Shell) : Appends (Exec.modifyShell g) := modify_comm fun _ _ => rfl

theorem setStatus (v : Int) : Appends (Exec.setStatus v) := modifyShell _

theorem modifyFlags (g : Flags → Flags) : Appends (Exec.modifyFlags g) := modifyShell _

theorem launch (t : Target) (name : String) (args : List String) (stdin : Option String) :
    Appends (Exec.launch t name args stdin) := modify_comm fun _ _ => rfl

theorem now : Appends Exec.now := fun _ _ => rfl

theorem forIn_list {γ : Type} {body : γ → β → Exec (ForInStep β)}
    (h : ∀ x b, Appends (body x b)) :
    ∀ (xs : List γ) (b : β), Appends (forIn xs b body)
  | [], _ => pure _
  | x :: xs, b => by
    rw [List.forIn_cons]
    refine (h x b).bind fun r => ?_
    rcases r with b' | b'
    · exact pure _
    · exact forIn_list h xs b'

/-! ### The builtins -/

open Builtin

theorem say_pure (t : String) (a : α) :
    Appends (Exec.say t >>= fun _ => (Pure.pure a : Exec α)) :=
  (say t).bind fun _ => pure a

theorem warn_pure (t : String) (a : α) :
    Appends (Exec.warn t >>= fun _ => (Pure.pure a : Exec α)) :=
  (warn t).bind fun _ => pure a

theorem echo (args : List String) (stdin : Option String) : Appends (Echo.run args stdin) := by
  unfold Echo.run
  split
  · exact throw _
  · exact say_pure _ _

theorem getVariable (args : List String) : Appends (getVariable args) := by
  unfold Builtin.getVariable
  split
  · exact warn_pure _ _
  · dsimp only
    split
    · split
      · refine shell_bind fun s => ?_
        split
        · exact say_pure _ _
        · exact warn_pure _ _
      · exact warn_pure _ _
    · exact warn_pure _ _

theorem setVariable (args : List String) : Appends (setVariable args) := by
  unfold Builtin.setVariable
  split
  · exact (modifyShell _).bind fun _ => pure _
  · exact warn_pure _ _

theorem runFunction (args : List String) : Appends (Define.runFunction args) := by
  unfold Define.runFunction
  split
  · exact say_pure _ _
  · exact (modifyShell _).bind fun _ => pure _
  · exact warn_pure _ _

theorem erase (names : List String) : Appends (Define.erase names) := by
  unfold Define.erase
  refine (forIn_list (fun n b => ?_) _ _).bind fun _ => pure _
  refine shell_bind fun s => (modifyShell _).bind fun _ => ?_
  split <;> exact pure _

theorem display (names : List String) : Appends (Define.display names) := by
  unfold Define.display
  refine (forIn_list (fun n b => ?_) _ _).bind fun _ => pure _
  refine shell_bind fun s => ?_
  split
  · exact say_pure _ _
  · exact warn_pure _ _

theorem runFunctions (args : List String) : Appends (Define.runFunctions args) := by
  unfold Define.runFunctions
  dsimp only
  split
  · exact warn_pure _ _
  · split
    · exact say_pure _ _
    · split
      · split
        · exact warn_pure _ _
        · exact erase _
      · split
        · exact shell_bind fun s =>
            (forIn_list (fun n b => say_pure _ _) _ _).bind fun _ => pure _
        · exact display _

theorem applyLevel (c : Config) : Appends (Settings.applyLevel c) := by
  unfold Settings.applyLevel
  split
  · exact throw _
  · exact pure _

theorem settings (args : List String) : Appends (Settings.run args) := by
  have hconfig : ∀ c : Config, Appends (modify fun w => { w with config := c } : Exec PUnit) :=
    fun _ => modify_comm fun _ _ => rfl
  unfold Settings.run
  split
  · exact warn_pure _ _
  · refine world_bind (fun _ _ => rfl) fun v => ?_
    exact (reach _).bind fun _ => say_pure _ _
  · refine world_bind (fun _ _ => rfl) fun v => ?_
    split
    · exact throw _
    · exact (hconfig _).bind fun _ => warn_pure _ _
    · refine (hconfig _).bind fun _ => ?_
      dsimp only
      split
      · exact (applyLevel _).bind fun _ => say_pure _ _
      · exact say_pure _ _
  · exact warn_pure _ _
  · exact (hconfig _).bind fun _ => (applyLevel _).bind fun _ => say_pure _ _
  · exact warn_pure _ _

theorem help (args : List String) : Appends (Settings.help args) := by
  unfold Settings.help
  dsimp only
  split
  · exact (say _).bind fun _ => pure _
  · exact (forIn_list (fun n b => say_pure _ _) _ _).bind fun _ => pure _

theorem resolve (args : List String) : Appends (Return.resolve args) := by
  unfold Return.resolve
  refine shell_bind fun sh => ?_
  dsimp only
  rcases Return.plan args sh.lastStatus with d | ⟨o, out, err⟩
  · exact throw_bind _ _
  · simp only [pure_bind]
    refine (say _).bind fun _ => (warn _).bind fun _ => ?_
    split
    · exact (modifyFlags _).bind fun _ => pure _
    · exact pure _

theorem quit : Appends Return.quit := by
  unfold Return.quit
  exact (modifyFlags _).bind fun _ => shell_bind fun _ => pure _

theorem runProgram (name : String) (args : List String) (stdin : Option String) (capture : Bool) :
    Appends (Engine.runProgram name args stdin capture) := by
  unfold Engine.runProgram
  dsimp only
  split
  · exact throw_bind _ _
  · refine world_bind (fun _ _ => rfl) fun v => ?_
    split
    · exact say_pure _ _
    · split
      · exact warn_pure _ _
      · exact warn_pure _ _
      · exact warn_pure _ _
      · exact throw _
      · exact throw _

end Appends

end Exec

namespace Engine

open Exec

variable {deeper : Deeper}

theorem source_appends (hd : ∀ j, Appends (deeper j)) (args : List String) :
    Appends (source deeper args) := by
  unfold source
  split
  · split
    · refine (Appends.pure _).bind fun path => ?_
      dsimp only
      split
      · exact Appends.throw_bind _ _
      · refine Appends.world_bind (fun _ _ => rfl) fun v => ?_
        split
        · exact hd _
        · exact Appends.warn_pure _ _
    · exact Appends.throw_bind _ _
    · exact Appends.throw_bind _ _
  · exact Appends.warn_pure _ _

theorem runBuiltin_appends (hd : ∀ j, Appends (deeper j)) (b : Builtin) (args : List String)
    (stdin : Option String) : Appends (runBuiltin deeper b args stdin) := by
  unfold runBuiltin
  refine Appends.frame ?_
  cases b
  · exact Appends.settings args
  · exact Appends.echo args stdin
  · exact Appends.runFunction args
  · exact Appends.runFunctions args
  · exact Appends.getVariable args
  · exact Appends.help args
  · exact Appends.quit
  · exact (Appends.resolve args).bind fun _ => Appends.pure _
  · exact Appends.setVariable args
  · exact source_appends hd args

theorem startProgram_appends (name : String) (args : List String) (stdin : Option String)
    (capture : Bool) : Appends (startProgram name args stdin capture) :=
  (Appends.launch _ _ _ _).bind fun _ =>
    Appends.frame ((Appends.reach _).bind fun _ => Appends.runProgram name args stdin capture)

theorem callFunction_appends (hd : ∀ j, Appends (deeper j)) (f : FunctionDef)
    (args : List String) : Appends (callFunction deeper f args) := by
  unfold callFunction
  refine (Appends.reach _).bind fun _ => Appends.shell_bind fun s => ?_
  split
  · exact Appends.warn_pure _ _
  · generalize readingOf f.body = x
    refine (Appends.reach _).bind fun _ => Appends.bind ?_ fun _ => Appends.ensuring (hd _) ?_
    · exact Appends.frame ((Appends.reach _).bind fun _ =>
        (Appends.modifyShell _).bind fun _ => Appends.reach _)
    · exact (Appends.frame ((Appends.modifyShell _).bind fun _ =>
        Appends.reach _)).bind fun _ => Appends.modifyFlags _

theorem dispatch_appends (hd : ∀ j, Appends (deeper j)) (name : String) (args : List String)
    (stdin : Option String) (mode : Mode) (capture : Bool) :
    Appends (dispatch deeper name args stdin mode capture) := by
  unfold dispatch
  refine Appends.frame (Appends.shell_bind fun s => ?_)
  split
  · exact (Appends.launch _ _ _ _).bind fun _ => Appends.frame (callFunction_appends hd _ _)
  · split
    · exact startProgram_appends _ _ _ _
    · exact (Appends.launch _ _ _ _).bind fun _ =>
        Appends.frame ((Appends.reach _).bind fun _ => runBuiltin_appends hd _ _ _)
    · exact Appends.warn_pure _ _
    · exact startProgram_appends _ _ _ _

theorem runCommand_appends (hd : ∀ j, Appends (deeper j)) (name : String) (args : List String)
    (stdin : Option String) (capture : Bool) :
    Appends (runCommand deeper name args stdin capture) := by
  unfold runCommand
  refine Appends.frame ((Appends.reach _).bind fun _ => ?_)
  dsimp only
  split
  · exact Appends.warn_pure _ _
  · refine Appends.shell_bind fun s => ?_
    split
    · exact Appends.pure _
    · exact Appends.warn_pure _ _
    · refine Appends.now.bind fun _ => (dispatch_appends hd _ _ _ _ _).bind fun code => ?_
      split
      · exact Appends.now.bind fun _ => Appends.warn_pure _ _
      · exact Appends.pure _

theorem runStages_appends (hd : ∀ j, Appends (deeper j)) (cs : List Command)
    (stdin : Option String) (st : Int) : Appends (runStages deeper cs stdin st) := by
  induction cs generalizing stdin st with
  | nil => exact Appends.pure _
  | cons c rest ih =>
    simp only [runStages]
    refine Appends.shell_bind fun s => (Appends.reach _).bind fun _ => ?_
    split
    · exact (Appends.reach _).bind fun _ => (Appends.say _).bind fun _ =>
        (Appends.setStatus _).bind fun _ => ih _ _
    · split
      · exact (runCommand_appends hd _ _ _ _).bind fun _ => (Appends.setStatus _).bind fun _ =>
          Appends.flags_bind fun _ => Appends.pure _
      · refine (Appends.reach _).bind fun _ => (Appends.capture _).bind fun _ =>
          (Appends.setStatus _).bind fun _ => Appends.flags_bind fun _ => ?_
        split
        · exact Appends.pure _
        · split
          · exact Appends.pure _
          · exact ih _ _

theorem runPipelines_appends (hd : ∀ j, Appends (deeper j)) (ps : List (List Command))
    (last : Int) : Appends (runPipelines deeper ps last) := by
  induction ps generalizing last with
  | nil => exact Appends.pure _
  | cons p ps ih =>
    rcases p with _ | ⟨c, stages⟩
    · exact ih last
    · simp only [runPipelines]
      split
      · exact ih last
      · refine (runStages_appends hd _ _ _).bind fun r => ?_
        rcases r with code | code
        · exact ih code
        · exact Appends.pure _

theorem runSequence_appends (hd : ∀ j, Appends (deeper j)) (cmds : List Command) :
    Appends (runSequence deeper cmds) := by
  unfold runSequence
  refine Appends.frame ?_
  split
  · exact Appends.shell_bind fun _ => Appends.pure _
  · exact runPipelines_appends hd _ _

theorem runLine_appends (hd : ∀ j, Appends (deeper j)) (line : String) :
    Appends (runLine deeper line) := by
  unfold runLine
  generalize readingOf line = x
  exact Appends.frame ((Appends.reach _).bind fun _ => runSequence_appends hd _)

theorem runLines_appends (hd : ∀ j, Appends (deeper j)) (lines : List String) (st : Int) :
    Appends (runLines deeper lines st) := by
  induction lines generalizing st with
  | nil => exact Appends.pure _
  | cons l ls ih =>
    simp only [runLines]
    split
    · exact ih st
    · refine (runLine_appends hd _).bind fun st' => Appends.flags_bind fun _ => ?_
      split
      · exact Appends.pure _
      · exact ih st'

theorem runScript_appends (hd : ∀ j, Appends (deeper j)) (lines : List String) :
    Appends (runScript deeper lines) := by
  unfold runScript
  exact Appends.frame (Appends.shell_bind fun _ => (Appends.modifyFlags _).bind fun _ =>
    Appends.ensuring (runLines_appends hd _ _) (Appends.modifyFlags _))

/-- No run reads the output written before it or writes anywhere but after it. -/
theorem run_appends : ∀ n j, Appends (run n j)
  | 0, _ => Appends.throw _
  | n + 1, .commands cmds => runSequence_appends (run_appends n) cmds
  | n + 1, .script lines => runScript_appends (run_appends n) lines

end Engine

end Conch
