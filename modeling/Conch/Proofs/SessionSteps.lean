import Conch.Proofs.Footprint
import Mathlib.Logic.Relation
/-! What a run can do to the session and the machine's stack (`Orderly`): it changes the session
only by `Shell.Step`s and leaves the stack as it found it, on a result and on a fault alike. -/
namespace Conch

/-- A name that `function` accepts for a function: no reserved word, nothing led by `-`. -/
def FunctionDef.Accepted (name : String) : Prop :=
  ¬(Keyword.isReserved name ∨ name.startsWith "-")

namespace Shell

/-- One change a run makes to a session. -/
inductive Step : Shell → Shell → Prop where
  | setStatus (s : Shell) (v : Int) : Step s (s.setStatus v)
  | push (s : Shell) (name : String) (argv : List String) : Step s (s.push name argv)
  | pop {s s' : Shell} : s.pop = some s' → Step s s'
  | setFlags (s : Shell) (g : Flags → Flags) : Step s (s.setFlags g)
  | assign (s : Shell) {k : String} (v : String) : k ∉ Builtin.readOnly → Step s (s.assign k v)
  | define (s : Shell) {f : FunctionDef} : FunctionDef.Accepted f.name → Step s (s.define f)
  | undefine (s : Shell) (name : String) : Step s (s.undefine name).1

abbrev Steps : Shell → Shell → Prop := Relation.ReflTransGen Step

theorem steps_pop_getD (s : Shell) : Steps s (s.pop.getD s) := by
  rcases h : s.pop with _ | s'
  · exact .refl
  · exact .single (.pop h)

end Shell

namespace Builtin.Define

theorem accepted_of_store {args : List String} {f : FunctionDef}
    (h : decideFunction args = .store f) : FunctionDef.Accepted f.name := by
  unfold decideFunction at h
  split at h
  split at h
  · split at h <;> cases h
  · split at h
    · cases h
    · split at h
      · simp [refusal] at h
      · split at h
        · simp [refusal] at h
        · rename_i hname
          split at h
          · simp [refusal] at h
          · cases h
            exact hname

end Builtin.Define

namespace Exec

open Builtin

/-! ## The builtins -/

/-- What the builtins other than `return`, `quit` and `source` change: the streams, the
configuration, a variable other than `@{status}` and `@{argv}`, and functions stored under accepted
names or erased. -/
structure BuiltinSafe (P : World → Prop) : Prop where
  say : ∀ w t, P w → P { w with out := w.out ++ t }
  warn : ∀ w t, P w → P { w with err := w.err ++ t }
  config : ∀ w c, P w → P { w with config := c }
  assign : ∀ w {k} v, k ∉ readOnly → P w → P { w with shell := w.shell.assign k v }
  define : ∀ w {f : FunctionDef}, FunctionDef.Accepted f.name → P w →
    P { w with shell := w.shell.define f }
  undefine : ∀ w n, P w → P { w with shell := (w.shell.undefine n).1 }

namespace BuiltinSafe

theorem applyLevel {P : World → Prop} (c : Config) :
    Triple P (Settings.applyLevel c) (fun _ => P) P := by
  unfold Settings.applyLevel
  split
  · exact Triple.throw fun _ h => h
  · exact Triple.pure fun _ h => h

variable {P : World → Prop} (hP : BuiltinSafe P) {α : Type}
include hP


theorem say_pure (t : String) (a : α) :
    Triple P (Exec.say t >>= fun _ => (Pure.pure a : Exec α)) (fun _ => P) P :=
  Triple.bind (Triple.modify fun w h => hP.say w t h) fun _ => Triple.pure fun _ h => h

theorem warn_pure (t : String) (a : α) :
    Triple P (Exec.warn t >>= fun _ => (Pure.pure a : Exec α)) (fun _ => P) P :=
  Triple.bind (Triple.modify fun w h => hP.warn w t h) fun _ => Triple.pure fun _ h => h

theorem echo (args : List String) (stdin : Option String) :
    Triple P (Echo.run args stdin) (fun _ => P) P := by
  unfold Echo.run
  split
  · exact Triple.throw fun _ h => h
  · exact hP.say_pure _ _

theorem getVariable (args : List String) : Triple P (getVariable args) (fun _ => P) P := by
  have hinvalid : ∀ t, Triple P (getVariable.invalid t) (fun _ => P) P := fun _ =>
    hP.warn_pure _ _
  unfold Builtin.getVariable
  split
  · exact hP.warn_pure _ _
  · dsimp only
    split
    · split
      · refine Triple.shell_bind_of fun s => ?_
        split
        · exact hP.say_pure _ _
        · exact hP.warn_pure _ _
      · exact hinvalid _
    · exact hinvalid _

theorem setVariable (args : List String) : Triple P (setVariable args) (fun _ => P) P := by
  unfold Builtin.setVariable
  split
  · rename_i k v hkv
    refine Triple.bind (Triple.modifyShell fun w h => ?_) fun _ => Triple.pure fun _ h => h
    exact hP.assign w v (assignment_not_readOnly hkv) h
  · exact hP.warn_pure _ _

theorem runFunction (args : List String) : Triple P (Define.runFunction args) (fun _ => P) P := by
  unfold Define.runFunction
  split
  · exact hP.say_pure _ _
  · rename_i f hf
    refine Triple.bind (Triple.modifyShell fun w h => ?_) fun _ => Triple.pure fun _ h => h
    exact hP.define w (Define.accepted_of_store hf) h
  · exact hP.warn_pure _ _

theorem erase (names : List String) : Triple P (Define.erase names) (fun _ => P) P := by
  unfold Define.erase
  refine Triple.bind (Triple.forIn_list (fun n b => ?_) _ _) fun _ => Triple.pure fun _ h => h
  refine Triple.shell_bind fun s => ?_
  have hwrite : Triple (fun w => P w ∧ w.shell = s)
      (Exec.modifyShell fun _ => (s.undefine n).1) (fun _ => P) P :=
    Triple.modifyShell fun w ⟨h, hs⟩ => by subst hs; exact hP.undefine w n h
  refine Triple.bind hwrite fun _ => ?_
  split <;> exact Triple.pure fun _ h => h

theorem display (names : List String) : Triple P (Define.display names) (fun _ => P) P := by
  unfold Define.display
  refine Triple.bind (Triple.forIn_list (fun n b => ?_) _ _) fun _ => Triple.pure fun _ h => h
  refine Triple.shell_bind_of fun s => ?_
  split
  · exact hP.say_pure _ _
  · exact hP.warn_pure _ _

theorem runFunctions (args : List String) : Triple P (Define.runFunctions args) (fun _ => P) P := by
  unfold Define.runFunctions
  dsimp only
  split
  · exact hP.warn_pure _ _
  · split
    · exact hP.say_pure _ _
    · split
      · split
        · exact hP.warn_pure _ _
        · exact hP.erase _
      · split
        · refine Triple.shell_bind_of fun s => ?_
          refine Triple.bind (Triple.forIn_list (fun n b => ?_) _ _) fun _ =>
            Triple.pure fun _ h => h
          exact hP.say_pure _ _
        · exact hP.display _

theorem settings (args : List String) : Triple P (Settings.run args) (fun _ => P) P := by
  have hconfig : ∀ c : Config, Triple P (modify fun w => { w with config := c } : Exec PUnit)
      (fun _ => P) P := fun c => Triple.modify fun w h => hP.config w c h
  unfold Settings.run
  split
  · exact hP.warn_pure _ _
  · refine Triple.world_bind_of fun v => ?_
    exact Triple.bind (Triple.reach fun _ h => h) fun _ => hP.say_pure _ _
  · refine Triple.world_bind_of fun v => ?_
    split
    · exact Triple.throw fun _ h => h
    · exact Triple.bind (hconfig _) fun _ => hP.warn_pure _ _
    · refine Triple.bind (hconfig _) fun _ => ?_
      dsimp only
      split
      · exact Triple.bind (applyLevel _) fun _ => hP.say_pure _ _
      · exact hP.say_pure _ _
  · exact hP.warn_pure _ _
  · exact Triple.bind (hconfig _) fun _ => Triple.bind (applyLevel _) fun _ => hP.say_pure _ _
  · exact hP.warn_pure _ _

theorem help (args : List String) : Triple P (Settings.help args) (fun _ => P) P := by
  unfold Settings.help
  dsimp only
  split
  · exact Triple.bind (Triple.modify fun w h => hP.say w _ h) fun _ => Triple.pure fun _ h => h
  · refine Triple.bind (Triple.forIn_list (fun n b => ?_) _ _) fun _ => Triple.pure fun _ h => h
    exact hP.say_pure _ _

theorem runProgram (name : String) (args : List String) (stdin : Option String) (capture : Bool) :
    Triple P (Engine.runProgram name args stdin capture) (fun _ => P) P := by
  unfold Engine.runProgram
  dsimp only
  split
  · exact Triple.throw fun _ h => h
  · refine Triple.world_bind_of fun v => ?_
    split
    · exact hP.say_pure _ _
    · split
      · exact hP.warn_pure _ _
      · exact hP.warn_pure _ _
      · exact hP.warn_pure _ _
      · exact Triple.throw fun _ h => h
      · exact Triple.throw fun _ h => h

end BuiltinSafe

/-! ## Orderly actions -/

/-- The worlds whose session is reached from `s` by steps and whose machine stack holds `k`
frames. -/
def Along (s : Shell) (k : Nat) (w : World) : Prop := Shell.Steps s w.shell ∧ w.stack = k

/-- `act` changes the session only by steps and leaves the machine's stack as it found it,
whether it ends with a result or at a fault. -/
def Orderly {α : Type} (act : Exec α) : Prop :=
  ∀ s k, Triple (Along s k) act (fun _ => Along s k) (Along s k)

theorem along_builtinSafe (s : Shell) (k : Nat) : BuiltinSafe (Along s k) where
  say _ _ h := h
  warn _ _ h := h
  config _ _ h := h
  assign w _ v hk h := ⟨h.1.tail (.assign w.shell v hk), h.2⟩
  define w _ hf h := ⟨h.1.tail (.define w.shell hf), h.2⟩
  undefine w n h := ⟨h.1.tail (.undefine w.shell n), h.2⟩

namespace Orderly

variable {α β : Type} {act : Exec α}

theorem run (h : Orderly act) (w : World) :
    Shell.Steps w.shell (act.run.run w).2.shell ∧ (act.run.run w).2.stack = w.stack := by
  have hr := h w.shell w.stack w ⟨.refl, rfl⟩
  rcases hx : act.run.run w with ⟨_ | a, w'⟩ <;> rw [hx] at hr <;> exact hr

theorem of_safe (h : ∀ {P : World → Prop}, BuiltinSafe P → Triple P act (fun _ => P) P) :
    Orderly act := fun s k => h (along_builtinSafe s k)

theorem pure (a : α) : Orderly (Pure.pure a : Exec α) := fun _ _ => Triple.pure fun _ h => h

theorem throw (e : Fault) : Orderly (MonadExcept.throw e : Exec α) :=
  fun _ _ => Triple.throw fun _ h => h

theorem bind {f : α → Exec β} (hx : Orderly act) (hf : ∀ a, Orderly (f a)) :
    Orderly (act >>= f) := fun s k => Triple.bind (hx s k) fun a => hf a s k

theorem reach (x : Stack.Excursion) : Orderly (Exec.reach x) :=
  fun _ _ => Triple.reach fun _ h => h

theorem now : Orderly Exec.now := fun _ _ _ h => h

theorem modify_outside {f : World → World} (hs : ∀ w, (f w).shell = w.shell)
    (hk : ∀ w, (f w).stack = w.stack) : Orderly (modify f : Exec PUnit) := by
  intro s k
  exact Triple.modify fun w h => ⟨(hs w).symm ▸ h.1, (hk w).trans h.2⟩

theorem modifyShell {g : Shell → Shell} (hg : ∀ s, Shell.Steps s (g s)) :
    Orderly (Exec.modifyShell g) := by
  intro s k
  exact Triple.modifyShell fun w h => ⟨h.1.trans (hg _), h.2⟩

theorem say (t : String) : Orderly (Exec.say t) := by
  unfold Exec.say
  exact modify_outside (fun _ => rfl) fun _ => rfl

theorem warn (t : String) : Orderly (Exec.warn t) := by
  unfold Exec.warn
  exact modify_outside (fun _ => rfl) fun _ => rfl

theorem launch (t : Target) (name : String) (args : List String) (stdin : Option String) :
    Orderly (Exec.launch t name args stdin) := by
  unfold Exec.launch
  exact modify_outside (fun _ => rfl) fun _ => rfl

theorem setStatus (v : Int) : Orderly (Exec.setStatus v) :=
  modifyShell fun s => .single (.setStatus s v)

theorem modifyFlags (g : Flags → Flags) : Orderly (Exec.modifyFlags g) :=
  modifyShell fun s => .single (.setFlags s g)

theorem world_bind {f : World → Exec β} (hf : ∀ v, Orderly (f v)) :
    Orderly (Exec.world >>= f) := fun s k => Triple.world_bind_of fun v => hf v s k

theorem shell_bind {f : Shell → Exec β} (hf : ∀ v, Orderly (f v)) :
    Orderly (Exec.shell >>= f) := fun s k => Triple.shell_bind_of fun v => hf v s k

theorem flags_bind {f : Flags → Exec β} (hf : ∀ v, Orderly (f v)) :
    Orderly (Exec.flags >>= f) :=
  fun s k => Triple.flags_bind fun v => (hf v s k).conseq (fun _ h => h.1) (fun _ _ h => h)
    (fun _ h => h)

theorem ensuring {cleanup : Exec Unit} (h : Orderly act) (hc : Orderly cleanup) :
    Orderly (Exec.ensuring act cleanup) :=
  fun s k => Triple.ensuring (h s k) (fun _ => hc s k) (hc s k)

/-- A frame is left again, also after a fault, so the stack is back where it was. -/
theorem frame (h : Orderly act) : Orderly (Exec.frame act) := by
  intro s k
  unfold Exec.frame
  refine Triple.bind (Triple.reach fun _ h => h) fun _ => ?_
  have hleave : Triple (Along s (k + 1)) (modify fun w => { w with stack := w.stack - 1 } : Exec Unit)
      (fun _ => Along s k) (Along s k) := Triple.modify fun _ h => ⟨h.1, by simp [h.2]⟩
  exact Triple.bind (Triple.modify fun _ h => ⟨h.1, by simp [h.2]⟩) fun _ =>
    Triple.ensuring (h s (k + 1)) (fun _ => hleave) hleave

theorem capture (h : Orderly act) : Orderly (Exec.capture act) := by
  intro s k
  unfold Exec.capture
  refine Triple.world_bind_of fun _ => Triple.bind_inv (Triple.modify fun _ h => h) fun _ => ?_
  refine Triple.bind (Triple.attempt (h s k)) fun r => Triple.world_bind_of fun _ => ?_
  rcases r with e | a
  · exact Triple.bind_inv (Triple.modify fun _ h => h) fun _ => Triple.throw fun _ h => h
  · exact Triple.bind_inv (Triple.modify fun _ h => h) fun _ => Triple.pure fun _ h => h

end Orderly

end Exec

namespace Engine

open Exec

variable {deeper : Deeper}

theorem resolve_orderly (args : List String) : Orderly (Builtin.Return.resolve args) := by
  intro s k
  unfold Builtin.Return.resolve
  refine Triple.shell_bind_of fun sh => ?_
  dsimp only
  rcases hp : Builtin.Return.plan args sh.lastStatus with d | ⟨o, out, err⟩
  · exact Triple.throw_bind fun _ h => h
  · simp only [pure_bind]
    refine Triple.bind (Orderly.say _ s k) fun _ => Triple.bind (Orderly.warn _ s k) fun _ => ?_
    split
    · exact Triple.bind (Orderly.modifyFlags _ s k) fun _ => Triple.pure fun _ h => h
    · exact Triple.pure fun _ h => h

theorem return_orderly (args : List String) : Orderly (Builtin.Return.run args) :=
  (resolve_orderly args).bind fun _ => Orderly.pure _

theorem quit_orderly : Orderly Builtin.Return.quit := by
  unfold Builtin.Return.quit
  exact (Orderly.modifyFlags _).bind fun _ => Orderly.shell_bind fun _ => Orderly.pure _

theorem runProgram_orderly (name : String) (args : List String) (stdin : Option String)
    (capture : Bool) : Orderly (runProgram name args stdin capture) :=
  Orderly.of_safe fun hP => hP.runProgram name args stdin capture

theorem source_orderly (hd : ∀ j, Orderly (deeper j)) (args : List String) :
    Orderly (source deeper args) := by
  intro s k
  unfold source
  split
  · split
    · refine Triple.bind_inv (Triple.pure fun _ h => h) fun path => ?_
      dsimp only
      split
      · exact Triple.throw_bind fun _ h => h
      · refine Triple.world_bind_of fun v => ?_
        split
        · exact hd _ s k
        · exact ((Orderly.warn _).bind fun _ => Orderly.pure _) s k
    · exact Triple.throw_bind fun _ h => h
    · exact Triple.throw_bind fun _ h => h
  · exact ((Orderly.warn _).bind fun _ => Orderly.pure _) s k

theorem runBuiltin_orderly (hd : ∀ j, Orderly (deeper j)) (b : Builtin) (args : List String)
    (stdin : Option String) : Orderly (runBuiltin deeper b args stdin) := by
  unfold runBuiltin
  refine Orderly.frame ?_
  cases b
  · exact Orderly.of_safe fun hP => hP.settings args
  · exact Orderly.of_safe fun hP => hP.echo args stdin
  · exact Orderly.of_safe fun hP => hP.runFunction args
  · exact Orderly.of_safe fun hP => hP.runFunctions args
  · exact Orderly.of_safe fun hP => hP.getVariable args
  · exact Orderly.of_safe fun hP => hP.help args
  · exact quit_orderly
  · exact return_orderly args
  · exact Orderly.of_safe fun hP => hP.setVariable args
  · exact source_orderly hd args

theorem startProgram_orderly (name : String) (args : List String) (stdin : Option String)
    (capture : Bool) : Orderly (startProgram name args stdin capture) :=
  (Orderly.launch _ _ _ _).bind fun _ =>
    Orderly.frame ((Orderly.reach _).bind fun _ => runProgram_orderly name args stdin capture)

theorem callFunction_orderly (hd : ∀ j, Orderly (deeper j)) (f : FunctionDef) (args : List String) :
    Orderly (callFunction deeper f args) := by
  unfold callFunction
  refine (Orderly.reach _).bind fun _ => Orderly.shell_bind fun s => ?_
  split
  · exact (Orderly.warn _).bind fun _ => Orderly.pure _
  · generalize readingOf f.body = x
    refine (Orderly.reach _).bind fun _ => Orderly.bind ?_ fun _ => Orderly.ensuring (hd _) ?_
    · exact Orderly.frame ((Orderly.reach _).bind fun _ =>
        (Orderly.modifyShell fun s => .single (.push s _ _)).bind fun _ => Orderly.reach _)
    · exact (Orderly.frame ((Orderly.modifyShell Shell.steps_pop_getD).bind fun _ =>
        Orderly.reach _)).bind fun _ => Orderly.modifyFlags _

theorem dispatch_orderly (hd : ∀ j, Orderly (deeper j)) (name : String) (args : List String)
    (stdin : Option String) (mode : Mode) (capture : Bool) :
    Orderly (dispatch deeper name args stdin mode capture) := by
  unfold dispatch
  refine Orderly.frame (Orderly.shell_bind fun s => ?_)
  split
  · exact (Orderly.launch _ _ _ _).bind fun _ => Orderly.frame (callFunction_orderly hd _ _)
  · split
    · exact startProgram_orderly _ _ _ _
    · exact (Orderly.launch _ _ _ _).bind fun _ =>
        Orderly.frame ((Orderly.reach _).bind fun _ => runBuiltin_orderly hd _ _ _)
    · exact (Orderly.warn _).bind fun _ => Orderly.pure _
    · exact startProgram_orderly _ _ _ _

theorem runCommand_orderly (hd : ∀ j, Orderly (deeper j)) (name : String) (args : List String)
    (stdin : Option String) (capture : Bool) : Orderly (runCommand deeper name args stdin capture) := by
  unfold runCommand
  refine Orderly.frame ((Orderly.reach _).bind fun _ => ?_)
  dsimp only
  split
  · exact (Orderly.warn _).bind fun _ => Orderly.pure _
  · refine Orderly.shell_bind fun s => ?_
    split
    · exact Orderly.pure _
    · exact (Orderly.warn _).bind fun _ => Orderly.pure _
    · refine Orderly.now.bind fun _ => (dispatch_orderly hd _ _ _ _ _).bind fun code => ?_
      split
      · exact Orderly.now.bind fun _ => (Orderly.warn _).bind fun _ => Orderly.pure _
      · exact Orderly.pure _

theorem runStages_orderly (hd : ∀ j, Orderly (deeper j)) (cs : List Command)
    (stdin : Option String) (st : Int) : Orderly (runStages deeper cs stdin st) := by
  induction cs generalizing stdin st with
  | nil => exact Orderly.pure _
  | cons c rest ih =>
    simp only [runStages]
    refine Orderly.shell_bind fun s => (Orderly.reach _).bind fun _ => ?_
    split
    · exact (Orderly.reach _).bind fun _ => (Orderly.say _).bind fun _ =>
        (Orderly.setStatus _).bind fun _ => ih _ _
    · split
      · exact (runCommand_orderly hd _ _ _ _).bind fun _ => (Orderly.setStatus _).bind fun _ =>
          Orderly.flags_bind fun _ => Orderly.pure _
      · refine (Orderly.reach _).bind fun _ => (runCommand_orderly hd _ _ _ _).capture.bind fun _ =>
          (Orderly.setStatus _).bind fun _ => Orderly.flags_bind fun _ => ?_
        split
        · exact Orderly.pure _
        · split
          · exact Orderly.pure _
          · exact ih _ _

theorem runPipelines_orderly (hd : ∀ j, Orderly (deeper j)) (ps : List (List Command))
    (last : Int) : Orderly (runPipelines deeper ps last) := by
  induction ps generalizing last with
  | nil => exact Orderly.pure _
  | cons p ps ih =>
    rcases p with _ | ⟨c, stages⟩
    · exact ih last
    · simp only [runPipelines]
      split
      · exact ih last
      · refine (runStages_orderly hd _ _ _).bind fun r => ?_
        rcases r with code | code
        · exact ih code
        · exact Orderly.pure _

theorem runSequence_orderly (hd : ∀ j, Orderly (deeper j)) (cmds : List Command) :
    Orderly (runSequence deeper cmds) := by
  unfold runSequence
  refine Orderly.frame ?_
  split
  · exact Orderly.shell_bind fun _ => Orderly.pure _
  · exact runPipelines_orderly hd _ _

theorem runLine_orderly (hd : ∀ j, Orderly (deeper j)) (line : String) :
    Orderly (runLine deeper line) := by
  unfold runLine
  generalize readingOf line = x
  exact Orderly.frame ((Orderly.reach _).bind fun _ => runSequence_orderly hd _)

theorem runLines_orderly (hd : ∀ j, Orderly (deeper j)) (lines : List String) (st : Int) :
    Orderly (runLines deeper lines st) := by
  induction lines generalizing st with
  | nil => exact Orderly.pure _
  | cons l ls ih =>
    simp only [runLines]
    split
    · exact ih st
    · refine (runLine_orderly hd _).bind fun st' => Orderly.flags_bind fun _ => ?_
      split
      · exact Orderly.pure _
      · exact ih st'

theorem runScript_orderly (hd : ∀ j, Orderly (deeper j)) (lines : List String) :
    Orderly (runScript deeper lines) := by
  unfold runScript
  exact Orderly.frame (Orderly.shell_bind fun _ => (Orderly.modifyFlags _).bind fun _ =>
    Orderly.ensuring (runLines_orderly hd _ _) (Orderly.modifyFlags _))

theorem run_orderly : ∀ n j, Orderly (run n j)
  | 0, _ => Orderly.throw _
  | n + 1, .commands cmds => runSequence_orderly (run_orderly n) cmds
  | n + 1, .script lines => runScript_orderly (run_orderly n) lines

theorem executeLine_orderly (line : String) : Orderly (executeLine line) :=
  runLine_orderly (run_orderly nestingBudget) line

theorem executeScript_orderly (lines : List String) : Orderly (executeScript lines) :=
  runScript_orderly (run_orderly nestingBudget) lines

theorem callBuiltin_orderly (name : String) (args : List String) (stdin : Option String) :
    Orderly (callBuiltin name args stdin) := by
  unfold callBuiltin
  split
  · exact (runBuiltin_orderly (run_orderly nestingBudget) _ _ _).bind fun _ => Orderly.pure _
  · exact Orderly.pure _

end Engine

end Conch
