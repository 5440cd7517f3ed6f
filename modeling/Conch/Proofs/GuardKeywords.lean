import Conch.Proofs.Termination
import Conch.Proofs.LastStatus
import Mathlib.Data.List.TakeWhile
/-! The keywords `and` and `or` in front of a command stand for the operators `&&` and `||`
(`guards_run_as_operators`), except that a skipping `or` ends only its command, so the rest of its
pipeline still runs (`or_guard_runs_rest_of_pipeline`). -/
namespace Conch

/-! ## Texts without references -/

namespace VarRef

theorem piecesFrom_text_of_no_ref {cs : List Char} (h : '@' ∉ cs) :
    piecesFrom .text cs = cs.map .plain := by
  induction cs with
  | nil => rfl
  | cons c cs ih =>
    have hc : c ≠ '@' := fun he => h (he ▸ List.mem_cons_self)
    simp [piecesFrom, hc, ih (fun hm => h (List.mem_cons_of_mem _ hm))]

theorem render_plain (value : List Char → Bool → List Char) (cs : List Char) :
    render value (cs.map .plain) = cs := by
  induction cs with
  | nil => rfl
  | cons c cs ih => simp [render, ih]

theorem expand_of_no_ref (lookup : String → Option String) {t : String} (h : '@' ∉ t.toList) :
    expand lookup t = t := by
  simp [expand, pieces, piecesFrom_text_of_no_ref h, render_plain]

theorem whole?_of_no_ref {t : String} (h : '@' ∉ t.toList) : whole? t = none := by
  unfold whole?
  split
  · rename_i cs hcs
    exact absurd (hcs ▸ List.mem_cons_self) h
  · rfl

end VarRef

/-! ## A status recorded again -/

namespace Table

variable {α : Type}

theorem insertEntry_insertEntry (k : String) (v : α) (es : List (String × α)) :
    insertEntry k v (insertEntry k v es) = insertEntry k v es := by
  induction es with
  | nil => simp [insertEntry]
  | cons e es ih =>
    obtain ⟨k', v'⟩ := e
    by_cases hlt : k < k'
    · simp [insertEntry, hlt]
    · by_cases heq : k = k'
      · simp [insertEntry, heq]
      · simp [insertEntry, hlt, heq, ih]

end Table

theorem Shell.setStatus_setStatus (s : Shell) (v : Int) :
    (s.setStatus v).setStatus v = s.setStatus v := by
  simp [Shell.setStatus, Table.insert, Table.insertEntry_insertEntry]

namespace Exec

variable {α β : Type}

/-- The worlds where recording the status `l` again changes nothing: `l` is the status recorded
last. -/
def Recorded (l : Int) (w : World) : Prop := w.shell.setStatus l = w.shell

theorem Recorded.lastStatus {l : Int} {w : World} (h : Recorded l w) : w.shell.lastStatus = l := by
  rw [← h]
  rfl

theorem setStatus_recorded {pre fault : World → Prop} (v : Int) :
    Triple pre (Exec.setStatus v) (fun _ => Recorded v) fault :=
  Triple.modifyShell fun w _ => Shell.setStatus_setStatus w.shell v

/-! ## Steps that leave the world as it was -/

/-- The worlds whose machine stack has at least `r` frames of room left. -/
def Roomy (r : Nat) (w : World) : Prop := w.stack + r ≤ Stack.limit

theorem Roomy.reach {r : Nat} {w : World} (h : Roomy r w) {x : Stack.Excursion}
    (hx : x.length ≤ r) : w.stack + x.length ≤ Stack.limit := by
  unfold Roomy at h
  omega

theorem Roomy.reach_deeper {r : Nat} {w : World} (h : Roomy r w) {x : Stack.Excursion}
    (hx : x.length + 1 ≤ r) : w.stack + 1 + x.length ≤ Stack.limit := by
  unfold Roomy at h
  omega

theorem Orderly.roomy {act : Exec α} (h : Orderly act) (r : Nat) :
    Triple (Roomy r) act (fun _ => Roomy r) (fun _ => True) := by
  intro w hw
  have hk := (h.run w).2
  rcases hx : act.run.run w with ⟨_ | a, w'⟩ <;> rw [hx] at hk
  · trivial
  · show w'.stack + r ≤ Stack.limit
    rw [hk]
    exact hw

theorem run_bind_of_ok {x : Exec α} {f : α → Exec β} {w w' : World} {a : α}
    (h : x.run.run w = (.ok a, w')) : (x >>= f).run.run w = (f a).run.run w' := by
  rw [run_bind, h]

theorem run_modify (f : World → World) (w : World) :
    (modify f : Exec PUnit).run.run w = (.ok ⟨⟩, f w) := rfl

theorem run_world (w : World) : (Exec.world).run.run w = (.ok w, w) := rfl

theorem run_shell (w : World) : (Exec.shell).run.run w = (.ok w.shell, w) := rfl

theorem run_flags (w : World) : (Exec.flags).run.run w = (.ok w.shell.flags, w) := rfl

theorem run_now (w : World) :
    (Exec.now).run.run w = (.ok (w.clock.reading w.clock.taken), { w with clock := w.clock.tick }) :=
  rfl

theorem run_setStatus (v : Int) (w : World) :
    (Exec.setStatus v).run.run w = (.ok (), { w with shell := w.shell.setStatus v }) := rfl

theorem run_setStatus_of_recorded {l : Int} {w : World} (h : Recorded l w) :
    (Exec.setStatus l).run.run w = (.ok (), w) := by
  rw [run_setStatus, h]

theorem run_frame_of {act : Exec α} {w w' : World} {a : α} (h : Roomy 1 w)
    (hact : act.run.run { w with stack := w.stack + 1 } = (.ok a, w')) :
    (Exec.frame act).run.run w = (.ok a, { w' with stack := w'.stack - 1 }) := by
  unfold Exec.frame Exec.ensuring
  simp only [run_bind, run_reach (h.reach (x := [.frame]) le_rfl), run_modify, run_attempt, hact]
  rfl

theorem run_frame {act : Exec α} {w : World} {a : α} (h : Roomy 1 w)
    (hact : act.run.run { w with stack := w.stack + 1 } = (.ok a, { w with stack := w.stack + 1 })) :
    (Exec.frame act).run.run w = (.ok a, w) := by
  rw [run_frame_of h hact]
  simp

theorem run_capture {act : Exec α} {w : World} {a : α}
    (h : act.run.run { w with out := "" } = (.ok a, { w with out := "" })) :
    (Exec.capture act).run.run w = (.ok (a, ""), w) := by
  unfold Exec.capture
  simp only [run_bind, run_get, run_modify, run_attempt, h]
  rfl

theorem Agree.frame_roomy {r : Nat} {a b : Exec α} (h : Agree (Roomy r) a b) :
    Agree (Roomy (r + 1)) (Exec.frame a) (Exec.frame b) :=
  Agree.frame_deeper h fun w hw => show w.stack + 1 + r ≤ Stack.limit by
    unfold Roomy at hw
    omega

theorem Agree.reach_bind {pre : World → Prop} {x y : Stack.Excursion} {f g : Unit → Exec β}
    (hx : ∀ w, pre w → w.stack + x.length ≤ Stack.limit)
    (hy : ∀ w, pre w → w.stack + y.length ≤ Stack.limit) (h : Agree pre (f ()) (g ())) :
    Agree pre (Exec.reach x >>= f) (Exec.reach y >>= g) := by
  intro w hw
  rw [run_bind_of_ok (run_reach (hx w hw)), run_bind_of_ok (run_reach (hy w hw))]
  exact h w hw

end Exec

theorem Stack.Expansion.excursion_length_le (e : Stack.Expansion) : e.excursion.length ≤ 7 := by
  cases e <;> decide

/-! ## Plain commands behind a keyword -/

/-- A command that a keyword leads as it stands: its name holds no reference and is neither `get`
nor `function`, and one of its words holds no reference and is no keyword. -/
structure Command.Plain (c : Command) : Prop where
  name_plain : '@' ∉ c.name.toList
  expanding : c.name ≠ "get" ∧ c.name ≠ "function"
  leads : ∃ v ∈ c.name :: c.args, '@' ∉ v.toList ∧ Keyword.isCommandPrefix v = false

theorem Command.Plain.expandArgs {c : Command} (hc : c.Plain) (s : Shell) :
    Engine.expandArgs s c.name c.args = c.args.map (VarRef.expand s.lookup) := by
  have hn : ¬(c.name = "get" ∨ c.name = "function") :=
    fun h => h.elim hc.expanding.1 hc.expanding.2
  simp only [Engine.expandArgs, hn, if_false]

theorem Command.Plain.rest_ne_nil {c : Command} (hc : c.Plain) (s : Shell) :
    (CommandLine.splitPrefix (c.name :: Engine.expandArgs s c.name c.args)).2 ≠ [] := by
  obtain ⟨v, hv, hplain, hkw⟩ := hc.leads
  have hmem : v ∈ c.name :: Engine.expandArgs s c.name c.args := by
    rcases List.mem_cons.1 hv with rfl | hv
    · exact List.mem_cons_self
    · rw [hc.expandArgs s]
      exact List.mem_cons_of_mem _ (List.mem_map.2 ⟨v, hv, VarRef.expand_of_no_ref _ hplain⟩)
  simp only [CommandLine.splitPrefix, ne_eq, List.dropWhile_eq_nil_iff, not_forall]
  exact ⟨v, hmem, by simp [hkw]⟩

namespace Engine

open Exec

variable {d : Deeper}

/-- `and` and `or`, the keywords that stand for the operators `&&` and `||`. -/
def IsGuard (k : String) : Prop := k = "and" ∨ k = "or"

theorem IsGuard.keyword {k : String} (h : IsGuard k) : Keyword.isCommandPrefix k = true := by
  rcases h with rfl | rfl <;> decide

theorem IsGuard.whole? {k : String} (h : IsGuard k) : VarRef.whole? k = none := by
  rcases h with rfl | rfl <;> rfl

theorem IsGuard.expandArgs {k : String} (h : IsGuard k) (s : Shell) {c : Command}
    (hc : c.Plain) :
    expandArgs s k (c.name :: c.args) = c.name :: expandArgs s c.name c.args := by
  have hk : ¬(k = "get" ∨ k = "function") := by rcases h with rfl | rfl <;> decide
  rw [hc.expandArgs s]
  simp only [Engine.expandArgs, hk, if_false, List.map_cons,
    VarRef.expand_of_no_ref _ hc.name_plain]

theorem splitPrefix_cons_keyword {k : String} (hk : Keyword.isCommandPrefix k = true)
    (ws : List String) :
    CommandLine.splitPrefix (k :: ws) =
      (k :: (CommandLine.splitPrefix ws).1, (CommandLine.splitPrefix ws).2) := by
  simp [CommandLine.splitPrefix, hk]

theorem splitPrefix_eq_of_rest_nil {ws K : List String}
    (h : CommandLine.splitPrefix ws = (K, [])) : K = ws := by
  have hsplit := List.takeWhile_append_dropWhile (p := Keyword.isCommandPrefix) (l := ws)
  simp only [CommandLine.splitPrefix, Prod.mk.injEq] at h
  rw [h.1, h.2, List.append_nil] at hsplit
  exact hsplit

/-! ## One command behind a guard -/

/-- A guard that passes runs the command behind it as if it were not there. -/
theorem runCommand_guard_agree {k : String} (hk : Keyword.isCommandPrefix k = true) {l : Int}
    (hpass : ∀ K, Plan.ofKeywords l (k :: K) {} = Plan.ofKeywords l K {}) (name : String)
    (args : List String) (stdin : Option String) (capture : Bool) :
    Agree (fun w => w.shell.lastStatus = l) (runCommand d k (name :: args) stdin capture)
      (runCommand d name args stdin capture) := by
  have hvis : Visible (fun w => w.shell.lastStatus = l) := fun _ _ hs _ h => by
    simp only [hs]
    exact h
  unfold runCommand
  refine Agree.frame (Agree.bind (Agree.refl _ _) (Triple.reach fun _ _ => trivial) fun _ => ?_) hvis
  dsimp only
  rw [splitPrefix_cons_keyword hk]
  rcases hsp : CommandLine.splitPrefix (name :: args) with ⟨K, _ | ⟨cmd, cargs⟩⟩
  · have hK : K = name :: args := splitPrefix_eq_of_rest_nil hsp
    subst hK
    simp only [List.getLast?_cons_cons]
    exact Agree.refl _ _
  · refine Agree.bind (Agree.refl _ _) Triple.shell_read fun s => ?_
    intro w hw
    have hs : s.lastStatus = l := hw.2 ▸ hw.1
    dsimp only
    rw [hs, hpass]

/-- A guard that skips ends its command at once with its plan's status, leaving the world as it was.
-/
theorem run_runCommand_guard_skip {k : String} (hk : Keyword.isCommandPrefix k = true)
    {words : List String} (hrest : (CommandLine.splitPrefix words).2 ≠ [])
    (stdin : Option String) (capture : Bool) {w : World} {st : Int} (hroom : Roomy 3 w)
    (hskip : ∀ K, Plan.ofKeywords w.shell.lastStatus (k :: K) {} = .error (.skip st)) :
    (runCommand d k words stdin capture).run.run w = (.ok st, w) := by
  unfold runCommand
  refine run_frame (hroom.reach (x := [.frame]) (by decide)) ?_
  have hsplit := hroom.reach_deeper (x := Stack.splittingKeywords) (by decide)
  obtain ⟨cmd, cargs, hr⟩ := List.exists_cons_of_ne_nil hrest
  rw [run_bind_of_ok (run_reach hsplit)]
  dsimp only
  rw [splitPrefix_cons_keyword hk, hr]
  dsimp only
  rw [run_bind_of_ok (run_shell _)]
  dsimp only
  rw [hskip]
  rfl

/-! ## The pipeline a guard leads -/

theorem runStages_guard_agree {k : String} (hk : IsGuard k) {l : Int}
    (hpass : ∀ K, Plan.ofKeywords l (k :: K) {} = Plan.ofKeywords l K {}) {c : Command}
    (hc : c.Plain) (j₁ j₂ : Option Connector) (ps : List Command) (stdin : Option String)
    (last : Int) :
    Agree (fun w => Roomy 7 w ∧ w.shell.lastStatus = l)
      (runStages d (⟨k, c.name :: c.args, j₂⟩ :: ps) stdin last)
      (runStages d (⟨c.name, c.args, j₁⟩ :: ps) stdin last) := by
  have hcmd := runCommand_guard_agree (d := d) hk.keyword hpass c.name
  simp only [runStages]
  refine Agree.bind (Agree.refl _ _) Triple.shell_read fun s => ?_
  -- the two stages expand their words in excursions of different heights, both within the room
  refine Agree.reach_bind (fun _ hw => hw.1.1.reach (Stack.Expansion.excursion_length_le _))
    (fun _ hw => hw.1.1.reach (Stack.Expansion.excursion_length_le _)) ?_
  rw [hk.expandArgs s hc, hk.whole?, VarRef.whole?_of_no_ref hc.name_plain]
  rcases ps with _ | ⟨p, ps⟩
  · simp only [List.isEmpty_nil, ↓reduceIte]
    exact Agree.bind ((hcmd _ _ _).mono fun _ hw => hw.1.2) Triple.trivial fun _ => Agree.refl _ _
  · simp only [List.isEmpty_cons, Bool.false_eq_true, ↓reduceIte]
    refine Agree.bind (Agree.refl _ _) (Triple.reach fun _ _ => trivial) fun _ => ?_
    have hcap := Agree.capture (hcmd (expandArgs s c.name c.args) stdin true) fun _ hw => hw
    exact Agree.bind (hcap.mono fun _ hw => hw.1.2) Triple.trivial fun _ => Agree.refl _ _

/-- A guard that skips ends its pipeline with the status recorded last, leaving the world as it was,
when nothing follows or that status is a failure. -/
theorem runStages_guard_skip {k : String} (hk : IsGuard k) {l : Int}
    (hskip : ∀ K, Plan.ofKeywords l (k :: K) {} = .error (.skip l)) {c : Command}
    (hc : c.Plain) (j : Option Connector) {ps : List Command} (hstop : ps = [] ∨ l ≠ 0)
    (stdin : Option String) (last : Int) {w : World} (hroom : Roomy 7 w) (hrec : Recorded l w) :
    ∃ f : Flow, (runStages d (⟨k, c.name :: c.args, j⟩ :: ps) stdin last).run.run w = (.ok f, w) ∧
      f.status = l := by
  have hcmd : ∀ capture, ∀ v : World, v.shell = w.shell → v.stack = w.stack →
      (runCommand d k (c.name :: expandArgs w.shell c.name c.args) stdin capture).run.run v =
        (.ok l, v) :=
    fun capture v hs hst => run_runCommand_guard_skip hk.keyword (hc.rest_ne_nil _) _ capture
      (by unfold Roomy at *; omega) (by rw [hs, hrec.lastStatus]; exact hskip)
  simp only [runStages]
  rw [run_bind_of_ok (run_shell w),
    run_bind_of_ok (run_reach (hroom.reach (Stack.Expansion.excursion_length_le _))),
    hk.expandArgs _ hc, hk.whole?]
  rcases ps with _ | ⟨p, ps⟩
  · simp only [List.isEmpty_nil, ↓reduceIte]
    rw [run_bind_of_ok (hcmd _ w rfl rfl), run_bind_of_ok (run_setStatus_of_recorded hrec),
      run_bind_of_ok (run_flags w)]
    cases w.shell.flags.halted
    · exact ⟨.next l, rfl, rfl⟩
    · exact ⟨.unwind l, rfl, rfl⟩
  · have hl : l ≠ 0 := hstop.resolve_left (List.cons_ne_nil _ _)
    simp only [List.isEmpty_cons, Bool.false_eq_true, ↓reduceIte]
    rw [run_bind_of_ok (run_reach (hroom.reach (x := Stack.capturingOutput) (by decide))),
      run_bind_of_ok (run_capture (hcmd _ _ rfl rfl)), run_bind_of_ok (run_setStatus_of_recorded hrec),
      run_bind_of_ok (run_flags w)]
    cases w.shell.flags.halted
    · simp only [Bool.false_eq_true, ↓reduceIte, ne_eq, hl, not_false_eq_true]
      exact ⟨.next l, rfl, rfl⟩
    · exact ⟨.unwind l, rfl, rfl⟩

/-- A pipeline led by a guard runs as the same pipeline led by an operator, if the guard passes
where the operator runs it and skips, ending the pipeline, where the operator skips it. -/
theorem runPipelines_guard_agree {k : String} (hk : IsGuard k) {c : Command} (hc : c.Plain)
    {op : Connector} (ps : List Command) {l : Int}
    (hpass : ¬Reference.Skips ⟨c.name, c.args, some op⟩ l →
      ∀ K, Plan.ofKeywords l (k :: K) {} = Plan.ofKeywords l K {})
    (hskip : Reference.Skips ⟨c.name, c.args, some op⟩ l →
      (∀ K, Plan.ofKeywords l (k :: K) {} = .error (.skip l)) ∧ (ps = [] ∨ l ≠ 0)) :
    Agree (fun w => Roomy 7 w ∧ Recorded l w)
      (runPipelines d [⟨k, c.name :: c.args, some .always⟩ :: ps] l)
      (runPipelines d [⟨c.name, c.args, some op⟩ :: ps] l) := by
  have halways : ¬(some Connector.always = some .onSuccess ∧ l ≠ 0 ∨
      some Connector.always = some .onFailure ∧ l = 0) := by simp
  by_cases hs : Reference.Skips ⟨c.name, c.args, some op⟩ l
  · -- the operator skips the pipeline; the guard runs, skips its command and ends the pipeline
    obtain ⟨hplan, hstop⟩ := hskip hs
    intro w hw
    obtain ⟨f, hf, hfs⟩ := runStages_guard_skip (d := d) hk hplan hc (some .always) hstop none l
      hw.1 hw.2
    unfold Reference.Skips at hs
    simp only [runPipelines, hs, if_true]
    rw [if_neg halways, run_bind_of_ok hf]
    cases f <;> (simp only [Flow.status] at hfs; subst hfs; rfl)
  · have hplan := hpass hs
    unfold Reference.Skips at hs
    simp only [runPipelines]
    rw [if_neg halways, if_neg hs]
    exact Agree.bind ((runStages_guard_agree hk hplan hc _ _ ps none l).mono
      fun _ hw => ⟨hw.1, hw.2.lastStatus⟩) Triple.trivial fun _ => Agree.refl _ _

/-- `and` passes exactly where `&&` runs a pipeline, after a success, and otherwise ends its
pipeline with the failure recorded last. -/
theorem and_guard_agree {c : Command} (hc : c.Plain) (ps : List Command) (l : Int) :
    Agree (fun w => Roomy 7 w ∧ Recorded l w)
      (runPipelines d [⟨"and", c.name :: c.args, some .always⟩ :: ps] l)
      (runPipelines d [⟨c.name, c.args, some .onSuccess⟩ :: ps] l) := by
  refine runPipelines_guard_agree (.inl rfl) hc ps (fun hs K => ?_) fun hs => ⟨fun K => ?_, ?_⟩
  · have hl : l = 0 := by simpa [Reference.Skips] using hs
    simp [Plan.ofKeywords, hl]
  · have hl : l ≠ 0 := by simpa [Reference.Skips] using hs
    simp [Plan.ofKeywords, hl]
  · exact .inr (by simpa [Reference.Skips] using hs)

/-- `or` passes exactly where `||` runs a pipeline, after a failure; after a success it ends only
its command, with status `0`. -/
theorem or_guard_agree {c : Command} (hc : c.Plain) (l : Int) :
    Agree (fun w => Roomy 7 w ∧ Recorded l w)
      (runPipelines d [[⟨"or", c.name :: c.args, some .always⟩]] l)
      (runPipelines d [[⟨c.name, c.args, some .onFailure⟩]] l) := by
  refine runPipelines_guard_agree (.inr rfl) hc [] (fun hs K => ?_) fun hs => ⟨fun K => ?_, .inl rfl⟩
  · have hl : l ≠ 0 := by simpa [Reference.Skips] using hs
    simp [Plan.ofKeywords, hl]
  · have hl : l = 0 := by simpa [Reference.Skips] using hs
    simp [Plan.ofKeywords, hl]

/-! ## Command lists and lines -/

theorem runStages_records (cs : List Command) (stdin : Option String) (st : Int) :
    Triple (fun w => cs = [] → Recorded st w) (runStages d cs stdin st)
      (fun f w => ∀ code, f = .next code → Recorded code w) (fun _ => True) :=
  (runStages_ends_with (R := Recorded) (fun v => setStatus_recorded v) d cs stdin st).conseq
    (fun _ h => h) (fun _ _ h _ hc => by subst hc; exact h) (fun _ h => h)

/-- Pipelines run alike when only their last differs and the last runs alike from the status
recorded last, which holds once some pipeline has run. -/
theorem runPipelines_agree_last (ho : ∀ j, Orderly (d j)) {p₁ p₂ : List Command}
    (hlast : ∀ l, Agree (fun w => Roomy 7 w ∧ Recorded l w) (runPipelines d [p₁] l)
      (runPipelines d [p₂] l))
    (qs : List (List Command)) (l : Int) :
    Agree (fun w => Roomy 7 w ∧ (Recorded l w ∨ ∃ q ∈ qs, ∃ a ∈ q.head?, ¬Reference.Skips a l))
      (runPipelines d (qs ++ [p₁]) l) (runPipelines d (qs ++ [p₂]) l) := by
  induction qs generalizing l with
  | nil => exact (hlast l).mono fun _ hw => ⟨hw.1, hw.2.resolve_right (by simp)⟩
  | cons q qs ih =>
    rcases q with _ | ⟨a, st⟩
    · simp only [List.cons_append, runPipelines]
      exact (ih l).mono fun _ hw => ⟨hw.1, hw.2.imp_right (by simp)⟩
    · simp only [List.cons_append, runPipelines]
      split
      · -- a skipped pipeline hands on the status it was given, so the one that runs comes later
        rename_i hskip
        refine (ih l).mono fun _ hw => ⟨hw.1, hw.2.imp_right fun hruns => ?_⟩
        obtain ⟨q', hq', a', ha', hs⟩ := hruns
        rcases List.mem_cons.1 hq' with rfl | hq'
        · cases ha'
          exact absurd hskip hs
        · exact ⟨q', hq', a', ha', hs⟩
      · have hstages := (runStages_records (d := d) (a :: st) none l).and
          ((runStages_orderly ho (a :: st) none l).roomy 7)
        refine Agree.bind (Agree.refl _ _) (hstages.conseq
          (fun _ hw => ⟨fun h => absurd h (List.cons_ne_nil _ _), hw.1⟩)
          (fun _ _ h => h) (fun _ _ => trivial)) fun f => ?_
        cases f with
        | unwind code => exact Agree.refl _ _
        | next code => exact (ih code).mono fun _ hw => ⟨hw.2, .inl (hw.1 code rfl)⟩

theorem pipelines_of_piped (x : Command) {ps : List Command}
    (hps : ∀ p ∈ ps, p.joint = some .pipe) : pipelines (x :: ps) = [x :: ps] := by
  induction ps generalizing x with
  | nil => rfl
  | cons p ps ih =>
    have hp : p.joint = some .pipe := hps p List.mem_cons_self
    rw [pipelines, ih p fun p' hp' => hps p' (List.mem_cons_of_mem _ hp')]
    simp only [hp, if_true]

theorem pipelines_append_of_not_piped (as : List Command) {x : Command}
    (hx : x.joint ≠ some .pipe) {ps : List Command} (hps : ∀ p ∈ ps, p.joint = some .pipe) :
    pipelines (as ++ x :: ps) = pipelines as ++ [x :: ps] := by
  induction as with
  | nil => exact pipelines_of_piped x hps
  | cons a as ih =>
    rw [List.cons_append, pipelines, ih, pipelines]
    rcases hpa : pipelines as with _ | ⟨_ | ⟨e, es⟩, rest⟩
    · simp [hx]
    · exact absurd (hpa ▸ List.mem_cons_self) (nil_not_mem_pipelines as)
    · simp only [List.cons_append]
      split <;> rfl

theorem runSequence_agree_last (ho : ∀ j, Orderly (d j)) {as ps : List Command}
    (hA : ∃ p ∈ pipelines as, ∃ a ∈ p.head?, a.joint ≠ some .onFailure) {x₁ x₂ : Command}
    (hx₁ : x₁.joint ≠ some .pipe) (hx₂ : x₂.joint ≠ some .pipe)
    (hps : ∀ p ∈ ps, p.joint = some .pipe)
    (hlast : ∀ l, Agree (fun w => Roomy 7 w ∧ Recorded l w) (runPipelines d [x₁ :: ps] l)
      (runPipelines d [x₂ :: ps] l)) :
    Agree (Roomy 8) (runSequence d (as ++ x₁ :: ps)) (runSequence d (as ++ x₂ :: ps)) := by
  have hruns : ∃ q ∈ pipelines as, ∃ a ∈ q.head?, ¬Reference.Skips a 0 := by
    obtain ⟨q, hq, a, ha, hj⟩ := hA
    exact ⟨q, hq, a, ha, fun hs => hj ((skips_zero_iff a).1 hs)⟩
  unfold runSequence
  refine Agree.frame_roomy ?_
  simp only [List.isEmpty_iff, List.append_eq_nil_iff, reduceCtorEq, and_false, ↓reduceIte]
  rw [pipelines_append_of_not_piped as hx₁ hps, pipelines_append_of_not_piped as hx₂ hps]
  exact (runPipelines_agree_last ho hlast _ 0).mono fun _ hw => ⟨hw, .inr hruns⟩

theorem readingOf_of_parse_ne_nil {line : String} (h : CommandLine.parse line ≠ []) :
    readingOf line = Stack.readingLine := by
  unfold readingOf
  rw [if_neg]
  intro hblank
  apply h
  rw [CommandLine.parse, String.isEmpty_iff.1 hblank]
  rfl

theorem runLine_agree_of_parse {l₁ l₂ : String} (h₁ : CommandLine.parse l₁ ≠ [])
    (h₂ : CommandLine.parse l₂ ≠ [])
    (h : Agree (Roomy 8) (runSequence d (CommandLine.parse l₁))
      (runSequence d (CommandLine.parse l₂))) :
    Agree (Roomy 9) (runLine d l₁) (runLine d l₂) := by
  unfold runLine
  rw [readingOf_of_parse_ne_nil h₁, readingOf_of_parse_ne_nil h₂]
  exact Agree.frame_roomy (Agree.bind (Agree.refl _ _) (Triple.reach fun _ _ => trivial) fun _ => h)

/-! ## The guards as operators -/

/-- After a command list `A` in which some pipeline runs, `A && P` and `A ; and P` run alike for
every pipeline `P` led by a plain command, and so do `A || c` and `A ; or c`: the same commands
start, and the same world, status or fault results, given a little room on the stack. -/
theorem guards_run_as_operators (as ps : List Command) (c : Command) (w : World)
    (hA : ∃ p ∈ pipelines as, ∃ a ∈ p.head?, a.joint ≠ some .onFailure) (hc : c.Plain)
    (hps : ∀ p ∈ ps, p.joint = some .pipe) (hw : w.stack + 9 ≤ Stack.limit) :
    (∀ l₁ l₂, CommandLine.parse l₁ = as ++ ⟨c.name, c.args, some .onSuccess⟩ :: ps →
      CommandLine.parse l₂ = as ++ ⟨"and", c.name :: c.args, some .always⟩ :: ps →
      (executeLine l₁).run.run w = (executeLine l₂).run.run w) ∧
    (∀ l₁ l₂, CommandLine.parse l₁ = as ++ [⟨c.name, c.args, some .onFailure⟩] →
      CommandLine.parse l₂ = as ++ [⟨"or", c.name :: c.args, some .always⟩] →
      (executeLine l₁).run.run w = (executeLine l₂).run.run w) := by
  have ho := run_orderly nestingBudget
  have hne : ∀ x xs, as ++ x :: xs ≠ [] := fun _ _ => by simp
  refine ⟨fun l₁ l₂ h₁ h₂ => ?_, fun l₁ l₂ h₁ h₂ => ?_⟩
  · have hseq := runSequence_agree_last ho hA (by simp) (by simp) hps
      fun l => (and_guard_agree hc ps l).symm
    rw [← h₁, ← h₂] at hseq
    exact runLine_agree_of_parse (h₁ ▸ hne _ _) (h₂ ▸ hne _ _) hseq w hw
  · have hseq := runSequence_agree_last ho hA (by simp) (by simp)
      (fun _ h => absurd h List.not_mem_nil) fun l => (or_guard_agree hc l).symm
    rw [← h₁, ← h₂] at hseq
    exact runLine_agree_of_parse (h₁ ▸ hne _ _) (h₂ ▸ hne _ _) hseq w hw

theorem failed_echo_guards_as_operators :
    (executeLine "echo --code 3 && echo b | echo c").run.run { shell := Shell.fresh false } =
      (executeLine "echo --code 3 ; and echo b | echo c").run.run { shell := Shell.fresh false } ∧
    (executeLine "echo --code 3 || echo b").run.run { shell := Shell.fresh false } =
      (executeLine "echo --code 3 ; or echo b").run.run { shell := Shell.fresh false } := by
  have h := guards_run_as_operators [⟨"echo", ["--code", "3"], none⟩] [⟨"echo", ["c"], some .pipe⟩]
    ⟨"echo", ["b"], none⟩ { shell := Shell.fresh false }
    ⟨[⟨"echo", ["--code", "3"], none⟩], by decide, _, rfl, by decide⟩
    ⟨by decide, by decide, ⟨"echo", List.mem_cons_self, by decide, by decide⟩⟩ (by decide)
    (by decide)
  exact ⟨h.1 _ _ (by decide) (by decide), h.2 _ _ (by decide) (by decide)⟩

/-- After a success, `or` skips only the first command of its pipeline, where `||` skips the whole
pipeline. -/
theorem or_guard_runs_rest_of_pipeline :
    ((executeLine "echo a || echo b | echo c").run.run { shell := Shell.fresh false }).2.out =
      "a\n" ∧
    ((executeLine "echo a ; or echo b | echo c").run.run { shell := Shell.fresh false }).2.out =
      "a\nc\n" :=
  ⟨by decide +kernel, by decide +kernel⟩

end Engine

end Conch
