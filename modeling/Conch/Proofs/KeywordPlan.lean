import Conch.Proofs.DefinitionRoundTrip
import Mathlib.Algebra.Ring.Parity
/-! The keywords in front of a command read as a whole (`Plan.ofKeywords_eq`), and a command run as
its keywords say (`command_runs_as_its_keywords_say`). -/
namespace Conch

def Mode.ofKeyword? (k : String) : Option Mode :=
  if k = "builtin" then some .builtinOnly else if k = "command" then some .programOnly else none

/-- What a mode starts a command as, given whether a function and a builtin of its name exist;
`none` when `builtin` finds no builtin. -/
def Mode.target : Mode → Bool → Bool → Option Target
  | .any, true, _ => some .function
  | .any, false, true => some .builtin
  | .any, false, false => some .program
  | .builtinOnly, _, true => some .builtin
  | .builtinOnly, _, false => none
  | .programOnly, _, _ => some .program

namespace Keyword

def acting : List String := ["not", "and", "or", "builtin", "command", "time"]

/-- The keywords in front of a command that open a block, which this shell refuses. -/
def refused : List String := ["begin", "exec", "if", "while", "else"]

theorem mem_refused {k : String} (h : isCommandPrefix k = true) (hk : k ∉ acting) :
    k ∈ refused := by
  have hall : ∀ k ∈ leading ++ skipping, k ∈ acting ∨ k ∈ refused := by decide
  have hmem : k ∈ leading ++ skipping := by
    simpa [isCommandPrefix] using h
  exact (hall k hmem).resolve_left hk

/-- A keyword ends the command it leads before it runs, after the status `last`: `and` after a
failure, `or` after a success, and a keyword that opens a block. -/
def stops (last : Int) (k : String) : Bool :=
  (k = "and" ∧ last ≠ 0) ∨ (k = "or" ∧ last = 0) ∨ k ∈ refused

def modeOf? (ks : List String) : Option Mode := (ks.filterMap Mode.ofKeyword?).getLast?

def modeOf (ks : List String) : Mode := (modeOf? ks).getD .any

example : modeOf ["builtin", "not", "command", "time"] = .programOnly := by decide

theorem modeOf?_cons_of_mode (k : String) (ks : List String) (m : Mode)
    (h : Mode.ofKeyword? k = some m) : modeOf? (k :: ks) = some ((modeOf? ks).getD m) := by
  simp only [modeOf?, List.filterMap_cons, h, List.getLast?_cons]

theorem modeOf?_cons_of_none (k : String) (ks : List String) (h : Mode.ofKeyword? k = none) :
    modeOf? (k :: ks) = modeOf? ks := by
  simp only [modeOf?, List.filterMap_cons, h]

end Keyword

open Keyword

/-- Reading keywords one by one comes to reading them as a whole: the first that stops the command,
or else `not` counted, the last place chosen and `time` noted. -/
theorem Plan.ofKeywords_eq (last : Int) (ks : List String) (p : Plan)
    (hks : ∀ k ∈ ks, isCommandPrefix k = true) :
    Plan.ofKeywords last ks p =
      match ks.find? (stops last) with
      | some k => .error (if k = "and" ∨ k = "or" then .skip last else .block k)
      | none => .ok { negate := xor p.negate (decide (Odd (ks.count "not")))
                      mode := (modeOf? ks).getD p.mode
                      timed := p.timed || decide ("time" ∈ ks) } := by
  have htail : ∀ {k ks}, (∀ x ∈ k :: ks, isCommandPrefix x = true) →
      ∀ x ∈ ks, isCommandPrefix x = true := fun h x hx => h x (List.mem_cons_of_mem _ hx)
  fun_induction Plan.ofKeywords last ks p with
  | case1 p => simp [modeOf?]
  | case2 ks p ih =>
    rw [ih (htail hks), List.find?_cons_of_neg (by simp [stops, refused]),
      modeOf?_cons_of_none "not" ks (by decide)]
    have hodd : decide (Odd (("not" :: ks).count "not")) = !decide (Odd (ks.count "not")) := by
      simp only [List.count_cons_self, Nat.odd_add_one, decide_not]
    rw [hodd]
    cases List.find? (stops last) ks <;> simp
  | case3 ks p hlast _ =>
    rw [List.find?_cons_of_pos (by simp [stops, hlast])]
    simp
  | case4 ks p hlast _ ih =>
    rw [ih (htail hks), List.find?_cons_of_neg (by simp [stops, refused, hlast]),
      modeOf?_cons_of_none "and" ks (by decide)]
    cases List.find? (stops last) ks <;> simp
  | case5 ks p hlast _ _ =>
    rw [List.find?_cons_of_pos (by simp [stops, hlast])]
    simp
  | case6 ks p hlast _ _ ih =>
    rw [ih (htail hks), List.find?_cons_of_neg (by simp [stops, refused, hlast]),
      modeOf?_cons_of_none "or" ks (by decide)]
    cases List.find? (stops last) ks <;> simp
  | case7 ks p _ _ _ ih =>
    rw [ih (htail hks), List.find?_cons_of_neg (by simp [stops, refused]),
      modeOf?_cons_of_mode "builtin" ks .builtinOnly (by decide)]
    cases List.find? (stops last) ks <;> simp
  | case8 ks p _ _ _ _ ih =>
    rw [ih (htail hks), List.find?_cons_of_neg (by simp [stops, refused]),
      modeOf?_cons_of_mode "command" ks .programOnly (by decide)]
    cases List.find? (stops last) ks <;> simp
  | case9 ks p _ _ _ _ _ ih =>
    rw [ih (htail hks), List.find?_cons_of_neg (by simp [stops, refused]),
      modeOf?_cons_of_none "time" ks (by decide)]
    cases List.find? (stops last) ks <;> simp
  | case10 k ks p hnot hand hor hbuiltin hcommand htime =>
    -- a keyword that does not act on the command opens a block, and stops it at once
    have hk : k ∈ refused := mem_refused (hks k List.mem_cons_self) (by simp [acting, *])
    rw [List.find?_cons_of_pos (by simp [stops, hk])]
    simp [hand, hor]

namespace Engine

open Exec

variable {α : Type}

theorem run_reach_cramped (x : Stack.Excursion) (w : World) (hw : w.stack ≤ Stack.limit)
    (h : Stack.limit < w.stack + x.length) :
    ∃ e, (Exec.reach x).run.run w = (.error (.tooDeep e), w) := by
  have hlt : Stack.limit - w.stack < x.length := by omega
  exact ⟨x[Stack.limit - w.stack], run_reach_blocked (List.getElem?_eq_getElem hlt)⟩

theorem run_frame_roomy {act : Exec α} {w : World} (h : Roomy 1 w) :
    (Exec.frame act).run.run w =
      match act.run.run { w with stack := w.stack + 1 } with
      | (r, v) => (r, { v with stack := v.stack - 1 }) := by
  unfold Exec.frame Exec.ensuring
  simp only [run_bind, run_reach (h.reach (x := [.frame]) le_rfl), run_modify, run_attempt]
  rcases act.run.run { w with stack := w.stack + 1 } with ⟨_ | a, w'⟩ <;> rfl

/-- Without room for its frame and for splitting its keywords, a command stops at the stack's
edge and changes nothing. -/
theorem runCommand_cramped (deeper : Deeper) (name : String) (args : List String)
    (stdin : Option String) (capture : Bool) {w : World} (h : ¬Roomy 3 w) :
    ∃ e, (runCommand deeper name args stdin capture).run.run w = (.error (.tooDeep e), w) := by
  unfold runCommand
  by_cases hfull : Stack.limit ≤ w.stack
  · exact ⟨.frame, frame_full w hfull⟩
  · -- the frame is entered, and splitting the keywords meets the edge one frame deeper
    have h1 : Roomy 1 w := by
      unfold Roomy
      omega
    obtain ⟨e, he⟩ := run_reach_cramped Stack.splittingKeywords { w with stack := w.stack + 1 }
      (by dsimp only; omega) (by
        unfold Roomy at h
        simp only [Stack.splittingKeywords, List.length_cons, List.length_nil]
        omega)
    refine ⟨e, ?_⟩
    rw [run_frame_roomy h1, run_bind, he]
    simp

theorem run_runCommand_by_keywords (deeper : Deeper) (name : String) (args : List String)
    (stdin : Option String) (capture : Bool) {ks rest : List String}
    (hsplit : CommandLine.splitPrefix (name :: args) = (ks, rest)) {w : World} (hroom : Roomy 3 w) :
    (runCommand deeper name args stdin capture).run.run w =
      match rest, ks.find? (stops w.shell.lastStatus) with
      | [], _ => (.ok 2, { w with err := w.err ++ (ks.getLast?.getD "" ++ ": expected a command\n") })
      | _ :: _, some k =>
        if k = "and" ∨ k = "or" then (.ok w.shell.lastStatus, w)
        else (.ok 123, { w with err := w.err ++ (k ++ ": block syntax is not supported by this shell\n") })
      | cmd :: cargs, none =>
        (Exec.frame do
          let started ← Exec.now
          let d ← dispatch deeper cmd cargs stdin (modeOf ks) capture
          if "time" ∈ ks then
            let elapsed := (← Exec.now) - started
            Exec.warn ("time: '" ++ cmd ++ "' executed in " ++ Clock.millis elapsed ++ " ms\n")
          return if Odd (ks.count "not") then (if d ≠ 0 then 0 else 1) else d).run.run w := by
  have hks : ∀ k ∈ ks, isCommandPrefix k = true := fun k hk =>
    List.mem_takeWhile_imp (hsplit ▸ hk : k ∈ (CommandLine.splitPrefix (name :: args)).1)
  have h1 : Roomy 1 w := by
    unfold Roomy at hroom ⊢
    omega
  have hreach := hroom.reach_deeper (x := Stack.splittingKeywords) (by decide)
  unfold runCommand
  rw [run_frame_roomy h1, run_bind_of_ok (run_reach hreach)]
  simp only [hsplit]
  rcases rest with _ | ⟨cmd, cargs⟩
  · rfl
  · rw [run_bind_of_ok (run_shell _)]
    dsimp only
    rw [Plan.ofKeywords_eq _ _ _ hks]
    rcases ks.find? (stops w.shell.lastStatus) with _ | k
    · -- no keyword stops the command: it is dispatched, both sides one frame deeper
      dsimp only
      rw [run_frame_roomy h1]
      simp only [modeOf, Bool.false_xor, Bool.false_or, Plan.finish, decide_eq_true_eq]
    · by_cases hguard : k = "and" ∨ k = "or"
      · simp only [hguard, if_true]
        rfl
      · simp only [hguard, if_false]
        rfl

/-! ## The command a mode starts -/

/-- The log of started commands only grows: a run appends to the log it started with. -/
def logGrows : Invariant where
  holds w₀ w := w₀.launches.toList <+: w.launches.toList
  faulted w₀ w := w₀.launches.toList <+: w.launches.toList
  refl _ := List.prefix_refl _
  faulted_of_holds h := h
  settled h hs _ := hs.2.2.2 ▸ h
  faulted_settled h hs _ := hs.2.2.2 ▸ h
  launch l h := h.trans (by simp)
  setStatus _ h := h
  raise h hs _ _ := hs.2.2.2 ▸ h
  enter _ _ h _ := h
  leave _ _ h₁ _ _ hl h := h₁.trans (hl ▸ h)
  leave_faulted _ _ h₁ _ _ hl h := ⟨h₁.trans (hl ▸ h), h₁.trans (hl ▸ h), h₁.trans (hl ▸ h)⟩

theorem log_of_keeps {act : Exec α} (h : Keeps logGrows act) (w : World) :
    w.launches.toList <+: (act.run.run w).2.launches.toList := by
  have hr := h w w (List.prefix_refl _)
  rcases hx : act.run.run w with ⟨_ | a, v⟩ <;> rw [hx] at hr <;> exact hr

theorem launches_frame {act : Exec α} {w : World} (h : Roomy 1 w) :
    ((Exec.frame act).run.run w).2.launches =
      (act.run.run { w with stack := w.stack + 1 }).2.launches := by
  rw [run_frame_roomy h]
  rcases act.run.run { w with stack := w.stack + 1 } with ⟨r, v⟩
  rfl

theorem launch_bind_log (t : Target) (name : String) (args : List String) (stdin : Option String)
    {β : Type} {rest : Unit → Exec β} (h : Keeps logGrows (rest ())) (v : World) :
    (v.launches.push ⟨t, name, args, stdin, v.shell.flags⟩).toList <+:
      ((Exec.launch t name args stdin >>= rest).run.run v).2.launches.toList := by
  rw [run_bind_of_ok (run_launch _ _ _ _ _)]
  exact log_of_keeps h { v with launches := v.launches.push _ }

/-- A dispatch with room for its frame starts the command as its mode chooses, ahead of what it
starts in turn, or refuses it with `127` when `builtin` finds no builtin. -/
theorem dispatch_starts_target (n : Nat) (cmd : String) (cargs : List String)
    (stdin : Option String) (m : Mode) (capture : Bool) (w : World) (hroom : Roomy 1 w) :
    match m.target (w.shell.functions.get? cmd).isSome (Builtin.ofName? cmd).isSome with
    | none => (dispatch (run n) cmd cargs stdin m capture).run.run w =
        (.ok 127, { w with err := w.err ++ ("builtin: Unknown builtin '" ++ cmd ++ "'\n") })
    | some t => (w.launches.push ⟨t, cmd, cargs, stdin, w.shell.flags⟩).toList <+:
        ((dispatch (run n) cmd cargs stdin m capture).run.run w).2.launches.toList := by
  have hkeeps := run_keeps logGrows n
  have hbuiltin : ∀ b : Builtin, Keeps logGrows (Exec.frame
      (Exec.reach Stack.inspectingBuiltin >>= fun _ => runBuiltin (run n) b cargs stdin)) := fun b =>
    Keeps.frame fun w₀ => Triple.bind_inv (Triple.reach fun _ => logGrows.faulted_of_holds) fun _ =>
      runBuiltin_keeps hkeeps b cargs stdin w₀
  have hprogram : ∀ v : World,
      (v.launches.push ⟨.program, cmd, cargs, stdin, v.shell.flags⟩).toList <+:
        ((startProgram cmd cargs stdin capture).run.run v).2.launches.toList := fun v => by
    unfold startProgram
    exact launch_bind_log _ _ _ _ (Keeps.frame fun w₀ => Triple.bind_inv
      (Triple.reach fun _ => logGrows.faulted_of_holds) fun _ => runProgram_keeps cmd cargs stdin capture w₀) v
  unfold dispatch
  rw [launches_frame hroom, run_bind_of_ok (run_shell _)]
  dsimp only
  rcases m with _ | _ | _
  · rcases w.shell.functions.get? cmd with _ | f
    · rcases Builtin.ofName? cmd with _ | b <;>
        simp only [Option.isSome_none, Option.isSome_some, Mode.target]
      · exact hprogram { w with stack := w.stack + 1 }
      · exact launch_bind_log _ _ _ _ (hbuiltin b) { w with stack := w.stack + 1 }
    · simp only [Option.isSome_some, Mode.target]
      exact launch_bind_log _ _ _ _ (callFunction_keeps hkeeps f cargs).frame
        { w with stack := w.stack + 1 }
  · rcases Builtin.ofName? cmd with _ | b <;>
      simp only [Option.isSome_none, Option.isSome_some, Mode.target]
    · rw [run_frame_roomy hroom, run_bind_of_ok (run_shell _)]
      rfl
    · exact launch_bind_log _ _ _ _ (hbuiltin b) { w with stack := w.stack + 1 }
  · simp only [Mode.target]
    exact hprogram { w with stack := w.stack + 1 }

/-- A command runs as its keywords say: refused with `2` when nothing follows them, ended by the
first keyword that stops it (with the last status, or `123` for a block), or else dispatched in the
mode they choose, timed by the clock when `time` stands and its status flipped by an odd count of
`not`; without room on the stack it changes nothing. -/
theorem command_runs_as_its_keywords_say (n : Nat) (name : String) (args : List String)
    (stdin : Option String) (capture : Bool) {ks rest : List String}
    (hsplit : CommandLine.splitPrefix (name :: args) = (ks, rest)) (w : World) :
    (Roomy 3 w → (runCommand (run n) name args stdin capture).run.run w =
      match rest, ks.find? (stops w.shell.lastStatus) with
      | [], _ => (.ok 2, { w with err := w.err ++ (ks.getLast?.getD "" ++ ": expected a command\n") })
      | _ :: _, some k =>
        if k = "and" ∨ k = "or" then (.ok w.shell.lastStatus, w)
        else (.ok 123, { w with err := w.err ++ (k ++ ": block syntax is not supported by this shell\n") })
      | cmd :: cargs, none =>
        (Exec.frame do
          let started ← Exec.now
          let d ← dispatch (run n) cmd cargs stdin (modeOf ks) capture
          if "time" ∈ ks then
            let elapsed := (← Exec.now) - started
            Exec.warn ("time: '" ++ cmd ++ "' executed in " ++ Clock.millis elapsed ++ " ms\n")
          return if Odd (ks.count "not") then (if d ≠ 0 then 0 else 1) else d).run.run w) ∧
    (¬Roomy 3 w →
      ∃ e, (runCommand (run n) name args stdin capture).run.run w = (.error (.tooDeep e), w)) ∧
    (∀ cmd cargs (m : Mode) (v : World), Roomy 1 v →
      match m.target (v.shell.functions.get? cmd).isSome (Builtin.ofName? cmd).isSome with
      | none => (dispatch (run n) cmd cargs stdin m capture).run.run v =
          (.ok 127, { v with err := v.err ++ ("builtin: Unknown builtin '" ++ cmd ++ "'\n") })
      | some t => (v.launches.push ⟨t, cmd, cargs, stdin, v.shell.flags⟩).toList <+:
          ((dispatch (run n) cmd cargs stdin m capture).run.run v).2.launches.toList) :=
  ⟨run_runCommand_by_keywords (run n) name args stdin capture hsplit,
    runCommand_cramped (run n) name args stdin capture,
    fun cmd cargs m v hv => dispatch_starts_target n cmd cargs stdin m capture v hv⟩

theorem failed_and_skips_its_command :
    CommandLine.splitPrefix ["not", "and", "echo", "x"] = (["not", "and"], ["echo", "x"]) ∧
      Roomy 3 { shell := (Shell.fresh false).setStatus 1 } ∧
      (runCommand (run 1) "not" ["and", "echo", "x"] none false).run.run
          { shell := (Shell.fresh false).setStatus 1 } =
        (.ok 1, { shell := (Shell.fresh false).setStatus 1 }) := by
  have hsplit : CommandLine.splitPrefix ["not", "and", "echo", "x"] =
      (["not", "and"], ["echo", "x"]) := by decide
  have hroom : Roomy 3 { shell := (Shell.fresh false).setStatus 1 } := by
    unfold Roomy
    decide
  refine ⟨hsplit, hroom, ?_⟩
  rw [(command_runs_as_its_keywords_say 1 "not" ["and", "echo", "x"] none false hsplit _).1 hroom]
  rfl

end Engine

end Conch
