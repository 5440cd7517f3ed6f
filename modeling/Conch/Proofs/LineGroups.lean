import Conch.CommandLine
import Mathlib.Data.List.TakeDrop
import Mathlib.Data.List.TakeWhile
/-! Command lines read group by group: the words of a line fall apart at its operator words into
groups, each non-empty group one command (`parse_by_groups`). -/
namespace Conch

namespace VarRef

/-- The assignment pattern `^@\{([^}=]+)\}=(.*)$` matches `w` with key `k` and value `v`: a key of
characters other than `}` and `=`, and a value with no line feed, which one line feed may follow. -/
def AssignmentMatch (w k v : String) : Prop :=
  ∃ raw : List Char, w.toList = '@' :: '{' :: k.toList ++ '}' :: '=' :: raw ∧ k ≠ "" ∧
    '}' ∉ k.toList ∧ '=' ∉ k.toList ∧ '\n' ∉ v.toList ∧ (raw = v.toList ∨ raw = v.toList ++ ['\n'])

def IsAssignment (w : String) : Prop := ∃ k v, AssignmentMatch w k v

/-- The reading pattern `^@\{([A-Za-z_][\w\.]*)\}$` matches the whole word: `@{`, an ASCII letter
or an underscore, word characters and dots, and `}`. -/
def ReadingMatch (w : String) : Prop :=
  ∃ (c : Char) (cs : List Char), w.toList = '@' :: '{' :: c :: cs ++ ['}'] ∧
    (c.isAlpha = true ∨ c = '_') ∧ ∀ d ∈ cs, Text.isWordChar d = true ∨ d = '.'

theorem assignedValue_eq_some_iff {raw v : List Char} :
    assignedValue raw = some v ↔ '\n' ∉ v ∧ (raw = v ∨ raw = v ++ ['\n']) := by
  have hsplit := List.takeWhile_append_dropWhile (p := fun c => decide (c ≠ '\n')) (l := raw)
  have hline : '\n' ∉ raw.takeWhile fun c => decide (c ≠ '\n') := fun hm => by
    simpa using List.mem_takeWhile_imp hm
  constructor
  · intro h
    unfold assignedValue at h
    rw [List.span_eq_takeWhile_dropWhile] at h
    split at h
    next _ t heq =>
      obtain ⟨rfl, hd⟩ := Prod.mk.injEq _ _ _ _ ▸ heq
      cases h
      rw [hd, List.append_nil] at hsplit
      exact ⟨hline, .inl hsplit.symm⟩
    next _ t heq =>
      obtain ⟨rfl, hd⟩ := Prod.mk.injEq _ _ _ _ ▸ heq
      cases h
      rw [hd] at hsplit
      exact ⟨hline, .inr hsplit.symm⟩
    next => simp at h
  · rintro ⟨hv, hraw⟩
    have hall : ∀ c ∈ v, decide (c ≠ '\n') = true := fun c hc => by
      simp only [ne_eq, decide_eq_true_eq]
      rintro rfl
      exact hv hc
    unfold assignedValue
    rw [List.span_eq_takeWhile_dropWhile]
    rcases hraw with rfl | rfl
    · rw [List.takeWhile_eq_self_iff.2 hall, List.dropWhile_eq_nil_iff.2 hall]
    · rw [List.takeWhile_append_of_pos hall, List.dropWhile_append_of_pos hall]
      simp

theorem assignment?_of_key {w k : String} {raw : List Char}
    (hw : w.toList = '@' :: '{' :: k.toList ++ '}' :: '=' :: raw) (hk : k ≠ "")
    (hb : '}' ∉ k.toList) (he : '=' ∉ k.toList) :
    assignment? w = (assignedValue raw).map fun v => (k, String.ofList v) := by
  obtain ⟨c, name, hcn⟩ := List.exists_cons_of_ne_nil (fun h => hk (String.toList_inj.1 h))
  have hkey : ∀ x ∈ k.toList, decide (x ≠ '}' ∧ x ≠ '=') = true := fun x hx => by
    simp only [ne_eq, decide_eq_true_eq]
    exact ⟨fun h => hb (h ▸ hx), fun h => he (h ▸ hx)⟩
  have hspan : (k.toList ++ '}' :: '=' :: raw).span (fun c => decide (c ≠ '}' ∧ c ≠ '=')) =
      (k.toList, '}' :: '=' :: raw) := by
    rw [List.span_eq_takeWhile_dropWhile, List.takeWhile_append_of_pos hkey,
      List.dropWhile_append_of_pos hkey]
    simp
  unfold assignment?
  rw [hw]
  split
  next cs hcs =>
    obtain ⟨-, -, rfl⟩ : '@' = '@' ∧ '{' = '{' ∧ k.toList ++ '}' :: '=' :: raw = cs := by
      simpa using hcs
    rw [hspan, hcn]
    show Option.map _ (assignedValue raw) = _
    rw [← hcn, String.ofList_toList]
  next hne => exact absurd rfl (hne (k.toList ++ '}' :: '=' :: raw))

theorem assignment?_eq_some_iff {w k v : String} :
    assignment? w = some (k, v) ↔ AssignmentMatch w k v := by
  constructor
  · intro h
    unfold assignment? at h
    split at h
    next cs hw =>
      rw [List.span_eq_takeWhile_dropWhile] at h
      split at h
      next _ c name rest heq =>
        obtain ⟨hname, hrest⟩ := Prod.mk.injEq _ _ _ _ ▸ heq
        obtain ⟨u, hu, hkv⟩ := Option.map_eq_some_iff.1 h
        obtain ⟨rfl, rfl⟩ := Prod.mk.injEq _ _ _ _ ▸ hkv
        have hkey : ∀ x ∈ c :: name, x ≠ '}' ∧ x ≠ '=' := fun x hx => by
          have hmem : x ∈ cs.takeWhile fun c => decide (c ≠ '}' ∧ c ≠ '=') := hname ▸ hx
          have hpass := List.mem_takeWhile_imp hmem
          simpa using hpass
        have hcs := List.takeWhile_append_dropWhile (p := fun c => decide (c ≠ '}' ∧ c ≠ '='))
          (l := cs)
        rw [hname, hrest] at hcs
        obtain ⟨hline, hraw⟩ := assignedValue_eq_some_iff.1 hu
        refine ⟨rest, ?_, ?_, fun hm => (hkey _ (by simpa using hm)).1 rfl,
          fun hm => (hkey _ (by simpa using hm)).2 rfl, by simpa using hline, by simpa using hraw⟩
        · simp [hw, ← hcs]
        · simp [← String.toList_inj]
      next => simp at h
    next => simp at h
  · rintro ⟨raw, hw, hk, hb, he, hline, hraw⟩
    rw [assignment?_of_key hw hk hb he, assignedValue_eq_some_iff.2 ⟨hline, hraw⟩, Option.map_some,
      String.ofList_toList]

theorem isSome_assignment?_iff (w : String) : (assignment? w).isSome = true ↔ IsAssignment w := by
  rw [Option.isSome_iff_exists]
  constructor
  · rintro ⟨⟨k, v⟩, h⟩
    exact ⟨k, v, assignment?_eq_some_iff.1 h⟩
  · rintro ⟨k, v, h⟩
    exact ⟨(k, v), assignment?_eq_some_iff.2 h⟩

theorem whole?_eq_some_iff {w n : String} :
    whole? w = some n ↔ w.toList = '@' :: '{' :: n.toList ++ ['}'] ∧ n ≠ "" ∧ '}' ∉ n.toList := by
  constructor
  · intro h
    unfold whole? at h
    split at h
    next cs hw =>
      split at h
      next rn hrn =>
        split at h
        next hcond =>
          cases h
          have hcs : cs = rn.reverse ++ ['}'] := by
            simpa using congrArg List.reverse hrn
          refine ⟨by simp [hw, hcs], fun he => hcond.1 ?_, by simpa using hcond.2⟩
          simpa using congrArg String.toList he
        next => simp at h
      next => simp at h
    next => simp at h
  · rintro ⟨hw, hn, hb⟩
    have hne : n.toList.reverse ≠ [] := by
      rw [Ne, List.reverse_eq_nil_iff, String.toList_eq_nil_iff]
      exact hn
    unfold whole?
    rw [hw]
    split
    next cs hcs =>
      obtain ⟨-, -, rfl⟩ : '@' = '@' ∧ '{' = '{' ∧ n.toList ++ ['}'] = cs := by
        simpa using hcs
      rw [List.reverse_append, List.reverse_singleton, List.singleton_append]
      show (if n.toList.reverse ≠ [] ∧ '}' ∉ n.toList.reverse then
        some (String.ofList n.toList.reverse.reverse) else none) = some n
      rw [if_pos ⟨hne, by simpa using hb⟩, List.reverse_reverse, String.ofList_toList]
    next hne' => exact absurd rfl (hne' (n.toList ++ ['}']))

theorem isWordChar_closingBrace : Text.isWordChar '}' = false := by
  unfold Text.isWordChar
  -- the table is searched as a list: the array's own loop is slow to evaluate in the kernel
  rw [← Array.any_toList]
  decide +kernel

theorem isReading_iff (w : String) : isReading w = true ↔ ReadingMatch w := by
  constructor
  · intro h
    unfold isReading at h
    split at h
    next name hname =>
      obtain ⟨hw, -, -⟩ := whole?_eq_some_iff.1 hname
      unfold isPlainName at h
      split at h
      next c cs hcs =>
        simp only [Bool.and_eq_true, Bool.or_eq_true, decide_eq_true_eq, List.all_eq_true] at h
        exact ⟨c, cs, by rw [hw, hcs], h.1, h.2⟩
      next => simp at h
    next => simp at h
  · rintro ⟨c, cs, hw, hc, hcs⟩
    have hb : '}' ∉ c :: cs := by
      rintro (_ | ⟨_, hm⟩)
      · rcases hc with hc | hc <;> revert hc <;> decide
      · rcases hcs _ hm with hm | hm
        · exact Bool.false_ne_true (isWordChar_closingBrace ▸ hm)
        · exact absurd hm (by decide)
    have hwhole : whole? w = some (String.ofList (c :: cs)) :=
      whole?_eq_some_iff.2 ⟨by rw [String.toList_ofList]; exact hw,
        by rw [Ne, ← String.toList_eq_nil_iff, String.toList_ofList]; exact List.cons_ne_nil c cs,
        by rw [String.toList_ofList]; exact hb⟩
    unfold isReading
    rw [hwhole]
    show isPlainName (String.ofList (c :: cs)).toList = true
    rw [String.toList_ofList]
    simp only [isPlainName, Bool.and_eq_true, Bool.or_eq_true, decide_eq_true_eq,
      List.all_eq_true]
    exact ⟨hc, hcs⟩

instance : DecidablePred IsAssignment := fun w => decidable_of_iff _ (isSome_assignment?_iff w)

instance : DecidablePred ReadingMatch := fun w => decidable_of_iff _ (isReading_iff w)

end VarRef

namespace CommandLine

def isOperator (w : String) : Bool := (Connector.ofWord? w).isSome

/-- The groups of a word list: the runs between operator words, each led by the operator in front of
it (`first` for the first run), empty runs dropped. -/
def groups (first : Option Connector) (ws : List String) : List (Option Connector × List String) :=
  ((first :: (ws.filterMap Connector.ofWord?).map some).zip (ws.splitOnP isOperator)).filter
    fun g => !g.2.isEmpty

/-- The command a group makes, led by `op`: a first word of the assignment shape is the first
argument of `set`, one of the reading shape that of `get`, and any other is the command's name. -/
def commandOf (op : Option Connector) (t : String) (ts : List String) : Command :=
  if VarRef.IsAssignment t then ⟨"set", t :: ts, op⟩
  else if VarRef.ReadingMatch t then ⟨"get", t :: ts, op⟩
  else ⟨t, ts, op⟩

def ofGroup : Option Connector × List String → Option Command
  | (_, []) => none
  | (op, t :: ts) => some (commandOf op t ts)

def byGroups (ws : List String) : List Command := (groups none ws).filterMap ofGroup

theorem commandOf_eq_start (op : Option Connector) (t : String) (ts : List String) :
    commandOf op t ts = ⟨(start t).1, (start t).2 ++ ts, op⟩ := by
  unfold commandOf start
  by_cases ha : VarRef.IsAssignment t
  · rw [if_pos ha, if_pos ((VarRef.isSome_assignment?_iff t).2 ha)]
    rfl
  · rw [if_neg ha, if_neg (mt (VarRef.isSome_assignment?_iff t).1 ha)]
    by_cases hr : VarRef.ReadingMatch t
    · rw [if_pos hr, if_pos ((VarRef.isReading_iff t).2 hr)]
      rfl
    · rw [if_neg hr, if_neg (mt (VarRef.isReading_iff t).1 hr)]
      rfl

theorem ofWord?_of_not_operator {w : String} (h : isOperator w = false) :
    Connector.ofWord? w = none :=
  Option.not_isSome_iff_eq_none.1 (by simpa [isOperator] using h)

theorem groups_of_run {g : List String} (hg : ∀ x ∈ g, isOperator x = false)
    (j : Option Connector) : groups j g = if g = [] then [] else [(j, g)] := by
  have hops : g.filterMap Connector.ofWord? = [] :=
    List.filterMap_eq_nil_iff.2 fun x hx => ofWord?_of_not_operator (hg x hx)
  unfold groups
  rw [List.splitOnP_eq_singleton hg, hops]
  cases g <;> simp

theorem groups_run_operator {g : List String} (hg : ∀ x ∈ g, isOperator x = false) {o : String}
    {c : Connector} (ho : Connector.ofWord? o = some c) (j : Option Connector)
    (ws : List String) :
    groups j (g ++ o :: ws) = (if g = [] then [] else [(j, g)]) ++ groups (some c) ws := by
  have hops : g.filterMap Connector.ofWord? = [] :=
    List.filterMap_eq_nil_iff.2 fun x hx => ofWord?_of_not_operator (hg x hx)
  have hsep : isOperator o = true := by simp [isOperator, ho]
  unfold groups
  rw [List.splitOnP_append_cons_of_forall_mem hg o hsep ws, List.filterMap_append, hops,
    List.nil_append, List.filterMap_cons, ho]
  cases g <;> simp

/-- Reading words one by one with a pending command gives the commands of their groups; a pending
command gathered from `w :: xs` counts as those words ahead. -/
theorem group_eq_groups (ws : List String) :
    (∀ j, group j none ws = (groups j ws).filterMap ofGroup) ∧
    ∀ j w xs, isOperator w = false → (∀ x ∈ xs, isOperator x = false) →
      group j (some ((start w).1, ((start w).2 ++ xs).reverse)) ws =
        (groups j (w :: xs ++ ws)).filterMap ofGroup := by
  induction ws with
  | nil =>
    refine ⟨fun j => ?_, fun j w xs hw hxs => ?_⟩
    · rw [groups_of_run (by simp) j]
      rfl
    · have hrun : ∀ x ∈ w :: xs, isOperator x = false := by
        simpa using And.intro hw hxs
      rw [List.append_nil, groups_of_run hrun j, if_neg (List.cons_ne_nil _ _)]
      simp [group, group.close, ofGroup, commandOf_eq_start]
  | cons x ws ih =>
    rcases hx : Connector.ofWord? x with _ | c
    · have hxop : isOperator x = false := by simp [isOperator, hx]
      refine ⟨fun j => ?_, fun j w xs hw hxs => ?_⟩
      · rw [group, hx]
        simpa using ih.2 j x [] hxop (by simp)
      · rw [group, hx]
        have hrun : ∀ y ∈ xs ++ [x], isOperator y = false := fun y hy => by
          rcases List.mem_append.1 hy with hy | hy
          · exact hxs y hy
          · rw [List.mem_singleton.1 hy]
            exact hxop
        simpa using ih.2 j w (xs ++ [x]) hw hrun
    · refine ⟨fun j => ?_, fun j w xs hw hxs => ?_⟩
      · simp only [group, hx, group.close]
        rw [ih.1 (some c), show x :: ws = [] ++ x :: ws from rfl,
          groups_run_operator (by simp) hx j ws]
        simp
      · have hrun : ∀ y ∈ w :: xs, isOperator y = false := by
          simpa using And.intro hw hxs
        simp only [group, hx, group.close]
        rw [ih.1 (some c), show w :: xs ++ x :: ws = (w :: xs) ++ x :: ws from rfl,
          groups_run_operator hrun hx j ws, if_neg (List.cons_ne_nil _ _)]
        simp [ofGroup, commandOf_eq_start]

/-- The groups hold every word but the operator words, each once and in order. -/
theorem flatten_groups (j : Option Connector) (ws : List String) :
    ((groups j ws).map Prod.snd).flatten = ws.filter fun w => !isOperator w := by
  induction ws generalizing j with
  | nil => simp [groups]
  | cons x ws ih =>
    rcases hx : Connector.ofWord? x with _ | c
    · have hxop : isOperator x = false := by simp [isOperator, hx]
      obtain ⟨s, ss, hs⟩ := List.exists_cons_of_ne_nil (List.splitOnP_ne_nil isOperator ws)
      have hgroups : groups j ws =
          (if s = [] then [] else [(j, s)]) ++
            ((((ws.filterMap Connector.ofWord?).map some).zip ss).filter fun g => !g.2.isEmpty) := by
        unfold groups
        rw [hs, List.zip_cons_cons, List.filter_cons]
        cases s <;> simp
      have ih' := ih j
      rw [hgroups] at ih'
      unfold groups
      rw [List.splitOnP_cons_eq_if_modifyHead, if_neg (by simp [hxop]), hs, List.modifyHead_cons,
        List.filterMap_cons, hx, List.zip_cons_cons, List.filter_cons]
      rw [List.filter_cons, hxop]
      split at ih' <;> simp_all
    · -- an operator word ends the groups before it and belongs to none
      have hxop : isOperator x = true := by simp [isOperator, hx]
      rw [show x :: ws = [] ++ x :: ws from rfl, groups_run_operator (by simp) hx j ws]
      simp [hxop, ih]

/-- A line's commands are those of its word groups: each non-empty run between operator words is one
command, led by the operator in front of it, whose first word decides between `set`, `get` and a
command of its own name; the runs hold every other word once, in order. -/
theorem parse_by_groups (line : String) :
    parse line = byGroups (Words.readOrSplit (Text.trim line)) ∧
    ((groups none (Words.readOrSplit (Text.trim line))).map Prod.snd).flatten =
      (Words.readOrSplit (Text.trim line)).filter fun w => !isOperator w :=
  ⟨(group_eq_groups _).1 none, flatten_groups none _⟩

example : byGroups ["&&", "a", "x", ";", "||", "@{k}=v", "w", "|", "@{n}"] =
    [⟨"a", ["x"], some .onSuccess⟩, ⟨"set", ["@{k}=v", "w"], some .onFailure⟩,
      ⟨"get", ["@{n}"], some .pipe⟩] := by decide

end CommandLine

end Conch
