import Conch.Options
import Mathlib
/-! What a scan has read so far: each word the scanner has looked at takes a role, and `Scanned`
says how the roles, the steps and the scanner fit together; every way a scanner moves on keeps it.
-/
namespace Conch.Options

/-- The words of a scan, each with its position: the words a fresh scanner has pending. -/
def numbered (args : List String) : List (Nat × String) := args.zipIdx.map fun p => (p.2, p.1)

theorem getElem?_numbered (args : List String) (i : Nat) :
    (numbered args)[i]? = args[i]?.map fun w => (i, w) := by
  simp only [numbered, List.getElem?_map, List.getElem?_zipIdx, Nat.zero_add, Option.map_map]
  rfl

theorem fst_getElem_numbered (args : List String) (i : Nat) (hi : i < (numbered args).length) :
    (numbered args)[i].1 = i := by
  simp [numbered, List.getElem_zipIdx]

@[simp] theorem length_numbered (args : List String) : (numbered args).length = args.length := by
  simp [numbered]

theorem map_snd_numbered (args : List String) : (numbered args).map Prod.snd = args := by
  simp [numbered, List.map_map, Function.comp_def, List.zipIdx_map_fst]

theorem numbered_sorted (args : List String) :
    (numbered args).Pairwise fun a b => a.1 < b.1 := by
  rw [List.pairwise_iff_getElem]
  intro i j hi hj hij
  rw [fst_getElem_numbered, fst_getElem_numbered]
  exact hij

theorem le_of_mem_drop_numbered {args : List String} {k : Nat} {p : Nat × String}
    (hp : p ∈ (numbered args).drop k) : k ≤ p.1 := by
  obtain ⟨i, hi, rfl⟩ := List.mem_iff_getElem.1 hp
  rw [List.getElem_drop, fst_getElem_numbered]
  omega

theorem index_of_append_eq {args : List String} {A B : List (Nat × String)}
    (h : A ++ B = numbered args) {j : Nat} (hj : j < A.length) :
    A[j].1 = j ∧ args[j]? = some A[j].2 := by
  have hget := congrArg (·[j]?) h
  simp only [List.getElem?_append_left hj, getElem?_numbered, List.getElem?_eq_getElem hj] at hget
  cases hw : args[j]? with
  | none => simp [hw] at hget
  | some w =>
    simp only [hw, Option.map_some, Option.some.injEq] at hget
    simp [hget]

/-- What a word of a scan turned out to be: a word of options, the value of the flag before it, the
`--` ending the options, or a word set aside. -/
inductive Role where
  | option
  | value
  | terminator
  | positional
  deriving DecidableEq, Repr

/-- A word the scanner has looked at, with its position and its role. -/
structure Decision where
  index : Nat
  word : String
  role : Role
  deriving DecidableEq, Repr

namespace Decision

def entry (d : Decision) : Nat × String := (d.index, d.word)

def setAside? (d : Decision) : Option (Nat × String) :=
  if d.role = .positional then some d.entry else none

def positional (p : Nat × String) : Decision := ⟨p.1, p.2, .positional⟩

@[simp] theorem entry_positional (p : Nat × String) : (positional p).entry = p := rfl

@[simp] theorem index_positional (p : Nat × String) : (positional p).index = p.1 := rfl

@[simp] theorem word_positional (p : Nat × String) : (positional p).word = p.2 := rfl

@[simp] theorem role_positional (p : Nat × String) : (positional p).role = .positional := rfl

@[simp] theorem setAside?_positional (p : Nat × String) : (positional p).setAside? = some p := by
  simp [setAside?]

theorem mem_of_mem_append_role {old new : List Decision} {d : Decision} {r : Role}
    (hd : d ∈ old ++ new) (hr : d.role = r) (hnew : ∀ e ∈ new, e.role ≠ r) : d ∈ old := by
  rcases List.mem_append.1 hd with hd | hd
  · exact hd
  · exact absurd hr (hnew d hd)

end Decision

/-- Positional words set aside in the order of their positions come out in that order. -/
theorem Scanner.positionals_of_sorted {s : Scanner}
    (hs : s.setAside.Pairwise fun a b => a.1 < b.1) : s.positionals = s.setAside.map Prod.snd := by
  unfold Scanner.positionals
  rw [List.mergeSort_of_pairwise (hs.imp fun hab => by simp; omega)]

theorem Scanner.stopAt_setAside (s : Scanner) (u : Step) :
    (s.stopAt u).setAside =
      s.setAside ++ (u.index, u.token) :: (numbered s.args).drop (u.index + 1) :=
  rfl

/-- A scanner over `args` has made `steps` and looked at the words `decided`, in order, with `ps`
pending: steps and option words match, a value follows its flag, `--` ends the options once, and
letters left belong to the last word; in order, no step comes after a positional word. -/
structure Scanned (args : List String) (inOrder : Bool) (steps : List Step)
    (decided : List Decision) (s : Scanner) (ps : List (Nat × String)) : Prop where
  args_eq : s.args = args
  inOrder_eq : s.inOrder = inOrder
  covers : decided.map Decision.entry ++ ps = numbered args
  setAside_eq : s.setAside = decided.filterMap Decision.setAside?
  step_option : ∀ st ∈ steps, (⟨st.index, st.token, .option⟩ : Decision) ∈ decided
  option_step : ∀ d ∈ decided, d.role = .option → ∃ st ∈ steps, st.index = d.index
  value_step : ∀ d ∈ decided, d.role = .value →
    ∃ st ∈ steps, st.kind = .flag ∧ st.index + 1 = d.index ∧ st.value = some d.word
  terminator_word : ∀ d ∈ decided, d.role = .terminator → d.word = "--"
  terminator_ends : ∀ d ∈ decided, d.role = .terminator → ps = [] ∧ s.cluster = []
  terminator_once : decided.countP (·.role = .terminator) ≤ 1
  sorted : steps.Pairwise fun a b => a.index ≤ b.index
  cluster_last : s.cluster ≠ [] →
    decided.getLast? = some ⟨s.clusterIndex, s.clusterWord, .option⟩
  inOrder_before : inOrder → ∀ st ∈ steps, ∀ d ∈ decided, d.role = .positional →
    st.index < d.index
  inOrder_ends : inOrder → ∀ d ∈ decided, d.role = .positional → ps = [] ∧ s.cluster = []

namespace Scanned

variable {args : List String} {o : Bool} {steps : List Step} {decided : List Decision}
  {s s' : Scanner} {ps : List (Nat × String)}

theorem getElem_decided (h : Scanned args o steps decided s ps) {j : Nat}
    (hj : j < decided.length) : decided[j].index = j ∧ args[j]? = some decided[j].word := by
  have hj' : j < (decided.map Decision.entry).length := by simpa using hj
  have := index_of_append_eq h.covers hj'
  simpa [Decision.entry] using this

theorem index_lt (h : Scanned args o steps decided s ps) {d : Decision} (hd : d ∈ decided) :
    d.index < decided.length := by
  obtain ⟨j, hj, rfl⟩ := List.getElem_of_mem hd
  rw [(h.getElem_decided hj).1]
  exact hj

theorem word_eq (h : Scanned args o steps decided s ps) {d : Decision} (hd : d ∈ decided) :
    args[d.index]? = some d.word := by
  obtain ⟨j, hj, rfl⟩ := List.getElem_of_mem hd
  rw [(h.getElem_decided hj).1]
  exact (h.getElem_decided hj).2

theorem eq_of_index_eq (h : Scanned args o steps decided s ps) {d d' : Decision}
    (hd : d ∈ decided) (hd' : d' ∈ decided) (hi : d.index = d'.index) : d = d' := by
  obtain ⟨j, hj, rfl⟩ := List.getElem_of_mem hd
  obtain ⟨j', hj', rfl⟩ := List.getElem_of_mem hd'
  have : j = j' := by
    rw [← (h.getElem_decided hj).1, ← (h.getElem_decided hj').1]
    exact hi
  subst this
  rfl

theorem length_le (h : Scanned args o steps decided s ps) : decided.length ≤ args.length := by
  have := congrArg List.length h.covers
  simp only [List.length_append, List.length_map, length_numbered] at this
  omega

theorem length_eq (h : Scanned args o steps decided s []) : decided.length = args.length := by
  have := congrArg List.length h.covers
  simpa using this

theorem head_pending {k : Nat} {w : String} {more : List (Nat × String)}
    (h : Scanned args o steps decided s ((k, w) :: more)) :
    k = decided.length ∧ args[k]? = some w := by
  have := index_of_append_eq (A := decided.map Decision.entry ++ [(k, w)]) (B := more)
    (by simpa using h.covers) (j := decided.length) (by simp)
  simp only [List.getElem_append_right
      (by simp : (decided.map Decision.entry).length ≤ decided.length),
    List.length_map, Nat.sub_self, List.getElem_singleton] at this
  exact ⟨this.1, this.1 ▸ this.2⟩

theorem le_of_mem_pending (h : Scanned args o steps decided s ps) {p : Nat × String}
    (hp : p ∈ ps) : decided.length ≤ p.1 := by
  obtain ⟨j, hj, rfl⟩ := List.getElem_of_mem hp
  have hcov := index_of_append_eq (A := decided.map Decision.entry ++ ps) (B := [])
    (by simpa using h.covers) (j := decided.length + j) (by simp; omega)
  rw [List.getElem_append_right (by simp)] at hcov
  simp only [List.length_map, Nat.add_sub_cancel_left] at hcov
  omega

theorem step_index_lt (h : Scanned args o steps decided s ps) {st : Step} (hst : st ∈ steps) :
    st.index < decided.length :=
  h.index_lt (h.step_option st hst)

theorem cluster_index (h : Scanned args o steps decided s ps) (hc : s.cluster ≠ []) :
    decided.length = s.clusterIndex + 1 ∧
      (⟨s.clusterIndex, s.clusterWord, .option⟩ : Decision) ∈ decided := by
  have hlast := h.cluster_last hc
  have hmem := List.mem_of_getLast? hlast
  refine ⟨?_, hmem⟩
  rw [List.getLast?_eq_getElem?] at hlast
  have hne : decided ≠ [] := List.ne_nil_of_mem hmem
  have hlt : decided.length - 1 < decided.length := by
    have := List.length_pos_of_ne_nil hne
    omega
  rw [List.getElem?_eq_getElem hlt, Option.some.injEq] at hlast
  have := (h.getElem_decided hlt).1
  rw [hlast] at this
  simp only at this
  omega

theorem not_terminator (h : Scanned args o steps decided s ps) (hp : ps ≠ [] ∨ s.cluster ≠ [])
    {d : Decision} (hd : d ∈ decided) : d.role ≠ .terminator := fun ht => by
  obtain ⟨h₁, h₂⟩ := h.terminator_ends d hd ht
  rcases hp with hp | hp <;> contradiction

theorem not_positional (h : Scanned args o steps decided s ps) (ho : o = true)
    (hp : ps ≠ [] ∨ s.cluster ≠ []) {d : Decision} (hd : d ∈ decided) :
    d.role ≠ .positional := fun hpos => by
  obtain ⟨h₁, h₂⟩ := h.inOrder_ends ho d hd hpos
  rcases hp with hp | hp <;> contradiction

theorem index_strictMono (h : Scanned args o steps decided s ps) :
    decided.Pairwise fun a b => a.index < b.index := by
  rw [List.pairwise_iff_getElem]
  intro i j hi hj hij
  rw [(h.getElem_decided hi).1, (h.getElem_decided hj).1]
  exact hij

theorem map_word (h : Scanned args o steps decided s ps) :
    decided.map Decision.word = args.take decided.length := by
  have hcov := congrArg (List.map Prod.snd) h.covers
  rw [List.map_append, map_snd_numbered, List.map_map] at hcov
  rw [← hcov, List.take_left' (by simp)]
  rfl

theorem with_pending (h : Scanned args o steps decided s ps) (x : List (Nat × String)) :
    Scanned args o steps decided { s with pending := x } ps :=
  { h with }

/-! ### How a scanner moves on -/

theorem setAside_next {pos : Nat} {w : String} {more : List (Nat × String)}
    (h : Scanned args o steps decided s ((pos, w) :: more)) (ho : o = false)
    (hargs : s'.args = s.args) (hord : s'.inOrder = s.inOrder)
    (hset : s'.setAside = s.setAside ++ [(pos, w)]) (hcl : s'.cluster = []) :
    Scanned args o steps (decided ++ [⟨pos, w, .positional⟩]) s' more where
  args_eq := hargs.trans h.args_eq
  inOrder_eq := hord.trans h.inOrder_eq
  covers := by simpa [Decision.entry] using h.covers
  setAside_eq := by
    rw [hset, h.setAside_eq, List.filterMap_append]
    simp [Decision.setAside?, Decision.entry]
  step_option st hst := List.mem_append_left _ (h.step_option st hst)
  option_step d hd hr := h.option_step d (Decision.mem_of_mem_append_role hd hr (by simp)) hr
  value_step d hd hr := h.value_step d (Decision.mem_of_mem_append_role hd hr (by simp)) hr
  terminator_word d hd hr := h.terminator_word d
    (Decision.mem_of_mem_append_role hd hr (by simp)) hr
  terminator_ends d hd hr :=
    absurd hr (h.not_terminator (.inl (List.cons_ne_nil _ _))
    (Decision.mem_of_mem_append_role hd hr (by simp)))
  terminator_once := by simpa using h.terminator_once
  sorted := h.sorted
  cluster_last hc := absurd hcl hc
  inOrder_before ho' := by simp [ho] at ho'
  inOrder_ends ho' := by simp [ho] at ho'

theorem setAside_all (h : Scanned args o steps decided s ps)
    (hargs : s'.args = s.args) (hord : s'.inOrder = s.inOrder)
    (hset : s'.setAside = s.setAside ++ ps) (hcl : s'.cluster = []) :
    Scanned args o steps (decided ++ ps.map Decision.positional) s' [] where
  args_eq := hargs.trans h.args_eq
  inOrder_eq := hord.trans h.inOrder_eq
  covers := by simpa [List.map_map, Function.comp_def] using h.covers
  setAside_eq := by
    rw [hset, h.setAside_eq, List.filterMap_append, List.filterMap_map]
    simp
  step_option st hst := List.mem_append_left _ (h.step_option st hst)
  option_step d hd hr := h.option_step d
    (Decision.mem_of_mem_append_role hd hr (by simp [List.forall_mem_map, -List.mem_map])) hr
  value_step d hd hr := h.value_step d
    (Decision.mem_of_mem_append_role hd hr (by simp [List.forall_mem_map, -List.mem_map])) hr
  terminator_word d hd hr := h.terminator_word d
    (Decision.mem_of_mem_append_role hd hr (by simp [List.forall_mem_map, -List.mem_map])) hr
  terminator_ends _ _ _ := ⟨rfl, hcl⟩
  terminator_once := by
    rw [List.countP_append, List.countP_map]
    simpa [Function.comp_def, Decision.positional] using h.terminator_once
  sorted := h.sorted
  cluster_last hc' := absurd hcl hc'
  inOrder_before ho st hst d hd hr := by
    rcases List.mem_append.1 hd with hd | hd
    · exact h.inOrder_before ho st hst d hd hr
    · obtain ⟨p, hp, rfl⟩ := List.mem_map.1 hd
      exact lt_of_lt_of_le (h.step_index_lt hst) (h.le_of_mem_pending hp)
  inOrder_ends _ _ _ _ := ⟨rfl, hcl⟩

/-- `--` ends the options: it is the terminator and every word after it is set aside. -/
theorem terminate {pos : Nat} {more : List (Nat × String)}
    (h : Scanned args o steps decided s ((pos, "--") :: more))
    (hargs : s'.args = s.args) (hord : s'.inOrder = s.inOrder)
    (hset : s'.setAside = s.setAside ++ more) (hcl : s'.cluster = []) :
    Scanned args o steps (decided ++ ⟨pos, "--", .terminator⟩ :: more.map Decision.positional)
      s' [] where
  args_eq := hargs.trans h.args_eq
  inOrder_eq := hord.trans h.inOrder_eq
  covers := by simpa [List.map_map, Function.comp_def, Decision.entry] using h.covers
  setAside_eq := by
    rw [hset, h.setAside_eq, List.filterMap_append, List.filterMap_cons, List.filterMap_map]
    simp [Function.comp_def, Decision.setAside?]
  step_option st hst := List.mem_append_left _ (h.step_option st hst)
  option_step d hd hr := h.option_step d
    (Decision.mem_of_mem_append_role hd hr (by simp [List.forall_mem_map, -List.mem_map])) hr
  value_step d hd hr := h.value_step d
    (Decision.mem_of_mem_append_role hd hr (by simp [List.forall_mem_map, -List.mem_map])) hr
  terminator_word d hd hr := by
    rcases List.mem_append.1 hd with hd | hd
    · exact h.terminator_word d hd hr
    · rcases List.mem_cons.1 hd with rfl | hd
      · rfl
      · obtain ⟨p, -, rfl⟩ := List.mem_map.1 hd; cases hr
  terminator_ends _ _ _ := ⟨rfl, hcl⟩
  terminator_once := by
    have hnone : decided.countP (·.role = .terminator) = 0 :=
      List.countP_eq_zero.2 fun d hd => by
        simpa using h.not_terminator (.inl (List.cons_ne_nil _ _)) hd
    rw [List.countP_append, List.countP_cons, List.countP_map, hnone]
    simp [Function.comp_def, Decision.positional]
  sorted := h.sorted
  cluster_last hc' := absurd hcl hc'
  inOrder_before ho st hst d hd hr := by
    rcases List.mem_append.1 hd with hd | hd
    · exact h.inOrder_before ho st hst d hd hr
    · rcases List.mem_cons.1 hd with rfl | hd
      · cases hr
      · obtain ⟨p, hp, rfl⟩ := List.mem_map.1 hd
        exact lt_of_lt_of_le (h.step_index_lt hst)
          (h.le_of_mem_pending (List.mem_cons_of_mem _ hp))
  inOrder_ends _ _ _ _ := ⟨rfl, hcl⟩

theorem read_option {pos : Nat} {w : String} {more : List (Nat × String)}
    (h : Scanned args o steps decided s ((pos, w) :: more)) {st : Step}
    (hidx : st.index = pos) (htok : st.token = w)
    (hargs : s'.args = s.args) (hord : s'.inOrder = s.inOrder) (hset : s'.setAside = s.setAside)
    (hcl : s'.cluster ≠ [] → s'.clusterIndex = pos ∧ s'.clusterWord = w) :
    Scanned args o (steps ++ [st]) (decided ++ [⟨pos, w, .option⟩]) s' more where
  args_eq := hargs.trans h.args_eq
  inOrder_eq := hord.trans h.inOrder_eq
  covers := by simpa [Decision.entry] using h.covers
  setAside_eq := by
    rw [hset, h.setAside_eq, List.filterMap_append]
    simp [Decision.setAside?]
  step_option st' hst' := by
    rcases List.mem_append.1 hst' with hst' | hst'
    · exact List.mem_append_left _ (h.step_option st' hst')
    · rw [List.mem_singleton.1 hst', hidx, htok]
      exact List.mem_append_right _ (List.mem_singleton_self _)
  option_step d hd hr := by
    rcases List.mem_append.1 hd with hd | hd
    · obtain ⟨st', hst', he⟩ := h.option_step d hd hr
      exact ⟨st', List.mem_append_left _ hst', he⟩
    · rw [List.mem_singleton.1 hd]
      exact ⟨st, List.mem_append_right _ (List.mem_singleton_self _), hidx⟩
  value_step d hd hr := by
    obtain ⟨st', hst', he⟩ := h.value_step d (Decision.mem_of_mem_append_role hd hr (by simp)) hr
    exact ⟨st', List.mem_append_left _ hst', he⟩
  terminator_word d hd hr := h.terminator_word d
    (Decision.mem_of_mem_append_role hd hr (by simp)) hr
  terminator_ends d hd hr :=
    absurd hr (h.not_terminator (.inl (List.cons_ne_nil _ _))
    (Decision.mem_of_mem_append_role hd hr (by simp)))
  terminator_once := by simpa using h.terminator_once
  sorted := by
    refine List.pairwise_append.2 ⟨h.sorted, List.pairwise_singleton _ _, fun a ha b hb => ?_⟩
    rw [List.mem_singleton.1 hb, hidx, (h.head_pending).1]
    exact (h.step_index_lt ha).le
  cluster_last hc := by
    obtain ⟨hi, hw⟩ := hcl hc
    simp [hi, hw]
  inOrder_before ho _ _ d hd hr :=
    absurd hr (h.not_positional ho (.inl (List.cons_ne_nil _ _))
    (Decision.mem_of_mem_append_role hd hr (by simp)))
  inOrder_ends ho d hd hr :=
    absurd hr (h.not_positional ho (.inl (List.cons_ne_nil _ _))
    (Decision.mem_of_mem_append_role hd hr (by simp)))

theorem read_letter (h : Scanned args o steps decided s ps) (hc : s.cluster ≠ []) {st : Step}
    (hidx : st.index = s.clusterIndex) (htok : st.token = s.clusterWord)
    (hargs : s'.args = s.args) (hord : s'.inOrder = s.inOrder) (hset : s'.setAside = s.setAside)
    (hcl : s'.cluster ≠ [] →
      s'.clusterIndex = s.clusterIndex ∧ s'.clusterWord = s.clusterWord) :
    Scanned args o (steps ++ [st]) decided s' ps where
  args_eq := hargs.trans h.args_eq
  inOrder_eq := hord.trans h.inOrder_eq
  covers := h.covers
  setAside_eq := hset.trans h.setAside_eq
  step_option st' hst' := by
    rcases List.mem_append.1 hst' with hst' | hst'
    · exact h.step_option st' hst'
    · rw [List.mem_singleton.1 hst', hidx, htok]
      exact (h.cluster_index hc).2
  option_step d hd hr := by
    obtain ⟨st', hst', he⟩ := h.option_step d hd hr
    exact ⟨st', List.mem_append_left _ hst', he⟩
  value_step d hd hr := by
    obtain ⟨st', hst', he⟩ := h.value_step d hd hr
    exact ⟨st', List.mem_append_left _ hst', he⟩
  terminator_word := h.terminator_word
  terminator_ends d hd hr := absurd hr (h.not_terminator (.inr hc) hd)
  terminator_once := h.terminator_once
  sorted := by
    -- the word being read is the last one looked at, so no step came from a later one
    refine List.pairwise_append.2 ⟨h.sorted, List.pairwise_singleton _ _, fun a ha b hb => ?_⟩
    rw [List.mem_singleton.1 hb, hidx]
    have := h.step_index_lt ha
    have := (h.cluster_index hc).1
    omega
  cluster_last hc' := by
    obtain ⟨hi, hw⟩ := hcl hc'
    rw [hi, hw]
    exact h.cluster_last hc
  inOrder_before ho _ _ d hd hr := absurd hr (h.not_positional ho (.inr hc) hd)
  inOrder_ends ho d hd hr := absurd hr (h.not_positional ho (.inr hc) hd)

theorem take_value {k : Nat} {v : String} {more : List (Nat × String)} {st : Step}
    (h : Scanned args o (steps ++ [st]) decided s ((k, v) :: more))
    (hkind : st.kind = .flag) (hval : st.value = some v) (hidx : st.index + 1 = k)
    (hargs : s'.args = s.args) (hord : s'.inOrder = s.inOrder) (hset : s'.setAside = s.setAside)
    (hcl : s'.cluster = []) :
    Scanned args o (steps ++ [st]) (decided ++ [⟨k, v, .value⟩]) s' more where
  args_eq := hargs.trans h.args_eq
  inOrder_eq := hord.trans h.inOrder_eq
  covers := by simpa [Decision.entry] using h.covers
  setAside_eq := by
    rw [hset, h.setAside_eq, List.filterMap_append]
    simp [Decision.setAside?]
  step_option st' hst' := List.mem_append_left _ (h.step_option st' hst')
  option_step d hd hr := h.option_step d (Decision.mem_of_mem_append_role hd hr (by simp)) hr
  value_step d hd hr := by
    rcases List.mem_append.1 hd with hd | hd
    · exact h.value_step d hd hr
    · rw [List.mem_singleton.1 hd]
      exact ⟨st, List.mem_append_right _ (List.mem_singleton_self _), hkind, hidx, hval⟩
  terminator_word d hd hr := h.terminator_word d
    (Decision.mem_of_mem_append_role hd hr (by simp)) hr
  terminator_ends d hd hr :=
    absurd hr (h.not_terminator (.inl (List.cons_ne_nil _ _))
    (Decision.mem_of_mem_append_role hd hr (by simp)))
  terminator_once := by simpa using h.terminator_once
  sorted := h.sorted
  cluster_last hc := absurd hcl hc
  inOrder_before ho _ _ d hd hr :=
    absurd hr (h.not_positional ho (.inl (List.cons_ne_nil _ _))
    (Decision.mem_of_mem_append_role hd hr (by simp)))
  inOrder_ends ho d hd hr :=
    absurd hr (h.not_positional ho (.inl (List.cons_ne_nil _ _))
    (Decision.mem_of_mem_append_role hd hr (by simp)))

/-! ### The positional words -/

theorem setAside_sorted (h : Scanned args o steps decided s ps) :
    s.setAside.Pairwise fun a b => a.1 < b.1 := by
  rw [h.setAside_eq]
  refine h.index_strictMono.filterMap _ fun a b hab p hp q hq => ?_
  simp only [Decision.setAside?, Decision.entry, Option.ite_none_right_eq_some,
    Option.some.injEq] at hp hq
  rw [← hp.2, ← hq.2]
  exact hab

/-- The positional words are the words set aside, in the order of their positions. -/
theorem positionals_eq (h : Scanned args o steps decided s ps) :
    s.positionals =
      decided.filterMap fun d => if d.role = .positional then some d.word else none := by
  rw [Scanner.positionals_of_sorted h.setAside_sorted, h.setAside_eq, List.map_filterMap]
  congr 1
  funext d
  by_cases hd : d.role = .positional <;> simp [Decision.setAside?, Decision.entry, hd]

/-- Stopping at a step from the last word looked at sets that word and every later one aside
after the words set aside before. -/
theorem stopAt_positionals (h : Scanned args o steps decided s ps) {u : Step} (hu : u ∈ steps)
    (hlen : decided.length = u.index + 1) :
    (s.stopAt u).positionals = s.positionals ++ args.drop u.index := by
  have hdu := h.step_option u hu
  have hbefore : ∀ p ∈ s.setAside, p.1 < u.index := by
    intro p hp
    rw [h.setAside_eq] at hp
    obtain ⟨d, hd, hp⟩ := List.mem_filterMap.1 hp
    simp only [Decision.setAside?, Decision.entry, Option.ite_none_right_eq_some,
      Option.some.injEq] at hp
    have hlt := h.index_lt hd
    have hne : d.index ≠ u.index := fun he => by
      have := h.eq_of_index_eq hd hdu he
      rw [this] at hp
      exact absurd hp.1 (by simp)
    rw [← hp.2]
    omega
  have hsorted : (s.stopAt u).setAside.Pairwise fun a b => a.1 < b.1 := by
    refine List.pairwise_append.2 ⟨h.setAside_sorted, List.pairwise_cons.2 ⟨fun p hp => ?_,
      (numbered_sorted s.args).sublist (List.drop_sublist _ _)⟩, fun a ha b hb => ?_⟩
    · have := le_of_mem_drop_numbered hp
      omega
    · rcases List.mem_cons.1 hb with rfl | hb
      · exact hbefore a ha
      · have := le_of_mem_drop_numbered hb
        have := hbefore a ha
        omega
  have hword : args[u.index]? = some u.token := h.word_eq hdu
  have hlt : u.index < args.length := (List.getElem?_eq_some_iff.1 hword).1
  rw [Scanner.positionals_of_sorted hsorted, Scanner.positionals_of_sorted h.setAside_sorted,
    Scanner.stopAt_setAside, List.map_append, List.map_cons, List.map_drop, h.args_eq,
    map_snd_numbered, List.drop_eq_getElem_cons hlt, (List.getElem?_eq_some_iff.1 hword).2]

end Scanned

theorem Scanned.init (spec : String) (longs : List LongOption) (args : List String) :
    Scanned args (Scanner.init spec longs args).inOrder [] [] (Scanner.init spec longs args)
      (Scanner.init spec longs args).pending where
  args_eq := rfl
  inOrder_eq := rfl
  covers := rfl
  setAside_eq := rfl
  step_option _ hst := absurd hst List.not_mem_nil
  option_step _ hd := absurd hd List.not_mem_nil
  value_step _ hd := absurd hd List.not_mem_nil
  terminator_word _ hd := absurd hd List.not_mem_nil
  terminator_ends _ hd := absurd hd List.not_mem_nil
  terminator_once := by simp
  sorted := List.Pairwise.nil
  cluster_last hc := absurd rfl hc
  inOrder_before _ _ hst := absurd hst List.not_mem_nil
  inOrder_ends _ _ hd := absurd hd List.not_mem_nil

end Conch.Options
