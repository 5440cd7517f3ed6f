import Conch.Proofs.ScanProgress
/-! A scan run to its end reads every word it is given (`scan_partitions_arguments`), by the
invariant `Scanned` through one step (`next_stepped`) and through a whole run (`run_ended`). -/
namespace Conch.Options

namespace Scanner

theorem nextShort_cases (s : Scanner) (c : Char) (rest : List Char) :
    (s.nextShort c rest).1.index = s.clusterIndex ∧
    (s.nextShort c rest).1.token = s.clusterWord ∧
    ((∃ cl, (cl = [] ∨ cl = rest) ∧ (s.nextShort c rest).2 = { s with cluster := cl }) ∨
      ∃ k v more, s.pending = (k, v) :: more ∧ (s.nextShort c rest).1.kind = .flag ∧
        (s.nextShort c rest).1.value = some v ∧
        (s.nextShort c rest).2 = { s with cluster := [], pending := more }) := by
  unfold nextShort
  split
  · exact ⟨rfl, rfl, .inl ⟨[], .inl rfl, rfl⟩⟩
  · exact ⟨rfl, rfl, .inl ⟨rest, .inr rfl, rfl⟩⟩
  · split
    · exact ⟨rfl, rfl, .inl ⟨[], .inl rfl, rfl⟩⟩
    · split
      · rename_i k v more hp
        exact ⟨rfl, rfl, .inr ⟨k, v, more, hp, rfl, rfl, rfl⟩⟩
      · exact ⟨rfl, rfl, .inl ⟨[], .inl rfl, rfl⟩⟩

theorem nextLong_cases (s : Scanner) (pos : Nat) (w : String) :
    (s.nextLong pos w).1.index = pos ∧ (s.nextLong pos w).1.token = w ∧
    ((s.nextLong pos w).2 = s ∨
      ∃ k v more, s.pending = (k, v) :: more ∧ (s.nextLong pos w).1.kind = .flag ∧
        (s.nextLong pos w).1.value = some v ∧
        (s.nextLong pos w).2 = { s with pending := more }) := by
  unfold nextLong
  dsimp only
  split
  · exact ⟨rfl, rfl, .inl rfl⟩
  · split
    · split
      · exact ⟨rfl, rfl, .inl rfl⟩
      · exact ⟨rfl, rfl, .inl rfl⟩
    · split
      · exact ⟨rfl, rfl, .inl rfl⟩
      · split
        · rename_i k v more hp
          exact ⟨rfl, rfl, .inr ⟨k, v, more, hp, rfl, rfl, rfl⟩⟩
        · exact ⟨rfl, rfl, .inl rfl⟩

end Scanner

def wordsWeight (ps : List (Nat × String)) : Nat := ps.foldr (fun p n => p.2.length + 1 + n) 0

@[simp] theorem wordsWeight_nil : wordsWeight [] = 0 := rfl

@[simp] theorem wordsWeight_cons (p : Nat × String) (ps : List (Nat × String)) :
    wordsWeight (p :: ps) = p.2.length + 1 + wordsWeight ps := rfl

theorem Scanner.weight_eq (s : Scanner) : s.weight = s.cluster.length + wordsWeight s.pending :=
  rfl

theorem toList_of_option_word {w : String} (h₁ : w.startsWith "-" = true) (h₂ : w ≠ "-") :
    ∃ c rest, w.toList = '-' :: c :: rest := by
  rw [String.startsWith_string_iff] at h₁
  obtain ⟨t, ht⟩ := h₁
  rcases t with _ | ⟨c, rest⟩
  · exact absurd (String.toList_inj.1 (by simpa using ht.symm)) h₂
  · exact ⟨c, rest, by simpa using ht.symm⟩

/-- What one step of a scan leaves: nothing to read once the options have ended; otherwise one more
step, less than `bound` left to read, and an unknown option from the last word looked at. -/
def Stepped (args : List String) (o : Bool) (steps : List Step) (bound : Nat) :
    Option Step × Scanner → Prop
  | (none, s') => ∃ decided, Scanned args o steps decided s' s'.pending ∧
      s'.pending = [] ∧ s'.cluster = []
  | (some st, s') => ∃ decided, Scanned args o (steps ++ [st]) decided s' s'.pending ∧
      s'.weight < bound ∧ (st.kind = .unknown → decided.length = st.index + 1)

theorem Stepped.mono {args : List String} {o : Bool} {steps : List Step} {b b' : Nat}
    {r : Option Step × Scanner} (h : Stepped args o steps b r) (hb : b ≤ b') :
    Stepped args o steps b' r := by
  obtain ⟨_ | st, s'⟩ := r
  · exact h
  · obtain ⟨d, hs, hw, hu⟩ := h
    exact ⟨d, hs, by omega, hu⟩

namespace Scanned

variable {args : List String} {o : Bool} {steps : List Step} {decided : List Decision}
  {s s' : Scanner} {ps : List (Nat × String)}

theorem advance_stepped (h : Scanned args o steps decided s ps) (hc : s.cluster = []) :
    Stepped args o steps (wordsWeight ps) (s.advance ps) := by
  induction ps generalizing s decided with
  | nil => exact ⟨decided, h.with_pending [], rfl, hc⟩
  | cons p more ih =>
    obtain ⟨pos, w⟩ := p
    have hpos := h.head_pending.1
    rw [Scanner.advance]
    split_ifs with hdash hword hord hlong
    · subst hdash
      exact ⟨_, h.terminate rfl rfl rfl hc, rfl, hc⟩
    · -- in order, the first positional word ends the options
      exact ⟨_, h.setAside_all rfl rfl rfl hc, rfl, hc⟩
    · have ho : o = false := by rw [← h.inOrder_eq]; simpa using hord
      have h₁ : Scanned args o steps (decided ++ [⟨pos, w, .positional⟩])
          { s with setAside := s.setAside ++ [(pos, w)] } more :=
        h.setAside_next ho rfl rfl rfl hc
      exact (ih h₁ hc).mono (by simp)
    · obtain ⟨hidx, htok, hcase⟩ := Scanner.nextLong_cases { s with pending := more } pos w
      rcases hnl : Scanner.nextLong { s with pending := more } pos w with ⟨st, s'⟩
      rw [hnl] at hidx htok hcase
      dsimp only at hidx htok hcase
      rcases hcase with rfl | ⟨k, v, more', rfl, hkind, hval, rfl⟩
      · refine ⟨_, h.read_option hidx htok rfl rfl rfl fun hcl => absurd hc hcl, ?_,
          fun _ => ?_⟩
        · simp [Scanner.weight_eq, hc]
        · simp [hidx, hpos]
      · have h₁ : Scanned args o (steps ++ [st]) (decided ++ [⟨pos, w, .option⟩])
            { s with pending := more' } ((k, v) :: more') :=
          h.read_option hidx htok rfl rfl rfl fun hcl => absurd hc hcl
        have hk := h₁.head_pending.1
        refine ⟨_, h₁.take_value hkind hval
          (by simp [hidx, hpos, hk]) rfl rfl rfl hc, ?_, fun hu => ?_⟩
        · simp [Scanner.weight_eq, hc]
          omega
        · rw [hkind] at hu
          cases hu
    · obtain ⟨c, rest, hw⟩ := toList_of_option_word (by simpa using (not_or.1 hword).1)
        (not_or.1 hword).2
      have hlen : w.length = rest.length + 2 := by
        rw [← String.length_toList, hw]
        simp
      simp only [hw]
      obtain ⟨hidx, htok, hcase⟩ := Scanner.nextShort_cases
        { s with pending := more, clusterWord := w, clusterIndex := pos } c rest
      rcases hns : Scanner.nextShort
        { s with pending := more, clusterWord := w, clusterIndex := pos } c rest with ⟨st, s'⟩
      rw [hns] at hidx htok hcase
      dsimp only at hidx htok hcase
      rcases hcase with ⟨cl, hcl, rfl⟩ | ⟨k, v, more', rfl, hkind, hval, rfl⟩
      · refine ⟨_, h.read_option hidx htok rfl rfl rfl fun _ => ⟨rfl, rfl⟩, ?_,
          fun _ => ?_⟩
        · have : cl.length ≤ rest.length := by rcases hcl with rfl | rfl <;> simp
          simp [Scanner.weight_eq]
          omega
        · simp [hidx, hpos]
      · have h₁ : Scanned args o (steps ++ [st]) (decided ++ [⟨pos, w, .option⟩])
            { s with pending := more', clusterWord := w, clusterIndex := pos, cluster := [] }
            ((k, v) :: more') :=
          h.read_option hidx htok rfl rfl rfl fun hcl => absurd rfl hcl
        have hk := h₁.head_pending.1
        refine ⟨_, h₁.take_value hkind hval
          (by simp [hidx, hpos, hk]) rfl rfl rfl rfl, ?_, fun hu => ?_⟩
        · simp [Scanner.weight_eq]
          omega
        · rw [hkind] at hu
          cases hu

theorem next_stepped (h : Scanned args o steps decided s s.pending) :
    Stepped args o steps s.weight s.next := by
  unfold Scanner.next
  split
  · rename_i c rest hcl
    have hne : s.cluster ≠ [] := by simp [hcl]
    have hlast := (h.cluster_index hne).1
    obtain ⟨hidx, htok, hcase⟩ := Scanner.nextShort_cases s c rest
    rcases hns : s.nextShort c rest with ⟨st, s'⟩
    rw [hns] at hidx htok hcase
    dsimp only at hidx htok hcase ⊢
    rcases hcase with ⟨cl, hcl', rfl⟩ | ⟨k, v, more, hp, hkind, hval, rfl⟩
    · refine ⟨decided, h.read_letter hne hidx htok rfl rfl rfl fun _ => ⟨rfl, rfl⟩, ?_,
        fun _ => by rw [hlast, hidx]⟩
      have : cl.length ≤ rest.length := by rcases hcl' with rfl | rfl <;> simp
      simp [Scanner.weight_eq, hcl]
      omega
    · rw [hp] at h
      have h₁ : Scanned args o (steps ++ [st]) decided { s with cluster := [] }
          ((k, v) :: more) :=
        h.read_letter hne hidx htok rfl rfl rfl fun hc => absurd rfl hc
      have hk := h₁.head_pending.1
      refine ⟨_, h₁.take_value hkind hval
        (by omega) rfl rfl rfl rfl, ?_, fun hu => ?_⟩
      · simp [Scanner.weight_eq, hcl, hp]
        omega
      · rw [hkind] at hu
        cases hu
  · rename_i hcl
    exact (h.advance_stepped hcl).mono (by simp [Scanner.weight_eq, hcl])

end Scanned

/-- How a run ends: with nothing left to read and no unknown option unless it goes on after them,
or, when it halts, at its last step with an unknown option or an option missing its value. -/
def Ended (args : List String) (o : Bool) (onUnknown : OnUnknown) (haltOnMissing : Bool)
    (steps : List Step) (r : List Step × Scanner) : Prop :=
  ∃ decided, Scanned args o (steps ++ r.1) decided r.2 r.2.pending ∧
    ((r.2.pending = [] ∧ r.2.cluster = [] ∧
        ∀ u ∈ r.1, u.kind = .unknown → onUnknown = .proceed) ∨
      ∃ pre u, r.1 = pre ++ [u] ∧
        (u.kind = .unknown ∧ onUnknown = .halt ∧ decided.length = u.index + 1 ∨
          u.kind = .missingArgument ∧ haltOnMissing = true))

namespace Scanned

variable {args : List String} {o : Bool} {steps : List Step} {decided : List Decision}
  {s s' : Scanner} {ps : List (Nat × String)}

/-- A run that does not stop at unknown options ends as `Ended` says, given fuel for every
step. -/
theorem run_ended {onUnknown : OnUnknown} {m : Bool} (hu : onUnknown ≠ .stopAt) {fuel : Nat}
    (h : Scanned args o steps decided s s.pending) (hw : s.weight < fuel) :
    Ended args o onUnknown m steps (s.run onUnknown m fuel) := by
  induction fuel generalizing steps decided s with
  | zero => omega
  | succ fuel ih =>
    have hn := h.next_stepped
    rw [Scanner.run]
    rcases hnx : s.next with ⟨_ | st, s'⟩
    · rw [hnx] at hn
      obtain ⟨d, hs, hp, hc⟩ := hn
      exact ⟨d, by simpa using hs, .inl ⟨hp, hc, fun _ hu => absurd hu List.not_mem_nil⟩⟩
    · rw [hnx] at hn
      obtain ⟨d, hs, hw', hunk⟩ := hn
      have hgo : (st.kind = .unknown → onUnknown = .proceed) → Ended args o onUnknown m steps
          (st :: (s'.run onUnknown m fuel).1, (s'.run onUnknown m fuel).2) := by
        intro hst
        obtain ⟨d', hs', hend⟩ := ih hs (by omega)
        refine ⟨d', by simpa using hs', ?_⟩
        rcases hend with ⟨hp, hc, hall⟩ | ⟨pre, u, hpre, hlast⟩
        · refine .inl ⟨hp, hc, fun u hu => ?_⟩
          rcases List.mem_cons.1 hu with rfl | hu
          · exact hst
          · exact hall u hu
        · exact .inr ⟨st :: pre, u, by simp [hpre], hlast⟩
      dsimp only
      cases hk : st.kind
      · exact hgo (by simp [hk])
      · cases m
        · exact hgo (by simp [hk])
        · exact ⟨d, hs, .inr ⟨[], st, rfl, .inr ⟨hk, rfl⟩⟩⟩
      · cases onUnknown
        · exact hgo fun _ => rfl
        · exact absurd rfl hu
        · exact ⟨d, hs, .inr ⟨[], st, rfl, .inl ⟨hk, rfl, hunk hk⟩⟩⟩

end Scanned

/-- A scan that stops at the first unknown option makes the steps of one that halts there; no option
before it is unknown. -/
theorem Scanner.run_stopAt (m : Bool) (fuel : Nat) (s : Scanner) :
    (s.run .stopAt m fuel).1 = (s.run .halt m fuel).1 ∧
      ∀ pre u, (s.run .halt m fuel).1 = pre ++ [u] → u.kind = .unknown →
        (∀ st ∈ pre, st.kind ≠ .unknown) ∧
          (s.run .stopAt m fuel).2 = (s.run .halt m fuel).2.stopAt u := by
  induction fuel generalizing s with
  | zero => simp [run]
  | succ fuel ih =>
    rw [run, run]
    rcases s.next with ⟨_ | st, s'⟩
    · simp
    · obtain ⟨hsteps, hlast⟩ := ih s'
      dsimp only
      have hgo : ∀ pre u, st :: (s'.run .halt m fuel).1 = pre ++ [u] → u.kind = .unknown →
          st.kind ≠ .unknown → (∀ st' ∈ pre, st'.kind ≠ .unknown) ∧
            (s'.run .stopAt m fuel).2 = (s'.run .halt m fuel).2.stopAt u := by
        intro pre u hpre hu hst
        rcases pre with _ | ⟨a, pre⟩
        · obtain ⟨rfl, -⟩ := List.cons_eq_cons.1 hpre
          exact absurd hu hst
        · rw [List.cons_append, List.cons_eq_cons] at hpre
          obtain ⟨rfl, hpre⟩ := hpre
          obtain ⟨hbefore, hend⟩ := hlast pre u hpre hu
          exact ⟨by simpa [hst] using hbefore, hend⟩
      cases hk : st.kind
      · dsimp only
        exact ⟨by rw [hsteps], fun pre u hpre hu => hgo pre u hpre hu (by simp [hk])⟩
      · cases m
        · rw [if_neg Bool.false_ne_true, if_neg Bool.false_ne_true]
          exact ⟨by rw [hsteps], fun pre u hpre hu => hgo pre u hpre hu (by simp [hk])⟩
        · rw [if_pos rfl, if_pos rfl]
          refine ⟨rfl, fun pre u hpre hu => ?_⟩
          rcases pre with _ | ⟨a, pre⟩
          · cases List.cons_eq_cons.1 hpre |>.1
            simp [hk] at hu
          · simp at hpre
      · dsimp only
        refine ⟨rfl, fun pre u hpre _ => ?_⟩
        rcases pre with _ | ⟨a, pre⟩
        · cases List.cons_eq_cons.1 hpre |>.1
          exact ⟨by simp, rfl⟩
        · simp at hpre

/-- How a scan has read the first `roles.length` words of `args`: each has a role, steps come in
order from the option words, a value follows its flag, at most one `--` ends the options, and the
positional words keep their order; when `inOrder`, no step comes after a positional word. -/
structure Partition (inOrder : Prop) (args : List String) (steps : List Step)
    (roles : List Role) (positionals : List String) : Prop where
  length_le : roles.length ≤ args.length
  token_eq : ∀ st ∈ steps, args[st.index]? = some st.token
  sorted : steps.Pairwise fun a b => a.index ≤ b.index
  option_iff : ∀ i (hi : i < roles.length), roles[i] = .option ↔ ∃ st ∈ steps, st.index = i
  value_of : ∀ i (hi : i < roles.length), roles[i] = .value →
    ∃ st ∈ steps, st.kind = .flag ∧ st.index + 1 = i ∧ st.value = args[i]?
  terminator_of : ∀ i (hi : i < roles.length), roles[i] = .terminator → args[i]? = some "--"
  terminator_once : roles.count .terminator ≤ 1
  positionals_eq : positionals =
    (args.zip roles).filterMap fun p => if p.2 = .positional then some p.1 else none
  inOrder_before : inOrder → ∀ st ∈ steps, ∀ i (hi : i < roles.length),
    roles[i] = .positional → st.index < i

namespace Scanned

variable {args : List String} {o : Bool} {steps : List Step} {decided : List Decision}
  {s s' : Scanner} {ps : List (Nat × String)}

theorem partition (h : Scanned args o steps decided s ps) :
    Partition (o = true) args steps (decided.map Decision.role) s.positionals where
  length_le := by simpa using h.length_le
  token_eq st hst := h.word_eq (h.step_option st hst)
  sorted := h.sorted
  option_iff i hi := by
    have hi' : i < decided.length := by simpa using hi
    have hget := h.getElem_decided hi'
    rw [List.getElem_map]
    constructor
    · intro hr
      obtain ⟨st, hst, he⟩ := h.option_step _ (List.getElem_mem hi') hr
      exact ⟨st, hst, he.trans hget.1⟩
    · rintro ⟨st, hst, rfl⟩
      rw [← h.eq_of_index_eq (h.step_option st hst) (List.getElem_mem hi') hget.1.symm]
  value_of i hi hr := by
    have hi' : i < decided.length := by simpa using hi
    have hget := h.getElem_decided hi'
    rw [List.getElem_map] at hr
    obtain ⟨st, hst, hk, hidx, hv⟩ := h.value_step _ (List.getElem_mem hi') hr
    exact ⟨st, hst, hk, hidx.trans hget.1, hv.trans hget.2.symm⟩
  terminator_of i hi hr := by
    have hi' : i < decided.length := by simpa using hi
    have hget := h.getElem_decided hi'
    rw [List.getElem_map] at hr
    rw [hget.2, h.terminator_word _ (List.getElem_mem hi') hr]
  terminator_once := by
    simpa [List.count_eq_countP, List.countP_map, Function.comp_def, Bool.beq_eq_decide_eq]
      using h.terminator_once
  positionals_eq := by
    have hlen : min args.length (decided.map Decision.role).length = decided.length := by
      simpa using h.length_le
    rw [h.positionals_eq, List.zip_eq_zip_take_min, hlen, ← h.map_word,
      List.take_of_length_le (by simp), List.zip_map', List.filterMap_map]
    rfl
  inOrder_before ho st hst i hi hr := by
    have hi' : i < decided.length := by simpa using hi
    rw [List.getElem_map] at hr
    rw [← (h.getElem_decided hi').1]
    exact h.inOrder_before ho st hst _ (List.getElem_mem hi') hr

end Scanned

/-- A scan run to its end reads every word of `args` as a `Partition` says and ends at the end of
`args`; one that stops at its first unknown option `u` makes the same steps up to `u`, setting aside
the word of `u` and every later one after the positional words before it. -/
theorem scan_partitions_arguments (spec : String) (longs : List LongOption) (args : List String) :
    (∃ roles, roles.length = args.length ∧
      Partition (spec.toList.head? = some '+') args (scan spec longs args .proceed false).1 roles
        (scan spec longs args .proceed false).2.positionals) ∧
    (scan spec longs args .proceed false).2.index = args.length ∧
    ∀ m pre u, (scan spec longs args .stopAt m).1 = pre ++ [u] → u.kind = .unknown →
      (∀ st ∈ pre, st.kind ≠ .unknown) ∧
      ∃ roles words, roles.length = u.index + 1 ∧
        Partition (spec.toList.head? = some '+') args (pre ++ [u]) roles words ∧
        (scan spec longs args .stopAt m).2.positionals = words ++ args.drop u.index ∧
        (scan spec longs args .stopAt m).2.index = args.length := by
  have h₀ := Scanned.init spec longs args
  have hfuel : (Scanner.init spec longs args).weight < (Scanner.init spec longs args).weight + 1 :=
    Nat.lt_succ_self _
  have hinOrder : ((Scanner.init spec longs args).inOrder = true) =
      (spec.toList.head? = some '+') :=
    propext decide_eq_true_iff
  simp only [scan]
  refine ⟨?_, ?_, fun m pre u hsteps hu => ?_⟩
  rotate_right
  · -- stopping at `u` is halting there and setting the rest aside
    obtain ⟨hsame, hlast⟩ := Scanner.run_stopAt m _ (Scanner.init spec longs args)
    have hh := hsame ▸ hsteps
    obtain ⟨hbefore, hstop⟩ := hlast pre u hh hu
    obtain ⟨d, hd, hend⟩ : Ended args _ .halt m [] _ := h₀.run_ended (by decide) hfuel
    have hlen : d.length = u.index + 1 := by
      rcases hend with ⟨-, -, hall⟩ | ⟨pre', u', hpre', hlast'⟩
      · exact absurd (hall u (by simp [hh]) hu) (by decide)
      · obtain ⟨-, hu'⟩ := List.append_inj' (hpre'.symm.trans hh) rfl
        cases List.cons_eq_cons.1 hu' |>.1
        rcases hlast' with ⟨-, -, hl⟩ | ⟨hk, -⟩
        · exact hl
        · rw [hk] at hu
          cases hu
    rw [hh, List.nil_append] at hd
    refine ⟨hbefore, _, _, by simpa using hlen, hinOrder ▸ hd.partition, ?_, ?_⟩
    · rw [hstop]
      exact hd.stopAt_positionals (by simp) hlen
    · rw [hstop]
      simp [Scanner.index, Scanner.stopAt, hd.args_eq]
  all_goals
    obtain ⟨d, hd, hend⟩ : Ended args _ .proceed false [] _ := h₀.run_ended (by decide) hfuel
    obtain ⟨hp, -, -⟩ := hend.resolve_right
      (by rintro ⟨pre, u, -, ⟨-, hh, -⟩ | ⟨-, hh⟩⟩ <;> cases hh)
    rw [List.nil_append, hp] at hd
  · exact ⟨_, by simpa using hd.length_eq, hinOrder ▸ hd.partition⟩
  · simp [Scanner.index, hp, hd.args_eq]

/-! ### Scans whose options take no value -/
namespace Scanner

theorem matchLong_mem {longs : List LongOption} {name : String} {o : LongOption}
    (h : matchLong longs name = some o) : o ∈ longs := by
  unfold matchLong at h
  split_ifs at h
  split at h
  · rename_i o' hfind
    cases h
    exact List.mem_of_find?_eq_some hfind
  · split at h
    · rename_i o' hfilter
      cases h
      exact List.mem_of_mem_filter (hfilter ▸ List.mem_singleton_self _)
    · cases h

/-- A scanner none of whose options takes a value. -/
def Valueless (s : Scanner) : Prop :=
  (∀ c, s.shorts.lookup c ≠ some true) ∧
    ∀ name o, matchLong s.longs name = some o → o.takesValue = false

variable {s : Scanner}

theorem nextShort_valueless (h : s.Valueless) (c : Char) (rest : List Char) :
    (s.nextShort c rest).1.kind ≠ .missingArgument ∧ (s.nextShort c rest).2.Valueless := by
  refine ⟨?_, ?_⟩
  · unfold nextShort
    split
    · simp
    · simp
    · rename_i hc
      exact absurd hc (h.1 c)
  · obtain ⟨-, -, hcase⟩ := nextShort_cases s c rest
    rcases hcase with ⟨cl, -, he⟩ | ⟨k, v, more, -, -, -, he⟩ <;> rw [he] <;> exact h

theorem nextLong_valueless (h : s.Valueless) (pos : Nat) (w : String) :
    (s.nextLong pos w).1.kind ≠ .missingArgument ∧ (s.nextLong pos w).2.Valueless := by
  refine ⟨?_, ?_⟩
  · unfold nextLong
    dsimp only
    split
    · simp
    · rename_i o ho
      have hv := h.2 _ o ho
      simp [hv]
      split <;> simp
  · obtain ⟨-, -, hcase⟩ := nextLong_cases s pos w
    rcases hcase with he | ⟨k, v, more, -, -, -, he⟩ <;> rw [he] <;> exact h

theorem advance_valueless (h : s.Valueless) (ps : List (Nat × String)) :
    (∀ st, (s.advance ps).1 = some st → st.kind ≠ .missingArgument) ∧
      (s.advance ps).2.Valueless := by
  induction ps generalizing s with
  | nil => exact ⟨fun _ hst => (by cases hst), h⟩
  | cons p more ih =>
    obtain ⟨pos, w⟩ := p
    rw [advance]
    split_ifs
    · exact ⟨fun _ hst => (by cases hst), h⟩
    · exact ⟨fun _ hst => (by cases hst), h⟩
    · exact ih h
    · have hl := nextLong_valueless (s := { s with pending := more }) h pos w
      rcases hnl : nextLong { s with pending := more } pos w with ⟨st, s'⟩
      rw [hnl] at hl
      exact ⟨fun _ hst => by cases hst; exact hl.1, hl.2⟩
    · split
      · rename_i c rest _
        have h' : Valueless { s with pending := more, clusterWord := w, clusterIndex := pos } := h
        have hs := nextShort_valueless h' c rest
        rcases hns : nextShort { s with pending := more, clusterWord := w, clusterIndex := pos }
          c rest with ⟨st, s'⟩
        rw [hns] at hs
        exact ⟨fun _ hst => by cases hst; exact hs.1, hs.2⟩
      · exact ⟨fun _ hst => (by cases hst), h⟩

theorem next_valueless (h : s.Valueless) :
    (∀ st, s.next.1 = some st → st.kind ≠ .missingArgument) ∧ s.next.2.Valueless := by
  unfold next
  split
  · rename_i c rest _
    exact ⟨fun _ hst => by cases hst; exact (nextShort_valueless h c rest).1,
      (nextShort_valueless h c rest).2⟩
  · exact advance_valueless h s.pending

/-- A scan whose options take no value reports no option missing its value. -/
theorem run_valueless (h : s.Valueless) (onUnknown : OnUnknown) (m : Bool) (fuel : Nat) :
    ∀ st ∈ (s.run onUnknown m fuel).1, st.kind ≠ .missingArgument := by
  induction fuel generalizing s with
  | zero => simp [run]
  | succ fuel ih =>
    have hn := next_valueless h
    rw [run]
    rcases hnx : s.next with ⟨_ | st, s'⟩
    · simp
    · rw [hnx] at hn
      have hst := hn.1 st rfl
      have hrest := ih hn.2
      dsimp only
      cases hk : st.kind
      · simpa [hk] using hrest
      · exact absurd hk hst
      · cases onUnknown
        · simpa [hk] using hrest
        · simp [hk]
        · simp [hk]

end Scanner

end Conch.Options
