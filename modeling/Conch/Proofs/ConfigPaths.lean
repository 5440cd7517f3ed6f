import Conch.Config.Store
/-! Writing a dotted path into the configuration: the walk adds an empty table for each missing key
and gives up at a value that is no table, leaving the configuration as it was. -/
namespace Conch

namespace Setting

theorem sameKey_text_iff {x : Setting} {k : String} : sameKey x (.text k) = true ↔ x = .text k := by
  cases x <;> simp [sameKey, number?]

@[simp] theorem sameKey_text_text (a b : String) : sameKey (.text a) (.text b) = (a == b) := rfl

@[simp] theorem valueAt?_nil (k : String) : valueAt? [] k = Option.none := rfl

theorem valueAt?_cons (x y : Setting) (es : List (Setting × Setting)) (k : String) :
    valueAt? ((x, y) :: es) k = if sameKey x (.text k) then some y else valueAt? es k := by
  by_cases hs : sameKey x (.text k) <;> simp [valueAt?, hs]

theorem valueAt?_putEntry (es : List (Setting × Setting)) (k k' : String) (y : Setting) :
    valueAt? (putEntry es (.text k) y) k' = if k' = k then some y else valueAt? es k' := by
  induction es with
  | nil =>
    by_cases h : k' = k
    · simp [putEntry, valueAt?_cons, h]
    · simp [putEntry, valueAt?_cons, h, Ne.symm h]
  | cons e es ih =>
    obtain ⟨x, z⟩ := e
    by_cases hx : sameKey x (.text k)
    · obtain rfl := sameKey_text_iff.1 hx
      by_cases h : k' = k
      · simp [putEntry, valueAt?_cons, h]
      · simp [putEntry, valueAt?_cons, h, Ne.symm h]
    · simp only [putEntry, hx, Bool.false_eq_true, ↓reduceIte, valueAt?_cons, ih]
      by_cases hx' : sameKey x (.text k')
      · have hk : k' ≠ k := by
          rintro rfl
          exact hx hx'
        simp [hx', hk]
      · simp [hx']

theorem putEntry_of_valueAt? {es : List (Setting × Setting)} {k : String} {y : Setting}
    (h : valueAt? es k = some y) : putEntry es (.text k) y = es := by
  induction es with
  | nil => simp at h
  | cons e es ih =>
    obtain ⟨x, z⟩ := e
    rw [valueAt?_cons] at h
    by_cases hx : sameKey x (.text k)
    · simp only [hx, ↓reduceIte, Option.some.injEq] at h
      simp [putEntry, hx, h]
    · simp only [hx, Bool.false_eq_true, ↓reduceIte] at h
      simp [putEntry, hx, ih h]

end Setting

namespace Config

open Setting (valueAt? putEntry)

theorem enter?_eq_some {old : Option Setting} {sub : List (Setting × Setting)}
    (h : enter? old = some sub) : (old = none ∧ sub = []) ∨ old = some (.table sub) := by
  rcases old with _ | _ | _ | _ | _ | _ | _ | _ <;> simp_all [enter?]

@[simp] theorem find?_nil (es : List (Setting × Setting)) : find? es [] = none := rfl

@[simp] theorem find?_singleton (es : List (Setting × Setting)) (k : String) :
    find? es [k] = valueAt? es k := rfl

@[simp] theorem find?_empty (ks : List String) : find? [] ks = none := by
  rcases ks with _ | ⟨k, _ | ⟨k', ks⟩⟩ <;> simp [find?]

theorem find?_cons_of_ne_nil (es : List (Setting × Setting)) (k : String) {ks : List String}
    (hks : ks ≠ []) : find? es (k :: ks) = (enter? (valueAt? es k)).bind (find? · ks) := by
  obtain ⟨k', ks, rfl⟩ := List.exists_cons_of_ne_nil hks
  simp only [find?]
  rcases valueAt? es k with _ | _ | _ | _ | _ | _ | _ | _ <;> simp [enter?]

theorem find?_cons_congr {es es' : List (Setting × Setting)} {k : String}
    (h : valueAt? es k = valueAt? es' k) (ks : List String) :
    find? es (k :: ks) = find? es' (k :: ks) := by
  rcases ks with _ | ⟨k', ks⟩
  · simp [h]
  · simp [find?_cons_of_ne_nil _ _ (List.cons_ne_nil k' ks), h]

/-- A path of keys is blocked in a table when a proper beginning of it reads a value that is
no table. -/
def Blocks (es : List (Setting × Setting)) (ks : List String) : Prop :=
  ∃ front rest, ks = front ++ rest ∧ front ≠ [] ∧ rest ≠ [] ∧
    ∃ x, find? es front = some x ∧ ∀ sub, x ≠ .table sub

theorem not_blocks_empty (ks : List String) : ¬ Blocks [] ks := by
  rintro ⟨front, rest, -, -, -, x, hx, -⟩
  simp at hx

theorem blocks_cons_iff {es sub : List (Setting × Setting)} {k : String} {ks : List String}
    (hks : ks ≠ []) (hsub : enter? (valueAt? es k) = some sub) :
    Blocks es (k :: ks) ↔ Blocks sub ks := by
  have hread : ∀ front, front ≠ [] → find? es (k :: front) = find? sub front := fun front h => by
    simp [find?_cons_of_ne_nil _ _ h, hsub]
  constructor
  · rintro ⟨front, rest, heq, hfront, hrest, x, hx, hnot⟩
    obtain ⟨k₀, front', rfl⟩ := List.exists_cons_of_ne_nil hfront
    simp only [List.cons_append, List.cons.injEq] at heq
    obtain ⟨rfl, rfl⟩ := heq
    by_cases hfront' : front' = []
    · subst hfront'
      simp only [find?_singleton] at hx
      rcases enter?_eq_some hsub with ⟨hnone, -⟩ | htable
      · simp [hnone] at hx
      · exact absurd (Option.some.inj (htable.symm.trans hx)).symm (hnot sub)
    · exact ⟨front', rest, rfl, hfront', hrest, x, (hread front' hfront').symm.trans hx, hnot⟩
  · rintro ⟨front, rest, rfl, hfront, hrest, x, hx, hnot⟩
    exact ⟨k :: front, rest, rfl, List.cons_ne_nil _ _, hrest, x, (hread front hfront).trans hx,
      hnot⟩

section Walk

variable (v : Setting)

theorem store_fst_eq_false_iff (es : List (Setting × Setting)) (ks : List String) :
    (store es v ks).1 = false ↔ Blocks es ks := by
  fun_induction store es v ks with
  | case1 es =>
    simp only [Bool.true_eq_false, false_iff]
    rintro ⟨front, rest, heq, hfront, -⟩
    exact hfront (List.append_eq_nil_iff.1 heq.symm).1
  | case2 es k =>
    simp only [Bool.true_eq_false, false_iff]
    rintro ⟨front, rest, heq, hfront, hrest, -⟩
    rcases front with _ | ⟨k₀, _ | ⟨k₁, front⟩⟩
    · exact hfront rfl
    · simp only [List.cons_append, List.nil_append, List.cons.injEq] at heq
      exact hrest heq.2.symm
    · simp at heq
  | case3 es k ks hks sub hsub ih =>
    rw [blocks_cons_iff hks hsub, ← ih]
    rfl
  | case4 es k ks hks hnone =>
    simp only [true_iff]
    have hread : ∃ x, valueAt? es k = some x ∧ ∀ sub, x ≠ .table sub := by
      rcases h : valueAt? es k with _ | x
      · simp [h, enter?] at hnone
      · refine ⟨x, rfl, fun sub hx => ?_⟩
        simp [h, hx, enter?] at hnone
    obtain ⟨x, hx, hnot⟩ := hread
    exact ⟨[k], ks, rfl, List.cons_ne_nil _ _, hks, x, hx, hnot⟩

/-- A walk that gives up leaves the table as it was: it gives up only at keys it found, and below a
table it added nothing can stop it. -/
theorem store_snd_of_blocked (es : List (Setting × Setting)) (ks : List String)
    (h : (store es v ks).1 = false) : (store es v ks).2 = es := by
  fun_induction store es v ks with
  | case1 es => simp at h
  | case2 es k => simp at h
  | case3 es k ks hks sub hsub ih =>
    have hsub_false : (store sub v ks).1 = false := h
    rw [Prod.map_snd, ih hsub_false]
    rcases enter?_eq_some hsub with ⟨-, rfl⟩ | htable
    · exact absurd ((store_fst_eq_false_iff v [] ks).1 hsub_false) (not_blocks_empty ks)
    · exact Setting.putEntry_of_valueAt? htable
  | case4 es k ks hks hnone => rfl

theorem find?_store_path (es : List (Setting × Setting)) (ks : List String) (hks : ks ≠ [])
    (h : (store es v ks).1 = true) :
    find? (store es v ks).2 ks = some (overwrite (find? es ks) v) := by
  fun_induction store es v ks with
  | case1 es => exact absurd rfl hks
  | case2 es k => simp [Setting.valueAt?_putEntry]
  | case3 es k ks hks' sub hsub ih =>
    rw [Prod.map_snd, find?_cons_of_ne_nil _ _ hks', find?_cons_of_ne_nil _ _ hks', hsub,
      Setting.valueAt?_putEntry]
    simpa [enter?] using ih hks' h
  | case4 es k ks hks' hnone => simp at h

theorem find?_store_front (es : List (Setting × Setting)) (ks : List String)
    (h : (store es v ks).1 = true) (front rest : List String) (heq : ks = front ++ rest)
    (hfront : front ≠ []) (hrest : rest ≠ []) :
    ∃ sub, find? (store es v ks).2 front = some (.table sub) := by
  fun_induction store es v ks generalizing front with
  | case1 es => exact absurd (List.append_eq_nil_iff.1 heq.symm).1 hfront
  | case2 es k =>
    rcases front with _ | ⟨k₀, _ | ⟨k₁, front⟩⟩
    · exact absurd rfl hfront
    · simp only [List.cons_append, List.nil_append, List.cons.injEq] at heq
      exact absurd heq.2.symm hrest
    · simp at heq
  | case3 es k ks hks sub hsub ih =>
    obtain ⟨k₀, front', rfl⟩ := List.exists_cons_of_ne_nil hfront
    simp only [List.cons_append, List.cons.injEq] at heq
    obtain ⟨rfl, heq⟩ := heq
    rw [Prod.map_snd]
    by_cases hfront' : front' = []
    · subst hfront'
      exact ⟨(store sub v ks).2, by simp [Setting.valueAt?_putEntry]⟩
    · rw [find?_cons_of_ne_nil _ _ hfront', Setting.valueAt?_putEntry]
      simpa [enter?] using ih h front' heq hfront'
  | case4 es k ks hks hnone => simp at h

/-- A walk changes what no path reads that neither leads to the walked path nor goes on from
it. -/
theorem find?_store_apart (es : List (Setting × Setting)) (ks qs : List String)
    (hpre : ¬ qs <+: ks) (hext : ¬ ks <+: qs) : find? (store es v ks).2 qs = find? es qs := by
  fun_induction store es v ks generalizing qs with
  | case1 es => exact absurd (List.nil_prefix) hext
  | case2 es k =>
    have hqs : qs ≠ [] := by
      rintro rfl
      exact hpre List.nil_prefix
    obtain ⟨q, qs', rfl⟩ := List.exists_cons_of_ne_nil hqs
    have hq : q ≠ k := by
      rintro rfl
      exact hext (List.cons_prefix_cons.2 ⟨rfl, List.nil_prefix⟩)
    exact find?_cons_congr (by simp [Setting.valueAt?_putEntry, hq]) qs'
  | case3 es k ks hks sub hsub ih =>
    have hqs : qs ≠ [] := by
      rintro rfl
      exact hpre List.nil_prefix
    obtain ⟨q, qs', rfl⟩ := List.exists_cons_of_ne_nil hqs
    rw [Prod.map_snd]
    by_cases hq : q = k
    · subst hq
      have hqs' : qs' ≠ [] := by
        rintro rfl
        exact hpre (List.cons_prefix_cons.2 ⟨rfl, List.nil_prefix⟩)
      have hpre' : ¬ qs' <+: ks := fun h => hpre (List.cons_prefix_cons.2 ⟨rfl, h⟩)
      have hext' : ¬ ks <+: qs' := fun h => hext (List.cons_prefix_cons.2 ⟨rfl, h⟩)
      rw [find?_cons_of_ne_nil _ _ hqs', find?_cons_of_ne_nil _ _ hqs', Setting.valueAt?_putEntry,
        hsub]
      simpa [enter?] using ih qs' hpre' hext'
    · exact find?_cons_congr (by simp [Setting.valueAt?_putEntry, hq]) qs'
  | case4 es k ks hks hnone => rfl

end Walk

/-- Writing `v` at a dotted path: a blocked path reports `false` and changes nothing; a conversion
that fails outright is a fault; otherwise the path reads the converted value, every proper beginning
of it reads a table, and every path that neither leads to it nor goes on from it reads what it did
before. -/
theorem set_outcome (c : Config) (path : String) (v : Setting) :
    (Blocks c.entries (keys path) → c.set? path v = .ok (false, c)) ∧
    (¬ Blocks c.entries (keys path) → ∀ f,
      (find? c.entries (keys path)).bind (Setting.convertFault? · v) = some f →
      c.set? path v = .error f) ∧
    (¬ Blocks c.entries (keys path) →
      (find? c.entries (keys path)).bind (Setting.convertFault? · v) = none →
      ∃ c', c.set? path v = .ok (true, c') ∧
        find? c'.entries (keys path) = some (overwrite (find? c.entries (keys path)) v) ∧
        (∀ front rest, keys path = front ++ rest → front ≠ [] → rest ≠ [] →
          ∃ sub, find? c'.entries front = some (.table sub)) ∧
        (∀ q, ¬ keys q <+: keys path → ¬ keys path <+: keys q →
          find? c'.entries (keys q) = find? c.entries (keys q))) := by
  have hkeys : keys path ≠ [] := by simp [keys, List.splitOn_ne_nil]
  have hthrough : ¬ Blocks c.entries (keys path) → (store c.entries v (keys path)).1 = true :=
    fun hb => by simpa using mt (store_fst_eq_false_iff v c.entries (keys path)).1 hb
  refine ⟨fun hb => ?_, fun hb f hf => ?_, fun hb hf => ?_⟩
  · have hflag := (store_fst_eq_false_iff v c.entries (keys path)).2 hb
    simp [set?, hflag, store_snd_of_blocked v c.entries (keys path) hflag]
  · simp [set?, hthrough hb, hf]
  · have hflag := hthrough hb
    refine ⟨⟨(store c.entries v (keys path)).2⟩, by simp [set?, hflag, hf],
      find?_store_path v _ _ hkeys hflag, fun front rest heq hfront hrest =>
        find?_store_front v _ _ hflag front rest heq hfront hrest,
      fun q hpre hext => find?_store_apart v _ _ _ hpre hext⟩

theorem writing_below_a_text_is_refused :
    Blocks Config.defaults.entries (keys "debug.level.x") ∧
      Config.defaults.set? "debug.level.x" (.int 1) = .ok (false, Config.defaults) := by
  have hb : Blocks Config.defaults.entries (keys "debug.level.x") :=
    ⟨["debug", "level"], ["x"], by decide +kernel, by simp, by simp, .text "WARNING", by rfl,
      fun _ => by simp⟩
  exact ⟨hb, (set_outcome Config.defaults "debug.level.x" (.int 1)).1 hb⟩

end Config

end Conch
