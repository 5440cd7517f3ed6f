import Conch.Complete
/-! Completing `!h` from the history: the commands offered newest first, each once, up to the
configured limit, which is tested only after a command is taken. -/
namespace Conch.Complete

def offered (c : String) : Bool := !c.isEmpty && c != "!h"

/-- The commands a history (oldest first) offers, newest first, each once. -/
def historyChoices (history : List String) : List String :=
  ((history.reverse.map Text.trim).filter offered).eraseDups

section Walk

variable {enough : Nat → Bool} {m : Nat}

/-- The walk over the history takes the new offered commands up to `m` in all: what it has found is
the beginning of the offered commands, cut at `m`. -/
theorem foldl_recentStep (henough : ∀ k, enough k = decide (m ≤ k)) (entries acc : List String)
    (hacc : acc.length ≤ m) :
    entries.foldl (recentStep enough) acc =
      acc ++ ((((entries.map Text.trim).filter offered).filter (· ∉ acc)).eraseDups.take
        (m - acc.length)) := by
  induction entries generalizing acc with
  | nil => simp
  | cons h entries ih =>
    rw [List.foldl_cons, recentStep]
    by_cases hfull : m ≤ acc.length
    · have hm : m - acc.length = 0 := by omega
      simp [henough, hfull, ih acc hacc, hm]
    · have hroom : enough acc.length = false := by simp [henough, hfull]
      simp only [hroom, Bool.false_eq_true, ↓reduceIte]
      by_cases hskip : (Text.trim h).isEmpty ∨ Text.trim h = "!h" ∨ Text.trim h ∈ acc
      · rw [if_pos hskip, ih acc hacc]
        by_cases hoff : offered (Text.trim h) = true
        · have hmem : Text.trim h ∈ acc := by
            simp only [offered, Bool.and_eq_true, Bool.not_eq_true', bne_iff_ne, ne_eq] at hoff
            rcases hskip with hempty | hbang | hmem
            · simp [hempty] at hoff
            · exact absurd hbang hoff.2
            · exact hmem
          simp [hoff, hmem]
        · simp [hoff]
      · rw [if_neg hskip, ih (acc ++ [Text.trim h]) (by simp; omega)]
        simp only [not_or] at hskip
        obtain ⟨hempty, hbang, hnew⟩ := hskip
        have hoff : offered (Text.trim h) = true := by simp [offered, hempty, hbang]
        have htake : m - acc.length = (m - (acc ++ [Text.trim h]).length) + 1 := by
          simp only [List.length_append, List.length_singleton]
          omega
        simp only [List.map_cons, List.filter_cons, hoff, hnew, not_false_eq_true,
          decide_true, ↓reduceIte, List.eraseDups_cons, htake, List.take_succ_cons,
          List.filter_filter, List.append_assoc, List.singleton_append]
        congr 4
        refine List.filter_congr fun c _ => ?_
        by_cases hc : c = Text.trim h <;> simp [hc]

theorem recent_eq_take (henough : ∀ k, enough k = decide (m ≤ k)) (history : List String) :
    recent enough history = (historyChoices history).take m := by
  simpa [recent, historyChoices] using foldl_recentStep henough history.reverse [] (Nat.zero_le m)

end Walk

theorem limitTest_int (n : Int) :
    limitTest (.int n) = .ok fun k => decide ((max n 1).toNat ≤ k) := by
  simp only [limitTest, Except.ok.injEq]
  funext k
  simp only [decide_eq_decide]
  omega

/-- A text ending in `!h` completes to the first `max n 1` commands the history offers, where
`n` is the integer limit stored at `autocomplete.h_max_len`, or five where none is. -/
theorem history_completions (wordOf : List Char → List Char) (s : Shell) (c : Config)
    (history : List String) (before : String) (n : Int) (hbefore : "!h".toList <:+ before.toList)
    (hlimit : (c.get? "autocomplete.h_max_len").getD (.int 5) = .int n) :
    suggest wordOf s c history before =
      .ok (((historyChoices history).take (max n 1).toNat).map
        fun t => ⟨t, -2, "Command History"⟩) := by
  have hsuffix : "!h".toList.isSuffixOf before.toList = true := List.isSuffixOf_iff_suffix.2 hbefore
  simp only [suggest, hsuffix, ↓reduceIte, hlimit, limitTest_int]
  rw [recent_eq_take (fun _ => rfl)]

theorem zero_limit_still_offers_newest :
    "!h".toList <:+ "!h".toList ∧
      ((⟨[(.text "autocomplete", .table [(.text "h_max_len", .int 0)])]⟩ : Config).get?
        "autocomplete.h_max_len").getD (.int 5) = .int 0 ∧
      suggest wordBefore (Shell.fresh false) ⟨[(.text "autocomplete", .table [(.text "h_max_len", .int 0)])]⟩
        ["echo one", "return 3", "echo one", "!h"] "!h" =
        .ok [⟨"echo one", -2, "Command History"⟩] := by
  refine ⟨List.suffix_refl _, rfl, ?_⟩
  rw [history_completions _ _ _ _ _ 0 (List.suffix_refl _) rfl]
  rfl

end Conch.Complete
