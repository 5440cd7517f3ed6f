import Conch.Complete
import Mathlib.Data.List.Basic
import Mathlib.Data.List.TakeWhile
/-! Completion after an operator reads nothing before it (`completion_after_operator`): the scan for
blanks, an operator and blanks takes every blank after the operator, so it goes on past them. -/
namespace Conch.Complete

/-- A text that ends with a blank and an operator. -/
def EndsWithOperator (cs : List Char) : Prop :=
  ∃ pre b op, cs = pre ++ b :: op ∧ Text.isBlank b ∧ op ∈ operators

/-- A text that starts with blanks, an operator and a blank. -/
def StartsWithOperator (cs : List Char) : Prop :=
  ∃ lead op c rest, cs = lead ++ op ++ c :: rest ∧ lead ≠ [] ∧ (∀ x ∈ lead, Text.isBlank x) ∧
    op ∈ operators ∧ Text.isBlank c

/-! ### The operator at the start of a text -/

theorem drop_length_takeWhile {α : Type} (p : α → Bool) (l : List α) :
    l.drop (l.takeWhile p).length = l.dropWhile p := by
  calc l.drop (l.takeWhile p).length
      = (l.takeWhile p ++ l.dropWhile p).drop (l.takeWhile p).length := by
        rw [List.takeWhile_append_dropWhile]
    _ = l.dropWhile p := List.drop_left

theorem takeWhile_eq_nil_of_head {α : Type} {p : α → Bool} {ys : List α}
    (h : ∀ y ∈ ys.head?, p y = false) : ys.takeWhile p = [] := by
  rcases ys with _ | ⟨y, ys⟩
  · rfl
  · simp [h y rfl]

theorem not_blank_of_mem_operator {op : List Char} {x : Char} (hop : op ∈ operators)
    (hx : x ∈ op) : Text.isBlank x = false := by
  simp only [operators, List.mem_cons, List.not_mem_nil, or_false] at hop
  rcases hop with rfl | rfl | rfl | rfl <;> simp at hx <;> subst hx <;> decide

theorem operator_ne_nil {op : List Char} (hop : op ∈ operators) : op ≠ [] := by
  simp only [operators, List.mem_cons, List.not_mem_nil, or_false] at hop
  rcases hop with rfl | rfl | rfl | rfl <;> simp

theorem operatorLength_eq_some {cs : List Char} {n : Nat} :
    operatorLength cs = some n ↔
      ∃ op c rest, cs = op ++ c :: rest ∧ op ∈ operators ∧ Text.isBlank c ∧ n = op.length := by
  constructor
  · intro h
    obtain ⟨op, hfind, rfl⟩ := Option.map_eq_some_iff.1 h
    have hmem := List.mem_of_find?_eq_some hfind
    have hop := List.find?_some hfind
    simp only [Bool.and_eq_true, List.isPrefixOf_iff_prefix] at hop
    obtain ⟨⟨rest, rfl⟩, hblank⟩ := hop
    obtain ⟨c, rest, rfl⟩ : ∃ c r, rest = c :: r := by
      rcases rest with _ | ⟨c, r⟩
      · simp at hblank
      · exact ⟨c, r, rfl⟩
    exact ⟨op, c, rest, rfl, hmem, by simpa using hblank, rfl⟩
  · rintro ⟨op, c, rest, rfl, hop, hc, rfl⟩
    have hbar : c ≠ '|' := by
      rintro rfl
      exact absurd hc (by decide)
    simp only [operators, List.mem_cons, List.not_mem_nil, or_false] at hop
    rcases hop with rfl | rfl | rfl | rfl <;> simp [operatorLength, operators, hc, Ne.symm hbar]

theorem operatorAt_blanks_append {lead rest : List Char} (hlead : lead ≠ [])
    (hblank : ∀ x ∈ lead, Text.isBlank x) (hrest : ∀ x ∈ rest.head?, Text.isBlank x = false) :
    operatorAt (lead ++ rest) = (operatorLength rest).map fun n =>
      lead.length - 1 + n + ((rest.drop n).takeWhile Text.isBlank).length := by
  have htake : (lead ++ rest).takeWhile Text.isBlank = lead := by
    rw [List.takeWhile_append_of_pos hblank, takeWhile_eq_nil_of_head hrest, List.append_nil]
  simp [operatorAt, htake, hlead]

/-- What a find covers: blanks, an operator and blanks, `n + 1` characters in all. -/
theorem operatorAt_eq_some {cs : List Char} {n : Nat} (h : operatorAt cs = some n) :
    ∃ lead op trail rest, cs = lead ++ op ++ trail ++ rest ∧ lead ≠ [] ∧
      (∀ x ∈ lead, Text.isBlank x) ∧ op ∈ operators ∧ trail ≠ [] ∧
      (∀ x ∈ trail, Text.isBlank x) ∧ n + 1 = lead.length + op.length + trail.length := by
  simp only [operatorAt] at h
  split at h
  · simp at h
  · rename_i hlead
    obtain ⟨m, hm, rfl⟩ := Option.map_eq_some_iff.1 h
    obtain ⟨op, c, rest, hrest, hop, hc, rfl⟩ := operatorLength_eq_some.1 hm
    have hsplit := (List.takeWhile_append_dropWhile (p := Text.isBlank) (l := cs)).symm
    rw [← drop_length_takeWhile, hrest] at hsplit
    have hlead' : cs.takeWhile Text.isBlank ≠ [] := by simpa using hlead
    refine ⟨cs.takeWhile Text.isBlank, op, (c :: rest).takeWhile Text.isBlank,
      (c :: rest).dropWhile Text.isBlank, ?_, hlead', fun _ => List.mem_takeWhile_imp,
      hop, by simp [hc], fun _ => List.mem_takeWhile_imp, ?_⟩
    · simpa only [List.append_assoc, List.takeWhile_append_dropWhile] using hsplit
    · rw [hrest, List.drop_left]
      have := List.length_pos_iff.2 hlead'
      omega

/-! ### The scan for the last operator -/

theorem afterLastOperator_skip (cs : List Char) (n : Nat) (rel : List Char) :
    afterLastOperator cs n rel = afterLastOperator (cs.drop n) 0 rel := by
  induction cs generalizing n with
  | nil => cases n <;> simp [afterLastOperator]
  | cons c cs ih =>
    cases n with
    | zero => simp
    | succ n => simp [afterLastOperator, ih]

theorem afterLastOperator_cons_of_none {c : Char} {cs : List Char} (rel : List Char)
    (h : operatorAt (c :: cs) = none) :
    afterLastOperator (c :: cs) 0 rel = afterLastOperator cs 0 rel := by
  simp [afterLastOperator, h]

theorem afterLastOperator_cons_of_some {c : Char} {cs : List Char} {n : Nat} (rel : List Char)
    (h : operatorAt (c :: cs) = some n) :
    afterLastOperator (c :: cs) 0 rel = afterLastOperator (cs.drop n) 0 (cs.drop n) := by
  simp [afterLastOperator, h, afterLastOperator_skip cs n]

/-- The scan answers the text after its last find, or the text it started with where it finds
nothing. -/
theorem afterLastOperator_kept_or_found (cs : List Char) (n : Nat) (rel rel' : List Char) :
    (afterLastOperator cs n rel = rel ∧ afterLastOperator cs n rel' = rel') ∨
      afterLastOperator cs n rel = afterLastOperator cs n rel' := by
  induction cs generalizing n rel rel' with
  | nil => simp [afterLastOperator]
  | cons c cs ih =>
    cases n with
    | succ n => simpa [afterLastOperator] using ih n rel rel'
    | zero =>
      cases h : operatorAt (c :: cs) with
      | some m => simp [afterLastOperator, h]
      | none => simpa [afterLastOperator, h] using ih 0 rel rel'

theorem afterLastOperator_blanks {lead rest : List Char} (rel : List Char)
    (hblank : ∀ x ∈ lead, Text.isBlank x) (hrest : ∀ x ∈ rest.head?, Text.isBlank x = false)
    (hop : operatorLength rest = none) :
    afterLastOperator (lead ++ rest) 0 rel = afterLastOperator rest 0 rel := by
  induction lead with
  | nil => rfl
  | cons x lead ih =>
    have hnone : operatorAt (x :: (lead ++ rest)) = none := by
      rw [← List.cons_append, operatorAt_blanks_append (List.cons_ne_nil _ _) hblank hrest, hop,
        Option.map_none]
    rw [List.cons_append, afterLastOperator_cons_of_none rel hnone]
    exact ih fun y hy => hblank y (List.mem_cons_of_mem _ hy)

/-- Blanks, an operator and blanks are found, with every blank after the operator: the scan
goes on at the first character of `S` that is no blank. -/
theorem afterLastOperator_operator {lead op trail : List Char} (S rel : List Char)
    (hlead : lead ≠ []) (hleadb : ∀ x ∈ lead, Text.isBlank x) (hop : op ∈ operators)
    (htrail : trail ≠ []) (htrailb : ∀ x ∈ trail, Text.isBlank x) :
    afterLastOperator (lead ++ op ++ trail ++ S) 0 rel =
      afterLastOperator (S.dropWhile Text.isBlank) 0 (S.dropWhile Text.isBlank) := by
  obtain ⟨x, lead', rfl⟩ := List.exists_cons_of_ne_nil hlead
  obtain ⟨y, trail', rfl⟩ := List.exists_cons_of_ne_nil htrail
  have hlen : operatorLength (op ++ y :: (trail' ++ S)) = some op.length :=
    operatorLength_eq_some.2 ⟨op, y, trail' ++ S, rfl, hop, htrailb y List.mem_cons_self, rfl⟩
  have hhead : ∀ z ∈ (op ++ y :: (trail' ++ S)).head?, Text.isBlank z = false := by
    obtain ⟨o, ops, rfl⟩ := List.exists_cons_of_ne_nil (operator_ne_nil hop)
    simpa using not_blank_of_mem_operator hop List.mem_cons_self
  have hfind := operatorAt_blanks_append hlead hleadb hhead
  rw [hlen, Option.map_some, List.drop_left] at hfind
  have htrail_take : ((y :: trail') ++ S).takeWhile Text.isBlank =
      (y :: trail') ++ S.takeWhile Text.isBlank := List.takeWhile_append_of_pos htrailb
  simp only [List.cons_append, List.append_assoc] at hfind htrail_take ⊢
  rw [htrail_take] at hfind
  rw [afterLastOperator_cons_of_some rel hfind]
  have hdrop : (lead' ++ (op ++ y :: (trail' ++ S))).drop
      ((x :: lead').length - 1 + op.length + (y :: (trail' ++ S.takeWhile Text.isBlank)).length) =
      S.dropWhile Text.isBlank := by
    have hlen' : (x :: lead').length - 1 + op.length +
        (y :: (trail' ++ S.takeWhile Text.isBlank)).length =
        (lead' ++ op ++ y :: trail').length + (S.takeWhile Text.isBlank).length := by
      simp only [List.length_cons, List.length_append]
      omega
    rw [hlen', show lead' ++ (op ++ y :: (trail' ++ S)) = (lead' ++ op ++ y :: trail') ++ S by simp,
      ← List.drop_drop, List.drop_left, drop_length_takeWhile]
  rw [hdrop]

/-! ### Where a find can end -/

theorem endsWithOperator_blanks_append {lead op : List Char} (hlead : lead ≠ [])
    (hblank : ∀ x ∈ lead, Text.isBlank x) (hop : op ∈ operators) :
    EndsWithOperator (lead ++ op) := by
  refine ⟨lead.dropLast, lead.getLast hlead, op, ?_, hblank _ (List.getLast_mem hlead), hop⟩
  rw [← List.singleton_append, ← List.append_assoc, List.dropLast_concat_getLast hlead]

theorem not_ends_in_blanks {front u v : List Char}
    (hfront : ∀ x ∈ front.getLast?, Text.isBlank x = false) (h : front = u ++ v) (hv : v ≠ [])
    (hblank : ∀ x ∈ v, Text.isBlank x) : False := by
  have hx := hfront (v.getLast hv)
    (by rw [h, List.getLast?_append_of_ne_nil _ hv, List.getLast?_eq_some_getLast hv]; rfl)
  simp [hblank _ (List.getLast_mem hv)] at hx

theorem operatorAt_within {front R : List Char} {n : Nat} (hne : front ≠ [])
    (hfront : ∀ x ∈ front.getLast?, Text.isBlank x = false) (hend : ¬ EndsWithOperator front)
    (hR : ∀ x ∈ R.head?, Text.isBlank x) (h : operatorAt (front ++ R) = some n) :
    n + 1 ≤ front.length := by
  obtain ⟨lead, op, trail, rest, heq, hlead, hleadb, hop, htrail, htrailb, hn⟩ :=
    operatorAt_eq_some h
  rcases List.append_eq_append_iff.1 heq with ⟨a, hfind, hRa⟩ | ⟨c, rfl, -⟩
  · -- the find would reach into `R`: wherever `front` stops, an assumption fails
    exfalso
    rcases List.append_eq_append_iff.1 hfind with ⟨b, rfl, htb⟩ | ⟨b, hlo, rfl⟩
    · by_cases hb : b = []
      · subst hb
        exact hend (by simpa using endsWithOperator_blanks_append hlead hleadb hop)
      · exact not_ends_in_blanks hfront rfl hb
          fun x hx => htrailb x (htb ▸ List.mem_append_left _ hx)
    · by_cases hb : b = []
      · subst hb
        rw [List.append_nil] at hlo
        exact hend (hlo ▸ endsWithOperator_blanks_append hlead hleadb hop)
      · rcases List.append_eq_append_iff.1 hlo with ⟨x, rfl, hox⟩ | ⟨x, hlx, rfl⟩
        · -- `front` stops within the operator: `R` would start with an operator character
          obtain ⟨y, ys, rfl⟩ := List.exists_cons_of_ne_nil hb
          have hy := hR y (by simp [hRa])
          rw [not_blank_of_mem_operator hop (by simp [hox])] at hy
          exact absurd hy Bool.false_ne_true
        · exact not_ends_in_blanks hfront (List.nil_append _).symm hne
            fun y hy => hleadb y (hlx ▸ List.mem_append_left _ hy)
  · simp only [List.length_append] at hn ⊢
    omega

/-- The scan through a text ending in no blank, nor in a blank and an operator, passes over `R` as
if it started there when `R` starts with a blank. The induction runs over the text, with what the
scan still has to skip. -/
theorem afterLastOperator_front {front R : List Char} (k : Nat) (rel : List Char)
    (hk : k ≤ front.length) (hfront : ∀ x ∈ front.getLast?, Text.isBlank x = false)
    (hend : ¬ EndsWithOperator front) (hR : ∀ x ∈ R.head?, Text.isBlank x) :
    ∃ rel', afterLastOperator (front ++ R) k rel = afterLastOperator R 0 rel' := by
  induction front generalizing k rel with
  | nil =>
    obtain rfl : k = 0 := by simpa using hk
    exact ⟨rel, rfl⟩
  | cons c cs ih =>
    have hfront' : ∀ x ∈ cs.getLast?, Text.isBlank x = false := fun x hx =>
      hfront x (by rwa [List.getLast?_cons_of_ne_nil (by rintro rfl; simp at hx)])
    have hend' : ¬ EndsWithOperator cs := fun ⟨pre, b, op, h, hb, hop⟩ =>
      hend ⟨c :: pre, b, op, by simp [h], hb, hop⟩
    cases k with
    | succ k => exact ih k rel (by simpa using hk) hfront' hend'
    | zero =>
      cases hfind : operatorAt (c :: (cs ++ R)) with
      | none =>
        rw [List.cons_append, afterLastOperator_cons_of_none rel hfind]
        exact ih 0 rel (Nat.zero_le _) hfront' hend'
      | some n =>
        have hn := operatorAt_within (List.cons_ne_nil c cs) hfront hend hR hfind
        rw [List.cons_append, afterLastOperator_cons_of_some rel hfind, ← afterLastOperator_skip]
        exact ih n _ (by simpa using hn) hfront' hend'

theorem afterLastOperator_dropWhile {S : List Char} (rel : List Char)
    (hS : ¬ StartsWithOperator S) :
    afterLastOperator S 0 rel = afterLastOperator (S.dropWhile Text.isBlank) 0 rel := by
  have hsplit := List.takeWhile_append_dropWhile (p := Text.isBlank) (l := S)
  by_cases hlead : S.takeWhile Text.isBlank = []
  · rw [hlead, List.nil_append] at hsplit
    rw [hsplit]
  · have hop : operatorLength (S.dropWhile Text.isBlank) = none := by
      cases h : operatorLength (S.dropWhile Text.isBlank) with
      | none => rfl
      | some m =>
        obtain ⟨op, c, rest, hrest, hop, hc, -⟩ := operatorLength_eq_some.1 h
        exact absurd ⟨S.takeWhile Text.isBlank, op, c, rest,
          by rw [List.append_assoc, ← hrest, hsplit], hlead,
          fun _ => List.mem_takeWhile_imp, hop, hc⟩ hS
    have hhead : ∀ x ∈ (S.dropWhile Text.isBlank).head?, Text.isBlank x = false := by
      intro x hx
      have h := List.head?_dropWhile_not Text.isBlank S
      rw [Option.mem_def.1 hx] at h
      exact h
    calc afterLastOperator S 0 rel
        = afterLastOperator (S.takeWhile Text.isBlank ++ S.dropWhile Text.isBlank) 0 rel := by
          rw [hsplit]
      _ = afterLastOperator (S.dropWhile Text.isBlank) 0 rel :=
          afterLastOperator_blanks rel (fun _ => List.mem_takeWhile_imp)
            hhead hop

/-! ### What leading blanks and a blank end leave unchanged -/

theorem hasReference_cons_of_ne {c : Char} (cs : List Char) (hc : c ≠ '@') :
    hasReference (c :: cs) = hasReference cs := by
  rw [hasReference.eq_def]
  split <;> simp_all

theorem hasReference_blanks_append {lead : List Char} (rest : List Char)
    (hblank : ∀ x ∈ lead, Text.isBlank x) : hasReference (lead ++ rest) = hasReference rest := by
  induction lead with
  | nil => rfl
  | cons x lead ih =>
    have hx : x ≠ '@' := by
      rintro rfl
      exact absurd (hblank '@' List.mem_cons_self) (by decide)
    rw [List.cons_append, hasReference_cons_of_ne _ hx]
    exact ih fun y hy => hblank y (List.mem_cons_of_mem _ hy)

theorem words_blanks_append {lead : List Char} (rest : List Char)
    (hblank : ∀ x ∈ lead, Text.isBlank x) :
    Text.words (String.ofList (lead ++ rest)) = Text.words (String.ofList rest) := by
  have hchars : Text.wordsOfChars (lead ++ rest) [] = Text.wordsOfChars rest [] := by
    induction lead with
    | nil => rfl
    | cons x lead ih =>
      rw [List.cons_append, Text.wordsOfChars, if_pos (hblank x List.mem_cons_self)]
      simpa using ih fun y hy => hblank y (List.mem_cons_of_mem _ hy)
  simp only [Text.words, String.toList_ofList, hchars]

/-- Leading blanks change no completion of a segment. -/
theorem segment_blanks_append (s : Shell) {lead : List Char} (rest : List Char) (word : String)
    (afterBrace : Bool) (hblank : ∀ x ∈ lead, Text.isBlank x) :
    segment s (lead ++ rest) word afterBrace = segment s rest word afterBrace := by
  by_cases hrest : rest = []
  · subst hrest
    have hempty : Text.words "" = [] := rfl
    have href : hasReference lead = false := by
      simpa [hasReference] using hasReference_blanks_append [] hblank
    have hwords : Text.words (String.ofList lead) = [] := by
      simpa [hempty] using words_blanks_append [] hblank
    simp [segment, href, hwords, hempty, dropLeading, hasReference]
  · simp only [segment, List.getLast?_append_of_ne_nil _ hrest,
      hasReference_blanks_append rest hblank, words_blanks_append rest hblank]

/-- A text ending in a blank does not end an earlier suffix of characters that are no blanks. -/
theorem suffix_append_iff {t u v : List Char} (ht : ∀ x ∈ t, Text.isBlank x = false)
    (hu : ∀ x ∈ u.getLast?, Text.isBlank x) : t <:+ u ++ v ↔ t <:+ v := by
  refine ⟨fun ⟨w, hw⟩ => ?_, fun h => h.trans (List.suffix_append u v)⟩
  rcases List.append_eq_append_iff.1 hw.symm with ⟨a, rfl, hv⟩ | ⟨c, hwc, htc⟩
  · exact ⟨a, hv.symm⟩
  · -- `t` would reach back into `u`, whose last character is a blank
    by_cases hc : c = []
    · subst hc
      exact ⟨[], by simpa using htc⟩
    · have hx := hu (c.getLast hc) (by simp [hwc, List.getLast?_eq_some_getLast hc])
      rw [ht _ (htc ▸ List.mem_append_left _ (List.getLast_mem hc))] at hx
      exact absurd hx Bool.false_ne_true

/-! ### The word before the cursor -/

theorem isWordBefore_wordBefore (cs : List Char) : IsWordBefore cs (wordBefore cs) := by
  let p : Char → Bool := fun c => !Text.isBlank c
  refine ⟨fun x hx => ?_, (cs.reverse.dropWhile p).reverse, ?_, fun x hx => ?_⟩
  · simpa [p] using List.mem_takeWhile_imp (List.mem_reverse.1 hx)
  · rw [wordBefore, ← List.reverse_append, List.takeWhile_append_dropWhile, List.reverse_reverse]
  · rw [List.getLast?_reverse] at hx
    have h := List.head?_dropWhile_not p cs.reverse
    rw [Option.mem_def.1 hx] at h
    simpa [p] using h

/-- A text has one word before the cursor: each of two such words ends the other. -/
theorem IsWordBefore.unique {cs a b : List Char} (ha : IsWordBefore cs a)
    (hb : IsWordBefore cs b) : a = b := by
  obtain ⟨ha, pa, rfl, hpa⟩ := ha
  obtain ⟨hb, pb, hcs, hpb⟩ := hb
  have hab : a <:+ b := by
    rw [← suffix_append_iff ha hpb, ← hcs]
    exact List.suffix_append pa a
  have hba : b <:+ a := by
    rw [← suffix_append_iff hb hpa, hcs]
    exact List.suffix_append pb b
  exact hab.eq_of_length (Nat.le_antisymm hab.length_le hba.length_le)

/-- Text that ends in a blank, put in front, leaves the word before the cursor as it was. -/
theorem IsWordBefore.append {v word : List Char} (h : IsWordBefore v word) {u : List Char}
    (hu : ∀ x ∈ u.getLast?, Text.isBlank x) : IsWordBefore (u ++ v) word := by
  obtain ⟨hword, pre, rfl, hpre⟩ := h
  refine ⟨hword, u ++ pre, (List.append_assoc u pre word).symm, fun x hx => ?_⟩
  rw [List.getLast?_append] at hx
  rcases hp : pre.getLast? with _ | y
  · rw [hp, Option.none_or] at hx
    exact hu x hx
  · rw [hp, Option.some_or] at hx
    exact hpre x (hp ▸ hx)

theorem getLast?_append_eq_some {u v : List Char} {x : Char} (hx : Text.isBlank x = false)
    (hu : ∀ y ∈ u.getLast?, Text.isBlank y) :
    (u ++ v).getLast? = some x ↔ v.getLast? = some x := by
  rw [List.getLast?_append]
  cases hv : v.getLast? with
  | some y => simp
  | none =>
    simp only [Option.none_or, reduceCtorEq, iff_false]
    intro h
    simpa [hx] using hu x h

/-! ### Completion after an operator -/

theorem not_endsWithOperator_of_getLast? {cs : List Char} {x : Char} (hx : cs.getLast? = some x)
    (hop : ∀ op ∈ operators, x ∉ op) : ¬ EndsWithOperator cs := by
  rintro ⟨pre, b, op, rfl, -, hmem⟩
  have hne := operator_ne_nil hmem
  rw [List.getLast?_append_of_ne_nil _ (List.cons_ne_nil b op), List.getLast?_cons_of_ne_nil hne,
    List.getLast?_eq_some_getLast hne, Option.some.injEq] at hx
  exact hop op hmem (hx ▸ List.getLast_mem hne)

theorem not_startsWithOperator_of_head? {cs : List Char} {x : Char} (hx : cs.head? = some x)
    (hb : Text.isBlank x = false) : ¬ StartsWithOperator cs := by
  rintro ⟨lead, op, c, rest, rfl, hlead, hleadb, -, -⟩
  obtain ⟨y, ys, rfl⟩ := List.exists_cons_of_ne_nil hlead
  simp only [List.cons_append, List.head?_cons, Option.some.injEq] at hx
  subst hx
  simp [hleadb y List.mem_cons_self] at hb

/-- Completion after an operator reads nothing before it: for `P` cut into `front`, blanks `lead`,
an operator `op` and blanks `trail`, where that operator is found and `S` does not start with
blanks, an operator and a blank, `P ++ S` completes as `S` does, for every getter of the word before
the cursor. -/
theorem completion_after_operator (wordOf : List Char → List Char)
    (hword : ∀ cs, IsWordBefore cs (wordOf cs)) (s : Shell) (c : Config) (history : List String)
    (P S : String) (front lead op trail : List Char) (hP : P.toList = front ++ lead ++ op ++ trail)
    (hfront : ∀ x ∈ front.getLast?, Text.isBlank x = false) (hend : ¬ EndsWithOperator front)
    (hlead : lead ≠ []) (hleadb : ∀ x ∈ lead, Text.isBlank x) (hop : op ∈ operators)
    (htrail : trail ≠ []) (htrailb : ∀ x ∈ trail, Text.isBlank x)
    (hS : ¬ StartsWithOperator S.toList) :
    suggest wordOf s c history (P ++ S) = suggest wordOf s c history S := by
  have hlast : ∀ x ∈ P.toList.getLast?, Text.isBlank x := by
    intro x hx
    rw [hP, List.getLast?_append_of_ne_nil _ htrail] at hx
    exact htrailb x (List.mem_of_getLast? hx)
  -- the scan of `P ++ S` makes no find in `front` that reaches past it, then finds the
  -- operator with all the blanks around it, and goes on where `S` has no more blanks
  have hscan : ∀ word afterBrace,
      segment s (afterLastOperator (P.toList ++ S.toList) 0 (P.toList ++ S.toList)) word
        afterBrace = segment s (afterLastOperator S.toList 0 S.toList) word afterBrace := by
    intro word afterBrace
    have hsplit : P.toList ++ S.toList = front ++ (lead ++ op ++ trail ++ S.toList) := by
      simp [hP]
    have hR : ∀ x ∈ (lead ++ op ++ trail ++ S.toList).head?, Text.isBlank x := by
      obtain ⟨y, ys, rfl⟩ := List.exists_cons_of_ne_nil hlead
      intro x hx
      simp only [List.cons_append, List.head?_cons, Option.mem_def, Option.some.injEq] at hx
      exact hx ▸ hleadb y List.mem_cons_self
    obtain ⟨rel, hrel⟩ := afterLastOperator_front 0 (P.toList ++ S.toList) (Nat.zero_le _)
      hfront hend hR
    rw [hsplit] at hrel ⊢
    rw [hrel, afterLastOperator_operator _ _ hlead hleadb hop htrail htrailb,
      afterLastOperator_dropWhile _ hS]
    rcases afterLastOperator_kept_or_found (S.toList.dropWhile Text.isBlank) 0
      (S.toList.dropWhile Text.isBlank) S.toList with ⟨hkept, hkept'⟩ | hsame
    · -- no find after the blanks that start `S`: the two segments differ by those blanks
      rw [hkept, hkept']
      calc segment s (S.toList.dropWhile Text.isBlank) word afterBrace
          = segment s (S.toList.takeWhile Text.isBlank ++ S.toList.dropWhile Text.isBlank) word
              afterBrace :=
            (segment_blanks_append s _ word afterBrace
              fun _ => List.mem_takeWhile_imp).symm
        _ = segment s S.toList word afterBrace := by rw [List.takeWhile_append_dropWhile]
    · rw [hsame]
  have hbang : "!h".toList.isSuffixOf (P.toList ++ S.toList) =
      "!h".toList.isSuffixOf S.toList := by
    rw [Bool.eq_iff_iff, List.isSuffixOf_iff_suffix, List.isSuffixOf_iff_suffix]
    exact suffix_append_iff (by simp [Text.isBlank]) hlast
  have hbrace : (P.toList ++ S.toList).getLast? = some '{' ↔ S.toList.getLast? = some '{' :=
    getLast?_append_eq_some (by decide) hlast
  have hwordP : wordOf (P.toList ++ S.toList) = wordOf S.toList :=
    (hword _).unique ((hword S.toList).append hlast)
  simp only [suggest, String.toList_append, hbang, hwordP, hbrace, hscan]

theorem completion_after_semicolon :
    (∀ cs, IsWordBefore cs (wordBefore cs)) ∧ ¬ EndsWithOperator "echo a".toList ∧
      ¬ StartsWithOperator "re".toList ∧
      suggest wordBefore (Shell.fresh false) Config.defaults [] ("echo a ; " ++ "re") =
        suggest wordBefore (Shell.fresh false) Config.defaults [] "re" := by
  have hlastA : "echo a".toList.getLast? = some 'a' := rfl
  have hend : ¬ EndsWithOperator "echo a".toList :=
    not_endsWithOperator_of_getLast? hlastA (by decide)
  have hS : ¬ StartsWithOperator "re".toList :=
    not_startsWithOperator_of_head? (show "re".toList.head? = some 'r' from rfl) (by decide)
  have hfront : ∀ x ∈ "echo a".toList.getLast?, Text.isBlank x = false := by
    intro x hx
    rw [hlastA, Option.mem_def, Option.some.injEq] at hx
    subst hx
    decide
  refine ⟨isWordBefore_wordBefore, hend, hS, completion_after_operator wordBefore
    isWordBefore_wordBefore _ _ _ "echo a ; " "re" "echo a".toList [' '] [';'] [' '] rfl hfront hend (by simp) (by simp [Text.isBlank]) (by decide) (by simp)
    (by simp [Text.isBlank]) hS⟩

end Conch.Complete
