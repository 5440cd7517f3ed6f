import Conch.Numeral
import Mathlib
/-! Reading status numbers: `Numeral.parse` trims the blanks around a text and reads a sign and
ASCII digits in the signed 32-bit range (`numerals_read_exactly`). -/
namespace Conch

namespace Text

theorem trimChars_blanks_around {w₁ cs w₂ : List Char} (h₁ : ∀ c ∈ w₁, isBlank c)
    (h₂ : ∀ c ∈ w₂, isBlank c) {a b : Char} (ha : cs.head? = some a) (hb : cs.getLast? = some b)
    (hablank : isBlank a = false) (hbblank : isBlank b = false) :
    trimChars (w₁ ++ cs ++ w₂) = cs := by
  obtain ⟨as, rfl⟩ : ∃ as, cs = a :: as := by
    cases cs with
    | nil => cases ha
    | cons c cs => exact ⟨cs, by rw [Option.some.inj ha]⟩
  obtain ⟨bs, hbs⟩ : ∃ bs, (a :: as).reverse = b :: bs := by
    rw [← List.head?_reverse] at hb
    cases h : (a :: as).reverse with
    | nil => simp at h
    | cons c cs => rw [h] at hb; exact ⟨cs, by rw [Option.some.inj hb]⟩
  have hfront : (w₁ ++ (a :: as) ++ w₂).dropWhile isBlank = a :: as ++ w₂ := by
    rw [List.append_assoc, List.dropWhile_append_of_pos h₁]
    exact List.dropWhile_cons_of_neg (by simp [hablank])
  have hback : (w₂.reverse ++ b :: bs).dropWhile isBlank = b :: bs :=
    (List.dropWhile_append_of_pos fun c hc => h₂ c (List.mem_reverse.1 hc)).trans
      (List.dropWhile_cons_of_neg (by simp [hbblank]))
  unfold trimChars
  rw [hfront, List.reverse_append, hbs, hback, ← hbs, List.reverse_reverse]

theorem trimChars_blanks_around_of_forall {w₁ cs w₂ : List Char} (h₁ : ∀ c ∈ w₁, isBlank c)
    (h₂ : ∀ c ∈ w₂, isBlank c) (hne : cs ≠ []) (hcs : ∀ c ∈ cs, isBlank c = false) :
    trimChars (w₁ ++ cs ++ w₂) = cs := by
  obtain ⟨a, ha⟩ := Option.ne_none_iff_exists'.1 (mt List.head?_eq_none_iff.1 hne)
  obtain ⟨b, hb⟩ := Option.ne_none_iff_exists'.1 (mt List.getLast?_eq_none_iff.1 hne)
  exact trimChars_blanks_around h₁ h₂ ha hb (hcs a (List.mem_of_head? ha))
    (hcs b (List.mem_of_getLast? hb))

theorem isBlank_of_isDigit {c : Char} (h : c.isDigit) : isBlank c = false := by
  simp only [Char.isDigit, Bool.and_eq_true, decide_eq_true_eq] at h
  have h₁ : 48 ≤ c.toNat := h.1
  have h₂ : c.toNat ≤ 57 := h.2
  unfold isBlank
  simp only [Bool.or_eq_false_iff, Bool.and_eq_false_imp, decide_eq_true_eq, beq_eq_false_iff_ne,
    ne_eq, decide_eq_false_iff_not]
  omega

end Text

namespace Numeral

/-- The characters of a text that the reader looks at: those between the blanks around it. -/
def trimmed (t : String) : List Char := Text.trimChars t.toList

def afterSign (cs : List Char) : List Char :=
  if cs.head? = some '+' ∨ cs.head? = some '-' then cs.tail else cs

/-- A numeral: an optional sign, then ASCII digits, at least one. -/
def IsNumeral (cs : List Char) : Prop := afterSign cs ≠ [] ∧ ∀ c ∈ afterSign cs, c.isDigit

instance (cs : List Char) : Decidable (IsNumeral cs) := inferInstanceAs (Decidable (_ ∧ _))

/-- The value a numeral stands for: its digits read in base ten, negated after a `-`. -/
def signedValue (cs : List Char) : Int :=
  if cs.head? = some '-' then -(Nat.ofDigitChars 10 (afterSign cs) 0 : Int)
  else Nat.ofDigitChars 10 (afterSign cs) 0

theorem afterSign_eq_nil_iff (cs : List Char) :
    afterSign cs = [] ↔ cs = [] ∨ cs = ['+'] ∨ cs = ['-'] := by
  rcases cs with _ | ⟨c, cs⟩
  · simp [afterSign]
  · by_cases h : c = '+' ∨ c = '-'
    · rcases h with rfl | rfl <;> simp [afterSign]
    · rw [not_or] at h
      simp [afterSign, h.1, h.2]

theorem exists_not_digit_iff (cs : List Char) :
    (∃ c ∈ afterSign cs, ¬c.isDigit) ↔ afterSign cs ≠ [] ∧ ¬IsNumeral cs := by
  constructor
  · rintro ⟨c, hc, hd⟩
    exact ⟨List.ne_nil_of_mem hc, fun hn => hd (hn.2 c hc)⟩
  · rintro ⟨he, hn⟩
    simpa [IsNumeral, he] using hn

theorem splitSign_eq : ∀ cs : List Char,
    splitSign cs = (decide (cs.head? = some '-'), afterSign cs)
  | [] => rfl
  | c :: cs => by
    by_cases hm : c = '-'
    · subst hm
      rfl
    · by_cases hp : c = '+'
      · subst hp
        rfl
      · rw [splitSign.eq_3 _ (by simp [hm]) (by simp [hp])]
        simp [afterSign, hm, hp]

theorem digitsValue_eq (ds : List Char) : digitsValue ds = Nat.ofDigitChars 10 ds 0 := rfl

/-- Reading trimmed characters decides, in this order: digits after the sign, all of them digits,
conversion taking that many, and the value in range. -/
theorem readTrimmed_eq (cs : List Char) : readTrimmed cs =
    if afterSign cs = [] then .error (.inl .empty)
    else if IsNumeral cs then
      if Decimal.maxIntegerDigits < (afterSign cs).length then .error (.inr (afterSign cs).length)
      else if signedValue cs < least ∨ greatest < signedValue cs then .error (.inl .overflow)
      else .ok (signedValue cs)
    else .error (.inl .invalidChar) := by
  unfold readTrimmed
  rw [splitSign_eq]
  by_cases he : afterSign cs = []
  · simp [he]
  · by_cases hn : IsNumeral cs
    · have hall : (afterSign cs).all Char.isDigit = true := List.all_eq_true.2 hn.2
      simp only [List.isEmpty_iff, he, if_false, hall, Bool.not_true, Bool.false_eq_true, hn,
        if_true, gt_iff_lt, signedValue, digitsValue_eq, decide_eq_true_eq]
      -- the two sides differ only in how the test for the sign is decided
      rfl
    · have hall : (afterSign cs).all Char.isDigit = false := by
        simpa [IsNumeral, he] using hn
      simp only [List.isEmpty_iff, he, if_false, hall, Bool.not_false, hn, if_true]

theorem parse_eq (t : String) : parse t =
    if afterSign (Text.trimChars t.toList) = [] then .error (.refused t .empty)
    else if IsNumeral (Text.trimChars t.toList) then
      if Decimal.maxIntegerDigits < (afterSign (Text.trimChars t.toList)).length then
        .error (.tooManyDigits (afterSign (Text.trimChars t.toList)).length)
      else if signedValue (Text.trimChars t.toList) < least ∨
          greatest < signedValue (Text.trimChars t.toList) then .error (.refused t .overflow)
      else .ok (signedValue (Text.trimChars t.toList))
    else .error (.refused t .invalidChar) := by
  unfold parse
  rw [readTrimmed_eq]
  split_ifs <;> rfl

theorem answers_of {t : String} {cs : List Char} (h : parse t =
    if afterSign cs = [] then .error (.refused t .empty)
    else if IsNumeral cs then
      if Decimal.maxIntegerDigits < (afterSign cs).length then
        .error (.tooManyDigits (afterSign cs).length)
      else if signedValue cs < least ∨ greatest < signedValue cs then .error (.refused t .overflow)
      else .ok (signedValue cs)
    else .error (.refused t .invalidChar)) :
    (∀ n, parse t = .ok n ↔ IsNumeral cs ∧ (afterSign cs).length ≤ Decimal.maxIntegerDigits ∧
      least ≤ signedValue cs ∧ signedValue cs ≤ greatest ∧ n = signedValue cs) ∧
    (parse t = .error (.refused t .empty) ↔ cs = [] ∨ cs = ['+'] ∨ cs = ['-']) ∧
    (parse t = .error (.refused t .invalidChar) ↔ ∃ c ∈ afterSign cs, ¬c.isDigit) ∧
    (parse t = .error (.refused t .overflow) ↔ IsNumeral cs ∧
      (afterSign cs).length ≤ Decimal.maxIntegerDigits ∧
      (signedValue cs < least ∨ greatest < signedValue cs)) ∧
    (∀ n, parse t = .error (.tooManyDigits n) ↔ IsNumeral cs ∧
      Decimal.maxIntegerDigits < (afterSign cs).length ∧ n = (afterSign cs).length) ∧
    (∀ e, parse t = .error e → (∃ f, e = .refused t f) ∨ ∃ n, e = .tooManyDigits n) := by
  rw [← afterSign_eq_nil_iff, exists_not_digit_iff, h]
  by_cases he : afterSign cs = []
  · have hn : ¬IsNumeral cs := fun hn => hn.1 he
    simp [he, hn]
  · by_cases hn : IsNumeral cs
    · by_cases hlong : Decimal.maxIntegerDigits < (afterSign cs).length
      · simp [he, hn, hlong, eq_comm]
      · have hfit := not_lt.1 hlong
        by_cases hrange : signedValue cs < least ∨ greatest < signedValue cs
        · simp only [he, hn, hlong, hrange, hfit, if_false, if_true]
          refine ⟨fun n => ⟨nofun, fun ⟨_, _, h₁, h₂, _⟩ => ?_⟩, by simp⟩
          omega
        · have hbounds := hrange
          simp only [not_or, not_lt] at hbounds
          simp [he, hn, hlong, hrange, hbounds, hfit, eq_comm]
    · simp [he, hn]

/-- Every value read is a signed 32-bit integer. -/
theorem parse_ok_bounds {t : String} {n : Int} (h : parse t = .ok n) :
    least ≤ n ∧ n ≤ greatest := by
  obtain ⟨-, -, h₁, h₂, rfl⟩ := ((answers_of (parse_eq t)).1 n).1 h
  exact ⟨h₁, h₂⟩

theorem isDigit_of_mem_padded {zeros m : Nat} {c : Char}
    (h : c ∈ List.replicate zeros '0' ++ Nat.toDigits 10 m) : c.isDigit := by
  rcases List.mem_append.1 h with h | h
  · rw [(List.mem_replicate.1 h).2]
    decide
  · exact Nat.isDigit_of_mem_toDigits (by decide) (by decide) h

theorem ofDigitChars_padded (zeros m : Nat) :
    Nat.ofDigitChars 10 (List.replicate zeros '0' ++ Nat.toDigits 10 m) 0 = m := by
  rw [Nat.ofDigitChars_append, Nat.ofDigitChars_replicate_zero, Nat.mul_zero,
    Nat.ofDigitChars_ten_toDigits]

theorem afterSign_sign_append {sign ds : List Char}
    (hsign : sign = [] ∨ sign = ['+'] ∨ sign = ['-']) {d : Char} (hd : ds.head? = some d)
    (hdigit : d.isDigit) : afterSign (sign ++ ds) = ds := by
  rcases hsign with rfl | rfl | rfl
  · have hp : d ≠ '+' := by rintro rfl; simp at hdigit
    have hm : d ≠ '-' := by rintro rfl; simp at hdigit
    simp [afterSign, hd, hp, hm]
  · simp [afterSign]
  · simp [afterSign]

/-- A number in range, written in decimal with blanks around it, its sign and leading zeros, is
read back, as long as conversion takes all its digits. -/
theorem parse_written (n : Int) (hn : least ≤ n ∧ n ≤ greatest) {w₁ w₂ : List Char}
    (h₁ : ∀ c ∈ w₁, Text.isBlank c) (h₂ : ∀ c ∈ w₂, Text.isBlank c) (zeros : Nat) {sign : List Char}
    (hsign : sign = (if n < 0 then ['-'] else []) ∨ (0 ≤ n ∧ sign = ['+']))
    (hfit : zeros + (toString n.natAbs).length ≤ Decimal.maxIntegerDigits) :
    parse (String.ofList (w₁ ++ sign ++ List.replicate zeros '0' ++ (toString n.natAbs).toList ++
      w₂)) = .ok n := by
  set ds := List.replicate zeros '0' ++ Nat.toDigits 10 n.natAbs with hds
  have hdigits : ∀ c ∈ ds, c.isDigit := fun c hc => isDigit_of_mem_padded hc
  obtain ⟨d, hd⟩ : ∃ d, ds.head? = some d := by
    cases h : ds with
    | nil => simp [hds, Nat.toDigits_ne_nil] at h
    | cons d _ => exact ⟨d, rfl⟩
  have hsign' : sign = [] ∨ sign = ['+'] ∨ sign = ['-'] := by
    rcases hsign with rfl | ⟨_, rfl⟩ <;> [split_ifs <;> simp; simp]
  have hafter : afterSign (sign ++ ds) = ds :=
    afterSign_sign_append hsign' hd (hdigits d (List.mem_of_head? hd))
  have htrim : Text.trimChars (w₁ ++ (sign ++ ds) ++ w₂) = sign ++ ds := by
    refine Text.trimChars_blanks_around_of_forall h₁ h₂ (by simp [hds, Nat.toDigits_ne_nil]) ?_
    intro c hc
    rcases List.mem_append.1 hc with hc | hc
    · rcases hsign' with rfl | rfl | rfl <;> simp only [List.mem_cons, List.not_mem_nil,
        or_false] at hc <;> subst hc <;> decide
    · exact Text.isBlank_of_isDigit (hdigits c hc)
  have hnum : IsNumeral (sign ++ ds) := by
    rw [IsNumeral, hafter]
    exact ⟨fun h => by simp [h] at hd, hdigits⟩
  have hvalue : signedValue (sign ++ ds) = n := by
    have hd' : d ≠ '-' := by
      rintro rfl
      simpa using hdigits '-' (List.mem_of_head? hd)
    have hdigitsValue : Nat.ofDigitChars 10 ds 0 = n.natAbs := ofDigitChars_padded zeros n.natAbs
    rw [signedValue, hafter, hdigitsValue]
    rcases hsign with rfl | ⟨hpos, rfl⟩
    · by_cases hneg : n < 0
      · simp [hneg, Int.ofNat_natAbs_of_nonpos hneg.le]
      · simp [hneg, hd, hd', Int.natAbs_of_nonneg (not_lt.1 hneg)]
    · simp [Int.natAbs_of_nonneg hpos]
  have hlen : (afterSign (sign ++ ds)).length ≤ Decimal.maxIntegerDigits := by
    rw [hafter, hds, List.length_append, List.length_replicate]
    have hrepr : (toString n.natAbs).length = (Nat.toDigits 10 n.natAbs).length := by
      rw [← Nat.toList_repr, String.length_toList]
      rfl
    omega
  have hshape : (w₁ ++ sign ++ List.replicate zeros '0' ++ (toString n.natAbs).toList ++ w₂) =
      w₁ ++ (sign ++ ds) ++ w₂ := by
    simp [hds, Nat.toList_repr]
  rw [(answers_of (parse_eq _)).1, String.toList_ofList, hshape, htrim, hvalue]
  exact ⟨hnum, hlen, hn.1, hn.2, rfl⟩

/-- Reading a status number answers every text as its form says, and reads back a number of the
range written with blanks around it, its sign and leading zeros, as long as conversion takes all
its digits. -/
theorem numerals_read_exactly (t : String) :
    (∀ n, parse t = .ok n ↔ IsNumeral (trimmed t) ∧
      (afterSign (trimmed t)).length ≤ Decimal.maxIntegerDigits ∧
      least ≤ signedValue (trimmed t) ∧ signedValue (trimmed t) ≤ greatest ∧
      n = signedValue (trimmed t)) ∧
    (parse t = .error (.refused t .empty) ↔
      trimmed t = [] ∨ trimmed t = ['+'] ∨ trimmed t = ['-']) ∧
    (parse t = .error (.refused t .invalidChar) ↔ ∃ c ∈ afterSign (trimmed t), ¬c.isDigit) ∧
    (parse t = .error (.refused t .overflow) ↔ IsNumeral (trimmed t) ∧
      (afterSign (trimmed t)).length ≤ Decimal.maxIntegerDigits ∧
      (signedValue (trimmed t) < least ∨ greatest < signedValue (trimmed t))) ∧
    (∀ n, parse t = .error (.tooManyDigits n) ↔ IsNumeral (trimmed t) ∧
      Decimal.maxIntegerDigits < (afterSign (trimmed t)).length ∧
      n = (afterSign (trimmed t)).length) ∧
    (∀ e, parse t = .error e → (∃ f, e = .refused t f) ∨ ∃ n, e = .tooManyDigits n) ∧
    (∀ (n : Int) (w₁ w₂ : List Char) (zeros : Nat) (sign : List Char),
      t = String.ofList (w₁ ++ sign ++ List.replicate zeros '0' ++ (toString n.natAbs).toList ++
        w₂) →
      least ≤ n ∧ n ≤ greatest → (∀ c ∈ w₁, Text.isBlank c) → (∀ c ∈ w₂, Text.isBlank c) →
      sign = (if n < 0 then ['-'] else []) ∨ (0 ≤ n ∧ sign = ['+']) →
      zeros + (toString n.natAbs).length ≤ Decimal.maxIntegerDigits → parse t = .ok n) := by
  obtain ⟨hok, hempty, hinvalid, hoverflow, hdigits, htext⟩ := answers_of (parse_eq t)
  refine ⟨hok, hempty, hinvalid, hoverflow, hdigits, htext, ?_⟩
  rintro n w₁ w₂ zeros sign rfl hn h₁ h₂ hsign hfit
  exact parse_written n hn h₁ h₂ zeros hsign hfit

theorem padded_negative_numeral_read :
    " -0042\t" = String.ofList ([' '] ++ ['-'] ++ List.replicate 2 '0' ++
      (toString (-42 : Int).natAbs).toList ++ ['\t']) ∧
    (least ≤ -42 ∧ (-42 : Int) ≤ greatest) ∧ (∀ c ∈ [' '], Text.isBlank c) ∧
    (∀ c ∈ ['\t'], Text.isBlank c) ∧ ['-'] = (if (-42 : Int) < 0 then ['-'] else []) ∧
    2 + (toString (-42 : Int).natAbs).length ≤ Decimal.maxIntegerDigits ∧
    parse " -0042\t" = .ok (-42) := by
  have ht : " -0042\t" = String.ofList ([' '] ++ ['-'] ++ List.replicate 2 '0' ++
      (toString (-42 : Int).natAbs).toList ++ ['\t']) := by decide
  have hn : least ≤ -42 ∧ (-42 : Int) ≤ greatest := by decide
  have h₁ : ∀ c ∈ [' '], Text.isBlank c := by simp [Text.isBlank]
  have h₂ : ∀ c ∈ ['\t'], Text.isBlank c := by simp [Text.isBlank]
  have hsign : ['-'] = (if (-42 : Int) < 0 then ['-'] else []) := by decide
  have hfit : 2 + (toString (-42 : Int).natAbs).length ≤ Decimal.maxIntegerDigits := by decide
  exact ⟨ht, hn, h₁, h₂, hsign, hfit,
    (numerals_read_exactly " -0042\t").2.2.2.2.2.2 (-42) [' '] ['\t'] 2 ['-'] ht hn h₁ h₂
      (.inl hsign) hfit⟩

end Numeral

end Conch
