import Mathlib.Tactic.IntervalCases
import StraceMacos.Library.Text

/-!
# Reading numerals

The number that a numeral in a base up to 16 denotes, and C integer literals: hexadecimal ones after
`0x`, octal ones after `0`, and decimal ones. Writing a number and reading it gives it back.
-/

namespace Text

/-- The value of a digit, `none` for any other character. -/
def digitValue (c : Char) : Option Nat :=
  if '0' ≤ c ∧ c ≤ '9' then some (c.toNat - '0'.toNat)
  else if 'a' ≤ c ∧ c ≤ 'f' then some (c.toNat - 'a'.toNat + 10)
  else none

/-- One more digit of a numeral in base `b` behind a number. -/
def readDigit (b : Nat) (value : Option Nat) (c : Char) : Option Nat :=
  value.bind fun n => ((digitValue c).filter (· < b)).map fun d => b * n + d

/-- The number that the digits denote in base `b`. -/
def readDigits (b : Nat) (cs : List Char) : Option Nat :=
  if cs.isEmpty then none else cs.foldl (readDigit b) (some 0)

/-- The number that a C integer literal without a suffix denotes. -/
def readLiteral : List Char → Option Nat
  | '0' :: 'x' :: cs => readDigits 16 cs
  | '0' :: cs => if cs.isEmpty then some 0 else readDigits 8 cs
  | cs => readDigits 10 cs

theorem digitValue_digitChar {n : Nat} (h : n < 16) : digitValue n.digitChar = some n := by
  interval_cases n <;> rfl

theorem readDigit_digitChar {b d : Nat} (hb : b ≤ 16) (hd : d < b) (n : Nat) :
    readDigit b (some n) d.digitChar = some (b * n + d) := by
  simp [readDigit, digitValue_digitChar (hd.trans_le hb), hd]

theorem foldl_readDigit_toDigits {b : Nat} (h1 : 1 < b) (h16 : b ≤ 16) (n : Nat) :
    (Nat.toDigits b n).foldl (readDigit b) (some 0) = some n := by
  induction n using Nat.strongRecOn with
  | ind n ih =>
    rw [Nat.toDigits_eq_if h1]
    split_ifs with hn
    · rw [List.foldl_cons, List.foldl_nil, readDigit_digitChar h16 hn]
      simp
    · have hdiv : n / b < n := Nat.div_lt_self (by omega) h1
      rw [List.foldl_append, ih _ hdiv, List.foldl_cons, List.foldl_nil,
        readDigit_digitChar h16 (Nat.mod_lt _ (by omega)), Nat.div_add_mod]

/-- Reading a numeral in its base gives the number back. -/
theorem readDigits_toDigits {b : Nat} (h1 : 1 < b) (h16 : b ≤ 16) (n : Nat) :
    readDigits b (Nat.toDigits b n) = some n := by
  unfold readDigits
  rw [if_neg (by simp), foldl_readDigit_toDigits h1 h16]

/-- Zeros in front of a numeral do not change its value. -/
theorem readDigits_replicate_toDigits {b : Nat} (h1 : 1 < b) (h16 : b ≤ 16) (k n : Nat) :
    readDigits b (List.replicate k '0' ++ Nat.toDigits b n) = some n := by
  have hzeros : (List.replicate k '0').foldl (readDigit b) (some 0) = some 0 := by
    induction k with
    | zero => rfl
    | succ k ih =>
      have hzero : readDigit b (some 0) '0' = some 0 :=
        readDigit_digitChar h16 (d := 0) (by omega) 0
      rw [List.replicate_succ, List.foldl_cons, hzero, ih]
  unfold readDigits
  rw [if_neg (by simp), List.foldl_append, hzeros, foldl_readDigit_toDigits h1 h16]

theorem numeral_inj {b m n : Nat} (h1 : 1 < b) (h16 : b ≤ 16) :
    numeral b m = numeral b n ↔ m = n := by
  refine ⟨fun h => ?_, fun h => by rw [h]⟩
  have hd : Nat.toDigits b m = Nat.toDigits b n := String.ofList_injective h
  have hm := readDigits_toDigits h1 h16 m
  rw [hd, readDigits_toDigits h1 h16] at hm
  exact (Option.some.inj hm).symm

theorem hex0x_inj {m n : Nat} : hex0x m = hex0x n ↔ m = n := by
  unfold hex0x hex
  rw [String.append_right_inj, numeral_inj (by omega) (by omega)]

/-- A digit of a numeral. -/
theorem isDigit_of_mem_toDigits {b n : Nat} (h1 : 1 < b) (h16 : b ≤ 16) {c : Char}
    (h : c ∈ Nat.toDigits b n) : ∃ d < b, c = d.digitChar := by
  induction n using Nat.strongRecOn with
  | ind n ih =>
    rw [Nat.toDigits_eq_if h1] at h
    split_ifs at h with hn
    · exact ⟨n, hn, by simpa using h⟩
    · have hdiv : n / b < n := Nat.div_lt_self (by omega) h1
      rcases List.mem_append.mp h with h | h
      · exact ih _ hdiv h
      · exact ⟨n % b, Nat.mod_lt _ (by omega), by simpa using h⟩

theorem not_mem_toDigits {b : Nat} (h1 : 1 < b) (h16 : b ≤ 16) {c : Char}
    (hdigit : ∀ d < b, d.digitChar ≠ c) (n : Nat) : c ∉ Nat.toDigits b n := fun h => by
  obtain ⟨d, hd, hc⟩ := isDigit_of_mem_toDigits h1 h16 h
  exact hdigit d hd hc.symm

/-- A positive number has no zero in front. -/
theorem head_toDigits_ne_zero {n : Nat} (h : 0 < n) :
    ∃ c cs, Nat.toDigits 10 n = c :: cs ∧ c ≠ '0' := by
  have hdigit : ∀ d < 10, 0 < d → d.digitChar ≠ '0' := by decide
  induction n using Nat.strongRecOn with
  | ind n ih =>
    rw [Nat.toDigits_eq_if (by omega)]
    split_ifs with hn
    · exact ⟨_, [], rfl, hdigit n hn h⟩
    · obtain ⟨c, cs, hcs, hc⟩ := ih (n / 10) (by omega) (by omega)
      exact ⟨c, cs ++ [(n % 10).digitChar], by rw [hcs]; rfl, hc⟩

theorem toString_int_inj {i j : Int} : toString i = toString j ↔ i = j := by
  have hmixed (m n : Nat) : toString (m : Int) ≠ toString (Int.negSucc n) := by
    intro h
    have htext : numeral 10 m = "-" ++ numeral 10 (n + 1) := h
    have hlist : Nat.toDigits 10 m = '-' :: Nat.toDigits 10 (n + 1) := by
      have hl := congrArg String.toList htext
      simpa [numeral] using hl
    obtain ⟨d, hd, hc⟩ := isDigit_of_mem_toDigits (b := 10) (by omega) (by omega)
      (hlist ▸ List.mem_cons_self : '-' ∈ Nat.toDigits 10 m)
    have hne : ∀ d < 10, Nat.digitChar d ≠ '-' := by decide
    exact hne d hd hc.symm
  refine ⟨fun h => ?_, fun h => by rw [h]⟩
  cases i with
  | ofNat m =>
    cases j with
    | ofNat n => rw [(numeral_inj (by omega) (by omega)).mp (h : numeral 10 m = numeral 10 n)]
    | negSucc n => exact absurd h (hmixed m n)
  | negSucc m =>
    cases j with
    | ofNat n => exact absurd h.symm (hmixed n m)
    | negSucc n =>
      have h : "-" ++ numeral 10 (m + 1) = "-" ++ numeral 10 (n + 1) := h
      rw [String.append_right_inj, numeral_inj (by omega) (by omega)] at h
      rw [Nat.succ.inj h]

/-- A decimal integer consists of digits behind an optional minus sign. -/
theorem not_mem_toString_int {c : Char} (hminus : c ≠ '-') (hdigit : ∀ d < 10, d.digitChar ≠ c)
    (i : Int) : c ∉ (toString i).toList := by
  have hnumeral (n : Nat) : c ∉ (numeral 10 n).toList := by
    rw [numeral, String.toList_ofList]
    exact not_mem_toDigits (by omega) (by omega) hdigit n
  cases i with
  | ofNat n => exact hnumeral n
  | negSucc n =>
    have htext : toString (Int.negSucc n) = "-" ++ numeral 10 (n + 1) := rfl
    rw [htext, String.toList_append, List.mem_append]
    rintro (h | h)
    · exact hminus (by simpa using h)
    · exact hnumeral _ h

end Text
