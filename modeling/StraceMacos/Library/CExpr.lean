import StraceMacos.Library.Ascii
import StraceMacos.Library.BitMask
import StraceMacos.Library.Numeral

/-!
# Reading flags as C expressions

A reader for expressions such as `A|B|0x10`: named constants and integer literals joined by the
operator of bitwise or. A literal may carry a minus sign.
-/

namespace CExpr

/-- The values of named constants. -/
abbrev Env := String → Option Int

/-- The value of an operand: a name is looked up, and a literal begins with a digit or a sign. -/
def readOperand (env : Env) (s : String) : Option Int :=
  match s.toList with
  | [] => none
  | '-' :: cs => (Text.readLiteral cs).map fun n => -(n : Int)
  | c :: cs => if c.isDigit then (Text.readLiteral (c :: cs)).map Int.ofNat else env s

/-- The value of an expression: the union of its operands. -/
def read (env : Env) (text : String) : Option Int :=
  ((Text.split '|' text).mapM (readOperand env)).map BitMask.union

/-- The form of the names of constants: no digit or sign in front, and no operator inside. -/
def isName (s : String) : Bool :=
  match s.toList with
  | [] => false
  | c :: cs => !c.isDigit && c != '-' && !(c :: cs).contains '|'

/-- The check on bytes that literals are evaluated with. -/
def isAsciiName (s : String) : Bool :=
  decide (Text.IsAscii s) && (Text.asciiChars s).head?.any (fun c => !c.isDigit && c != '-') &&
    !(Text.asciiChars s).contains '|'

variable {env : Env} {s : String} {v : Int}

theorem isAscii_of_isAsciiName (h : isAsciiName s = true) : Text.IsAscii s := by
  unfold isAsciiName at h
  rw [Bool.and_eq_true, Bool.and_eq_true, decide_eq_true_eq] at h
  exact h.1.1

theorem isName_of_isAsciiName (h : isAsciiName s = true) : isName s = true := by
  have hascii := isAscii_of_isAsciiName h
  rw [isAsciiName, ← Text.toList_eq_asciiChars hascii, decide_eq_true hascii,
    Bool.true_and] at h
  unfold isName
  cases hs : s.toList with
  | nil =>
    rw [hs] at h
    cases h
  | cons c cs =>
    rw [hs] at h
    exact h

theorem bar_not_mem_of_isName (h : isName s = true) : '|' ∉ s.toList := by
  unfold isName at h
  cases hs : s.toList with
  | nil => simp
  | cons c cs =>
    rw [hs] at h
    simp only [Bool.and_eq_true, Bool.not_eq_true', List.contains_eq_mem,
      decide_eq_false_iff_not] at h
    exact h.2

theorem ne_empty_of_isName (h : isName s = true) : s.isEmpty = false := by
  cases hs : s.isEmpty with
  | false => rfl
  | true =>
    rw [String.isEmpty_iff] at hs
    subst hs
    cases h

theorem readOperand_name (h : isName s = true) : readOperand env s = env s := by
  unfold isName at h
  unfold readOperand
  cases hs : s.toList with
  | nil => rw [hs] at h; cases h
  | cons c cs =>
    rw [hs] at h
    simp only [Bool.and_eq_true, Bool.not_eq_true', bne_iff_ne, ne_eq] at h
    obtain ⟨⟨hdigit, hminus⟩, -⟩ := h
    split
    · rename_i heq; cases heq
    · rename_i heq; cases heq; exact absurd rfl hminus
    · rename_i heq; cases heq; simp [hdigit]

/-! ## Joined operands -/

theorem split_join {names : List String} (hne : names ≠ [])
    (h : ∀ s ∈ names, '|' ∉ s.toList) : Text.split '|' (Text.join "|" names) = names := by
  unfold Text.split Text.join
  rw [String.toList_ofList]
  have hbar : "|".toList = ['|'] := rfl
  rw [hbar, List.splitOn_intercalate '|' (by simpa using h) (by simpa using hne), List.map_map]
  simp

/-- The value of joined operands is the union of their values. -/
theorem read_join {names : List String} {values : List Int} (hne : names ≠ [])
    (hbar : ∀ s ∈ names, '|' ∉ s.toList)
    (h : List.Forall₂ (fun s v => readOperand env s = some v) names values) :
    read env (Text.join "|" names) = some (BitMask.union values) := by
  unfold read
  rw [split_join hne hbar]
  have hmap : names.mapM (readOperand env) = some values := by
    clear hne hbar
    induction h with
    | nil => rfl
    | cons hs _ ih => simp [hs, ih]
  rw [hmap, Option.map_some]

theorem read_single (hbar : '|' ∉ s.toList) (h : readOperand env s = some v) :
    read env s = some v := by
  have hread : read env (Text.join "|" [s]) = some (BitMask.union [v]) :=
    read_join (by simp) (by simpa using hbar) (.cons h .nil)
  have hjoin : Text.join "|" [s] = s := by simp [Text.join, List.intercalate]
  have hunion : BitMask.union [v] = v := by
    refine BitMask.eq_of_testBit_eq fun i => ?_
    simp
  rwa [hjoin, hunion] at hread

/-! ## Literals -/

/-- An integer is not a name. -/
theorem isName_toString (i : Int) : isName (toString i) = false := by
  cases i with
  | ofNat n =>
    have hlist : (toString (Int.ofNat n)).toList = Nat.toDigits 10 n := by
      rw [show toString (Int.ofNat n) = Text.numeral 10 n from rfl, Text.numeral,
        String.toList_ofList]
    unfold isName
    rw [hlist]
    cases hdigits : Nat.toDigits 10 n with
    | nil => rfl
    | cons c cs =>
      obtain ⟨d, hd, rfl⟩ := Text.isDigit_of_mem_toDigits (by omega : 1 < 10) (by omega)
        (hdigits ▸ List.mem_cons_self : c ∈ Nat.toDigits 10 n)
      have hdigit : ∀ d < 10, (Nat.digitChar d).isDigit = true := by decide
      simp [hdigit d hd]
  | negSucc n =>
    have hlist : (toString (Int.negSucc n)).toList = '-' :: Nat.toDigits 10 (n + 1) := by
      rw [show toString (Int.negSucc n) = "-" ++ Text.numeral 10 (n + 1) from rfl]
      simp [Text.numeral]
    unfold isName
    rw [hlist]
    simp

theorem readLiteral_toDigits (n : Nat) : Text.readLiteral (Nat.toDigits 10 n) = some n := by
  rcases Nat.eq_zero_or_pos n with rfl | hpos
  · rfl
  · obtain ⟨c, cs, hcs, hc⟩ := Text.head_toDigits_ne_zero hpos
    have hread := Text.readDigits_toDigits (by omega : 1 < 10) (by omega) n
    rw [hcs] at hread ⊢
    unfold Text.readLiteral
    split
    · rename_i heq
      exact absurd (List.cons.inj heq).1 hc
    · rename_i heq
      exact absurd (List.cons.inj heq).1 hc
    · exact hread

/-- A decimal integer is read as itself. -/
theorem readOperand_toString (i : Int) : readOperand env (toString i) = some i := by
  cases i with
  | ofNat n =>
    have hlist : (toString (Int.ofNat n)).toList = Nat.toDigits 10 n := String.toList_ofList
    have hread := readLiteral_toDigits n
    unfold readOperand
    rw [hlist]
    cases hdigits : Nat.toDigits 10 n with
    | nil => exact absurd hdigits (by simp)
    | cons c cs =>
      obtain ⟨d, hd, rfl⟩ := Text.isDigit_of_mem_toDigits (by omega : 1 < 10) (by omega)
        (hdigits ▸ List.mem_cons_self : c ∈ Nat.toDigits 10 n)
      have hdigit : ∀ d < 10, (Nat.digitChar d).isDigit = true ∧ Nat.digitChar d ≠ '-' := by decide
      rw [hdigits] at hread
      split
      · rename_i heq
        cases heq
      · rename_i heq
        exact absurd (List.cons.inj heq).1 (hdigit d hd).2
      · rename_i heq
        obtain ⟨rfl, rfl⟩ := List.cons.inj heq
        rw [if_pos (hdigit d hd).1, hread]
        rfl
  | negSucc n =>
    have hlist : (toString (Int.negSucc n)).toList = '-' :: Nat.toDigits 10 (n + 1) := by
      rw [show toString (Int.negSucc n) = "-" ++ Text.numeral 10 (n + 1) from rfl]
      simp [Text.numeral]
    unfold readOperand
    rw [hlist]
    simp only [readLiteral_toDigits]
    rfl

theorem isDigit_digitChar_of_lt {d : Nat} (h : d < 16) : d.digitChar ≠ '|' := by
  interval_cases d <;> decide

theorem bar_not_mem_toDigits {b n : Nat} (h1 : 1 < b) (h16 : b ≤ 16) :
    '|' ∉ Nat.toDigits b n := by
  intro h
  obtain ⟨d, hd, hc⟩ := Text.isDigit_of_mem_toDigits h1 h16 h
  exact isDigit_digitChar_of_lt (hd.trans_le h16) hc.symm

theorem toList_hex0x (n : Nat) :
    (Text.hex0x n).toList = '0' :: 'x' :: Nat.toDigits 16 n := by
  simp [Text.hex0x, Text.hex, Text.numeral]

theorem readLiteral_hex0x (n : Nat) : Text.readLiteral (Text.hex0x n).toList = some n := by
  rw [toList_hex0x]
  exact Text.readDigits_toDigits (by omega) (by omega) n

theorem readOperand_hex0x (n : Nat) : readOperand env (Text.hex0x n) = some (n : Int) := by
  have hread := readLiteral_hex0x n
  unfold readOperand
  rw [toList_hex0x] at hread ⊢
  simp [hread]

theorem read_hex0x (n : Nat) : read env (Text.hex0x n) = some (n : Int) := by
  refine read_single ?_ (readOperand_hex0x n)
  rw [toList_hex0x]
  simp [bar_not_mem_toDigits]

theorem read_neg_hex0x (n : Nat) : read env ("-" ++ Text.hex0x n) = some (-(n : Int)) := by
  have hlist : ("-" ++ Text.hex0x n).toList = '-' :: (Text.hex0x n).toList := by simp
  refine read_single ?_ ?_
  · rw [hlist, toList_hex0x]
    simp [bar_not_mem_toDigits]
  · unfold readOperand
    rw [hlist]
    simp [readLiteral_hex0x]

theorem toList_octal (n : Nat) : ("0" ++ Text.numeral 8 n).toList = '0' :: Nat.toDigits 8 n := by
  simp [Text.numeral]

theorem bar_not_mem_octal (n : Nat) : '|' ∉ ("0" ++ Text.numeral 8 n).toList := by
  rw [toList_octal]
  simp [bar_not_mem_toDigits]

theorem readOperand_octal (n : Nat) :
    readOperand env ("0" ++ Text.numeral 8 n) = some (n : Int) := by
  have hread : Text.readLiteral ('0' :: Nat.toDigits 8 n) = some n := by
    have hdigits := Text.readDigits_toDigits (by omega : 1 < 8) (by omega) n
    cases hd : Nat.toDigits 8 n with
    | nil => simp at hd
    | cons c cs =>
      -- An octal digit is not the mark of a hexadecimal literal.
      have hc : c ≠ 'x' := by
        obtain ⟨d, hlt, rfl⟩ :=
          Text.isDigit_of_mem_toDigits (by omega : 1 < 8) (by omega) (hd ▸ List.mem_cons_self)
        interval_cases d <;> decide
      rw [hd] at hdigits
      unfold Text.readLiteral
      split
      · rename_i heq; cases heq; exact absurd rfl hc
      · rename_i heq; cases heq; simpa using hdigits
      · rename_i hno; exact absurd rfl (hno _)
  unfold readOperand
  rw [toList_octal]
  simp [hread]

theorem read_zero : read env "0" = some 0 :=
  read_single (by decide) rfl

end CExpr
