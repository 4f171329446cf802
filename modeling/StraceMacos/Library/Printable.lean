import StraceMacos.Library.Ascii
import StraceMacos.Library.Bytes
import StraceMacos.Library.Numeral

/-!
# Texts without control characters

A text without control characters is one line of a terminal: it has no newline and begins no escape
sequence. Numerals and literals of bytes are such texts, and a text that is put together from others
is one exactly when all of them are.
-/

namespace Text

/-- A C0 control character or the delete character. -/
def isControl (c : Char) : Bool :=
  c.toNat < 0x20 || c.toNat == 0x7F

/-- No character of the text is a control character. -/
def Printable (s : String) : Prop :=
  ∀ c ∈ s.toList, isControl c = false

/-- The bytes that encode a control character: the code of the character itself. -/
def IsControlByte (b : UInt8) : Prop :=
  b.toNat < 0x20 ∨ b.toNat = 0x7F

instance : DecidablePred IsControlByte := fun b =>
  inferInstanceAs (Decidable (b.toNat < 0x20 ∨ b.toNat = 0x7F))

/-- A control character is encoded in one control byte, and no other character uses such a byte. -/
theorem isControl_eq_false_iff {c : Char} :
    isControl c = false ↔ ∀ b ∈ String.utf8EncodeChar c, ¬ IsControlByte b := by
  have hcontrol : isControl c = false ↔ ¬ (c.toNat < 0x20 ∨ c.toNat = 0x7F) := by
    simp [isControl]
  rw [hcontrol]
  rcases utf8EncodeChar_cases c with ⟨hlt, hone⟩ | ⟨hle, -, hlarge⟩
  · have hbyte : (UInt8.ofNat c.toNat).toNat = c.toNat := by
      rw [UInt8.toNat_ofNat']
      omega
    simp only [hone, List.mem_singleton, forall_eq, IsControlByte, hbyte]
  · refine iff_of_true (by omega) fun b hb => ?_
    have hb := hlarge b hb
    unfold IsControlByte
    omega

theorem printable_iff_bytes (s : String) : Printable s ↔ ∀ b ∈ bytes s, ¬ IsControlByte b := by
  rw [bytes_eq_flatMap]
  simp only [Printable, isControl_eq_false_iff, List.mem_flatMap]
  exact ⟨fun h b ⟨c, hc, hb⟩ => h c hc b hb, fun h c hc b hb => h b ⟨c, hc, hb⟩⟩

/-- The check on bytes is the one that literals are evaluated with. -/
instance : DecidablePred Printable := fun s =>
  @decidable_of_iff _ _ (printable_iff_bytes s).symm (List.decidableBAll _ (bytes s))

variable {s t sep : String}

@[simp] theorem printable_append : Printable (s ++ t) ↔ Printable s ∧ Printable t := by
  simp [Printable, or_imp, forall_and]

@[simp] theorem printable_ofList {cs : List Char} :
    Printable (String.ofList cs) ↔ ∀ c ∈ cs, isControl c = false := by
  simp [Printable]

theorem printable_join (hsep : Printable sep) {l : List String} :
    Printable (join sep l) ↔ ∀ s ∈ l, Printable s := by
  constructor
  · intro h s hs c hc
    by_contra hcontrol
    have hnot : c ∉ sep.toList := fun hmem => hcontrol (hsep c hmem)
    exact hcontrol (h c ((mem_join_iff hnot l).mpr ⟨s, hs, hc⟩))
  · intro h c hc
    by_contra hcontrol
    have hnot : c ∉ sep.toList := fun hmem => hcontrol (hsep c hmem)
    obtain ⟨s, hs, hmem⟩ := (mem_join_iff hnot l).mp hc
    exact hcontrol (h s hs c hmem)

/-- A list between brackets. -/
theorem printable_enclosed {left right : String} (hleft : Printable left) (hright : Printable right)
    (hsep : Printable sep) {l : List String} :
    Printable (left ++ join sep l ++ right) ↔ ∀ s ∈ l, Printable s := by
  rw [printable_append, printable_append, printable_join hsep]
  simp only [hleft, hright, true_and, and_true]

/-- Escaping a printable character leaves the control characters of a text as they are. -/
theorem printable_replaceChar {c : Char} (hc : isControl c = false) (ht : Printable t) :
    Printable (replaceChar c t s) ↔ Printable s := by
  unfold replaceChar
  rw [printable_ofList]
  simp only [List.mem_flatMap]
  constructor
  · intro h d hd
    by_cases hdc : d = c
    · rw [hdc, hc]
    · exact h d ⟨d, hd, by simp [hdc]⟩
  · rintro h d ⟨e, he, hd⟩
    split_ifs at hd
    · exact ht d hd
    · rw [List.mem_singleton.mp hd]
      exact h e he

theorem printable_padLeft {w : Nat} {c : Char} (hc : isControl c = false) :
    Printable (padLeft w c s) ↔ Printable s := by
  unfold padLeft
  rw [printable_append, printable_ofList]
  refine and_iff_right fun d hd => ?_
  rw [List.eq_of_mem_replicate hd, hc]

/-! ## Numerals -/

theorem printable_numeral {b : Nat} (h1 : 1 < b) (h16 : b ≤ 16) (n : Nat) :
    Printable (numeral b n) := by
  unfold numeral
  rw [printable_ofList]
  intro c hc
  obtain ⟨d, hd, rfl⟩ := isDigit_of_mem_toDigits h1 h16 hc
  have hdigit : ∀ d < 16, isControl (Nat.digitChar d) = false := by decide
  exact hdigit d (hd.trans_le h16)

@[simp] theorem printable_hex (n : Nat) : Printable (hex n) :=
  printable_numeral (by omega) (by omega) n

@[simp] theorem printable_oct (n : Nat) : Printable (oct n) :=
  printable_numeral (by omega) (by omega) n

@[simp] theorem printable_hex0x (n : Nat) : Printable (hex0x n) :=
  printable_append.mpr ⟨by decide, printable_hex n⟩

theorem printable_signedNumeral {b : Nat} (h1 : 1 < b) (h16 : b ≤ 16) (i : Int) :
    Printable (signedNumeral b i) := by
  cases i with
  | ofNat n => exact printable_numeral h1 h16 n
  | negSucc n => exact printable_append.mpr ⟨by decide, printable_numeral h1 h16 _⟩

theorem printable_toString_int (i : Int) : Printable (toString i) := by
  have htext : toString i = signedNumeral 10 i := by
    cases i <;> rfl
  rw [htext]
  exact printable_signedNumeral (by omega) (by omega) i

theorem printable_toString_nat (n : Nat) : Printable (toString n) :=
  printable_numeral (b := 10) (by omega) (by omega) n

theorem isControl_toUpper {c : Char} (h : isControl c = false) : isControl c.toUpper = false := by
  have hletter : ∀ n < 123, 97 ≤ n → isControl (Char.ofNat n).toUpper = false := by decide
  by_cases hc : 97 ≤ c.toNat ∧ c.toNat < 123
  · have hupper := hletter c.toNat hc.2 hc.1
    rwa [Char.ofNat_toNat] at hupper
  · have hsame : c.toUpper = c := by
      refine dif_neg fun hle => hc ⟨?_, ?_⟩
      · exact UInt32.le_iff_toNat_le.mp hle.1
      · exact Nat.lt_succ_of_le (UInt32.le_iff_toNat_le.mp hle.2)
    rwa [hsame]

theorem printable_toUpper (h : Printable s) : Printable s.toUpper := by
  intro c hc
  rw [String.toUpper, String.toList_map] at hc
  obtain ⟨d, hd, rfl⟩ := List.mem_map.mp hc
  exact isControl_toUpper (h d hd)

end Text

namespace Bytes

open Text

theorem printable_hex (bs : Bytes) : Printable bs.hex := by
  unfold hex
  rw [printable_join (by decide), List.forall_mem_map]
  exact fun b _ => (printable_padLeft (by decide)).mpr (Text.printable_hex _)

theorem printable_reprByte {quote : Char} (hq : quote = '"' ∨ quote = Char.ofNat 0x27) (b : UInt8) :
    Printable (reprByte quote b) := by
  have hdouble : ∀ n < 256, Printable (reprByte '"' (UInt8.ofNat n)) := by
    decide +kernel
  have hsingle : ∀ n < 256, Printable (reprByte (Char.ofNat 0x27) (UInt8.ofNat n)) := by
    decide +kernel
  have hb : b = UInt8.ofNat b.toNat := (UInt8.ofNat_toNat).symm
  rw [hb]
  rcases hq with rfl | rfl
  · exact hdouble b.toNat b.toNat_lt
  · exact hsingle b.toNat b.toNat_lt

/-- The literal of a byte string is printable. -/
theorem printable_repr (bs : Bytes) : Printable bs.repr := by
  unfold repr
  generalize hquote :
    (if bs.contains 0x27 ∧ ¬ bs.contains 0x22 then '"' else Char.ofNat 0x27) = quote
  have hq : quote = '"' ∨ quote = Char.ofNat 0x27 := by
    rw [← hquote]
    split_ifs <;> simp
  have hcontrol : isControl quote = false := by
    rcases hq with rfl | rfl <;> decide
  simp only [printable_append, printable_ofList, List.mem_singleton, forall_eq, hcontrol,
    printable_join (by decide : Printable ""), List.forall_mem_map, and_true]
  exact ⟨by decide, fun b _ => printable_reprByte hq b⟩

end Bytes
