import StraceMacos.Library.Dict
import StraceMacos.Library.Escaped
import StraceMacos.Syscalls.Args

/-!
# Quoted buffers and strings

What stands between quotes in a line is read back. A buffer is quoted in the notation of C string
literals: an octal escape has three digits where an octal digit follows, so that it ends where the
next byte begins. Strings and the elements of lists of strings are quoted in the notation that only
escapes backslashes and quotes.
-/

namespace StraceMacos

open Escaped Text

/-! ## Buffers -/

theorem length_toDigits_le {n : Nat} (h : n < 256) : (Nat.toDigits 8 n).length ≤ 3 := by
  have hall : ∀ n < 256, (Nat.toDigits 8 n).length ≤ 3 := by decide +kernel
  exact hall n h

theorem isOctal_of_mem_toDigits {n : Nat} {c : Char} (h : c ∈ Nat.toDigits 8 n) :
    isOctal c = true := by
  obtain ⟨d, hd, rfl⟩ := isDigit_of_mem_toDigits (by omega) (by omega) h
  have hall : ∀ d < 8, isOctal d.digitChar = true := by decide
  exact hall d hd

/-- An octal escape without padding. -/
theorem toList_oct (n : Nat) : ("\\" ++ oct n).toList = '\\' :: Nat.toDigits 8 n := by
  simp [oct, numeral]

theorem toList_padded (n : Nat) : ("\\" ++ padLeft 3 '0' (oct n)).toList =
    '\\' :: (List.replicate (3 - (Nat.toDigits 8 n).length) '0' ++ Nat.toDigits 8 n) := by
  simp [padLeft, oct, numeral]

/-- The text of a byte is an escape of one character, the character of the byte, or an octal escape,
which has three digits in front of a byte that is shown as an octal digit. -/
theorem escapeByte_cases (b : UInt8) (next : Option UInt8) :
    (∃ c, (escapeByte b next).toList = ['\\', c] ∧ simpleEscapes.lookup c = some b) ∨
    (∃ c, (escapeByte b next).toList = [c] ∧ c ≠ '"' ∧ c ≠ '\\' ∧ c.toNat = b.toNat) ∨
    ∃ digits, (escapeByte b next).toList = '\\' :: digits ∧
      readDigits 8 digits = some b.toNat ∧ (∀ c ∈ digits, isOctal c = true) ∧ digits.length ≤ 3 ∧
      (digits.length = 3 ∨ ∀ b' ∈ next, ¬ (48 ≤ b'.toNat ∧ b'.toNat ≤ 55)) := by
  have hlen := length_toDigits_le b.toNat_lt
  unfold escapeByte
  cases hl : escapeMap.lookup b.toNat with
  | some escape =>
    have hall : ∀ e ∈ escapeMap, ∃ c ∈ simpleEscapes, e.2.toList = ['\\', c.1] ∧
        simpleEscapes.lookup c.1 = some (UInt8.ofNat e.1) := by decide
    obtain ⟨c, -, htext, hc⟩ := hall _ (Dict.mem_of_lookup hl)
    simp only [hl]
    exact .inl ⟨c.1, htext, by simpa using hc⟩
  | none =>
    simp only [hl]
    by_cases hp : isPrintable b.toNat = true
    · rw [if_pos hp]
      have hascii : ∀ n < 256, isPrintable n = true → escapeMap.lookup n = none →
          Char.ofNat n ≠ '"' ∧ Char.ofNat n ≠ '\\' ∧ (Char.ofNat n).toNat = n := by
        decide +kernel
      exact .inr (.inl ⟨_, String.toList_ofList, hascii _ b.toNat_lt hp hl⟩)
    · rw [if_neg hp]
      have hplain (hnext : ∀ b' ∈ next, ¬ (48 ≤ b'.toNat ∧ b'.toNat ≤ 55)) :
          readDigits 8 (Nat.toDigits 8 b.toNat) = some b.toNat ∧
          (∀ c ∈ Nat.toDigits 8 b.toNat, isOctal c = true) ∧
          (Nat.toDigits 8 b.toNat).length ≤ 3 ∧ ((Nat.toDigits 8 b.toNat).length = 3 ∨
            ∀ b' ∈ next, ¬ (48 ≤ b'.toNat ∧ b'.toNat ≤ 55)) :=
        ⟨readDigits_toDigits (by omega) (by omega) _, fun c => isOctal_of_mem_toDigits, hlen,
          .inr hnext⟩
      cases next with
      | none => exact .inr (.inr ⟨_, toList_oct _, hplain (by simp)⟩)
      | some b' =>
        simp only
        split_ifs with hb'
        · refine .inr (.inr ⟨_, toList_padded _, readDigits_replicate_toDigits (by omega) (by omega)
            _ _, fun c hc => ?_, ?_⟩)
          · rcases List.mem_append.mp hc with hc | hc
            · rw [List.eq_of_mem_replicate hc]
              rfl
            · exact isOctal_of_mem_toDigits hc
          · simp only [List.length_append, List.length_replicate]
            omega
        · exact .inr (.inr ⟨_, toList_oct _, hplain (by simpa using hb')⟩)

/-- Only a byte that is shown as an octal digit has a text that begins with one. -/
theorem head_escapeByte {b : UInt8} {next : Option UInt8} {c : Char}
    (h : c ∈ (escapeByte b next).toList.head?) (hc : isOctal c = true) :
    48 ≤ b.toNat ∧ b.toNat ≤ 55 := by
  rcases escapeByte_cases b next with ⟨d, htext, -⟩ | ⟨d, htext, -, -, hd⟩ | ⟨digits, htext, -⟩
  · rw [htext] at h
    cases h
    cases hc
  · rw [htext] at h
    cases h
    have hrange : '0' ≤ c ∧ c ≤ '7' := by simpa [isOctal] using hc
    rw [← hd]
    exact hrange
  · rw [htext] at h
    cases h
    cases hc

/-- In front of a text that begins with an octal digit only where the next byte is shown as one,
the text of a byte denotes it. -/
theorem denotes_escapeByte (b : UInt8) {next : Option UInt8} {rest : List Char}
    (h : ∀ c ∈ rest.head?, isOctal c = true → ∃ b' ∈ next, 48 ≤ b'.toNat ∧ b'.toNat ≤ 55) :
    Denotes cEscapes (escapeByte b next).toList [b] rest := by
  rcases escapeByte_cases b next with ⟨c, htext, hc⟩ | ⟨c, htext, hquote, hslash, hc⟩ |
    ⟨digits, htext, hread, hoctal, hlen, hnext⟩
  · rw [htext]
    exact denotes_simple hc rest
  · rw [htext]
    exact denotes_plain hquote hslash (by simp [cEscapes, hc, b.toNat_lt])
  · have hstop : digits.length = 3 ∨ ∀ c ∈ rest.head?, isOctal c = false := by
      refine hnext.imp_right fun hnext c hc => ?_
      by_contra hoct
      obtain ⟨b', hb', hrange⟩ := h c hc (by simpa using hoct)
      exact hnext b' hb' hrange
    rw [htext]
    simpa using denotes_octal hread b.toNat_lt hoctal hlen hstop

theorem denotes_escapeBytes (bs : Bytes) {rest : List Char}
    (h : ∀ c ∈ rest.head?, isOctal c = false) :
    Denotes cEscapes ((escapeBytes bs).flatMap String.toList) bs rest := by
  induction bs with
  | nil => exact .nil
  | cons b bs ih =>
    rw [escapeBytes, List.flatMap_cons]
    refine Denotes.cons (denotes_escapeByte b fun c hc hoct => ?_) ih
    cases bs with
    | nil =>
      rw [h c hc] at hoct
      cases hoct
    | cons b' bs =>
      have hne : (escapeByte b' bs.head?).toList ≠ [] := by
        rcases escapeByte_cases b' bs.head? with ⟨d, htext, -⟩ | ⟨d, htext, -⟩ | ⟨d, htext, -⟩ <;>
          simp [htext]
      rw [escapeBytes, List.flatMap_cons, List.append_assoc,
        List.head?_append_of_ne_nil _ hne] at hc
      exact ⟨b', rfl, head_escapeByte hc hoct⟩

/-- The bytes that a quoted buffer shows: all of them or the first ones and three dots. -/
def shownBytes (data : Bytes) (maxLength : Nat) : Bytes :=
  if data.length ≤ maxLength then data else data.take maxLength ++ [0x2E, 0x2E, 0x2E]

theorem denotes_quoteString (data : Bytes) (maxLength : Nat) {rest : List Char}
    (h : ∀ c ∈ rest.head?, isOctal c = false) :
    Denotes cEscapes (quoteString data maxLength).toList (shownBytes data maxLength) rest := by
  have hdots : Denotes cEscapes "...".toList [0x2E, 0x2E, 0x2E] rest := by
    have hdot (rest : List Char) : Denotes cEscapes ['.'] [0x2E] rest :=
      denotes_plain (by decide) (by decide) rfl
    exact (hdot _).append ((hdot _).append (hdot _))
  unfold quoteString shownBytes
  by_cases hempty : data.isEmpty = true
  · rw [if_pos hempty, List.isEmpty_iff.mp hempty]
    exact .nil
  · rw [if_neg hempty, String.toList_append, toList_join_empty]
    by_cases hlen : data.length ≤ maxLength
    · rw [if_pos hlen, List.take_of_length_le hlen, if_neg (by omega), String.toList_empty,
        List.append_nil]
      exact denotes_escapeBytes data h
    · rw [if_neg hlen, if_pos (by omega)]
      refine Denotes.append (denotes_escapeBytes _ fun c hc => ?_) hdots
      cases hc
      rfl

/-- The shown bytes tell the first bytes and whether there are more. -/
theorem shownBytes_inj {d d' : Bytes} {m : Nat} (h : shownBytes d m = shownBytes d' m) :
    d.take m = d'.take m ∧ (m < d.length ↔ m < d'.length) := by
  have hlen (d : Bytes) : m < (shownBytes d m).length ↔ m < d.length := by
    unfold shownBytes
    split_ifs with hd
    · rfl
    · simp only [List.length_append, List.length_take, List.length_cons]
      omega
  have hmore : m < d.length ↔ m < d'.length := by rw [← hlen, h, hlen]
  refine ⟨?_, hmore⟩
  unfold shownBytes at h
  by_cases hd : d.length ≤ m
  · rw [if_pos hd, if_pos (by omega)] at h
    rw [h]
  · rw [if_neg hd, if_neg (by omega)] at h
    exact List.append_cancel_right h

theorem unescape_quoteString (data : Bytes) (maxLength : Nat) :
    unescape cEscapes (quoteString data maxLength) = some (shownBytes data maxLength) :=
  (denotes_quoteString data maxLength (by simp)).unescape

theorem quoteString_inj {d d' : Bytes} {m : Nat} (h : quoteString d m = quoteString d' m) :
    d.take m = d'.take m ∧ (m < d.length ↔ m < d'.length) := by
  have hshown := unescape_quoteString d m
  rw [h, unescape_quoteString] at hshown
  exact shownBytes_inj (Option.some.inj hshown).symm

/-- A quoted buffer is read back: without its quotes as a whole, and between quotes up to exactly
the closing one. -/
theorem quoteString_unambiguous (maxLength : Nat) :
    (∀ data, unescape cEscapes (quoteString data maxLength) = some (shownBytes data maxLength)) ∧
    (∀ data data', quoteString data maxLength = quoteString data' maxLength →
      data.take maxLength = data'.take maxLength ∧
        (maxLength < data.length ↔ maxLength < data'.length)) ∧
    ∀ data rest, readQuoted cEscapes ("\"" ++ quoteString data maxLength ++ "\"" ++ rest).toList =
      some (shownBytes data maxLength, rest.toList) := by
  refine ⟨fun data => unescape_quoteString data maxLength, fun data data' h => quoteString_inj h,
    fun data rest => ?_⟩
  have htext : ("\"" ++ quoteString data maxLength ++ "\"" ++ rest).toList =
      '"' :: ((quoteString data maxLength).toList ++ '"' :: rest.toList) := by
    simp
  rw [htext]
  refine (denotes_quoteString data maxLength fun c hc => ?_).readQuoted
  cases hc
  rfl

/-! ## Strings and lists of strings -/

/-- Doubling the backslashes first and then escaping the quotes escapes each character once. -/
theorem quoted_eq (s : String) : quoted s = String.ofList (inQuotes (escapeQuotes s.toList)) := by
  have hescape : replaceChar '"' "\\\"" (replaceChar '\\' "\\\\" s) =
      String.ofList (escapeQuotes s.toList) := by
    unfold replaceChar escapeQuotes
    simp only [String.toList_ofList, List.flatMap_assoc]
    congr 2
    funext c
    by_cases hslash : c = '\\'
    · subst hslash
      rfl
    · rw [if_neg hslash]
      by_cases hquote : c = '"'
      · subst hquote
        rfl
      · simp [hslash, hquote]
  rw [quoted, hescape]
  apply String.toList_injective
  simp [inQuotes]

theorem readQuoted_quoted (s : String) :
    readQuoted charEscapes (quoted s).toList = some (s.toList, []) := by
  rw [quoted_eq, String.toList_ofList]
  exact (denotes_escapeQuotes s.toList _).readQuoted

theorem quoted_inj {s s' : String} (h : quoted s = quoted s') : s = s' := by
  have hs := readQuoted_quoted s
  rw [h, readQuoted_quoted] at hs
  exact String.toList_injective (Prod.mk.inj (Option.some.inj hs)).1.symm

theorem toStr_stringArray (l : List String) : (SyscallArg.stringArray l).toStr =
    String.ofList (enclose ((l.map String.toList).map escapeQuotes)) := by
  have hquoted : (l.map quoted).map String.toList =
      ((l.map String.toList).map escapeQuotes).map inQuotes := by
    simp only [List.map_map]
    refine List.map_congr_left fun s _ => ?_
    simp [quoted_eq]
  cases l with
  | nil => rfl
  | cons s l =>
    have hempty : (s :: l).isEmpty = false := rfl
    rw [SyscallArg.toStr, hempty, if_neg (by simp), join, hquoted]
    apply String.toList_injective
    simp [enclose]

/-- A text, or a list of texts, is read back from the text of its argument. -/
theorem stringArg_unambiguous :
    (∀ l, readList charEscapes (SyscallArg.stringArray l).toStr = some (l.map String.toList)) ∧
    (∀ s, readQuoted charEscapes (SyscallArg.string s).toStr.toList = some (s.toList, [])) ∧
    (∀ l l', (SyscallArg.stringArray l).toStr = (SyscallArg.stringArray l').toStr → l = l') ∧
    ∀ s s', (SyscallArg.string s).toStr = (SyscallArg.string s').toStr → s = s' := by
  have hlist (l : List String) :
      readList charEscapes (SyscallArg.stringArray l).toStr = some (l.map String.toList) := by
    rw [toStr_stringArray]
    exact readList_enclose (fun items rest => denotes_escapeQuotes items _) _
  refine ⟨hlist, readQuoted_quoted, fun l l' h => ?_, fun s s' h => quoted_inj h⟩
  have hl := hlist l
  rw [h, hlist] at hl
  exact List.map_injective_iff.mpr (fun _ _ => String.toList_injective) (Option.some.inj hl).symm

end StraceMacos
