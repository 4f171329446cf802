import StraceMacos.Library.Dict
import StraceMacos.Library.Escaped

/-!
# JSON strings

The notation of JSON strings. A character of the basic plane may be written with the four digits of
its code, any other one with the digits of two surrogates. The writer uses ASCII only: it writes
every character without a glyph in ASCII as an escape, and what it has written is read back.
-/

namespace Json

open Escaped Text

/-! ## The notation -/

/-- The escapes of one character that have a letter or a sign of their own. -/
def shortEscapes : List (Char × Char) :=
  [('"', '"'), ('\\', '\\'), ('/', '/'), ('b', '\x08'), ('f', '\x0c'), ('n', '\n'), ('r', '\r'),
    ('t', '\t')]

/-- The number that four hexadecimal digits denote, in capital or small letters. -/
def codeUnit (cs : List Char) : Option Nat :=
  if (cs.take 4).length = 4 then readDigits 16 ((cs.take 4).map Char.toLower) else none

/-- The first one of a pair of surrogates. -/
def isHighSurrogate (unit : Nat) : Bool :=
  0xD800 ≤ unit && unit < 0xDC00

/-- The second one of a pair of surrogates. -/
def isLowSurrogate (unit : Nat) : Bool :=
  0xDC00 ≤ unit && unit < 0xE000

/-- The character that two surrogates denote. -/
def surrogatePair (high low : Nat) : Char :=
  Char.ofNat (0x10000 + (high - 0xD800) * 0x400 + (low - 0xDC00))

/-- The character behind `\u`, with the number of characters that its escape takes. -/
def unicodeEscape (cs : List Char) : Option (Char × Nat) :=
  (codeUnit cs).bind fun unit =>
    if isHighSurrogate unit then
      if (cs.drop 4).take 2 = ['\\', 'u'] then
        ((codeUnit (cs.drop 6)).filter isLowSurrogate).map fun low => (surrogatePair unit low, 11)
      else none
    else if isLowSurrogate unit then none
    else some (Char.ofNat unit, 5)

/-- The notation of JSON strings: no control character stands for itself. -/
def stringEscapes : Escapes Char where
  plain c := if 0x20 ≤ c.toNat then some c else none
  escape cs :=
    if cs.head? = some 'u' then unicodeEscape cs.tail
    else (cs.head?.bind fun c => shortEscapes.lookup c).map fun c => (c, 1)

/-! ## The writer -/

/-- The escapes that the writer uses; the others are written with their codes. -/
def writtenEscapes : List (Char × Char) :=
  [('"', '"'), ('\\', '\\'), ('\x08', 'b'), ('\x0c', 'f'), ('\n', 'n'), ('\r', 'r'), ('\t', 't')]

/-- Four hexadecimal digits. -/
def hex4 (n : Nat) : List Char :=
  [n / 4096 % 16, n / 256 % 16, n / 16 % 16, n % 16].map Nat.digitChar

def unicodeText (unit : Nat) : List Char :=
  '\\' :: 'u' :: hex4 unit

/-- One character of a string. -/
def dumpChar (c : Char) : List Char :=
  match writtenEscapes.lookup c with
  | some letter => ['\\', letter]
  | none =>
    if 0x20 ≤ c.toNat ∧ c.toNat < 0x7F then [c]
    else if c.toNat < 0x10000 then unicodeText c.toNat
    else unicodeText (0xD800 + (c.toNat - 0x10000) / 0x400) ++
      unicodeText (0xDC00 + (c.toNat - 0x10000) % 0x400)

/-- A string between its quotes. -/
def dumpString (s : String) : List Char :=
  inQuotes (s.toList.flatMap dumpChar)

/-! ## What is written is read -/

theorem codeUnit_hex4 {n : Nat} (h : n < 0x10000) (rest : List Char) :
    codeUnit (hex4 n ++ rest) = some n := by
  have hlower : ∀ d < 16, (Nat.digitChar d).toLower = Nat.digitChar d := by decide
  have hdigit (k : Nat) : (Nat.digitChar (k % 16)).toLower = Nat.digitChar (k % 16) :=
    hlower _ (Nat.mod_lt _ (by omega))
  have hread (k m : Nat) :
      readDigit 16 (some m) (Nat.digitChar (k % 16)) = some (16 * m + k % 16) :=
    readDigit_digitChar (by omega) (Nat.mod_lt _ (by omega)) m
  have htake : (hex4 n ++ rest).take 4 = hex4 n := rfl
  have hlen : (hex4 n).length = 4 := rfl
  rw [codeUnit, htake, if_pos hlen]
  simp only [hex4, List.map_cons, List.map_nil, hdigit, readDigits, List.isEmpty_cons,
    Bool.false_eq_true, if_false, List.foldl_cons, List.foldl_nil, hread]
  congr 1
  omega

theorem denotes_unicodeText {c : Char} (h : c.toNat < 0x10000) (rest : List Char) :
    Denotes stringEscapes (unicodeText c.toNat) [c] rest := by
  have hvalid : ¬ (isHighSurrogate c.toNat = true) ∧ ¬ (isLowSurrogate c.toNat = true) := by
    have hc : c.toNat < 0xD800 ∨ 0xDFFF < c.toNat ∧ c.toNat < 0x110000 := c.valid
    simp only [isHighSurrogate, isLowSurrogate, Bool.and_eq_true, decide_eq_true_iff]
    omega
  show Denotes stringEscapes ('\\' :: 'u' :: hex4 c.toNat) [c] rest
  refine denotes_escape ?_
  show unicodeEscape (hex4 c.toNat ++ rest) = some (c, 5)
  rw [unicodeEscape, codeUnit_hex4 h, Option.bind_some, if_neg hvalid.1, if_neg hvalid.2,
    Char.ofNat_toNat]

theorem denotes_surrogates {c : Char} (h : 0x10000 ≤ c.toNat) (rest : List Char) :
    Denotes stringEscapes (unicodeText (0xD800 + (c.toNat - 0x10000) / 0x400) ++
      unicodeText (0xDC00 + (c.toNat - 0x10000) % 0x400)) [c] rest := by
  have hc : c.toNat < 0xD800 ∨ 0xDFFF < c.toNat ∧ c.toNat < 0x110000 := c.valid
  generalize hhigh : 0xD800 + (c.toNat - 0x10000) / 0x400 = high
  generalize hlow : 0xDC00 + (c.toNat - 0x10000) % 0x400 = low
  have hisHigh : isHighSurrogate high = true := by
    simp only [isHighSurrogate, Bool.and_eq_true, decide_eq_true_iff]
    omega
  have hisLow : isLowSurrogate low = true := by
    simp only [isLowSurrogate, Bool.and_eq_true, decide_eq_true_iff]
    omega
  have hpair : surrogatePair high low = c := by
    have hcode : 0x10000 + (high - 0xD800) * 0x400 + (low - 0xDC00) = c.toNat := by omega
    rw [surrogatePair, hcode, Char.ofNat_toNat]
  show Denotes stringEscapes ('\\' :: 'u' :: (hex4 high ++ unicodeText low)) [c] rest
  refine denotes_escape ?_
  show unicodeEscape (hex4 high ++ unicodeText low ++ rest) = some (c, 11)
  rw [List.append_assoc, unicodeEscape, codeUnit_hex4 (by omega), Option.bind_some, if_pos hisHigh]
  have hmark : ((hex4 high ++ (unicodeText low ++ rest)).drop 4).take 2 = ['\\', 'u'] := rfl
  have hdrop : (hex4 high ++ (unicodeText low ++ rest)).drop 6 = hex4 low ++ rest := rfl
  rw [if_pos hmark, hdrop, codeUnit_hex4 (by omega), Option.filter_some, if_pos hisLow,
    Option.map_some, hpair]

/-- Each character is read as itself, whatever stands behind it. -/
theorem denotes_dumpChar (c : Char) (rest : List Char) :
    Denotes stringEscapes (dumpChar c) [c] rest := by
  have hwritten : ∀ e ∈ writtenEscapes, e.2 ≠ 'u' ∧ shortEscapes.lookup e.2 = some e.1 := by decide
  unfold dumpChar
  cases hl : writtenEscapes.lookup c with
  | some letter =>
    obtain ⟨hu, hlookup⟩ := hwritten _ (Dict.mem_of_lookup hl)
    refine denotes_escape_char ?_
    show (if some letter = some 'u' then _ else _) = _
    rw [if_neg (by simpa using hu)]
    simp [hlookup]
  | none =>
    have hquote : c ≠ '"' := by
      rintro rfl
      cases hl
    have hslash : c ≠ '\\' := by
      rintro rfl
      cases hl
    simp only
    split_ifs with hplain hbmp
    · exact denotes_plain hquote hslash (if_pos hplain.1)
    · exact denotes_unicodeText hbmp rest
    · exact denotes_surrogates (by omega) rest

theorem denotes_flatMap_dumpChar (s rest : List Char) :
    Denotes stringEscapes (s.flatMap dumpChar) s rest := by
  induction s with
  | nil => exact .nil
  | cons c s ih => exact Denotes.cons (denotes_dumpChar c _) ih

/-- **A string is read back** with any text behind it. -/
theorem readQuoted_dumpString (s : String) (rest : List Char) :
    readQuoted stringEscapes (dumpString s ++ rest) = some (s.toList, rest) := by
  have h := (denotes_flatMap_dumpChar s.toList ('"' :: rest)).readQuoted
  rw [dumpString, inQuotes, List.cons_append, List.append_assoc]
  exact h

/-! ## ASCII -/

/-- The blank and the characters of ASCII that have a glyph. -/
def IsGraphic (c : Char) : Prop :=
  0x20 ≤ c.toNat ∧ c.toNat < 0x7F

instance : DecidablePred IsGraphic := fun c =>
  inferInstanceAs (Decidable (0x20 ≤ c.toNat ∧ c.toNat < 0x7F))

/-- A text of such characters. -/
def Graphic (text : List Char) : Prop :=
  ∀ c ∈ text, IsGraphic c

instance : DecidablePred Graphic := fun text => List.decidableBAll IsGraphic text

theorem graphic_cons {c : Char} {text : List Char} :
    Graphic (c :: text) ↔ IsGraphic c ∧ Graphic text :=
  List.forall_mem_cons

theorem graphic_append {text text' : List Char} :
    Graphic (text ++ text') ↔ Graphic text ∧ Graphic text' :=
  List.forall_mem_append

theorem graphic_unicodeText (unit : Nat) : Graphic (unicodeText unit) := by
  have hdigit : ∀ d < 16, IsGraphic (Nat.digitChar d) := by decide
  have hmod (k : Nat) : IsGraphic (Nat.digitChar (k % 16)) := hdigit _ (Nat.mod_lt _ (by omega))
  simp only [unicodeText, hex4, List.map_cons, List.map_nil, graphic_cons, hmod, true_and]
  decide

theorem graphic_dumpChar (c : Char) : Graphic (dumpChar c) := by
  have hwritten : ∀ e ∈ writtenEscapes, IsGraphic e.2 := by decide
  unfold dumpChar
  cases hl : writtenEscapes.lookup c with
  | some letter =>
    exact graphic_cons.mpr ⟨by decide, graphic_cons.mpr
      ⟨hwritten _ (Dict.mem_of_lookup hl), List.forall_mem_nil _⟩⟩
  | none =>
    simp only
    split_ifs with hplain hbmp
    · exact graphic_cons.mpr ⟨hplain, List.forall_mem_nil _⟩
    · exact graphic_unicodeText _
    · exact graphic_append.mpr ⟨graphic_unicodeText _, graphic_unicodeText _⟩

/-- A string is written in ASCII. -/
theorem graphic_dumpString (s : String) : Graphic (dumpString s) := by
  rw [dumpString, inQuotes, graphic_cons, graphic_append]
  exact ⟨by decide, List.forall_mem_flatMap.mpr fun c _ => graphic_dumpChar c, by decide⟩

end Json
