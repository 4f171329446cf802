import StraceMacos.Library.Bytes
import StraceMacos.Library.Numeral

/-!
# Reading escaped text

A text in which a backslash begins an escape and a double quote that is not escaped ends it. What a
plain character and an escape denote is up to the notation; the reader returns what it has read and
the text that begins with the closing quote. The notation of C string literals denotes bytes, and
the shorter one that only escapes backslashes and quotes denotes characters. Lists of quoted texts
stand in brackets, with a comma and a blank between their elements.
-/

namespace Escaped

open Text

variable {α : Type}

/-- What characters denote: a plain one, and an escape by the characters behind its backslash, with
the number of them that it takes. -/
structure Escapes (α : Type) where
  plain : Char → Option α
  escape : List Char → Option (α × Nat)

/-- What the characters up to an unescaped quote or the end denote, and the rest from there on; the
first `skip` characters belong to the escape before. -/
def read (lang : Escapes α) : Nat → List Char → Option (List α × List Char)
  | 0, [] => some ([], [])
  | _ + 1, [] => none
  | skip + 1, _ :: cs => read lang skip cs
  | 0, c :: cs =>
    if c = '"' then some ([], c :: cs)
    else if c = '\\' then
      (lang.escape cs).bind fun item => (read lang item.2 cs).map (Prod.map (item.1 :: ·) id)
    else (lang.plain c).bind fun a => (read lang 0 cs).map (Prod.map (a :: ·) id)

/-- What a whole text without an unescaped quote denotes. -/
def unescape (lang : Escapes α) (text : String) : Option (List α) :=
  match read lang 0 text.toList with
  | some (items, []) => some items
  | _ => none

/-- What a text denotes that begins with a quote, and the text behind the closing quote. -/
def readQuoted (lang : Escapes α) : List Char → Option (List α × List Char)
  | '"' :: cs =>
    match read lang 0 cs with
    | some (items, '"' :: rest) => some (items, rest)
    | _ => none
  | _ => none

/-- The elements of a list, up to `n` of them, behind its opening bracket. -/
def readElements (lang : Escapes α) : Nat → List Char → Option (List (List α))
  | 0, _ => none
  | n + 1, cs =>
    match readQuoted lang cs with
    | some (items, ',' :: ' ' :: rest) => (readElements lang n rest).map (items :: ·)
    | some (items, [']']) => some [items]
    | _ => none

/-- The list of quoted texts that a text shows. -/
def readList (lang : Escapes α) (text : String) : Option (List (List α)) :=
  match text.toList with
  | ['[', ']'] => some []
  | '[' :: cs => readElements lang cs.length cs
  | _ => none

variable {lang : Escapes α} {text rest : List Char} {items : List α}

/-! ## Texts that denote items -/

/-- In front of `rest`, the text denotes the items. -/
def Denotes (lang : Escapes α) (text : List Char) (items : List α) (rest : List Char) : Prop :=
  read lang 0 (text ++ rest) = (read lang 0 rest).map (Prod.map (items ++ ·) id)

theorem Denotes.nil : Denotes lang [] [] rest := by
  show read lang 0 rest = (read lang 0 rest).map (Prod.map ([] ++ ·) id)
  cases read lang 0 rest <;> rfl

theorem Denotes.append {text' : List Char} {items' : List α}
    (h : Denotes lang text items (text' ++ rest)) (h' : Denotes lang text' items' rest) :
    Denotes lang (text ++ text') (items ++ items') rest := by
  unfold Denotes at h h' ⊢
  rw [List.append_assoc, h, h']
  cases read lang 0 rest with
  | none => rfl
  | some r => simp [Prod.map]

theorem Denotes.cons {text' : List Char} {a : α} {items' : List α}
    (h : Denotes lang text [a] (text' ++ rest)) (h' : Denotes lang text' items' rest) :
    Denotes lang (text ++ text') (a :: items') rest :=
  h.append h'

theorem denotes_plain {c : Char} {a : α} (hquote : c ≠ '"') (hslash : c ≠ '\\')
    (h : lang.plain c = some a) : Denotes lang [c] [a] rest := by
  show read lang 0 (c :: rest) = _
  rw [read, if_neg hquote, if_neg hslash, h]
  rfl

theorem read_skip (text rest : List Char) :
    read lang text.length (text ++ rest) = read lang 0 rest := by
  induction text with
  | nil => rfl
  | cons c text ih => exact ih

theorem denotes_escape {a : α} (h : lang.escape (text ++ rest) = some (a, text.length)) :
    Denotes lang ('\\' :: text) [a] rest := by
  show read lang 0 ('\\' :: (text ++ rest)) = _
  rw [read, if_neg (by decide), if_pos rfl, h, Option.bind_some, read_skip]
  rfl

theorem denotes_escape_char {a : α} {c : Char} (h : lang.escape (c :: rest) = some (a, 1)) :
    Denotes lang ['\\', c] [a] rest :=
  denotes_escape h

/-- A whole text denotes what it denotes in front of nothing. -/
theorem Denotes.unescape {s : String} (h : Denotes lang s.toList items []) :
    unescape lang s = some items := by
  unfold Denotes at h
  rw [List.append_nil] at h
  rw [Escaped.unescape, h]
  simp [read]

/-- A quoted text ends at the quote behind it. -/
theorem Denotes.readQuoted (h : Denotes lang text items ('"' :: rest)) :
    readQuoted lang ('"' :: (text ++ '"' :: rest)) = some (items, rest) := by
  have hquote : read lang 0 ('"' :: rest) = some ([], '"' :: rest) := by rw [read, if_pos rfl]
  rw [Escaped.readQuoted, h, hquote]
  simp

/-! ## Lists of quoted texts -/

def inQuotes (text : List Char) : List Char :=
  '"' :: (text ++ ['"'])

/-- A list in brackets whose elements stand in quotes. -/
def enclose (texts : List (List Char)) : List Char :=
  '[' :: (List.intercalate [',', ' '] (texts.map inQuotes) ++ [']'])

theorem length_le_intercalate (texts : List (List Char)) :
    texts.length ≤ (List.intercalate [',', ' '] (texts.map inQuotes)).length := by
  induction texts with
  | nil => exact Nat.zero_le _
  | cons text texts ih =>
    cases texts with
    | nil => simp [inQuotes]
    | cons text' texts =>
      rw [List.map_cons, List.map_cons, List.intercalate_cons_cons, ← List.map_cons]
      simp only [List.length_cons, List.length_append, inQuotes] at ih ⊢
      omega

theorem readElements_intercalate {spell : List α → List Char}
    (h : ∀ items rest, Denotes lang (spell items) items ('"' :: rest)) {l : List (List α)}
    (hne : l ≠ []) {n : Nat} (hn : l.length ≤ n) :
    readElements lang n
      (List.intercalate [',', ' '] ((l.map spell).map inQuotes) ++ [']']) = some l := by
  induction l generalizing n with
  | nil => exact absurd rfl hne
  | cons items l ih =>
    obtain ⟨n, rfl⟩ : ∃ k, n = k + 1 := ⟨n - 1, by rw [List.length_cons] at hn; omega⟩
    cases l with
    | nil =>
      have hquoted := (h items [']']).readQuoted
      simp [readElements, inQuotes, hquoted]
    | cons items' l =>
      have hrest := ih (List.cons_ne_nil _ _) (n := n) (by simpa using hn)
      rw [List.map_cons, List.map_cons, List.map_cons, List.map_cons,
        List.intercalate_cons_cons, inQuotes]
      simp only [List.map_cons] at hrest
      simp only [List.cons_append, List.append_assoc, List.nil_append]
      rw [readElements, (h items _).readQuoted]
      simp only [hrest, Option.map_some]

/-- A list of quoted texts is read back. -/
theorem readList_enclose {spell : List α → List Char}
    (h : ∀ items rest, Denotes lang (spell items) items ('"' :: rest)) (l : List (List α)) :
    readList lang (String.ofList (enclose (l.map spell))) = some l := by
  unfold readList enclose
  rw [String.toList_ofList]
  cases l with
  | nil => rfl
  | cons items l =>
    have hlen := length_le_intercalate ((items :: l).map spell)
    rw [List.length_map] at hlen
    have hn := hlen.trans ((List.sublist_append_left _ [']']).length_le)
    have helements := readElements_intercalate h (List.cons_ne_nil items l) hn
    cases l <;> exact helements

/-! ## Backslashes and quotes -/

/-- The notation in which a character stands for itself and only backslashes and quotes are
escaped. -/
def charEscapes : Escapes Char where
  plain := some
  escape cs := (cs.head?.filter fun c => c = '"' || c = '\\').map fun c => (c, 1)

/-- A text in this notation. -/
def escapeQuotes (s : List Char) : List Char :=
  s.flatMap fun c => if c = '"' ∨ c = '\\' then ['\\', c] else [c]

theorem denotes_escapeQuotes (s rest : List Char) :
    Denotes charEscapes (escapeQuotes s) s rest := by
  induction s with
  | nil => exact .nil
  | cons c s ih =>
    refine Denotes.cons ?_ ih
    simp only
    split_ifs with hc
    · refine denotes_escape_char ?_
      rcases hc with rfl | rfl <;> rfl
    · push Not at hc
      exact denotes_plain hc.1 hc.2 rfl

/-! ## C string literals -/

def isOctal (c : Char) : Bool :=
  '0' ≤ c && c ≤ '7'

/-- The escapes of one character. -/
def simpleEscapes : List (Char × UInt8) :=
  [('"', 0x22), ('\\', 0x5C), ('t', 0x09), ('n', 0x0A), ('r', 0x0D), ('v', 0x0B), ('f', 0x0C)]

/-- The longest run of at most three octal digits. -/
def octalRun (cs : List Char) : List Char :=
  (cs.take 3).takeWhile isOctal

/-- The notation of C string literals: an escape is a simple one or the octal number of a byte. -/
def cEscapes : Escapes UInt8 where
  plain c := if c.toNat < 256 then some (UInt8.ofNat c.toNat) else none
  escape cs :=
    match cs.head?.bind fun c => simpleEscapes.lookup c with
    | some b => some (b, 1)
    | none => ((readDigits 8 (octalRun cs)).filter (· < 256)).map fun n =>
        (UInt8.ofNat n, (octalRun cs).length)

theorem denotes_simple {c : Char} {b : UInt8} (h : simpleEscapes.lookup c = some b)
    (rest : List Char) : Denotes cEscapes ['\\', c] [b] rest := by
  refine denotes_escape_char ?_
  simp [cEscapes, h]

/-- Fewer than three octal digits end where something else follows. -/
theorem octalRun_append {digits rest : List Char} (hdigits : ∀ c ∈ digits, isOctal c = true)
    (hlen : digits.length ≤ 3)
    (hstop : digits.length = 3 ∨ ∀ c ∈ rest.head?, isOctal c = false) :
    octalRun (digits ++ rest) = digits := by
  unfold octalRun
  rw [List.take_append, List.take_of_length_le hlen, List.takeWhile_append_of_pos hdigits]
  have hrest : (rest.take (3 - digits.length)).takeWhile isOctal = [] := by
    rcases hstop with h3 | hstop
    · rw [h3]
      rfl
    · cases rest with
      | nil => simp
      | cons c rest =>
        have hc := hstop c rfl
        cases 3 - digits.length <;> simp [hc]
  rw [hrest, List.append_nil]

theorem denotes_octal {n : Nat} {digits : List Char} (hread : readDigits 8 digits = some n)
    (hn : n < 256) (hdigits : ∀ c ∈ digits, isOctal c = true) (hlen : digits.length ≤ 3)
    {rest : List Char} (hstop : digits.length = 3 ∨ ∀ c ∈ rest.head?, isOctal c = false) :
    Denotes cEscapes ('\\' :: digits) [UInt8.ofNat n] rest := by
  have hsimple : ((digits ++ rest).head?.bind fun c => simpleEscapes.lookup c) = none := by
    cases digits with
    | nil => cases hread
    | cons c digits =>
      have hoctal := hdigits c List.mem_cons_self
      have hkeys : ∀ p ∈ simpleEscapes, isOctal p.1 = false := by decide
      show simpleEscapes.lookup c = none
      rw [List.lookup_eq_none_iff]
      intro p hp
      have hne : c ≠ p.1 := by
        rintro rfl
        rw [hkeys p hp] at hoctal
        cases hoctal
      simpa using hne
  refine denotes_escape ?_
  simp only [cEscapes, hsimple, octalRun_append hdigits hlen hstop, hread]
  simp [hn]

end Escaped
