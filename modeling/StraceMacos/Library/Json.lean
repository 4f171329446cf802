import StraceMacos.Library.JsonString

/-!
# JSON texts

JSON values, a writer that puts blanks behind commas and colons and uses ASCII only, and a reader of
JSON texts. What is written is read back, with any text behind it that does not continue a number.
-/

namespace Json

open Escaped Text

/-! ## Numbers -/

def isNumberChar (c : Char) : Bool :=
  c.isDigit || ['-', '+', '.', 'e', 'E'].contains c

/-- The text behind a run of digits, which is not empty. -/
def skipDigits : List Char → Option (List Char)
  | [] => none
  | c :: cs => if c.isDigit then some (cs.dropWhile Char.isDigit) else none

/-- A whole number: no zero in front of other digits. -/
def skipWhole : List Char → Option (List Char)
  | '0' :: cs => some cs
  | cs => skipDigits cs

def skipFraction : List Char → Option (List Char)
  | '.' :: cs => skipDigits cs
  | cs => some cs

def skipExponent : List Char → Option (List Char)
  | [] => some []
  | c :: cs =>
    if c = 'e' ∨ c = 'E' then
      skipDigits (if cs.head? = some '+' ∨ cs.head? = some '-' then cs.tail else cs)
    else some (c :: cs)

/-- A number of the JSON grammar. -/
def isNumber (cs : List Char) : Bool :=
  cs.all isNumberChar &&
    ((skipWhole (if cs.head? = some '-' then cs.tail else cs)).bind fun rest =>
      (skipFraction rest).bind skipExponent) == some []

/-- A number, by its text. -/
structure Number where
  text : List Char
  valid : isNumber text = true
  deriving DecidableEq

theorem isDigit_of_mem_decimal {n : Nat} : ∀ c ∈ Nat.toDigits 10 n, c.isDigit = true := by
  have hdigit : ∀ d < 10, d.digitChar.isDigit = true := by decide
  intro c hc
  obtain ⟨d, hd, rfl⟩ := isDigit_of_mem_toDigits (by omega) (by omega) hc
  exact hdigit d hd

theorem skipWhole_toDigits (n : Nat) : skipWhole (Nat.toDigits 10 n) = some [] := by
  rcases Nat.eq_zero_or_pos n with rfl | h
  · rfl
  · obtain ⟨c, cs, hcs, hc⟩ := head_toDigits_ne_zero h
    have hall : ∀ d ∈ c :: cs, d.isDigit = true := hcs ▸ isDigit_of_mem_decimal
    obtain ⟨hfirst, hrest⟩ := List.forall_mem_cons.mp hall
    rw [hcs, skipWhole.eq_2 _ (by simpa using hc), skipDigits, if_pos hfirst,
      List.dropWhile_eq_nil_iff.mpr hrest]

theorem isNumber_toDigits (n : Nat) : isNumber (Nat.toDigits 10 n) = true := by
  have hchars : ∀ c ∈ Nat.toDigits 10 n, isNumberChar c = true := fun c hc => by
    rw [isNumberChar, isDigit_of_mem_decimal c hc, Bool.true_or]
  have hsign : (Nat.toDigits 10 n).head? ≠ some '-' := fun hhead => by
    have hdigit := isDigit_of_mem_decimal _ (List.mem_of_mem_head? hhead)
    cases hdigit
  rw [isNumber, if_neg hsign, skipWhole_toDigits, List.all_eq_true.mpr hchars]
  rfl

theorem isNumber_neg_toDigits (n : Nat) : isNumber ('-' :: Nat.toDigits 10 n) = true := by
  have hchars : ∀ c ∈ '-' :: Nat.toDigits 10 n, isNumberChar c = true :=
    List.forall_mem_cons.mpr ⟨rfl, fun c hc => by
      rw [isNumberChar, isDigit_of_mem_decimal c hc, Bool.true_or]⟩
  rw [isNumber, List.head?_cons, if_pos rfl, List.tail_cons, skipWhole_toDigits,
    List.all_eq_true.mpr hchars]
  rfl

/-- The decimal numeral of an integer. -/
def Number.ofInt (i : Int) : Number where
  text := (toString i).toList
  valid := by
    cases i with
    | ofNat n =>
      have htext : (toString (Int.ofNat n)).toList = Nat.toDigits 10 n := String.toList_ofList
      rw [htext, isNumber_toDigits]
    | negSucc n =>
      have htext : (toString (Int.negSucc n)).toList = '-' :: Nat.toDigits 10 (n + 1) := by
        have happend : toString (Int.negSucc n) = "-" ++ numeral 10 (n + 1) := rfl
        rw [happend]
        simp [numeral]
      rw [htext, isNumber_neg_toDigits]

/-! ## Values -/

inductive Value where
  | null
  | bool (b : Bool)
  | str (s : String)
  | num (n : Number)
  | arr (items : List Value)
  | obj (members : List (String × Value))

/-- Induction over values: what holds of the items of a list or an object has to hold of it. -/
@[elab_as_elim]
theorem Value.induction {P : Value → Prop} (null : P .null) (bool : ∀ b, P (.bool b))
    (str : ∀ s, P (.str s)) (num : ∀ n, P (.num n))
    (arr : ∀ items, (∀ v ∈ items, P v) → P (.arr items))
    (obj : ∀ members : List (String × Value), (∀ m ∈ members, P m.2) → P (.obj members))
    (v : Value) : P v :=
  @Value.rec P (fun items => ∀ v ∈ items, P v) (fun members => ∀ m ∈ members, P m.2)
    (fun m => P m.2) null bool str num arr obj (fun _ h => nomatch h)
    (fun _ _ hv hvs => List.forall_mem_cons.mpr ⟨hv, hvs⟩) (fun _ h => nomatch h)
    (fun _ _ hm hms => List.forall_mem_cons.mpr ⟨hm, hms⟩) (fun _ _ hv => hv) v

mutual

/-- The text of a value. -/
def Value.dump : Value → List Char
  | .null => ['n', 'u', 'l', 'l']
  | .bool true => ['t', 'r', 'u', 'e']
  | .bool false => ['f', 'a', 'l', 's', 'e']
  | .str s => dumpString s
  | .num n => n.text
  | .arr items => '[' :: (dumpItems items ++ [']'])
  | .obj members => '\x7b' :: (dumpMembers members ++ ['\x7d'])

/-- The items of a list, with commas between them. -/
def dumpItems : List Value → List Char
  | [] => []
  | [v] => v.dump
  | v :: w :: vs => v.dump ++ ',' :: ' ' :: dumpItems (w :: vs)

/-- The members of an object, with commas between them. -/
def dumpMembers : List (String × Value) → List Char
  | [] => []
  | [(k, v)] => dumpString k ++ ':' :: ' ' :: v.dump
  | (k, v) :: m :: ms =>
    dumpString k ++ ':' :: ' ' :: (v.dump ++ ',' :: ' ' :: dumpMembers (m :: ms))

end

/-! ## The reader -/

/-- The white space of JSON. -/
def isBlank (c : Char) : Bool :=
  c = ' ' || c = '\t' || c = '\n' || c = '\r'

def skipBlanks (cs : List Char) : List Char :=
  cs.dropWhile isBlank

/-- The longest run of characters of numbers, if it is a number. -/
def readNumber (cs : List Char) : Option (Value × List Char) :=
  if h : isNumber (cs.takeWhile isNumberChar) = true then
    some (.num ⟨cs.takeWhile isNumberChar, h⟩, cs.dropWhile isNumberChar)
  else none

/-- One of the three words. -/
def readWord (cs : List Char) : Option (Value × List Char) :=
  match cs with
  | 'n' :: 'u' :: 'l' :: 'l' :: rest => some (.null, rest)
  | 't' :: 'r' :: 'u' :: 'e' :: rest => some (.bool true, rest)
  | 'f' :: 'a' :: 'l' :: 's' :: 'e' :: rest => some (.bool false, rest)
  | _ => none

def readString (cs : List Char) : Option (String × List Char) :=
  (readQuoted stringEscapes cs).map fun r => (String.ofList r.1, r.2)

mutual

/-- The value at the beginning of a text, and the text behind it; `n` bounds the depth and the
numbers of items. -/
def readValue : Nat → List Char → Option (Value × List Char)
  | 0, _ => none
  | n + 1, cs =>
    match skipBlanks cs with
    | [] => none
    | c :: cs =>
      if c = '"' then (readString (c :: cs)).map fun r => (.str r.1, r.2)
      else if c = '[' then
        if (skipBlanks cs).head? = some ']' then some (.arr [], (skipBlanks cs).tail)
        else (readItems n cs).map fun r => (.arr r.1, r.2)
      else if c = '\x7b' then
        if (skipBlanks cs).head? = some '\x7d' then some (.obj [], (skipBlanks cs).tail)
        else (readMembers n cs).map fun r => (.obj r.1, r.2)
      else if c = '-' ∨ c.isDigit then readNumber (c :: cs)
      else readWord (c :: cs)

/-- The items of a list up to its closing bracket. -/
def readItems : Nat → List Char → Option (List Value × List Char)
  | 0, _ => none
  | n + 1, cs =>
    match readValue n cs with
    | none => none
    | some (v, rest) =>
      match skipBlanks rest with
      | ',' :: rest => (readItems n rest).map fun r => (v :: r.1, r.2)
      | ']' :: rest => some ([v], rest)
      | _ => none

/-- The members of an object up to its closing brace. -/
def readMembers : Nat → List Char → Option (List (String × Value) × List Char)
  | 0, _ => none
  | n + 1, cs =>
    match readString (skipBlanks cs) with
    | none => none
    | some (k, rest) =>
      match skipBlanks rest with
      | ':' :: rest =>
        match readValue n rest with
        | none => none
        | some (v, rest) =>
          match skipBlanks rest with
          | ',' :: rest => (readMembers n rest).map fun r => ((k, v) :: r.1, r.2)
          | '\x7d' :: rest => some ([(k, v)], rest)
          | _ => none
      | _ => none

end

/-- The value of a whole text. -/
def parse (cs : List Char) : Option Value :=
  (readValue (cs.length + 1) cs).bind fun r => if skipBlanks r.2 = [] then some r.1 else none

/-! ## What is written is read -/

/-- The text does not continue a number. -/
def Stops (rest : List Char) : Prop :=
  ∀ c ∈ rest.head?, isNumberChar c = false

theorem stops_nil : Stops [] := by
  rintro c ⟨⟩

theorem stops_cons {c : Char} (h : isNumberChar c = false) (rest : List Char) :
    Stops (c :: rest) := by
  rintro d ⟨⟩
  exact h

/-- In front of a text that does not continue a number, the text of the value is read as the
value. -/
def Reads (v : Value) : Prop :=
  ∀ n rest, v.dump.length ≤ n → Stops rest → readValue n (v.dump ++ rest) = some (v, rest)

variable {v : Value} {n : Nat} {c : Char} {cs rest : List Char}

theorem skipBlanks_cons (h : isBlank c = false) : skipBlanks (c :: cs) = c :: cs :=
  List.dropWhile_cons_of_neg (by simp [h])

theorem skipBlanks_blank : skipBlanks (' ' :: cs) = skipBlanks cs :=
  List.dropWhile_cons_of_pos rfl

theorem readValue_blank : readValue n (' ' :: cs) = readValue n cs := by
  cases n with
  | zero => rfl
  | succ n => rw [readValue, readValue, skipBlanks_blank]

/-! ### Numbers -/

theorem Number.text_cases (m : Number) :
    ∃ c cs, m.text = c :: cs ∧ (c = '-' ∨ c.isDigit = true) := by
  obtain ⟨text, hvalid⟩ := m
  cases text with
  | nil => cases hvalid
  | cons c cs =>
    refine ⟨c, cs, rfl, ?_⟩
    by_cases hminus : c = '-'
    · exact .inl hminus
    · right
      by_contra hdigit
      have hzero : c ≠ '0' := by
        rintro rfl
        exact hdigit rfl
      have hhead : (c :: cs).head? ≠ some '-' := by simpa using hminus
      have hwhole : skipWhole (c :: cs) = none := by
        rw [skipWhole.eq_2 _ (by simpa using hzero), skipDigits, if_neg hdigit]
      rw [isNumber, if_neg hhead, hwhole] at hvalid
      simp at hvalid

theorem readNumber_append (m : Number) (hrest : Stops rest) :
    readNumber (m.text ++ rest) = some (.num m, rest) := by
  have hvalid := m.valid
  have hchars : ∀ c ∈ m.text, isNumberChar c = true := by
    rw [isNumber, Bool.and_eq_true] at hvalid
    exact List.all_eq_true.mp hvalid.1
  have htail : rest.takeWhile isNumberChar = [] ∧ rest.dropWhile isNumberChar = rest := by
    cases rest with
    | nil => exact ⟨rfl, rfl⟩
    | cons c rest =>
      have hc := hrest c rfl
      exact ⟨List.takeWhile_cons_of_neg (by simp [hc]), List.dropWhile_cons_of_neg (by simp [hc])⟩
  have htake : (m.text ++ rest).takeWhile isNumberChar = m.text := by
    rw [List.takeWhile_append_of_pos hchars, htail.1, List.append_nil]
  have hdrop : (m.text ++ rest).dropWhile isNumberChar = rest := by
    rw [List.dropWhile_append_of_pos hchars, htail.2]
  unfold readNumber
  simp only [htake, hdrop, m.valid, dite_true]

/-- The first character of a number. -/
theorem numberStart_ne (h : c = '-' ∨ c.isDigit = true) :
    isBlank c = false ∧ c ≠ '"' ∧ c ≠ '[' ∧ c ≠ ']' ∧ c ≠ '\x7b' := by
  rcases h with rfl | h
  · decide
  · refine ⟨?_, ?_, ?_, ?_, ?_⟩
    · simp only [isBlank, Bool.or_eq_false_iff, decide_eq_false_iff_not]
      refine ⟨⟨⟨?_, ?_⟩, ?_⟩, ?_⟩ <;> rintro rfl <;> cases h
    all_goals
      rintro rfl
      cases h

theorem reads_num (m : Number) : Reads (.num m) := by
  intro n rest hn hrest
  obtain ⟨c, cs, htext, hc⟩ := m.text_cases
  obtain ⟨hblank, hquote, hbracket, -, hbrace⟩ := numberStart_ne hc
  have hread := readNumber_append m hrest
  show readValue n (m.text ++ rest) = some (.num m, rest)
  replace hn : m.text.length ≤ n := hn
  rw [htext] at hn hread ⊢
  obtain ⟨n, rfl⟩ : ∃ k, n = k + 1 := ⟨n - 1, by rw [List.length_cons] at hn; omega⟩
  rw [List.cons_append] at hread ⊢
  rw [readValue, skipBlanks_cons hblank]
  simp only [if_neg hquote, if_neg hbracket, if_neg hbrace, if_pos hc, hread]

/-! ### Words and strings -/

/-- A text that begins with a letter is read as a word. -/
theorem readValue_word (hlower : c = 'n' ∨ c = 't' ∨ c = 'f') :
    readValue (n + 1) (c :: cs) = readWord (c :: cs) := by
  have hc : isBlank c = false ∧ c ≠ '"' ∧ c ≠ '[' ∧ c ≠ '\x7b' ∧
      ¬ (c = '-' ∨ c.isDigit = true) := by
    rcases hlower with rfl | rfl | rfl <;> decide
  obtain ⟨hblank, hquote, hbracket, hbrace, hnumber⟩ := hc
  rw [readValue, skipBlanks_cons hblank]
  simp only [if_neg hquote, if_neg hbracket, if_neg hbrace, if_neg hnumber]

theorem readString_dumpString (s : String) (rest : List Char) :
    readString (dumpString s ++ rest) = some (s, rest) := by
  rw [readString, readQuoted_dumpString, Option.map_some, String.ofList_toList]

theorem reads_str (s : String) : Reads (.str s) := by
  intro n rest hn _
  obtain ⟨n, rfl⟩ : ∃ k, n = k + 1 := ⟨n - 1, by
    have hpos : 0 < (Value.str s).dump.length := Nat.succ_pos _
    omega⟩
  have hread := readString_dumpString s rest
  have hhead : (Value.str s).dump ++ rest =
      '"' :: ((s.toList.flatMap dumpChar ++ ['"']) ++ rest) := rfl
  have htext : dumpString s ++ rest = '"' :: ((s.toList.flatMap dumpChar ++ ['"']) ++ rest) := rfl
  rw [hhead, readValue, skipBlanks_cons rfl]
  rw [htext] at hread
  simp only [if_true, hread, Option.map_some]

/-! ### Lists and objects -/

/-- The text of a value begins with a character that closes nothing. -/
theorem dump_cases (v : Value) : ∃ c cs, v.dump = c :: cs ∧ isBlank c = false ∧ c ≠ ']' := by
  cases v with
  | bool b => cases b <;> exact ⟨_, _, rfl, rfl, by decide⟩
  | num m =>
    obtain ⟨c, cs, htext, hc⟩ := m.text_cases
    exact ⟨c, cs, htext, (numberStart_ne hc).1, (numberStart_ne hc).2.2.2.1⟩
  | _ => exact ⟨_, _, rfl, rfl, by decide⟩

theorem readItems_blank : readItems n (' ' :: cs) = readItems n cs := by
  cases n with
  | zero => rfl
  | succ n => rw [readItems, readItems, readValue_blank]

theorem readItems_comma (h : readValue n cs = some (v, ',' :: rest)) :
    readItems (n + 1) cs = (readItems n rest).map fun r => (v :: r.1, r.2) := by
  rw [readItems, h]
  rfl

theorem readItems_close (h : readValue n cs = some (v, ']' :: rest)) :
    readItems (n + 1) cs = some ([v], rest) := by
  rw [readItems, h]
  rfl

theorem readItems_dumpItems {items : List Value} (hitems : ∀ v ∈ items, Reads v)
    (hne : items ≠ []) (hn : (dumpItems items).length < n) :
    readItems n (dumpItems items ++ ']' :: rest) = some (items, rest) := by
  induction items generalizing n with
  | nil => exact absurd rfl hne
  | cons v items ih =>
    obtain ⟨n, rfl⟩ : ∃ k, n = k + 1 := ⟨n - 1, by omega⟩
    obtain ⟨hv, hrest⟩ := List.forall_mem_cons.mp hitems
    cases items with
    | nil =>
      rw [dumpItems] at hn ⊢
      exact readItems_close (hv n (']' :: rest) (by omega) (stops_cons rfl rest))
    | cons w items =>
      rw [dumpItems, List.length_append, List.length_cons, List.length_cons] at hn
      rw [dumpItems, List.append_assoc, List.cons_append, List.cons_append,
        readItems_comma (hv n _ (by omega) (stops_cons rfl _)), readItems_blank,
        ih hrest (List.cons_ne_nil _ _) (by omega)]
      rfl

theorem reads_arr {items : List Value} (hitems : ∀ v ∈ items, Reads v) : Reads (.arr items) := by
  intro n rest hn _
  have htext : (Value.arr items).dump ++ rest = '[' :: (dumpItems items ++ ']' :: rest) := by
    simp [Value.dump]
  have hlen : (Value.arr items).dump.length = (dumpItems items).length + 2 := by
    simp [Value.dump]
  obtain ⟨n, rfl⟩ : ∃ k, n = k + 1 := ⟨n - 1, by omega⟩
  rw [htext, readValue, skipBlanks_cons rfl]
  simp only [if_true, if_neg (by decide : ¬ '[' = '"')]
  cases items with
  | nil => rfl
  | cons v items =>
    have hread : readItems n (dumpItems (v :: items) ++ ']' :: rest) = some (v :: items, rest) :=
      readItems_dumpItems hitems (List.cons_ne_nil v items) (by omega)
    have hhead : (skipBlanks (dumpItems (v :: items) ++ ']' :: rest)).head? ≠ some ']' := by
      obtain ⟨c, cs, hv, hblank, hc⟩ := dump_cases v
      have hcons : ∃ cs', dumpItems (v :: items) = c :: cs' := by
        cases items with
        | nil => exact ⟨cs, hv⟩
        | cons w items => exact ⟨_, by rw [dumpItems, hv]; rfl⟩
      obtain ⟨cs', hcs'⟩ := hcons
      rw [hcs', List.cons_append, skipBlanks_cons hblank]
      simpa using hc
    rw [if_neg hhead, hread]
    rfl

theorem readMembers_blank : readMembers n (' ' :: cs) = readMembers n cs := by
  cases n with
  | zero => rfl
  | succ n => rw [readMembers, readMembers, skipBlanks_blank]

theorem readString_key (k : String) (rest : List Char) :
    readString (skipBlanks (dumpString k ++ rest)) = some (k, rest) := by
  have hquote : skipBlanks (dumpString k ++ rest) = dumpString k ++ rest := skipBlanks_cons rfl
  rw [hquote, readString_dumpString]

theorem readMembers_comma {k : String} (h : readValue n cs = some (v, ',' :: rest)) :
    readMembers (n + 1) (dumpString k ++ ':' :: ' ' :: cs) =
      (readMembers n rest).map fun r => ((k, v) :: r.1, r.2) := by
  rw [← readValue_blank] at h
  rw [readMembers, readString_key]
  simp only [skipBlanks_cons (by rfl : isBlank ':' = false), h,
    skipBlanks_cons (by rfl : isBlank ',' = false)]

theorem readMembers_close {k : String} (h : readValue n cs = some (v, '\x7d' :: rest)) :
    readMembers (n + 1) (dumpString k ++ ':' :: ' ' :: cs) = some ([(k, v)], rest) := by
  rw [← readValue_blank] at h
  rw [readMembers, readString_key]
  simp only [skipBlanks_cons (by rfl : isBlank ':' = false), h,
    skipBlanks_cons (by rfl : isBlank '\x7d' = false)]

theorem readMembers_dumpMembers {members : List (String × Value)}
    (hmembers : ∀ m ∈ members, Reads m.2) (hne : members ≠ [])
    (hn : (dumpMembers members).length < n) :
    readMembers n (dumpMembers members ++ '\x7d' :: rest) = some (members, rest) := by
  induction members generalizing n with
  | nil => exact absurd rfl hne
  | cons m members ih =>
    obtain ⟨k, v⟩ := m
    obtain ⟨n, rfl⟩ : ∃ k, n = k + 1 := ⟨n - 1, by omega⟩
    obtain ⟨hv, hrest⟩ := List.forall_mem_cons.mp hmembers
    replace hv : Reads v := hv
    cases members with
    | nil =>
      rw [dumpMembers, List.length_append, List.length_cons, List.length_cons] at hn
      rw [dumpMembers, List.append_assoc, List.cons_append, List.cons_append]
      exact readMembers_close (hv n _ (by omega) (stops_cons rfl rest))
    | cons m members =>
      rw [dumpMembers, List.length_append, List.length_cons, List.length_cons, List.length_append,
        List.length_cons, List.length_cons] at hn
      rw [dumpMembers, List.append_assoc, List.cons_append, List.cons_append, List.append_assoc,
        List.cons_append, List.cons_append,
        readMembers_comma (hv n _ (by omega) (stops_cons rfl _)), readMembers_blank,
        ih hrest (List.cons_ne_nil _ _) (by omega)]
      rfl

theorem reads_obj {members : List (String × Value)} (hmembers : ∀ m ∈ members, Reads m.2) :
    Reads (.obj members) := by
  intro n rest hn _
  have htext : (Value.obj members).dump ++ rest =
      '\x7b' :: (dumpMembers members ++ '\x7d' :: rest) := by
    simp [Value.dump]
  have hlen : (Value.obj members).dump.length = (dumpMembers members).length + 2 := by
    simp [Value.dump]
  obtain ⟨n, rfl⟩ : ∃ k, n = k + 1 := ⟨n - 1, by omega⟩
  rw [htext, readValue, skipBlanks_cons rfl]
  simp only [if_true, if_neg (by decide : ¬ '\x7b' = '"'), if_neg (by decide : ¬ '\x7b' = '[')]
  cases members with
  | nil => rfl
  | cons m members =>
    have hread : readMembers n (dumpMembers (m :: members) ++ '\x7d' :: rest) =
        some (m :: members, rest) :=
      readMembers_dumpMembers hmembers (List.cons_ne_nil m members) (by omega)
    have hquote : ∃ cs, dumpMembers (m :: members) = '"' :: cs := by
      cases members <;> exact ⟨_, rfl⟩
    obtain ⟨cs, hcs⟩ := hquote
    have hhead : (skipBlanks (dumpMembers (m :: members) ++ '\x7d' :: rest)).head? ≠
        some '\x7d' := by
      rw [hcs, List.cons_append, skipBlanks_cons rfl, List.head?_cons]
      decide
    rw [if_neg hhead, hread]
    rfl

/-! ### All values -/

theorem reads_word {cs : List Char} (hword : ∀ rest, readWord (v.dump ++ rest) = some (v, rest))
    (hdump : v.dump = c :: cs) (hlower : c = 'n' ∨ c = 't' ∨ c = 'f') : Reads v := by
  intro n rest hn _
  rw [hdump] at hn
  obtain ⟨n, rfl⟩ : ∃ k, n = k + 1 := ⟨n - 1, by rw [List.length_cons] at hn; omega⟩
  have hread := hword rest
  rw [hdump, List.cons_append] at hread ⊢
  rw [readValue_word hlower, hread]

/-- **Every value is read back**, with any text behind it that does not continue a number. -/
theorem reads (v : Value) : Reads v := by
  induction v using Value.induction with
  | null => exact reads_word (fun _ => rfl) rfl (.inl rfl)
  | bool b =>
    cases b
    · exact reads_word (fun _ => rfl) rfl (.inr (.inr rfl))
    · exact reads_word (fun _ => rfl) rfl (.inr (.inl rfl))
  | str s => exact reads_str s
  | num m => exact reads_num m
  | arr items ih => exact reads_arr ih
  | obj members ih => exact reads_obj ih

theorem parse_dump (v : Value) : parse v.dump = some v := by
  have hread := reads v (v.dump.length + 1) [] (Nat.le_succ _) stops_nil
  rw [List.append_nil] at hread
  rw [parse, hread]
  rfl

/-! ## ASCII -/

theorem isGraphic_of_isNumberChar (h : isNumberChar c = true) : IsGraphic c := by
  rw [isNumberChar, Bool.or_eq_true] at h
  rcases h with h | h
  · rw [Char.isDigit, Bool.and_eq_true, decide_eq_true_iff, decide_eq_true_iff] at h
    have hlow : 48 ≤ c.toNat := UInt32.le_iff_toNat_le.mp h.1
    have hhigh : c.toNat ≤ 57 := UInt32.le_iff_toNat_le.mp h.2
    exact ⟨by omega, by omega⟩
  · have hall : Graphic ['-', '+', '.', 'e', 'E'] := by decide
    exact hall c (List.contains_iff_mem.mp h)

theorem graphic_number (m : Number) : Graphic m.text := by
  have hvalid := m.valid
  rw [isNumber, Bool.and_eq_true] at hvalid
  exact fun c hc => isGraphic_of_isNumberChar (List.all_eq_true.mp hvalid.1 c hc)

theorem graphic_dumpItems {items : List Value} (h : ∀ v ∈ items, Graphic v.dump) :
    Graphic (dumpItems items) := by
  induction items with
  | nil => exact List.forall_mem_nil _
  | cons v items ih =>
    obtain ⟨hv, hrest⟩ := List.forall_mem_cons.mp h
    cases items with
    | nil => exact hv
    | cons w items =>
      rw [dumpItems, graphic_append, graphic_cons, graphic_cons]
      exact ⟨hv, by decide, by decide, ih hrest⟩

theorem graphic_dumpMembers {members : List (String × Value)}
    (h : ∀ m ∈ members, Graphic m.2.dump) : Graphic (dumpMembers members) := by
  induction members with
  | nil => exact List.forall_mem_nil _
  | cons m members ih =>
    obtain ⟨k, v⟩ := m
    obtain ⟨hv, hrest⟩ := List.forall_mem_cons.mp h
    cases members with
    | nil =>
      rw [dumpMembers, graphic_append, graphic_cons, graphic_cons]
      exact ⟨graphic_dumpString k, by decide, by decide, hv⟩
    | cons m members =>
      rw [dumpMembers, graphic_append, graphic_cons, graphic_cons, graphic_append, graphic_cons,
        graphic_cons]
      exact ⟨graphic_dumpString k, by decide, by decide, hv, by decide, by decide, ih hrest⟩

/-- **The text of every value is one line of ASCII.** -/
theorem graphic_dump (v : Value) : Graphic v.dump := by
  induction v using Value.induction with
  | null => exact (by decide : Graphic ['n', 'u', 'l', 'l'])
  | bool b =>
    cases b
    · exact (by decide : Graphic ['f', 'a', 'l', 's', 'e'])
    · exact (by decide : Graphic ['t', 'r', 'u', 'e'])
  | str s => exact graphic_dumpString s
  | num m => exact graphic_number m
  | arr items ih =>
    rw [Value.dump, graphic_cons, graphic_append]
    exact ⟨by decide, graphic_dumpItems ih, by decide⟩
  | obj members ih =>
    rw [Value.dump, graphic_cons, graphic_append]
    exact ⟨by decide, graphic_dumpMembers ih, by decide⟩

end Json
