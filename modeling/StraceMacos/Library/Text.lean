import Mathlib.Data.List.DropRight
import Mathlib.Data.Int.Bitwise

/-!
# Text operations on strings

The string operations a scripting language offers: stripping a character from one end, prefix
tests, splitting at a separator, numerals in a base, padding. All of them are computed on the
character list of a string, so that they reduce in the kernel.
-/

namespace Text

/-- `s` without its leading characters `c`. -/
def lstrip (c : Char) (s : String) : String :=
  String.ofList (s.toList.dropWhile (· == c))

/-- `s` without its trailing characters `c`. -/
def rstrip (c : Char) (s : String) : String :=
  String.ofList (s.toList.rdropWhile (· == c))

/-- Whether `p` is a prefix of `s`. -/
def startsWith (s p : String) : Bool :=
  p.toList.isPrefixOf s.toList

/-- The pieces of `s` between occurrences of `c`; never empty. -/
def split (c : Char) (s : String) : List String :=
  (s.toList.splitOn c).map String.ofList

/-- `s` with every character `c` replaced by the text `t`. -/
def replaceChar (c : Char) (t : String) (s : String) : String :=
  String.ofList (s.toList.flatMap fun d => if d = c then t.toList else [d])

/-- The digits of `n` in base `b`. -/
def numeral (b n : Nat) : String :=
  String.ofList (Nat.toDigits b n)

/-- Lower-case hexadecimal digits of `n`. -/
def hex (n : Nat) : String := numeral 16 n

/-- Octal digits of `n`. -/
def oct (n : Nat) : String := numeral 8 n

/-- Digits of an integer in base `b`, with a minus sign in front when it is negative. -/
def signedNumeral (b : Nat) : Int → String
  | .ofNat n => numeral b n
  | .negSucc n => "-" ++ numeral b (n + 1)

/-- `n` as `0x…`. -/
def hex0x (n : Nat) : String := "0x" ++ hex n

/-- `s` padded on the left with `c` to at least `w` characters. -/
def padLeft (w : Nat) (c : Char) (s : String) : String :=
  String.ofList (List.replicate (w - s.toList.length) c) ++ s

/-- The elements of `l` with `sep` between them. -/
def join (sep : String) (l : List String) : String :=
  String.ofList (List.intercalate sep.toList (l.map String.toList))

/-- Bitwise and of two integers in two's complement. -/
def band (a b : Int) : Int := Int.land a b

/-- `a` with the bits of `b` cleared, in two's complement. -/
def bandNot (a b : Int) : Int := Int.land a (Int.lnot b)

/-! ## Prefixes and stripping -/

theorem startsWith_iff {s p : String} : startsWith s p = true ↔ p.toList <+: s.toList := by
  simp [startsWith]

/-- Stripping leaves a string alone when it does not begin with the character. -/
theorem lstrip_of_not_startsWith {c : Char} {s : String}
    (h : startsWith s (String.ofList [c]) = false) : lstrip c s = s := by
  unfold lstrip
  cases hs : s.toList with
  | nil =>
    have : s = String.ofList [] := by rw [← hs, String.ofList_toList]
    rw [this]
    rfl
  | cons d ds =>
    have hd : (d == c) = false := by
      by_contra hc
      simp only [Bool.not_eq_false, beq_iff_eq] at hc
      rw [startsWith, hs, hc] at h
      simp [List.isPrefixOf] at h
    rw [List.dropWhile_cons_of_neg (by simp [hd]), ← hs, String.ofList_toList]

/-- What is left after stripping does not begin with the character. -/
theorem startsWith_lstrip (c : Char) (s : String) :
    startsWith (lstrip c s) (String.ofList [c]) = false := by
  unfold startsWith lstrip
  rw [String.toList_ofList, String.toList_ofList]
  cases h : s.toList.dropWhile (· == c) with
  | nil => rfl
  | cons d ds =>
    have hd : ¬ (d == c) = true := by
      have := List.head_dropWhile_not (· == c) (l := s.toList) (by simp [h])
      simpa [h] using this
    simp only [List.isPrefixOf, Bool.and_true]
    simp only [beq_iff_eq] at hd
    exact beq_false_of_ne fun e => hd e.symm

/-- Stripping removes a doubled prefix of the stripped character. -/
theorem lstrip_doubled (c : Char) (s : String) :
    lstrip c (String.ofList [c, c] ++ s) = lstrip c s := by
  unfold lstrip
  rw [String.toList_append, String.toList_ofList]
  simp

theorem startsWith_append (p s : String) : startsWith (p ++ s) p = true := by
  rw [startsWith_iff, String.toList_append]
  exact List.prefix_append _ _

/-- A text joined from pieces of which the first is not empty is not empty. -/
theorem isEmpty_join_cons (sep : String) {s : String} (l : List String)
    (h : s.isEmpty = false) : (join sep (s :: l)).isEmpty = false := by
  have hs : s.toList ≠ [] := by
    intro hnil
    have : s = "" := by rw [← String.ofList_toList (s := s), hnil]
    rw [this] at h
    cases h
  have hjoin : (join sep (s :: l)).toList ≠ [] := by
    cases l <;> simp [join, hs]
  cases hempty : (join sep (s :: l)).isEmpty with
  | false => rfl
  | true =>
    rw [String.isEmpty_iff] at hempty
    exact absurd (by rw [hempty]; rfl) hjoin

/-- A string without the separator is its own only piece. -/
theorem split_of_not_mem {c : Char} {s : String} (h : c ∉ s.toList) : split c s = [s] := by
  have : s.toList.splitOn c = [s.toList] := List.splitOn_eq_singleton h
  rw [split, this]
  simp

/-! ## Joined texts -/

theorem toList_join_empty (l : List String) : (join "" l).toList = l.flatMap String.toList := by
  unfold join
  rw [String.toList_ofList, List.flatMap_def]
  induction l.map String.toList with
  | nil => rfl
  | cons cs l ih =>
    cases l with
    | nil => simp
    | cons cs' l =>
      rw [List.intercalate_cons_cons, ih, String.toList_empty, List.append_nil]
      rfl

theorem join_singleton (sep s : String) : join sep [s] = s := by
  simp [join]

theorem join_pair (sep s t : String) : join sep [s, t] = s ++ sep ++ t := by
  apply String.toList_injective
  simp [join]

theorem join_append (l l' : List String) : join "" (l ++ l') = join "" l ++ join "" l' := by
  apply String.toList_injective
  simp [toList_join_empty]

theorem flatMap_intercalate {α β : Type} (f : α → List β) (sep : List α) (l : List (List α)) :
    (List.intercalate sep l).flatMap f =
      List.intercalate (sep.flatMap f) (l.map (List.flatMap f)) := by
  induction l with
  | nil => rfl
  | cons xs l ih =>
    cases l with
    | nil => simp
    | cons ys l =>
      rw [List.intercalate_cons_cons, List.flatMap_append, List.flatMap_append, ih, List.map_cons,
        List.map_cons, List.map_cons, List.intercalate_cons_cons]

/-- A list of texts in which a list of texts stands between the others. -/
theorem join_intercalate (sep : List String) (l : List (List String)) :
    join "" (List.intercalate sep l) = join (join "" sep) (l.map (join "")) := by
  have hpieces : (l.map (join "")).map String.toList = l.map (List.flatMap String.toList) := by
    simp [toList_join_empty]
  apply String.toList_injective
  rw [toList_join_empty, flatMap_intercalate, join, String.toList_ofList, toList_join_empty,
    hpieces]

/-- A character that is not in the separator is in one of the joined texts. -/
theorem mem_join_iff {c : Char} {sep : String} (hsep : c ∉ sep.toList) (l : List String) :
    c ∈ (join sep l).toList ↔ ∃ s ∈ l, c ∈ s.toList := by
  unfold join
  rw [String.toList_ofList]
  induction l with
  | nil => simp
  | cons s l ih =>
    cases l with
    | nil => simp
    | cons t l =>
      rw [List.map_cons, List.map_cons, List.intercalate_cons_cons, List.mem_append,
        List.mem_append, ← List.map_cons, ih]
      simp [hsep]

theorem append_cons_inj {α : Type} {c : α} {s s' t t' : List α} (hs : c ∉ s) (hs' : c ∉ s')
    (h : s ++ c :: t = s' ++ c :: t') : s = s' ∧ t = t' := by
  induction s generalizing s' with
  | nil =>
    cases s' with
    | nil => simpa using h
    | cons d s' => exact absurd (by simpa using (List.cons.inj h).1) (List.ne_of_not_mem_cons hs')
  | cons d s ih =>
    cases s' with
    | nil => exact absurd (by simpa using (List.cons.inj h).1.symm) (List.ne_of_not_mem_cons hs)
    | cons d' s' =>
      obtain ⟨rfl, htail⟩ := List.cons.inj h
      obtain ⟨rfl, ht⟩ :=
        ih (List.not_mem_of_not_mem_cons hs) (List.not_mem_of_not_mem_cons hs') htail
      exact ⟨rfl, ht⟩

/-- Lists are determined by what joins them when the separator begins with a foreign element. -/
theorem intercalate_inj {α : Type} {c : α} {sep : List α} {l l' : List (List α)}
    (hlen : l.length = l'.length) (h : ∀ s ∈ l, c ∉ s) (h' : ∀ s ∈ l', c ∉ s)
    (heq : List.intercalate (c :: sep) l = List.intercalate (c :: sep) l') : l = l' := by
  induction l generalizing l' with
  | nil => exact (List.length_eq_zero_iff.mp hlen.symm).symm
  | cons s l ih =>
    obtain ⟨s', l', rfl⟩ := List.exists_cons_of_length_eq_add_one hlen.symm
    have htails : l.length = l'.length := Nat.succ.inj hlen
    cases l with
    | nil =>
      obtain rfl := List.length_eq_zero_iff.mp htails.symm
      simpa [List.intercalate] using heq
    | cons t l =>
      obtain ⟨t', l', rfl⟩ := List.exists_cons_of_length_eq_add_one htails.symm
      rw [List.intercalate_cons_cons, List.intercalate_cons_cons, List.append_assoc,
        List.append_assoc, List.cons_append, List.cons_append] at heq
      obtain ⟨rfl, hrest⟩ := append_cons_inj (h s List.mem_cons_self) (h' s' List.mem_cons_self) heq
      rw [ih htails (fun u hu => h u (List.mem_cons_of_mem _ hu))
        (fun u hu => h' u (List.mem_cons_of_mem _ hu)) (List.append_cancel_left hrest)]

theorem join_inj {c : Char} {sep : List Char} {l l' : List String} (hlen : l.length = l'.length)
    (h : ∀ s ∈ l, c ∉ s.toList) (h' : ∀ s ∈ l', c ∉ s.toList)
    (heq : join (String.ofList (c :: sep)) l = join (String.ofList (c :: sep)) l') : l = l' := by
  have hlists : l.map String.toList = l'.map String.toList := by
    have heq := String.ofList_injective heq
    rw [String.toList_ofList] at heq
    exact intercalate_inj (by simpa using hlen) (by simpa using h) (by simpa using h') heq
  exact List.map_injective_iff.mpr (fun _ _ => String.toList_injective) hlists

/-- Lists of texts that are not empty and lack the separator are determined by what joins them. -/
theorem join_char_inj {c : Char} {l l' : List String}
    (h : ∀ s ∈ l, s.isEmpty = false ∧ c ∉ s.toList)
    (h' : ∀ s ∈ l', s.isEmpty = false ∧ c ∉ s.toList)
    (heq : join (String.ofList [c]) l = join (String.ofList [c]) l') : l = l' := by
  have hempty {s : String} {l : List String} (hs : ∀ t ∈ s :: l, t.isEmpty = false ∧ c ∉ t.toList) :
      join (String.ofList [c]) (s :: l) ≠ join (String.ofList [c]) [] := by
    intro heq
    have hne := isEmpty_join_cons (String.ofList [c]) l (hs s List.mem_cons_self).1
    rw [heq] at hne
    cases hne
  have hsplit {l : List String} (hne : l ≠ []) (hl : ∀ s ∈ l, s.isEmpty = false ∧ c ∉ s.toList) :
      (join (String.ofList [c]) l).toList.splitOn c = l.map String.toList := by
    rw [join, String.toList_ofList, String.toList_ofList,
      List.splitOn_intercalate c (by simpa using fun s hs => (hl s hs).2) (by simpa using hne)]
  cases l with
  | nil =>
    cases l' with
    | nil => rfl
    | cons t l' => exact absurd heq.symm (hempty h')
  | cons s l =>
    cases l' with
    | nil => exact absurd heq (hempty h)
    | cons t l' =>
      have hlists := hsplit (List.cons_ne_nil s l) h
      rw [heq, hsplit (List.cons_ne_nil t l') h'] at hlists
      exact List.map_injective_iff.mpr (fun _ _ => String.toList_injective) hlists.symm

/-! ## Lines -/

/-- Lines without newlines are what stands between the newlines that end them. -/
theorem split_lines {lines : List String} (h : ∀ line ∈ lines, '\n' ∉ line.toList) :
    split '\n' (join "" (lines.map fun line => line ++ "\n")) = lines ++ [""] := by
  have hjoin : (join "" (lines.map fun line => line ++ "\n")).toList =
      List.intercalate ['\n'] (lines.map String.toList ++ [[]]) := by
    rw [toList_join_empty]
    induction lines with
    | nil => rfl
    | cons line lines ih =>
      have htail := ih fun l hl => h l (List.mem_cons_of_mem line hl)
      rw [List.map_cons, List.flatMap_cons, htail, String.toList_append, List.map_cons,
        List.cons_append]
      cases lines <;> simp [List.intercalate_cons_cons]
  have hpieces : ∀ l ∈ lines.map String.toList ++ [[]], '\n' ∉ l := by
    rw [List.forall_mem_append, List.forall_mem_map]
    exact ⟨h, by simp⟩
  rw [split, hjoin, List.splitOn_intercalate '\n' hpieces (by simp)]
  simp

end Text
