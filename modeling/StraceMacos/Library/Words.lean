import StraceMacos.Library.Numeral

/-!
# Words of a line

The words between the spaces of a line, and decimal numbers as words. Columns that are padded with
spaces are read back as words. A line is also cut at the first or at the last place of a character.
-/

namespace Text

/-- The texts between spaces that are not empty. -/
def words (s : String) : List String :=
  (split ' ' s).filter (! ·.isEmpty)

/-- A text that is one word and nothing else. -/
def IsWord (s : String) : Prop :=
  s.isEmpty = false ∧ ' ' ∉ s.toList

/-- The value of a decimal number. -/
def readNat (s : String) : Option Nat :=
  readDigits 10 s.toList

variable {s t : String}

theorem split_append (c : Char) (s t : String) :
    split c (s ++ String.ofList [c] ++ t) = split c s ++ split c t := by
  have hlist : (s ++ String.ofList [c] ++ t).toList = s.toList ++ c :: t.toList := by simp
  rw [split, hlist, List.splitOn_append_cons_self, List.map_append, split, split]

/-- Joined texts are what stands between the separators. -/
theorem split_join {c : Char} {l : List String} (hne : l ≠ []) (h : ∀ s ∈ l, c ∉ s.toList) :
    split c (join (String.ofList [c]) l) = l := by
  rw [split, join, String.toList_ofList, String.toList_ofList,
    List.splitOn_intercalate c (by simpa using h) (by simpa using hne)]
  simp

@[simp] theorem words_append (s t : String) : words (s ++ " " ++ t) = words s ++ words t := by
  rw [words, words, words, ← List.filter_append, ← split_append]

theorem words_empty : words "" = [] := rfl

theorem words_of_isWord (h : IsWord s) : words s = [s] := by
  rw [words, split_of_not_mem h.2, List.filter_cons_of_pos (by simp [h.1]), List.filter_nil]

/-- Padding adds no word. -/
@[simp] theorem words_padLeft (w : Nat) (s : String) : words (padLeft w ' ' s) = words s := by
  unfold padLeft
  induction w - s.toList.length with
  | zero => simp
  | succ n ih =>
    have hcons : String.ofList (List.replicate (n + 1) ' ') ++ s =
        "" ++ " " ++ (String.ofList (List.replicate n ' ') ++ s) := by
      apply String.toList_injective
      simp [List.replicate_succ]
    rw [hcons, words_append, ih, words_empty, List.nil_append]

theorem toList_toString_nat (n : Nat) : (toString n).toList = Nat.toDigits 10 n :=
  String.toList_ofList

theorem readNat_toString (n : Nat) : readNat (toString n) = some n := by
  rw [readNat, toList_toString_nat, readDigits_toDigits (by omega) (by omega)]

theorem isWord_toString_nat (n : Nat) : IsWord (toString n) := by
  constructor
  · have hread := readNat_toString n
    cases hempty : (toString n).isEmpty with
    | false => rfl
    | true =>
      rw [String.isEmpty_iff.mp hempty] at hread
      cases hread
  · rw [toList_toString_nat]
    intro h
    obtain ⟨d, hd, hc⟩ := isDigit_of_mem_toDigits (by omega : 1 < 10) (by omega) h
    have hne : ∀ d < 10, Nat.digitChar d ≠ ' ' := by decide
    exact hne d hd hc.symm

/-! ## Cutting at a character -/

/-- The text before the first `c`. -/
def before (c : Char) (s : String) : String :=
  String.ofList (s.toList.takeWhile (· != c))

/-- The text behind the first `c`. -/
def behind (c : Char) (s : String) : String :=
  String.ofList ((s.toList.dropWhile (· != c)).drop 1)

/-- The text before the last `c`. -/
def beforeLast (c : Char) (s : String) : String :=
  String.ofList ((s.toList.reverse.dropWhile (· != c)).drop 1).reverse

/-- The text behind the last `c`. -/
def behindLast (c : Char) (s : String) : String :=
  String.ofList (s.toList.reverse.takeWhile (· != c)).reverse

section Cutting

variable {c : Char}

theorem forall_ne_of_not_mem {cs : List Char} (h : c ∉ cs) : ∀ d ∈ cs, (d != c) = true :=
  fun _ hd => bne_iff_ne.mpr (ne_of_mem_of_not_mem hd h)

theorem toList_append_mark (c : Char) (s t : String) :
    (s ++ String.ofList [c] ++ t).toList = s.toList ++ c :: t.toList := by
  simp

theorem before_append (h : c ∉ s.toList) : before c (s ++ String.ofList [c] ++ t) = s := by
  rw [before, toList_append_mark, List.takeWhile_append_of_pos (forall_ne_of_not_mem h),
    List.takeWhile_cons_of_neg (by simp), List.append_nil, String.ofList_toList]

theorem behind_append (h : c ∉ s.toList) : behind c (s ++ String.ofList [c] ++ t) = t := by
  rw [behind, toList_append_mark, List.dropWhile_append_of_pos (forall_ne_of_not_mem h),
    List.dropWhile_cons_of_neg (by simp), List.drop_one, List.tail_cons, String.ofList_toList]

theorem beforeLast_append (h : c ∉ t.toList) :
    beforeLast c (s ++ String.ofList [c] ++ t) = s := by
  have hne := forall_ne_of_not_mem (fun hmem => h (List.mem_reverse.mp hmem))
  rw [beforeLast, toList_append_mark, List.reverse_append, List.reverse_cons, List.append_assoc,
    List.dropWhile_append_of_pos hne, List.singleton_append, List.dropWhile_cons_of_neg (by simp),
    List.drop_one, List.tail_cons, List.reverse_reverse, String.ofList_toList]

theorem behindLast_append (h : c ∉ t.toList) :
    behindLast c (s ++ String.ofList [c] ++ t) = t := by
  have hne := forall_ne_of_not_mem (fun hmem => h (List.mem_reverse.mp hmem))
  rw [behindLast, toList_append_mark, List.reverse_append, List.reverse_cons, List.append_assoc,
    List.takeWhile_append_of_pos hne, List.singleton_append, List.takeWhile_cons_of_neg (by simp),
    List.append_nil, List.reverse_reverse, String.ofList_toList]

end Cutting

end Text
