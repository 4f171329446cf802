import StraceMacos.Library.CImage

/-!
# Bitmaps

A set of small numbers as the bits of a sequence of machine words: number `i` is bit `i mod w` of
word `i div w`. Inserting a number sets its bit and no other, and going through the words and their
bits lists the numbers in increasing order.
-/

namespace Bitmap

variable {w : Nat} {words : List (BitVec w)} {i j : Nat}

/-- Whether the bit of a number is set. -/
def isSet (words : List (BitVec w)) (i : Nat) : Bool :=
  words[i / w]?.any fun word => word.getLsbD (i % w)

/-- The bitmap with the bit of one more number. -/
def insert (words : List (BitVec w)) (i : Nat) : List (BitVec w) :=
  words.modify (i / w) (· ||| BitVec.twoPow w (i % w))

/-- The bitmap of `n` words with the bits of the given numbers. -/
def ofList (w n : Nat) (l : List Nat) : List (BitVec w) :=
  l.foldl insert (List.replicate n 0)

@[simp] theorem length_insert : (insert words i).length = words.length :=
  List.length_modify ..

/-- A number is in the bitmap after another has been inserted if it is that one or was there. -/
theorem isSet_insert (hi : i < w * words.length) :
    isSet (insert words i) j = (j == i || isSet words j) := by
  have hw : 0 < w := Nat.pos_of_mul_pos_right (by omega : 0 < w * words.length)
  have hword : i / w < words.length := Nat.div_lt_of_lt_mul hi
  have hbit : i % w < w := Nat.mod_lt _ hw
  unfold isSet insert
  by_cases hsame : j / w = i / w
  · have hiff : i % w = j % w ↔ j = i := by
      refine ⟨fun h => ?_, fun h => by rw [h]⟩
      rw [← Nat.div_add_mod j w, ← Nat.div_add_mod i w, hsame, h]
    rw [hsame, List.getElem?_modify_eq, List.getElem?_eq_getElem hword]
    simp only [Option.map_eq_map, Option.map_some, Option.any_some, BitVec.getLsbD_or,
      BitVec.getLsbD_twoPow, hbit, decide_true, Bool.true_and, hiff]
    rw [Bool.or_comm, Bool.beq_eq_decide_eq]
  · have hne : j ≠ i := fun h => hsame (by rw [h])
    rw [List.getElem?_modify_ne _ _ (Ne.symm hsame)]
    simp [hne]

theorem isSet_foldl_insert {l : List Nat} (h : ∀ i ∈ l, i < w * words.length) :
    isSet (l.foldl insert words) j = (l.contains j || isSet words j) := by
  induction l generalizing words with
  | nil => simp
  | cons i l ih =>
    obtain ⟨hi, hl⟩ := List.forall_mem_cons.mp h
    rw [List.foldl_cons, ih (by simpa using hl), isSet_insert hi, List.contains_cons]
    cases (j == i) <;> simp

/-- The bits of a bitmap are those that have been set. -/
theorem isSet_ofList {n : Nat} {l : List Nat} (h : ∀ i ∈ l, i < w * n) :
    isSet (ofList w n l) j = l.contains j := by
  have hempty : isSet (List.replicate n (0 : BitVec w)) j = false := by
    unfold isSet
    by_cases hj : j / w < n <;> simp [hj]
  rw [ofList, isSet_foldl_insert (by simpa using h), hempty, Bool.or_false]

theorem length_ofList {n : Nat} {l : List Nat} : (ofList w n l).length = n := by
  have hfold (words : List (BitVec w)) : (l.foldl insert words).length = words.length := by
    induction l generalizing words with
    | nil => rfl
    | cons i l ih => rw [List.foldl_cons, ih, length_insert]
  rw [ofList, hfold, List.length_replicate]

/-- Going through words and their bits goes through all numbers in order. -/
theorem flatMap_filter_range (p : Nat → Bool) (n k : Nat) :
    ((List.range n).flatMap fun i =>
      ((List.range k).filter fun b => p (i * k + b)).map fun b => i * k + b) =
      (List.range (n * k)).filter p := by
  induction n with
  | zero => simp
  | succ n ih =>
    rw [List.range_succ, List.flatMap_append, ih, Nat.succ_mul, List.range_add, List.filter_append,
      List.filter_map]
    simp [Function.comp_def]

end Bitmap
