import StraceMacos.Library.Text

/-!
# Unions of bit masks

Integers in two's complement as sets of bits: which masks meet a value, which lie within it, and
when the masks that meet a value make it up.
-/

namespace BitMask

open Text (band bandNot)

variable {a b m v : Int} {masks : List Int}

theorem eq_of_testBit_eq (h : ∀ i, a.testBit i = b.testBit i) : a = b := by
  -- The bits of a nonnegative number end, those of a negative one do not.
  have hends (m n : Nat) : ¬ ∀ i, m.testBit i = !n.testBit i := by
    intro h
    have hi := h (m + n)
    rw [Nat.testBit_lt_two_pow (Nat.lt_of_le_of_lt (Nat.le_add_right m n) Nat.lt_two_pow_self),
      Nat.testBit_lt_two_pow (Nat.lt_of_le_of_lt (Nat.le_add_left n m) Nat.lt_two_pow_self)] at hi
    cases hi
  cases a with
  | ofNat m =>
    cases b with
    | ofNat n => exact congrArg Int.ofNat (Nat.eq_of_testBit_eq h)
    | negSucc n => exact absurd h (hends m n)
  | negSucc m =>
    cases b with
    | ofNat n => exact absurd (fun i => (h i).symm) (hends n m)
    | negSucc n =>
      refine congrArg Int.negSucc (Nat.eq_of_testBit_eq fun i => ?_)
      exact Bool.not_inj (h i)

@[simp] theorem testBit_band (a b : Int) (i : Nat) :
    (band a b).testBit i = (a.testBit i && b.testBit i) :=
  Int.testBit_land a b i

@[simp] theorem testBit_bandNot (a b : Int) (i : Nat) :
    (bandNot a b).testBit i = (a.testBit i && !b.testBit i) := by
  unfold bandNot
  rw [Int.testBit_land, Int.testBit_lnot]

@[simp] theorem testBit_zero (i : Nat) : (0 : Int).testBit i = false :=
  Nat.zero_testBit i

@[simp] theorem testBit_natCast (n i : Nat) : (n : Int).testBit i = n.testBit i := rfl

theorem band_eq_zero_iff : band a b = 0 ↔ ∀ i, a.testBit i = true → b.testBit i = false := by
  constructor
  · intro h i ha
    have hi := congrArg (Int.testBit · i) h
    simpa [ha] using hi
  · intro h
    refine eq_of_testBit_eq fun i => ?_
    rw [testBit_band, testBit_zero]
    cases ha : a.testBit i with
    | false => rfl
    | true => simpa using h i ha

theorem bandNot_eq_zero_iff :
    bandNot a b = 0 ↔ ∀ i, a.testBit i = true → b.testBit i = true := by
  constructor
  · intro h i ha
    have hi := congrArg (Int.testBit · i) h
    simpa [ha] using hi
  · intro h
    refine eq_of_testBit_eq fun i => ?_
    rw [testBit_bandNot, testBit_zero]
    cases ha : a.testBit i with
    | false => rfl
    | true => simp [h i ha]

/-- A mask has only bits of a value. -/
theorem band_eq_right_iff : band v m = m ↔ ∀ i, m.testBit i = true → v.testBit i = true := by
  constructor
  · intro h i hm
    have hi := congrArg (Int.testBit · i) h
    simpa [hm] using hi
  · intro h
    refine eq_of_testBit_eq fun i => ?_
    rw [testBit_band]
    cases hm : m.testBit i with
    | false => simp
    | true => simp [h i hm]

/-! ## Unions -/

/-- The bits of all masks together. -/
def union (masks : List Int) : Int :=
  masks.foldl Int.lor 0

theorem testBit_foldl_lor (masks : List Int) (v : Int) (i : Nat) :
    (masks.foldl Int.lor v).testBit i = (v.testBit i || masks.any (·.testBit i)) := by
  induction masks generalizing v with
  | nil => simp
  | cons m masks ih => rw [List.foldl_cons, ih, Int.testBit_lor, List.any_cons, Bool.or_assoc]

@[simp] theorem testBit_union (masks : List Int) (i : Nat) :
    (union masks).testBit i = masks.any (·.testBit i) := by
  rw [union, testBit_foldl_lor, testBit_zero, Bool.false_or]

@[simp] theorem testBit_foldl_bandNot (masks : List Int) (v : Int) (i : Nat) :
    (masks.foldl bandNot v).testBit i = (v.testBit i && !masks.any (·.testBit i)) := by
  induction masks generalizing v with
  | nil => simp
  | cons m masks ih =>
    rw [List.foldl_cons, ih, testBit_bandNot, List.any_cons, Bool.not_or, Bool.and_assoc]

/-- Masks whose clearing leaves nothing of a value cover it. -/
theorem covered_of_foldl_bandNot (h : masks.foldl bandNot v = 0) (i : Nat)
    (hi : v.testBit i = true) : ∃ m ∈ masks, m.testBit i = true := by
  have hbit := congrArg (Int.testBit · i) h
  simpa only [testBit_foldl_bandNot, hi, Bool.true_and, testBit_zero, Bool.not_eq_false',
    List.any_eq_true] using hbit

/-- The masks that meet a value. -/
def meeting (masks : List Int) (v : Int) : List Int :=
  masks.filter (band v · ≠ 0)

theorem mem_meeting : m ∈ meeting masks v ↔ m ∈ masks ∧ band v m ≠ 0 := by
  simp [meeting]

/-- Masks within a value have just its bits when they cover it. -/
theorem union_eq_iff (h : ∀ m ∈ masks, band v m = m) :
    union masks = v ↔ ∀ i, v.testBit i = true → ∃ m ∈ masks, m.testBit i = true := by
  constructor
  · intro hunion i hi
    rwa [← hunion, testBit_union, List.any_eq_true] at hi
  · intro hcovered
    refine eq_of_testBit_eq fun i => ?_
    rw [testBit_union, Bool.eq_iff_iff, List.any_eq_true]
    constructor
    · rintro ⟨m, hm, hi⟩
      exact band_eq_right_iff.mp (h m hm) i hi
    · exact hcovered i

/-- Every mask that meets the value lies within it, and together they have all its bits. -/
structure MadeUp (v : Int) (masks : List Int) : Prop where
  within : ∀ m ∈ masks, band v m ≠ 0 → band v m = m
  covered : ∀ i, v.testBit i = true → ∃ m ∈ masks, m.testBit i = true

theorem band_ne_zero_of_testBit {i : Nat} (hv : v.testBit i = true) (hm : m.testBit i = true) :
    band v m ≠ 0 := by
  intro h
  have hi := band_eq_zero_iff.mp h i hv
  rw [hm] at hi
  cases hi

/-- **The masks that meet a value have just its bits exactly when it is made up of them.** -/
theorem union_meeting_eq_iff : union (meeting masks v) = v ↔ MadeUp v masks := by
  constructor
  · intro h
    have hbit (i : Nat) : ((meeting masks v).any (·.testBit i)) = v.testBit i := by
      rw [← testBit_union, h]
    constructor
    · intro m hm hmeets
      rw [band_eq_right_iff]
      intro i hi
      rw [← hbit i, List.any_eq_true]
      exact ⟨m, mem_meeting.mpr ⟨hm, hmeets⟩, hi⟩
    · intro i hi
      rw [← hbit i, List.any_eq_true] at hi
      obtain ⟨m, hm, hi⟩ := hi
      exact ⟨m, (mem_meeting.mp hm).1, hi⟩
  · intro h
    rw [union_eq_iff fun m hm => h.within m (mem_meeting.mp hm).1 (mem_meeting.mp hm).2]
    intro i hi
    obtain ⟨m, hm, hmi⟩ := h.covered i hi
    exact ⟨m, mem_meeting.mpr ⟨hm, band_ne_zero_of_testBit hi hmi⟩, hmi⟩

/-- No mask meets a value that has none of their bits. -/
theorem meeting_eq_nil_iff : meeting masks v = [] ↔ band v (union masks) = 0 := by
  rw [meeting, List.filter_eq_nil_iff]
  simp only [ne_eq, decide_not, Bool.not_eq_true', decide_eq_false_iff_not, not_not,
    band_eq_zero_iff, testBit_union]
  constructor
  · intro h i hi
    rw [List.any_eq_false]
    intro m hm
    simp [h m hm i hi]
  · intro h m hm i hi
    have hall := List.any_eq_false.mp (h i hi) m hm
    simpa using hall

/-- The part of a value within a mask that is not negative. -/
theorem exists_band_eq_natCast (v : Int) (m : Nat) : ∃ n ≤ m, band v m = (n : Nat) := by
  obtain ⟨n, hn⟩ : ∃ n : Nat, band v m = n := by
    cases v with
    | ofNat a => exact ⟨_, rfl⟩
    | negSucc a => exact ⟨_, rfl⟩
  refine ⟨n, ?_, hn⟩
  have hand : n &&& m = n := by
    refine Nat.eq_of_testBit_eq fun i => ?_
    have hbit := congrArg (Int.testBit · i) hn
    simp only [testBit_band, testBit_natCast] at hbit
    rw [Nat.testBit_and, ← hbit, Bool.and_assoc, Bool.and_self]
  rw [← hand]
  exact Nat.and_le_right

/-! ## Single bits -/

/-- A mask of one bit. -/
def IsBit (m : Int) : Prop :=
  ∃ k : Nat, m = ((2 ^ k : Nat) : Int)

theorem IsBit.within (h : IsBit m) (hm : band v m ≠ 0) : band v m = m := by
  obtain ⟨k, rfl⟩ := h
  rw [band_eq_right_iff]
  intro i hi
  rw [testBit_natCast, Nat.testBit_two_pow, decide_eq_true_eq] at hi
  subst hi
  by_contra hv
  refine hm (band_eq_zero_iff.mpr fun i hvi => ?_)
  rw [testBit_natCast, Nat.testBit_two_pow, decide_eq_false_iff_not]
  rintro rfl
  exact hv hvi

theorem isBit_of_any_range {n : Nat}
    (h : ((List.range n).any fun k => m == ((2 ^ k : Nat) : Int)) = true) : IsBit m := by
  obtain ⟨k, -, hk⟩ := List.any_eq_true.mp h
  exact ⟨k, by simpa using hk⟩

/-- A bit that meets a value lies within it. -/
theorem within_of_mem_meeting (hbits : ∀ m ∈ masks, IsBit m) (hm : m ∈ meeting masks v) :
    band v m = m :=
  (hbits m (mem_meeting.mp hm).1).within (mem_meeting.mp hm).2

end BitMask
