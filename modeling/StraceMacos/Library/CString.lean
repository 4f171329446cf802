import StraceMacos.Library.Bytes

/-!
# C strings in memory

A memory that is given byte by byte, ranges of it that are read as a whole, and the run of bytes
before a NUL as it is read one byte at a time. A range without a NUL is a part of the run, and a
range with one ends it; a range that cannot be read ends the run, too, but the bytes in front of the
unreadable one are lost to whoever reads it as a whole.
-/

namespace CString

/-- The bytes of a range, if all of them can be read. -/
def window (byteAt : Nat → Option UInt8) (address size : Nat) : Option Bytes :=
  (List.range size).mapM fun i => byteAt (address + i)

/-- The readable bytes from an address on up to a NUL, at most `limit`. -/
def run (byteAt : Nat → Option UInt8) : Nat → Nat → Bytes
  | 0, _ => []
  | limit + 1, address =>
    match byteAt address with
    | none => []
    | some b => if b = 0 then [] else b :: run byteAt limit (address + 1)

/-- The bytes of a string in memory, which a NUL follows. -/
structure Holds (byteAt : Nat → Option UInt8) (address : Nat) (bytes : Bytes) : Prop where
  byte : ∀ i (h : i < bytes.length), byteAt (address + i) = some bytes[i] ∧ bytes[i] ≠ 0
  nul : byteAt (address + bytes.length) = some 0

variable {byteAt : Nat → Option UInt8} {address size limit : Nat} {chunk : Bytes}

/-! ## Ranges -/

@[simp] theorem window_zero : window byteAt address 0 = some [] := rfl

theorem window_succ : window byteAt address (size + 1) =
    (byteAt address).bind fun b => (window byteAt (address + 1) size).map (b :: ·) := by
  have hshift : (fun i => byteAt (address + (i + 1))) = fun i => byteAt (address + 1 + i) := by
    funext i
    rw [Nat.add_right_comm, Nat.add_assoc]
  unfold window
  rw [List.range_succ_eq_map, List.mapM_cons, List.mapM_map]
  simp only [Function.comp_def, hshift, Nat.add_zero]
  cases byteAt address with
  | none => rfl
  | some b => cases (List.range size).mapM fun i => byteAt (address + 1 + i) <;> rfl

theorem window_succ_eq_some_iff : window byteAt address (size + 1) = some chunk ↔
    ∃ b bs, byteAt address = some b ∧ window byteAt (address + 1) size = some bs ∧
      chunk = b :: bs := by
  rw [window_succ]
  constructor
  · intro h
    obtain ⟨b, hb, h⟩ := Option.bind_eq_some_iff.mp h
    obtain ⟨bs, hbs, rfl⟩ := Option.map_eq_some_iff.mp h
    exact ⟨b, bs, hb, hbs, rfl⟩
  · rintro ⟨b, bs, hb, hbs, rfl⟩
    rw [hb, hbs]
    rfl

theorem window_succ_eq_none_iff : window byteAt address (size + 1) = none ↔
    byteAt address = none ∨ window byteAt (address + 1) size = none := by
  rw [window_succ]
  cases byteAt address <;> simp

theorem length_window (h : window byteAt address size = some chunk) : chunk.length = size := by
  induction size generalizing address chunk with
  | zero =>
    obtain rfl : [] = chunk := by simpa using h
    rfl
  | succ size ih =>
    obtain ⟨b, bs, -, hbs, rfl⟩ := window_succ_eq_some_iff.mp h
    rw [List.length_cons, ih hbs]

/-- The beginning of a readable range is readable. -/
theorem window_take (h : window byteAt address size = some chunk) {n : Nat} (hn : n ≤ size) :
    window byteAt address n = some (chunk.take n) := by
  induction n generalizing address size chunk with
  | zero => simp
  | succ n ih =>
    obtain ⟨size, rfl⟩ : ∃ k, size = k + 1 := ⟨size - 1, by omega⟩
    obtain ⟨b, bs, hb, hbs, rfl⟩ := window_succ_eq_some_iff.mp h
    rw [window_succ, hb, ih hbs (by omega)]
    rfl

/-- So is its end. -/
theorem window_drop (h : window byteAt address size = some chunk) {n : Nat} (hn : n ≤ size) :
    window byteAt (address + n) (size - n) = some (chunk.drop n) := by
  induction n generalizing address size chunk with
  | zero => exact h
  | succ n ih =>
    obtain ⟨size, rfl⟩ : ∃ k, size = k + 1 := ⟨size - 1, by omega⟩
    obtain ⟨b, bs, hb, hbs, rfl⟩ := window_succ_eq_some_iff.mp h
    have hrest := ih hbs (by omega)
    rwa [Nat.add_assoc, Nat.add_comm 1, ← Nat.add_sub_add_right size 1 n] at hrest

theorem window_append {rest : Bytes} {n : Nat} (h : window byteAt address size = some chunk)
    (hrest : window byteAt (address + size) n = some rest) :
    window byteAt address (size + n) = some (chunk ++ rest) := by
  induction size generalizing address chunk with
  | zero =>
    obtain rfl : [] = chunk := by simpa using h
    simpa using hrest
  | succ size ih =>
    obtain ⟨b, bs, hb, hbs, rfl⟩ := window_succ_eq_some_iff.mp h
    rw [← Nat.add_assoc, Nat.add_right_comm] at hrest
    rw [Nat.add_right_comm, window_succ, hb, ih hbs hrest]
    rfl

/-- A range can be read when each of its bytes can. -/
theorem window_isSome (h : ∀ i < size, (byteAt (address + i)).isSome) :
    (window byteAt address size).isSome := by
  induction size generalizing address with
  | zero => rfl
  | succ size ih =>
    have hrest : (window byteAt (address + 1) size).isSome := ih fun i hi => by
      rw [Nat.add_assoc, Nat.add_comm 1]
      exact h (i + 1) (by omega)
    obtain ⟨b, hb⟩ := Option.isSome_iff_exists.mp (h 0 (by omega))
    obtain ⟨bs, hbs⟩ := Option.isSome_iff_exists.mp hrest
    rw [Nat.add_zero] at hb
    rw [window_succ, hb, hbs]
    rfl

/-! ## The run -/

theorem length_run_le (limit address : Nat) : (run byteAt limit address).length ≤ limit := by
  induction limit generalizing address with
  | zero => simp [run]
  | succ limit ih =>
    unfold run
    split
    · simp
    · split
      · simp
      · simpa using ih (address + 1)

theorem run_succ_of_byte {b : UInt8} (hb : byteAt address = some b) (h0 : b ≠ 0) :
    run byteAt (limit + 1) address = b :: run byteAt limit (address + 1) := by
  rw [run, hb]
  exact if_neg h0

/-- A range without a NUL is the beginning of the run. -/
theorem run_of_window (h : window byteAt address size = some chunk) (h0 : (0 : UInt8) ∉ chunk) :
    run byteAt (size + limit) address = chunk ++ run byteAt limit (address + size) := by
  induction size generalizing address chunk with
  | zero =>
    obtain rfl : [] = chunk := by simpa using h
    simp
  | succ size ih =>
    obtain ⟨b, bs, hb, hbs, rfl⟩ := window_succ_eq_some_iff.mp h
    obtain ⟨hb0, h0⟩ : b ≠ 0 ∧ (0 : UInt8) ∉ bs := by simpa [eq_comm] using h0
    rw [Nat.add_right_comm, run_succ_of_byte hb hb0, ih hbs h0, Nat.add_right_comm address,
      Nat.add_assoc]
    rfl

/-- A range with a NUL ends the run. -/
theorem run_of_nul_mem (h : window byteAt address size = some chunk) (h0 : (0 : UInt8) ∈ chunk)
    (hle : size ≤ limit) : run byteAt limit address = chunk.untilNul := by
  induction size generalizing address limit chunk with
  | zero =>
    obtain rfl : [] = chunk := by simpa using h
    cases h0
  | succ size ih =>
    obtain ⟨b, bs, hb, hbs, rfl⟩ := window_succ_eq_some_iff.mp h
    obtain ⟨limit, rfl⟩ : ∃ n, limit = n + 1 := ⟨limit - 1, by omega⟩
    by_cases hb0 : b = 0
    · simp [run, hb, hb0, Bytes.untilNul]
    · have h0 : (0 : UInt8) ∈ bs := by simpa [eq_comm, hb0] using h0
      rw [run_succ_of_byte hb hb0, ih hbs h0 (by omega)]
      simp [Bytes.untilNul, hb0]

/-- The run within a range that can be read as a whole. -/
theorem run_of_readable (h : window byteAt address size = some chunk) :
    run byteAt size address = chunk.untilNul := by
  by_cases h0 : (0 : UInt8) ∈ chunk
  · exact run_of_nul_mem h h0 le_rfl
  · have hall : chunk.untilNul = chunk :=
      List.takeWhile_eq_self_iff.mpr fun b hb => by
        simpa using ne_of_mem_of_not_mem hb h0
    have hrun : run byteAt (size + 0) address = chunk ++ run byteAt 0 (address + size) :=
      run_of_window h h0
    rw [hall]
    simpa [run] using hrun

/-- A range that cannot be read ends the run. -/
theorem length_run_of_window_eq_none (h : window byteAt address size = none) (hle : size ≤ limit) :
    (run byteAt limit address).length < size := by
  induction size generalizing address limit with
  | zero => simp at h
  | succ size ih =>
    obtain ⟨limit, rfl⟩ : ∃ n, limit = n + 1 := ⟨limit - 1, by omega⟩
    unfold run
    cases hb : byteAt address with
    | none => simp
    | some b =>
      have hrest := (window_succ_eq_none_iff.mp h).resolve_left (by simp [hb])
      by_cases hb0 : b = 0
      · simp [hb0]
      · simpa [hb0] using ih hrest (by omega)

/-- The bytes before a NUL are few in a range that holds one. -/
theorem length_untilNul_lt (h0 : (0 : UInt8) ∈ chunk) : chunk.untilNul.length < chunk.length := by
  induction chunk with
  | nil => cases h0
  | cons b bs ih =>
    by_cases hb0 : b = 0
    · simp [Bytes.untilNul, hb0]
    · have hrest := ih (by simpa [eq_comm, hb0] using h0)
      simpa [Bytes.untilNul, hb0] using hrest

/-! ## Memories that agree -/

/-- The first `n` bytes from the address on are the same in both memories, readable or not. -/
def AgreeOn (byteAt byteAt' : Nat → Option UInt8) (address n : Nat) : Prop :=
  ∀ i < n, byteAt (address + i) = byteAt' (address + i)

namespace AgreeOn

variable {byteAt' : Nat → Option UInt8} {n : Nat}

theorem succ (h : AgreeOn byteAt byteAt' address (n + 1)) :
    byteAt address = byteAt' address ∧ AgreeOn byteAt byteAt' (address + 1) n := by
  refine ⟨h 0 (by omega), fun i hi => ?_⟩
  rw [Nat.add_assoc, Nat.add_comm 1]
  exact h (i + 1) (by omega)

theorem drop {k : Nat} (h : AgreeOn byteAt byteAt' address n) :
    AgreeOn byteAt byteAt' (address + k) (n - k) := by
  intro i hi
  rw [Nat.add_assoc]
  exact h (k + i) (by omega)

theorem window_eq (h : AgreeOn byteAt byteAt' address n) (hsize : size ≤ n) :
    window byteAt address size = window byteAt' address size := by
  induction size generalizing address n with
  | zero => rfl
  | succ size ih =>
    obtain ⟨n, rfl⟩ : ∃ k, n = k + 1 := ⟨n - 1, by omega⟩
    obtain ⟨hbyte, hrest⟩ := h.succ
    rw [window_succ, window_succ, hbyte, ih hrest (by omega)]

/-- A run that ends among these bytes is the same in both memories. -/
theorem run_eq (h : AgreeOn byteAt byteAt' address n)
    (hn : limit ≤ n ∨ (run byteAt limit address).length < n) :
    run byteAt limit address = run byteAt' limit address := by
  induction limit generalizing address n with
  | zero => rfl
  | succ limit ih =>
    obtain ⟨n, rfl⟩ : ∃ k, n = k + 1 := ⟨n - 1, by omega⟩
    obtain ⟨hbyte, hrest⟩ := h.succ
    rw [run, run, ← hbyte]
    rw [run] at hn
    cases hb : byteAt address with
    | none => rfl
    | some b =>
      by_cases hb0 : b = 0
      · simp [hb0]
      · simp only [hb, if_neg hb0, List.length_cons] at hn
        simp only [if_neg hb0, ih hrest (by omega)]

end AgreeOn

/-! ## Strings -/

/-- The run is the string, as far as the limit allows. -/
theorem Holds.run_eq {bytes : Bytes} (h : Holds byteAt address bytes) :
    run byteAt limit address = bytes.take limit := by
  induction limit generalizing address bytes with
  | zero => simp [run]
  | succ limit ih =>
    cases bytes with
    | nil =>
      have hnul : byteAt address = some 0 := by simpa using h.nul
      simp [run, hnul]
    | cons b bs =>
      obtain ⟨hb, hb0⟩ : byteAt address = some b ∧ b ≠ 0 := h.byte 0 (by simp)
      have hrest : Holds byteAt (address + 1) bs :=
        { byte := fun i hi => by
            have hbyte := h.byte (i + 1) (by simpa using hi)
            rwa [List.getElem_cons_succ, ← Nat.add_assoc, Nat.add_right_comm] at hbyte
          nul := by
            have hnul := h.nul
            rwa [List.length_cons, ← Nat.add_assoc, Nat.add_right_comm] at hnul }
      rw [run_succ_of_byte hb hb0, ih hrest, List.take_succ_cons]

/-- There is one string at an address. -/
theorem Holds.unique {bytes bytes' : Bytes} (h : Holds byteAt address bytes)
    (h' : Holds byteAt address bytes') : bytes = bytes' := by
  have hrun := @Holds.run_eq byteAt address (max bytes.length bytes'.length) bytes h
  rwa [h'.run_eq, List.take_of_length_le (Nat.le_max_left ..),
    List.take_of_length_le (Nat.le_max_right ..), eq_comm] at hrun

theorem Holds.byteAt_ne_none {bytes : Bytes} (h : Holds byteAt address bytes) :
    byteAt address ≠ none := by
  cases bytes with
  | nil => simp [show byteAt address = some 0 from h.nul]
  | cons b bs => simp [show byteAt address = some b from (h.byte 0 (by simp)).1]

end CString
