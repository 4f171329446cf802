import StraceMacos.Library.CExpr
import StraceMacos.Syscalls.StructParams.Event

/-!
# The filter flags of `kevent`

The flags of all filters but one are single bits, and such flags are named exactly. The operations
of `EVFILT_USER` are a field of two bits: its constants overlap, and several of them are named.
-/

namespace StraceMacos

open BitMask
open Text (band bandNot)

/-- Entries of a table that lie within a value, make it up, and do not cover each other. -/
structure ExactNames (table : SymbolTable) (value : Int) (entries : SymbolTable) : Prop where
  mem : ∀ e ∈ entries, e ∈ table
  within : ∀ e ∈ entries, band value e.1 = e.1
  union_eq : union (entries.map Prod.fst) = value
  uncovered : ∀ e ∈ entries, ∀ e' ∈ entries, e ≠ e' → band e'.1 e.1 ≠ e.1

/-- The flags are shown as the decimal value, or by exact names of the filter. -/
def ShownExactly (value filterValue : Int) : Prop :=
  decodeKeventFflags value filterValue = toString value ∨
    ∃ table, keventFlagMap filterValue = some table ∧ ∃ entries,
      decodeKeventFflags value filterValue = Text.join "|" (entries.map Prod.snd) ∧
        ExactNames table value entries

/-- The entries that meet a value, in the order of their masks. -/
def shownEntries (table : SymbolTable) (value : Int) : SymbolTable :=
  table.sorted.filter fun (bit, _) => band value bit ≠ 0

variable {table : SymbolTable} {value filterValue : Int}

theorem mem_shownEntries {e : Int × String} :
    e ∈ shownEntries table value ↔ e ∈ table ∧ band value e.1 ≠ 0 := by
  simp [shownEntries, SymbolTable.sorted, List.mem_insertionSort]

/-- Names are shown where nothing remains of the value. -/
theorem decodeKeventFflags_eq (h0 : value ≠ 0) (htable : keventFlagMap filterValue = some table) :
    decodeKeventFflags value filterValue =
      if shownEntries table value ≠ [] ∧
        ((shownEntries table value).map Prod.fst).foldl bandNot value = 0
      then Text.join "|" ((shownEntries table value).map Prod.snd) else toString value := by
  have hnames : table.sorted.names value = (shownEntries table value).map Prod.snd := rfl
  have hrest : table.sorted.unnamed value =
      ((shownEntries table value).map Prod.fst).foldl bandNot value := by
    rw [List.foldl_map]
    rfl
  unfold decodeKeventFflags
  rw [if_neg h0]
  simp only [htable, hnames, hrest, List.isEmpty_iff, List.map_eq_nil_iff, ne_eq]

/-! ## Single bits -/

/-- The masks of the table are single bits that differ from entry to entry. -/
def SeparateBits (table : SymbolTable) : Prop :=
  ∀ e ∈ table, IsBit e.1 ∧ ∀ e' ∈ table, e ≠ e' → band e'.1 e.1 ≠ e.1

/-- Single bits that leave nothing of a value name it exactly. -/
theorem exactNames_of_separateBits (hbits : SeparateBits table)
    (h : ((shownEntries table value).map Prod.fst).foldl bandNot value = 0) :
    ExactNames table value (shownEntries table value) where
  mem e he := (mem_shownEntries.mp he).1
  within e he := (hbits e (mem_shownEntries.mp he).1).1.within (mem_shownEntries.mp he).2
  union_eq := by
    rw [union_eq_iff]
    · exact covered_of_foldl_bandNot h
    · simp only [List.mem_map]
      rintro m ⟨e, he, rfl⟩
      exact (hbits e (mem_shownEntries.mp he).1).1.within (mem_shownEntries.mp he).2
  uncovered e he e' he' hne :=
    (hbits e (mem_shownEntries.mp he).1).2 e' (mem_shownEntries.mp he').1 hne

theorem separateBits_tables : ∀ table ∈ [noteVnodeFlags, noteProcFlags, noteTimerFlags],
    SeparateBits table := by
  have h : ∀ table ∈ [noteVnodeFlags, noteProcFlags, noteTimerFlags], ∀ e ∈ table,
      ((List.range 32).any fun k => e.1 == ((2 ^ k : Nat) : Int)) = true ∧
        ∀ e' ∈ table, e ≠ e' → band e'.1 e.1 ≠ e.1 := by
    decide
  exact fun table ht e he => ⟨isBit_of_any_range (h table ht e he).1, (h table ht e he).2⟩

theorem keventFlagMap_cases (h : keventFlagMap filterValue = some table) :
    SeparateBits table ∨ filterValue = -10 ∧ table = noteUserFlags := by
  unfold keventFlagMap at h
  split_ifs at h with h4 h5 h7 h10 <;> cases h
  · exact .inl (separateBits_tables _ (by simp))
  · exact .inl (separateBits_tables _ (by simp))
  · exact .inl (separateBits_tables _ (by simp))
  · exact .inr ⟨h10, rfl⟩

/-! ## `EVFILT_USER` -/

/-- The values of `EVFILT_USER` with an operation and without other bits than the trigger. -/
def userOperations : List Int :=
  [0x40000000, 0x80000000, 0xC0000000, 0x41000000, 0x81000000, 0xC1000000]

/-- The bits of the operation and of the trigger. -/
def userBits : List Int :=
  [0x01000000, 0x40000000, 0x80000000]

theorem isBit_of_mem_userBits : ∀ m ∈ userBits, IsBit m := by
  have h : ∀ m ∈ userBits, ((List.range 32).any fun k => m == ((2 ^ k : Nat) : Int)) = true := by
    decide
  exact fun m hm => isBit_of_any_range (h m hm)

/-- The masks of the table have no other bits. -/
theorem exists_userBits_of_testBit {e : Int × String} (he : e ∈ noteUserFlags) (i : Nat)
    (hi : e.1.testBit i = true) : ∃ m ∈ userBits, m.testBit i = true := by
  have hrest : ∀ e ∈ noteUserFlags, bandNot e.1 (union userBits) = 0 := by decide +kernel
  have hbit := bandNot_eq_zero_iff.mp (hrest e he) i hi
  rwa [testBit_union, List.any_eq_true] at hbit

/-- A value of which nothing remains has an operation or is the trigger. -/
theorem userOperations_of_covered (h0 : value ≠ 0)
    (h : ((shownEntries noteUserFlags value).map Prod.fst).foldl bandNot value = 0) :
    value = 0x01000000 ∨ value ∈ userOperations := by
  have hmade : MadeUp value userBits :=
    { within := fun m hm => (isBit_of_mem_userBits m hm).within
      covered := fun i hi => by
        obtain ⟨m, hm, hmi⟩ := covered_of_foldl_bandNot h i hi
        obtain ⟨e, he, rfl⟩ := List.mem_map.mp hm
        exact exists_userBits_of_testBit (mem_shownEntries.mp he).1 i hmi }
  have hvalue := union_meeting_eq_iff.mpr hmade
  -- The value is one of the eight unions of the three bits, and not that of none.
  have hall : union (meeting userBits value) = 0 ∨
      union (meeting userBits value) = 0x01000000 ∨
        union (meeting userBits value) ∈ userOperations := by
    simp only [meeting, userBits, List.filter_cons, List.filter_nil]
    split_ifs <;> decide
  rw [hvalue] at hall
  exact hall.resolve_left h0

/-- Each operation is shown as `NOTE_FFCOPY` together with an operation that it covers. -/
theorem userOperations_shown (h : value ∈ userOperations) :
    decodeKeventFflags value (-10) ≠ toString value ∧ decodeKeventFflags value (-10) ≠ "" ∧
      "NOTE_FFCOPY" ∈ Text.split '|' (decodeKeventFflags value (-10)) ∧
        ("NOTE_FFAND" ∈ Text.split '|' (decodeKeventFflags value (-10)) ∨
          "NOTE_FFOR" ∈ Text.split '|' (decodeKeventFflags value (-10))) := by
  have hall : ∀ value ∈ userOperations,
      decodeKeventFflags value (-10) ≠ toString value ∧ decodeKeventFflags value (-10) ≠ "" ∧
        "NOTE_FFCOPY" ∈ Text.split '|' (decodeKeventFflags value (-10)) ∧
          ("NOTE_FFAND" ∈ Text.split '|' (decodeKeventFflags value (-10)) ∨
            "NOTE_FFOR" ∈ Text.split '|' (decodeKeventFflags value (-10))) := by
    decide +kernel
  exact hall value h

/-- Entries of the table with the name of `NOTE_FFCOPY` and that of a part of it are not exact. -/
theorem not_exactNames_of_names {entries : SymbolTable}
    (hcopy : "NOTE_FFCOPY" ∈ entries.map Prod.snd)
    (hpart : "NOTE_FFAND" ∈ entries.map Prod.snd ∨ "NOTE_FFOR" ∈ entries.map Prod.snd) :
    ¬ ExactNames noteUserFlags value entries := by
  intro hexact
  have hcovers : ∀ e ∈ noteUserFlags, ∀ e' ∈ noteUserFlags, e'.2 = "NOTE_FFCOPY" →
      e.2 = "NOTE_FFAND" ∨ e.2 = "NOTE_FFOR" → e ≠ e' ∧ band e'.1 e.1 = e.1 := by
    decide
  obtain ⟨e', he', hname'⟩ := List.mem_map.mp hcopy
  obtain ⟨e, he, hname⟩ : ∃ e ∈ entries, e.2 = "NOTE_FFAND" ∨ e.2 = "NOTE_FFOR" := by
    rcases hpart with hpart | hpart
    · obtain ⟨e, he, hname⟩ := List.mem_map.mp hpart
      exact ⟨e, he, .inl hname⟩
    · obtain ⟨e, he, hname⟩ := List.mem_map.mp hpart
      exact ⟨e, he, .inr hname⟩
  obtain ⟨hne, hcover⟩ := hcovers e (hexact.mem e he) e' (hexact.mem e' he') hname' hname
  exact hexact.uncovered e he e' he' hne hcover

theorem not_shownExactly_of_userOperations (h : value ∈ userOperations) :
    ¬ ShownExactly value (-10) := by
  obtain ⟨hdecimal, hempty, hcopy, hpart⟩ := userOperations_shown h
  rintro (htext | ⟨table, htable, entries, htext, hexact⟩)
  · exact hdecimal htext
  · cases htable
    have hne : entries.map Prod.snd ≠ [] := by
      intro hnil
      rw [hnil] at htext
      exact hempty htext
    have hbar : ∀ s ∈ entries.map Prod.snd, '|' ∉ s.toList := by
      have hnames : ∀ e ∈ noteUserFlags, '|' ∉ e.2.toList := by decide
      simp only [List.mem_map]
      rintro s ⟨e, he, rfl⟩
      exact hnames e (hexact.mem e he)
    rw [htext, CExpr.split_join hne hbar] at hcopy hpart
    exact not_exactNames_of_names hcopy hpart hexact

/-! ## All filters -/

theorem exactNames_trigger :
    ExactNames noteUserFlags 0x01000000 [(0x01000000, "NOTE_TRIGGER")] where
  mem := by decide
  within := by decide
  union_eq := by decide
  uncovered := by decide

/-- **The flags of a filter are shown exactly, except those of `EVFILT_USER` with an operation and
no other bit than the trigger.** -/
theorem shownExactly_iff (value filterValue : Int) :
    ShownExactly value filterValue ↔ (filterValue = -10 → value ∉ userOperations) := by
  constructor
  · rintro h rfl hvalue
    exact not_shownExactly_of_userOperations hvalue h
  · intro h
    by_cases h0 : value = 0
    · subst h0
      exact .inl rfl
    cases htable : keventFlagMap filterValue with
    | none =>
      left
      unfold decodeKeventFflags
      rw [if_neg h0, htable]
    | some table =>
      have htext := decodeKeventFflags_eq h0 htable
      split_ifs at htext with hnames
      · rcases keventFlagMap_cases htable with hbits | ⟨hfilter, rfl⟩
        · exact .inr ⟨table, htable, _, htext, exactNames_of_separateBits hbits hnames.2⟩
        · obtain rfl := (userOperations_of_covered h0 hnames.2).resolve_right (h hfilter)
          refine .inr ⟨_, htable, _, ?_, exactNames_trigger⟩
          subst hfilter
          decide +kernel
      · exact .inl htext

/-- `NOTE_FFAND` alone is also shown as `NOTE_FFCOPY`. -/
theorem ffand_shown_as_ffcopy : ¬ ∀ value filterValue, ShownExactly value filterValue := by
  intro h
  have hffand : (0x40000000 : Int) ∈ userOperations := by decide
  exact not_shownExactly_of_userOperations hffand (h _ _)

end StraceMacos
