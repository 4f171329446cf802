import StraceMacos.Library.CExpr
import StraceMacos.Syscalls.Registry
import StraceMacos.Syscalls.Symbols.Ipc

/-!
# What flags lose when they are shown by name

A value shown as flags is read back as a C expression. The decoders name the constants that meet the
value, and only some of them look at the rest of it.
-/

namespace StraceMacos

open BitMask
open Text (band bandNot)

/-! ## `FlagsParam` -/

/-- A table of C constants: names of one value each, none of them negative. -/
structure FlagMap where
  table : SymbolTable
  nonneg : ∀ e ∈ table, 0 ≤ e.1
  names_nodup : (table.map Prod.snd).Nodup
  isName : ∀ e ∈ table, CExpr.isName e.2 = true

namespace SymbolTable

/-- The constants of a table. -/
def env (table : SymbolTable) : CExpr.Env := fun name =>
  (table.find? fun e => e.2 == name).map Prod.fst

variable {table : SymbolTable}

theorem env_of_mem (h : (table.map Prod.snd).Nodup) {e : Int × String} (he : e ∈ table) :
    table.env e.2 = some e.1 := by
  unfold env
  induction table with
  | nil => simp at he
  | cons e' table ih =>
    rw [List.map_cons, List.nodup_cons] at h
    rcases List.mem_cons.mp he with rfl | he
    · simp
    · have hne : (e'.2 == e.2) = false := by
        refine beq_eq_false_iff_ne.mpr fun heq => h.1 ?_
        rw [heq]
        exact List.mem_map_of_mem he
      rw [List.find?_cons, hne]
      exact ih h.2 he

section

variable (hnodup : (table.map Prod.snd).Nodup) (hname : ∀ e ∈ table, CExpr.isName e.2 = true)
variable {l : SymbolTable} (hl : ∀ e ∈ l, e ∈ table)

include hname hl in
theorem bar_not_mem_names : ∀ s ∈ l.map Prod.snd, '|' ∉ s.toList := by
  simp only [List.mem_map]
  rintro s ⟨e, he, rfl⟩
  exact CExpr.bar_not_mem_of_isName (hname e (hl e he))

include hnodup hname hl in
theorem readOperand_names : List.Forall₂ (fun s v => CExpr.readOperand table.env s = some v)
    (l.map Prod.snd) (l.map Prod.fst) := by
  rw [List.forall₂_map_left_iff, List.forall₂_map_right_iff, List.forall₂_same]
  intro e he
  rw [CExpr.readOperand_name (hname e (hl e he)), env_of_mem hnodup (hl e he)]

include hnodup hname hl in
/-- Reading names of a table gives the union of their values. -/
theorem read_names (hne : l ≠ []) :
    CExpr.read table.env (Text.join "|" (l.map Prod.snd)) = some (union (l.map Prod.fst)) :=
  CExpr.read_join (by simpa using hne) (bar_not_mem_names hname hl)
    (readOperand_names hnodup hname hl)

end

end SymbolTable

namespace FlagMap

/-- The masks of a flag map. -/
def masks (map : FlagMap) : List Int :=
  (map.table.map Prod.fst).filter (0 < ·)

/-- No mask meets the value, or the masks that meet it make it up. -/
def Shows (map : FlagMap) (v : Int) : Prop :=
  (∀ m ∈ map.masks, band v m = 0) ∨ MadeUp v map.masks

variable (map : FlagMap)

theorem shows_zero : map.Shows 0 :=
  .inl fun m _ => band_eq_zero_iff.mpr fun i hi => by rw [testBit_zero] at hi; cases hi

/-- The entries whose names are shown. -/
def shown (v : Int) : SymbolTable :=
  map.table.filter fun (bit, _) => 0 < bit ∧ band v bit ≠ 0

theorem map_fst_shown (v : Int) : (map.shown v).map Prod.fst = meeting map.masks v := by
  unfold shown meeting masks
  rw [List.filter_filter, List.filter_map]
  congr 1
  refine List.filter_congr fun e _ => ?_
  simp [Bool.and_comm]

theorem shown_eq_nil_iff (v : Int) : map.shown v = [] ↔ ∀ m ∈ map.masks, band v m = 0 := by
  rw [← List.map_eq_nil_iff (f := Prod.fst), map_fst_shown, meeting, List.filter_eq_nil_iff]
  simp

/-- The text of a value that is not zero. -/
theorem toStr_decodeFlags {ctx : DecodeContext} (h0 : ctx.rawValue ≠ 0) :
    (decodeFlags map.table { ctx with noAbbrev := false }).toStr =
      if map.shown ctx.rawValue = [] then Text.hex0x ctx.rawValue
      else Text.join "|" ((map.shown ctx.rawValue).map Prod.snd) := by
  have hnames : map.table.positiveNames ctx.rawValue =
      (map.shown ctx.rawValue).map Prod.snd := rfl
  unfold decodeFlags
  simp only [Bool.false_eq_true, if_false, if_neg h0, hnames, List.isEmpty_map]
  cases hs : map.shown ctx.rawValue with
  | nil => rfl
  | cons e l =>
    have he : e ∈ map.table := List.mem_of_mem_filter (hs ▸ List.mem_cons_self)
    have hne : (Text.join "|" ((e :: l).map Prod.snd)).isEmpty = false :=
      Text.isEmpty_join_cons _ _ (CExpr.ne_empty_of_isName (map.isName e he))
    simp only [List.isEmpty_cons, Bool.false_eq_true, if_false, reduceCtorEq, SyscallArg.toStr,
      symbolicOr, hne]

theorem read_decodeFlags_zero {ctx : DecodeContext} (h0 : ctx.rawValue = 0) :
    CExpr.read map.table.env (decodeFlags map.table { ctx with noAbbrev := false }).toStr =
      some 0 := by
  have htext : decodeFlags map.table { ctx with noAbbrev := false } =
      .flags 0 (some (map.table.get 0 "0")) := by simp [decodeFlags, h0]
  rw [htext]
  unfold SymbolTable.get
  cases hl : map.table.lookup 0 with
  | none => exact CExpr.read_zero
  | some name =>
    have he : (0, name) ∈ map.table := Dict.mem_of_lookup hl
    have hname := map.isName _ he
    have hread : CExpr.readOperand map.table.env name = some 0 := by
      rw [CExpr.readOperand_name hname]
      exact SymbolTable.env_of_mem map.names_nodup he
    simp only [Option.getD_some, SyscallArg.toStr, symbolicOr, CExpr.ne_empty_of_isName hname,
      Bool.false_eq_true, if_false]
    exact CExpr.read_single (CExpr.bar_not_mem_of_isName hname) hread

/-- **Flags shown by name are read back as the value exactly when no mask meets it, or the masks
that meet it make it up.** -/
theorem read_decodeFlags_iff (ctx : DecodeContext) :
    CExpr.read map.table.env (decodeFlags map.table { ctx with noAbbrev := false }).toStr =
        some (ctx.rawValue : Int) ↔
      map.Shows ctx.rawValue := by
  by_cases h0 : ctx.rawValue = 0
  · rw [read_decodeFlags_zero map h0, h0]
    exact iff_of_true rfl map.shows_zero
  · rw [toStr_decodeFlags map h0]
    by_cases hs : map.shown ctx.rawValue = []
    · rw [if_pos hs, CExpr.read_hex0x]
      exact iff_of_true rfl (.inl ((map.shown_eq_nil_iff _).mp hs))
    · have hleft : ¬ ∀ m ∈ map.masks, band ctx.rawValue m = 0 :=
        mt (map.shown_eq_nil_iff _).mpr hs
      have hmem : ∀ e ∈ map.shown ctx.rawValue, e ∈ map.table := fun e he =>
        List.mem_of_mem_filter he
      rw [if_neg hs, SymbolTable.read_names map.names_nodup map.isName hmem hs, map_fst_shown,
        Option.some_inj, union_meeting_eq_iff]
      exact (or_iff_right hleft).symm

end FlagMap

theorem read_hexInt (env : CExpr.Env) (value : Int) :
    CExpr.read env (hexInt value) = some value := by
  cases value with
  | ofNat n => exact CExpr.read_hex0x n
  | negSucc n => exact CExpr.read_neg_hex0x (n + 1)

/-! ## `decode_open_flags` -/

/-- The flags of `open` other than the access modes. -/
def openFlags : SymbolTable :=
  oFlags.filter fun (flagVal, _) => 0x3 < flagVal

theorem oFlags_names : (oFlags.map Prod.snd).Nodup ∧ ∀ e ∈ oFlags, CExpr.isName e.2 = true := by
  decide

/-- The bits of the flags of `open` other than the access modes. -/
def openFlagBits : Int := 0x61728FFC

theorem openFlags_masks :
    (∀ e ∈ openFlags, e ∈ oFlags ∧ band e.1 3 = 0 ∧
      ((List.range 32).any fun k => e.1 == ((2 ^ k : Nat) : Int)) = true) ∧
    union (openFlags.map Prod.fst) = openFlagBits := by
  decide

theorem isBit_of_mem_openFlags : ∀ m ∈ openFlags.map Prod.fst, IsBit m := by
  simp only [List.mem_map]
  rintro m ⟨e, he, rfl⟩
  exact isBit_of_any_range (openFlags_masks.1 e he).2.2

/-- The flags behind the access mode. -/
def shownOpenFlags (value : Int) : SymbolTable :=
  openFlags.filter fun (bit, _) => band (bandNot value 3) bit ≠ 0

theorem map_fst_shownOpenFlags (value : Int) :
    (shownOpenFlags value).map Prod.fst = meeting (openFlags.map Prod.fst) value := by
  unfold shownOpenFlags meeting
  rw [List.filter_map]
  congr 1
  refine List.filter_congr fun e he => ?_
  -- The bits of the access mode are in no other flag.
  have hband : band (bandNot value 3) e.1 = band value e.1 := by
    refine eq_of_testBit_eq fun i => ?_
    have hdisjoint := band_eq_zero_iff.mp (openFlags_masks.1 e he).2.1 i
    rw [testBit_band, testBit_band, testBit_bandNot]
    cases hbit : e.1.testBit i with
    | false => simp
    | true => simp [hdisjoint hbit]
  simp [hband]

/-- The access mode has a name and the other bits are flags, or there are no flags and the value is
shown as a number. -/
def OpenFlagsShown (value : Int) : Prop :=
  if band value 3 = 3 then band value openFlagBits = 0
  else bandNot value (Int.lor 3 openFlagBits) = 0

/-- Reading shown entries of the table of `open`. -/
theorem read_joinOr_oFlags {l : SymbolTable} (hl : ∀ e ∈ l, e ∈ oFlags) (value : Int) :
    CExpr.read oFlags.env (joinOr (l.map Prod.snd) (hexInt value)) =
      some (if l = [] then value else union (l.map Prod.fst)) := by
  unfold joinOr
  by_cases hnil : l = []
  · subst hnil
    exact read_hexInt _ _
  · rw [if_neg (by simpa using hnil), if_neg hnil]
    exact SymbolTable.read_names oFlags_names.1 oFlags_names.2 hl hnil

theorem mem_oFlags_of_mem_shown {value : Int} {e : Int × String}
    (he : e ∈ shownOpenFlags value) : e ∈ oFlags :=
  (openFlags_masks.1 e (List.mem_of_mem_filter he)).1

/-- The flags with a named access mode are read back when there are no other bits. -/
theorem read_openFlags_mode {value : Int} {n : Nat} {name : String} (hn : band value 3 = n)
    (hmode : ((n : Int), name) ∈ oFlags) :
    CExpr.read oFlags.env
        (joinOr (name :: (shownOpenFlags value).map Prod.snd) (hexInt value)) = some value ↔
      bandNot value (Int.lor 3 openFlagBits) = 0 := by
  have hl : ∀ e ∈ ((n : Int), name) :: shownOpenFlags value, e ∈ oFlags := by
    intro e he
    rcases List.mem_cons.mp he with rfl | he
    · exact hmode
    · exact mem_oFlags_of_mem_shown he
  have hread := read_joinOr_oFlags hl value
  rw [List.map_cons, List.map_cons, map_fst_shownOpenFlags, if_neg (by simp)] at hread
  rw [hread, Option.some_inj, union_eq_iff, bandNot_eq_zero_iff]
  · refine forall_congr' fun i => forall_congr' fun hi => ?_
    have hmodeBit : (n : Int).testBit i = (3 : Int).testBit i := by
      rw [← hn, testBit_band, hi, Bool.true_and]
    rw [Int.testBit_lor, ← openFlags_masks.2, testBit_union, Bool.or_eq_true, List.any_eq_true,
      ← hmodeBit, List.exists_mem_cons_iff]
    refine or_congr Iff.rfl (exists_congr fun m => ?_)
    rw [mem_meeting]
    constructor
    · rintro ⟨⟨hm, -⟩, hmi⟩
      exact ⟨hm, hmi⟩
    · rintro ⟨hm, hmi⟩
      exact ⟨⟨hm, band_ne_zero_of_testBit hi hmi⟩, hmi⟩
  · intro m hm
    rcases List.mem_cons.mp hm with rfl | hm
    · rw [← hn]
      refine eq_of_testBit_eq fun i => ?_
      rw [testBit_band, testBit_band, ← Bool.and_assoc, Bool.and_self]
    · exact within_of_mem_meeting isBit_of_mem_openFlags hm

/-- The flags without a named access mode are read back when there are none. -/
theorem read_openFlags_number {value : Int} (h3 : band value 3 = 3) :
    CExpr.read oFlags.env
        (joinOr ((shownOpenFlags value).map Prod.snd) (hexInt value)) = some value ↔
      band value openFlagBits = 0 := by
  rw [read_joinOr_oFlags fun e he => mem_oFlags_of_mem_shown he, Option.some_inj,
    map_fst_shownOpenFlags, ← openFlags_masks.2, ← meeting_eq_nil_iff, ← map_fst_shownOpenFlags,
    List.map_eq_nil_iff]
  by_cases hnil : shownOpenFlags value = []
  · rw [if_pos hnil]
    exact iff_of_true rfl hnil
  · rw [if_neg hnil]
    refine iff_of_false (fun hunion => ?_) hnil
    -- The lowest bit of the access mode is in no flag.
    have hlow : value.testBit 0 = true := band_eq_right_iff.mp h3 0 (by decide)
    rw [← hunion, testBit_union, List.any_eq_true] at hlow
    obtain ⟨m, hm, hbit⟩ := hlow
    obtain ⟨e, he, rfl⟩ := List.mem_map.mp hm
    have hdisjoint := (openFlags_masks.1 e (List.mem_of_mem_filter he)).2.1
    have hthree := band_eq_zero_iff.mp hdisjoint 0 hbit
    revert hthree
    decide

/-- **The flags of `open` are read back exactly when there is an access mode and all other bits have
names, or there is no access mode and no other bit has a name.** -/
theorem read_decodeOpenFlags_iff (value : Int) :
    CExpr.read oFlags.env (decodeOpenFlags value) = some value ↔ OpenFlagsShown value := by
  unfold decodeOpenFlags OpenFlagsShown
  by_cases h0 : value = 0
  · subst h0
    refine iff_of_true ?_ ?_ <;> decide +kernel
  · have hshown : SymbolTable.names (oFlags.filter fun (flagVal, _) => 0x3 < flagVal)
        (bandNot value 3) = (shownOpenFlags value).map Prod.snd := rfl
    rw [if_neg h0]
    simp only [hshown]
    obtain ⟨n, hn3, hn⟩ := exists_band_eq_natCast value 3
    have hn : band value 3 = n := hn
    rw [hn]
    interval_cases n
    · exact read_openFlags_mode hn (by decide)
    · exact read_openFlags_mode hn (by decide)
    · exact read_openFlags_mode hn (by decide)
    · exact read_openFlags_number hn

/-! ## `decode_ipc_flags` -/

/-- The bits of the IPC flags and of the permissions. -/
def ipcBits : Int := 0x1FFF

theorem ipcFlags_names :
    (ipcFlags.map Prod.snd).Nodup ∧ ∀ e ∈ ipcFlags, CExpr.isName e.2 = true := by
  decide

theorem ipcFlags_masks :
    (∀ m ∈ ipcFlags.map Prod.fst,
      ((List.range 32).any fun k => m == ((2 ^ k : Nat) : Int)) = true) ∧
    Int.lor (union (ipcFlags.map Prod.fst)) 0o777 = ipcBits := by
  decide

theorem isBit_of_mem_ipcFlags : ∀ m ∈ ipcFlags.map Prod.fst, IsBit m :=
  fun m hm => isBit_of_any_range (ipcFlags_masks.1 m hm)

/-- The entries of the flags that are named. -/
def shownIpcFlags (value : Int) : SymbolTable :=
  ipcFlags.filter fun (bit, _) => band value bit ≠ 0

theorem map_fst_shownIpcFlags (value : Int) :
    (shownIpcFlags value).map Prod.fst = meeting (ipcFlags.map Prod.fst) value := by
  unfold shownIpcFlags meeting
  rw [List.filter_map]
  rfl

theorem testBit_unnamed_ipcFlags (value : Int) (i : Nat) :
    (ipcFlags.unnamed value).testBit i =
      (value.testBit i && !(meeting (ipcFlags.map Prod.fst) value).any (·.testBit i)) := by
  have hunnamed : ipcFlags.unnamed value =
      ((shownIpcFlags value).map Prod.fst).foldl bandNot value := by
    rw [List.foldl_map]
    rfl
  rw [hunnamed, testBit_foldl_bandNot, map_fst_shownIpcFlags]

/-- All bits are flags or permissions, or none is and the value is shown as a number. -/
def IpcFlagsShown (value : Int) : Prop :=
  band value ipcBits = 0 ∨ bandNot value ipcBits = 0

/-- The named flags and the permissions make up the value when it has no other bits. -/
theorem union_ipcFlags_iff {value : Int} {n : Nat} (hn : band (ipcFlags.unnamed value) 0o777 = n) :
    union (meeting (ipcFlags.map Prod.fst) value ++ [(n : Int)]) = value ↔
      bandNot value ipcBits = 0 := by
  have hbit (i : Nat) : (n : Int).testBit i = (value.testBit i &&
      !(meeting (ipcFlags.map Prod.fst) value).any (·.testBit i) && (0o777 : Int).testBit i) := by
    rw [← hn, testBit_band, testBit_unnamed_ipcFlags]
  rw [union_eq_iff, bandNot_eq_zero_iff]
  · refine forall_congr' fun i => forall_congr' fun hi => ?_
    rw [← ipcFlags_masks.2, Int.testBit_lor, testBit_union, Bool.or_eq_true, List.any_eq_true]
    simp only [List.mem_append, List.mem_singleton, mem_meeting]
    constructor
    · rintro ⟨m, ⟨hm, -⟩ | rfl, hmi⟩
      · exact .inl ⟨m, hm, hmi⟩
      · rw [hbit i, Bool.and_eq_true] at hmi
        exact .inr hmi.2
    · rintro (⟨m, hm, hmi⟩ | hperm)
      · exact ⟨m, .inl ⟨hm, band_ne_zero_of_testBit hi hmi⟩, hmi⟩
      · cases hany : (meeting (ipcFlags.map Prod.fst) value).any (·.testBit i) with
        | false => exact ⟨n, .inr rfl, by rw [hbit i, hi, hany, hperm]; rfl⟩
        | true =>
          obtain ⟨m, hm, hmi⟩ := List.any_eq_true.mp hany
          exact ⟨m, .inl (mem_meeting.mp hm), hmi⟩
  · intro m hm
    rcases List.mem_append.mp hm with hm | hm
    · exact within_of_mem_meeting isBit_of_mem_ipcFlags hm
    · rw [List.mem_singleton.mp hm, band_eq_right_iff]
      intro i hi
      rw [hbit i, Bool.and_eq_true, Bool.and_eq_true] at hi
      exact hi.1.1

/-- The octal part of the text. -/
def octalPart (n : Nat) : List String :=
  if n = 0 then [] else ["0" ++ Text.numeral 8 n]

theorem union_append_zero (masks : List Int) : union (masks ++ [0]) = union masks := by
  refine eq_of_testBit_eq fun i => ?_
  simp

theorem read_names_octalPart {value : Int} {n : Nat}
    (hne : (shownIpcFlags value).map Prod.snd ++ octalPart n ≠ []) :
    CExpr.read ipcFlags.env
        (Text.join "|" ((shownIpcFlags value).map Prod.snd ++ octalPart n)) =
      some (union (meeting (ipcFlags.map Prod.fst) value ++ [(n : Int)])) := by
  have hl : ∀ e ∈ shownIpcFlags value, e ∈ ipcFlags := fun e he => List.mem_of_mem_filter he
  have hbar := SymbolTable.bar_not_mem_names ipcFlags_names.2 hl
  have hnames := SymbolTable.readOperand_names ipcFlags_names.1 ipcFlags_names.2 hl
  rw [map_fst_shownIpcFlags] at hnames
  unfold octalPart at hne ⊢
  by_cases hn : n = 0
  · rw [if_pos hn, List.append_nil] at hne ⊢
    rw [hn, Nat.cast_zero, union_append_zero]
    exact CExpr.read_join hne hbar hnames
  · rw [if_neg hn] at hne ⊢
    refine CExpr.read_join hne ?_ ?_
    · intro s hs
      rcases List.mem_append.mp hs with hs | hs
      · exact hbar s hs
      · rw [List.mem_singleton.mp hs]
        exact CExpr.bar_not_mem_octal n
    · exact List.rel_append hnames (.cons (CExpr.readOperand_octal n) .nil)

/-- Nothing is shown by name or in octal when the value has none of these bits. -/
theorem names_octalPart_eq_nil_iff {value : Int} {n : Nat}
    (hn : band (ipcFlags.unnamed value) 0o777 = n) :
    (shownIpcFlags value).map Prod.snd ++ octalPart n = [] ↔ band value ipcBits = 0 := by
  have hoctal : octalPart n = [] ↔ n = 0 := by
    unfold octalPart
    split_ifs with h <;> simp [h]
  have hzero : n = 0 ↔ band (ipcFlags.unnamed value) 0o777 = 0 := by
    rw [hn, Nat.cast_eq_zero]
  rw [List.append_eq_nil_iff, hoctal, hzero, List.map_eq_nil_iff,
    ← List.map_eq_nil_iff (f := Prod.fst), map_fst_shownIpcFlags, meeting_eq_nil_iff,
    ← ipcFlags_masks.2, band_eq_zero_iff, band_eq_zero_iff, band_eq_zero_iff]
  constructor
  · rintro ⟨hflags, hperm⟩ i hi
    have hflag := hflags i hi
    have hmeeting : (meeting (ipcFlags.map Prod.fst) value).any (·.testBit i) = false := by
      rw [testBit_union, List.any_eq_false] at hflag
      rw [List.any_eq_false]
      exact fun m hm => hflag m (mem_meeting.mp hm).1
    rw [Int.testBit_lor, hflag, Bool.false_or]
    refine hperm i ?_
    rw [testBit_unnamed_ipcFlags, hi, hmeeting]
    rfl
  · intro h
    simp only [Int.testBit_lor, Bool.or_eq_false_iff] at h
    refine ⟨fun i hi => (h i hi).1, fun i hi => ?_⟩
    rw [testBit_unnamed_ipcFlags, Bool.and_eq_true] at hi
    exact (h i hi.1).2

/-- **The IPC flags are read back exactly when all bits are flags or permissions, or none is.** -/
theorem read_decodeIpcFlags_iff (value : Int) :
    CExpr.read ipcFlags.env (decodeIpcFlags value) = some value ↔ IpcFlagsShown value := by
  unfold decodeIpcFlags IpcFlagsShown
  by_cases h0 : value = 0
  · subst h0
    refine iff_of_true ?_ (.inl ?_) <;> decide
  · obtain ⟨n, -, hn⟩ := exists_band_eq_natCast (ipcFlags.unnamed value) 0o777
    have hn : band (ipcFlags.unnamed value) 0o777 = n := hn
    have hflags : ipcFlags.names value ++ (if band (ipcFlags.unnamed value) 0o777 ≠ 0 then
        ["0" ++ Text.signedNumeral 8 (band (ipcFlags.unnamed value) 0o777)] else []) =
        (shownIpcFlags value).map Prod.snd ++ octalPart n := by
      have hnames : ipcFlags.names value = (shownIpcFlags value).map Prod.snd := rfl
      have hnumeral : Text.signedNumeral 8 (n : Int) = Text.numeral 8 n := rfl
      rw [hn, hnames, hnumeral]
      unfold octalPart
      by_cases hz : n = 0 <;> simp [hz]
    rw [if_neg h0]
    simp only [hflags, joinOr, List.isEmpty_iff]
    by_cases hnil : (shownIpcFlags value).map Prod.snd ++ octalPart n = []
    · rw [if_pos hnil, read_hexInt]
      exact iff_of_true rfl (.inl ((names_octalPart_eq_nil_iff hn).mp hnil))
    · rw [if_neg hnil, read_names_octalPart hnil, Option.some_inj, union_ipcFlags_iff hn]
      exact (or_iff_right (mt (names_octalPart_eq_nil_iff hn).mpr hnil)).symm

/-! ## All of them -/

/-- The flag maps of a parameter. -/
def SyscallParam.flagTables : SyscallParam → List SymbolTable
  | .plain (.flags table) => [table]
  | .plain _ => []
  | .variant v => v.variants.filterMap fun
    | (_, .flags table) => some table
    | _ => none

/-- The maps of all registered parameters are tables of C constants. -/
theorem registered_flagMaps : ∀ e ∈ registered, ∀ param ∈ e.1.params,
    ∀ table ∈ param.flagTables, ∃ map : FlagMap, map.table = table := by
  have h : ∀ e ∈ registered, ∀ param ∈ e.1.params, ∀ table ∈ param.flagTables,
      (∀ e ∈ table, 0 ≤ e.1) ∧ ((table.map Prod.snd).map Text.byteCode).Nodup ∧
        ∀ e ∈ table, CExpr.isAsciiName e.2 = true := by
    decide +kernel
  intro e he param hparam table htable
  obtain ⟨hnonneg, hcodes, hnames⟩ := h e he param hparam table htable
  exact ⟨⟨table, hnonneg, hcodes.of_map, fun e he => CExpr.isName_of_isAsciiName (hnames e he)⟩,
    rfl⟩

/-- **Flags shown by name are read back as the value exactly when nothing is left out and nothing is
added:** for a flag map when no mask meets the value or those that do make it up, for the flags of
`open` and of the IPC calls when the other bits are all named, or none is. -/
theorem flags_read_back_iff (map : FlagMap) (ctx : DecodeContext) (value : Int) :
    (CExpr.read map.table.env (decodeFlags map.table { ctx with noAbbrev := false }).toStr =
          some (ctx.rawValue : Int) ↔
        map.Shows ctx.rawValue) ∧
    (CExpr.read oFlags.env (decodeOpenFlags value) = some value ↔ OpenFlagsShown value) ∧
    (CExpr.read ipcFlags.env (decodeIpcFlags value) = some value ↔ IpcFlagsShown value) :=
  ⟨map.read_decodeFlags_iff ctx, read_decodeOpenFlags_iff value, read_decodeIpcFlags_iff value⟩

/-- `MSYNC_FLAGS` -/
def msyncMap : FlagMap where
  table := msyncFlags
  nonneg := by decide
  names_nodup := by decide
  isName := by decide

/-- `MS_ASYNC` is all that is shown of 0x21. -/
theorem unknown_flag_dropped : ¬ ∀ (map : FlagMap) (ctx : DecodeContext),
    CExpr.read map.table.env (decodeFlags map.table { ctx with noAbbrev := false }).toStr =
      some (ctx.rawValue : Int) := by
  intro h
  have hasync := h msyncMap ⟨false, ⟨.empty, .little⟩, 0x21, ⟨0, []⟩, true, none⟩
  revert hasync
  decide +kernel

end StraceMacos
