import StraceMacos.Library.Fallible
import StraceMacos.Library.Numeral
import StraceMacos.Proofs.StringArrayProofs

/-!
# Inputs in two memories

Some decoders of inputs read the memory of the process again when the call returns. What they show
is the same in two memories exactly when the bytes that they see there agree: those of a string up
to the last chunk that can be read, the strings of an array up to its end, and the integers of a MIB
up to the first that cannot be read.
-/

namespace StraceMacos

open CString (window run)
open Fallible

variable {byteAt byteAt' : Nat → Option UInt8} {order order' : ByteOrder}
  {address address' maxLength : Nat} {process process' : Process}

/-! ## Strings -/

/-- The bytes of a string that the reader sees: all of them, or those in front of the chunk in which
the string ends if that chunk cannot be read. -/
def seenBytes (byteAt : Nat → Option UInt8) (address maxLength : Nat) : Option Bytes :=
  if RunReadable byteAt address maxLength then some (run byteAt maxLength address)
  else if lastChunk (run byteAt maxLength address).length = 0 then none
  else some ((run byteAt maxLength address).take (lastChunk (run byteAt maxLength address).length))

/-- What is seen at two addresses has the same text; where nothing is seen, the address is shown. -/
def SameText (address address' : Nat) : Option Bytes → Option Bytes → Prop
  | some bytes, some bytes' => bytes.decodeUtf8Replace = bytes'.decodeUtf8Replace
  | some bytes, none => bytes.decodeUtf8Replace = Text.hex0x address'
  | none, some bytes' => Text.hex0x address = bytes'.decodeUtf8Replace
  | none, none => address = address'

/-- The bytes at two addresses in two memories are the same string to the reader of 4096 bytes. -/
structure SameString (byteAt byteAt' : Nat → Option UInt8) (address address' : Nat) : Prop where
  text_eq :
    SameText address address' (seenBytes byteAt address 4096) (seenBytes byteAt' address' 4096)

theorem sameString_iff : SameString byteAt byteAt' address address' ↔
    SameText address address' (seenBytes byteAt address 4096) (seenBytes byteAt' address' 4096) :=
  ⟨fun h => h.text_eq, fun h => ⟨h⟩⟩

theorem readString_eq_seen (hne : address ≠ 0) :
    readString (byteProcess byteAt order) address maxLength =
      ((seenBytes byteAt address maxLength).map Bytes.decodeUtf8Replace).getD
        (Text.hex0x address) := by
  rw [readString_eq hne, seenBytes]
  dsimp only
  split_ifs <;> rfl

theorem readString_eq_iff (hne : address ≠ 0) (hne' : address' ≠ 0) :
    readString (byteProcess byteAt order) address 4096 =
        readString (byteProcess byteAt' order') address' 4096 ↔
      SameString byteAt byteAt' address address' := by
  rw [readString_eq_seen hne, readString_eq_seen hne', sameString_iff]
  cases seenBytes byteAt address 4096 with
  | some bytes => cases seenBytes byteAt' address' 4096 <;> rfl
  | none =>
    cases seenBytes byteAt' address' 4096 with
    | some bytes' => rfl
    | none => exact Text.hex0x_inj

/-! ## Arrays of strings -/

/-- The pointer in a slot of an array, unless the array ends there. -/
def slotAt (byteAt : Nat → Option UInt8) (address : Nat) : Option Nat :=
  (pointerAt byteAt address).filter (· ≠ 0)

/-- The two arrays have the same strings up to the same end, or in their first `n` slots. -/
def SameArray (byteAt byteAt' : Nat → Option UInt8) : Nat → Nat → Prop
  | 0, _ => True
  | n + 1, address =>
    match slotAt byteAt address, slotAt byteAt' address with
    | some p, some p' => SameString byteAt byteAt' p p' ∧ SameArray byteAt byteAt' n (address + 8)
    | none, none => True
    | _, _ => False

theorem slotAt_ne_zero {p : Nat} (h : slotAt byteAt address = some p) : p ≠ 0 := by
  simpa using (Option.filter_eq_some_iff.mp h).2

theorem readStringArray_succ (n i : Nat) :
    readStringArray (byteProcess byteAt order) address (n + 1) i =
      match slotAt byteAt (address + i * 8) with
      | none => []
      | some p => readString (byteProcess byteAt order) p 4096 ::
          readStringArray (byteProcess byteAt order) address n (i + 1) := by
  rw [readStringArray, readMemory_byteProcess, slotAt, pointerAt]
  cases window byteAt (address + i * 8) 8 with
  | none => rfl
  | some ptrData =>
    simp only [Option.map_some, Option.filter_some]
    by_cases hnull : Bytes.toNat .little ptrData = 0
    · simp [hnull]
    · simp [hnull]

theorem readStringArray_eq_iff (n i : Nat) :
    readStringArray (byteProcess byteAt order) address n i =
        readStringArray (byteProcess byteAt' order') address n i ↔
      SameArray byteAt byteAt' n (address + i * 8) := by
  induction n generalizing i with
  | zero => exact iff_of_true rfl trivial
  | succ n ih =>
    have hnext : address + i * 8 + 8 = address + (i + 1) * 8 := by omega
    rw [readStringArray_succ, readStringArray_succ, SameArray, hnext]
    cases hp : slotAt byteAt (address + i * 8) with
    | none => cases slotAt byteAt' (address + i * 8) <;> simp
    | some p =>
      cases hp' : slotAt byteAt' (address + i * 8) with
      | none => simp
      | some p' =>
        simp only [List.cons.injEq, ih]
        rw [readString_eq_iff (slotAt_ne_zero hp) (slotAt_ne_zero hp')]

/-! ## The MIB of `sysctl` -/

/-- The integer with this index is the first one at the address that cannot be read. -/
def FirstUnreadable (byteAt : Nat → Option UInt8) (address i : Nat) : Prop :=
  window byteAt (address + i * 4) 4 = none ∧ ∀ j < i, (window byteAt (address + j * 4) 4).isSome

/-- The `n` integers at the address are the same in both memories, or the first one that cannot be
read is the same. -/
def SameIntegers (byteAt byteAt' : Nat → Option UInt8) (address n : Nat) : Prop :=
  (∀ i < n, ∃ data, window byteAt (address + i * 4) 4 = some data ∧
    window byteAt' (address + i * 4) 4 = some data) ∨
  ∃ i < n, FirstUnreadable byteAt address i ∧ FirstUnreadable byteAt' address i

theorem readMib_ok {n k : Nat} {mib : List Int}
    (h : readMib (byteProcess byteAt order) address n k = .ok mib) :
    mib.length = n ∧ ∀ i < n, ∃ data, window byteAt (address + (k + i) * 4) 4 = some data ∧
      mib[i]? = some (Bytes.toInt .little data) := by
  induction n generalizing k mib with
  | zero =>
    cases h
    exact ⟨rfl, fun i hi => absurd hi (Nat.not_lt_zero i)⟩
  | succ n ih =>
    rw [readMib, readMemory_byteProcess] at h
    cases hslot : window byteAt (address + k * 4) 4 with
    | none =>
      rw [hslot] at h
      cases h
    | some data =>
      rw [hslot] at h
      obtain ⟨rest, hrest, rfl⟩ := map_eq_ok.mp h
      obtain ⟨hlength, hall⟩ := ih hrest
      refine ⟨by rw [List.length_cons, hlength], fun i hi => ?_⟩
      cases i with
      | zero => exact ⟨data, hslot, rfl⟩
      | succ i =>
        obtain ⟨data', hdata', hget⟩ := hall i (by omega)
        have hindex : k + 1 + i = k + (i + 1) := by omega
        rw [hindex] at hdata'
        exact ⟨data', hdata', hget⟩

theorem readMib_error {n k e : Nat}
    (h : readMib (byteProcess byteAt order) address n k = .error e) :
    ∃ i < n, e = k + i ∧ window byteAt (address + e * 4) 4 = none ∧
      ∀ j < i, (window byteAt (address + (k + j) * 4) 4).isSome := by
  induction n generalizing k with
  | zero => cases h
  | succ n ih =>
    rw [readMib, readMemory_byteProcess] at h
    cases hslot : window byteAt (address + k * 4) 4 with
    | none =>
      rw [hslot] at h
      cases h
      exact ⟨0, Nat.succ_pos n, rfl, hslot, fun j hj => absurd hj (Nat.not_lt_zero j)⟩
    | some data =>
      rw [hslot] at h
      obtain ⟨i, hi, rfl, hnone, hbefore⟩ := ih (map_eq_error.mp h)
      refine ⟨i + 1, by omega, by omega, hnone, fun j hj => ?_⟩
      cases j with
      | zero => exact Option.isSome_iff_exists.mpr ⟨data, hslot⟩
      | succ j =>
        have hindex : k + 1 + j = k + (j + 1) := by omega
        exact hindex ▸ hbefore j (by omega)

/-- The outcome of reading a MIB: its integers, or the first one that cannot be read. -/
theorem readMib_outcome (address n : Nat) :
    (∃ mib, readMib (byteProcess byteAt order) address n 0 = .ok mib ∧ mib.length = n ∧
      ∀ i < n, ∃ data, window byteAt (address + i * 4) 4 = some data ∧
        mib[i]? = some (Bytes.toInt .little data)) ∨
    ∃ e < n, readMib (byteProcess byteAt order) address n 0 = .error e ∧
      FirstUnreadable byteAt address e := by
  cases h : readMib (byteProcess byteAt order) address n 0 with
  | ok mib =>
    obtain ⟨hlength, hall⟩ := readMib_ok h
    refine .inl ⟨mib, rfl, hlength, fun i hi => ?_⟩
    obtain ⟨data, hdata, hget⟩ := hall i hi
    rw [Nat.zero_add] at hdata
    exact ⟨data, hdata, hget⟩
  | error e =>
    obtain ⟨i, hi, he, hnone, hbefore⟩ := readMib_error h
    rw [Nat.zero_add] at he
    subst he
    refine .inr ⟨e, hi, rfl, hnone, fun j hj => ?_⟩
    have hslot := hbefore j hj
    rwa [Nat.zero_add] at hslot

theorem FirstUnreadable.le {i j : Nat} (h : FirstUnreadable byteAt address i)
    (h' : FirstUnreadable byteAt address j) : i ≤ j := by
  by_contra hlt
  have hsome := h.2 j (Nat.lt_of_not_le hlt)
  rw [h'.1] at hsome
  cases hsome

theorem FirstUnreadable.not_some {i : Nat} (h : FirstUnreadable byteAt address i) {data : Bytes} :
    window byteAt (address + i * 4) 4 ≠ some data := by
  rw [h.1]
  exact nofun

/-- Integers that are read are the same when their bytes are. -/
theorem mib_eq_iff {n : Nat} {mib mib' : List Int} (hlength : mib.length = n)
    (hlength' : mib'.length = n)
    (h : ∀ i < n, ∃ data, window byteAt (address + i * 4) 4 = some data ∧
      mib[i]? = some (Bytes.toInt .little data))
    (h' : ∀ i < n, ∃ data, window byteAt' (address + i * 4) 4 = some data ∧
      mib'[i]? = some (Bytes.toInt .little data)) :
    mib = mib' ↔ ∀ i < n, ∃ data, window byteAt (address + i * 4) 4 = some data ∧
      window byteAt' (address + i * 4) 4 = some data := by
  constructor
  · rintro rfl i hi
    obtain ⟨data, hdata, hget⟩ := h i hi
    obtain ⟨data', hdata', hget'⟩ := h' i hi
    have hlen : data.length = data'.length := by
      rw [CString.length_window hdata, CString.length_window hdata']
    obtain rfl := Bytes.toInt_little_inj hlen (Option.some.inj (hget.symm.trans hget'))
    exact ⟨data, hdata, hdata'⟩
  · intro hsame
    refine List.ext_getElem? fun i => ?_
    by_cases hi : i < n
    · obtain ⟨data, hdata, hdata'⟩ := hsame i hi
      obtain ⟨b, hb, hget⟩ := h i hi
      obtain ⟨b', hb', hget'⟩ := h' i hi
      obtain rfl : data = b := Option.some.inj (hdata.symm.trans hb)
      obtain rfl : data = b' := Option.some.inj (hdata'.symm.trans hb')
      rw [hget, hget']
    · rw [List.getElem?_eq_none (by omega), List.getElem?_eq_none (by omega)]

theorem readMib_eq_iff (n : Nat) :
    readMib (byteProcess byteAt order) address n 0 =
        readMib (byteProcess byteAt' order') address n 0 ↔
      SameIntegers byteAt byteAt' address n := by
  rcases @readMib_outcome byteAt order address n with
    ⟨mib, hread, hlength, hall⟩ | ⟨e, he, hread, hfirst⟩
  · rcases @readMib_outcome byteAt' order' address n with
      ⟨mib', hread', hlength', hall'⟩ | ⟨e', he', hread', hfirst'⟩
    · rw [hread, hread', Except.ok.injEq, mib_eq_iff hlength hlength' hall hall']
      refine ⟨.inl, fun h => h.resolve_right ?_⟩
      rintro ⟨i, hi, hunreadable, -⟩
      obtain ⟨data, hdata, -⟩ := hall i hi
      exact hunreadable.not_some hdata
    · rw [hread, hread']
      refine iff_of_false nofun ?_
      rintro (hsame | ⟨i, hi, hunreadable, -⟩)
      · obtain ⟨data, -, hdata⟩ := hsame e' he'
        exact hfirst'.not_some hdata
      · obtain ⟨data, hdata, -⟩ := hall i hi
        exact hunreadable.not_some hdata
  · rcases @readMib_outcome byteAt' order' address n with
      ⟨mib', hread', hlength', hall'⟩ | ⟨e', he', hread', hfirst'⟩
    · rw [hread, hread']
      refine iff_of_false nofun ?_
      rintro (hsame | ⟨i, hi, -, hunreadable⟩)
      · obtain ⟨data, hdata, -⟩ := hsame e he
        exact hfirst.not_some hdata
      · obtain ⟨data, hdata, -⟩ := hall' i hi
        exact hunreadable.not_some hdata
    · rw [hread, hread', Except.error.injEq]
      constructor
      · rintro rfl
        exact .inr ⟨e, he, hfirst, hfirst'⟩
      · rintro (hsame | ⟨i, -, hi, hi'⟩)
        · obtain ⟨data, hdata, -⟩ := hsame e he
          exact absurd hdata hfirst.not_some
        · rw [le_antisymm (hfirst.le hi) (hi.le hfirst),
            le_antisymm (hfirst'.le hi') (hi'.le hfirst')]

/-- Distinct names of constants, or decimal numbers where there is no name, tell values apart. -/
theorem SymbolTable.get_inj {table : SymbolTable} (hnodup : (table.map Prod.snd).Nodup)
    (hname : ∀ e ∈ table, CExpr.isName e.2 = true) {v w : Int}
    (h : table.get v (toString v) = table.get w (toString w)) : v = w := by
  have hnot {u : Int} {s : String} (hl : table.lookup u = some s) (i : Int) : s ≠ toString i := by
    intro hs
    have hn := hname (u, s) (Dict.mem_of_lookup hl)
    rw [hs, CExpr.isName_toString] at hn
    cases hn
  unfold SymbolTable.get at h
  cases hv : table.lookup v with
  | none =>
    cases hw : table.lookup w with
    | none =>
      rw [hv, hw] at h
      exact Text.toString_int_inj.mp h
    | some t =>
      rw [hv, hw] at h
      exact absurd h.symm (hnot hw v)
  | some s =>
    cases hw : table.lookup w with
    | none =>
      rw [hv, hw] at h
      exact absurd h (hnot hv w)
    | some t =>
      rw [hv, hw] at h
      have heq := List.inj_on_of_nodup_map hnodup (Dict.mem_of_lookup hv)
        (Dict.mem_of_lookup hw) h
      exact congrArg Prod.fst heq

/-- The characters around the names of a MIB: the comma between them, and the beginning of a
failure. -/
def IsMibMark (c : Char) : Prop :=
  c = ',' ∨ c = '<'

theorem not_mem_toString_int {c : Char} (hc : IsMibMark c) (v : Int) :
    c ∉ (toString v).toList := by
  rcases hc with rfl | rfl
  · exact Text.not_mem_toString_int (by decide) (by decide) v
  · exact Text.not_mem_toString_int (by decide) (by decide) v

theorem sysctlTables_names : ∀ table ∈ [ctlNames, kernNames, hwNames],
    (table.map Prod.snd).Nodup ∧
      ∀ e ∈ table, CExpr.isName e.2 = true ∧ ',' ∉ e.2.toList ∧ '<' ∉ e.2.toList := by
  have h : ∀ table ∈ [ctlNames, kernNames, hwNames],
      ((table.map Prod.snd).map Text.byteCode).Nodup ∧ ∀ e ∈ table,
        CExpr.isAsciiName e.2 = true ∧ ',' ∉ Text.asciiChars e.2 ∧ '<' ∉ Text.asciiChars e.2 := by
    decide
  intro table htable
  obtain ⟨hcodes, hnames⟩ := h table htable
  refine ⟨hcodes.of_map, fun e he => ?_⟩
  obtain ⟨hname, hmarks⟩ := hnames e he
  rw [← Text.toList_eq_asciiChars (CExpr.isAscii_of_isAsciiName hname)] at hmarks
  exact ⟨CExpr.isName_of_isAsciiName hname, hmarks⟩

theorem get_sysctlTable_inj {table : SymbolTable} (ht : table ∈ [ctlNames, kernNames, hwNames])
    {v w : Int} (h : table.get v (toString v) = table.get w (toString w)) : v = w :=
  SymbolTable.get_inj (sysctlTables_names table ht).1
    (fun e he => ((sysctlTables_names table ht).2 e he).1) h

theorem decodeMibSecond_inj {top v w : Int}
    (h : decodeMibSecond top v = decodeMibSecond top w) : v = w := by
  unfold decodeMibSecond at h
  split_ifs at h
  · exact get_sysctlTable_inj (by simp) h
  · exact get_sysctlTable_inj (by simp) h
  · exact Text.toString_int_inj.mp h

/-- The names of a MIB tell the MIBs of one length apart. -/
theorem decodeMibNames_inj {mib mib' : List Int} (hlen : mib.length = mib'.length)
    (h : decodeMibNames mib = decodeMibNames mib') : mib = mib' := by
  rcases mib with _ | ⟨top, _ | ⟨second, rest⟩⟩ <;>
    rcases mib' with _ | ⟨top', _ | ⟨second', rest'⟩⟩ <;> simp at hlen
  · rfl
  · have htop := get_sysctlTable_inj (by simp) (List.cons.inj h).1
    rw [htop]
  · obtain ⟨htop, hrest⟩ := List.cons.inj h
    obtain ⟨hsecond, htail⟩ := List.cons.inj hrest
    obtain rfl := get_sysctlTable_inj (by simp) htop
    obtain rfl := decodeMibSecond_inj hsecond
    rw [List.map_injective_iff.mpr (fun _ _ => Text.toString_int_inj.mp) htail]

theorem not_mem_get_sysctlTable {table : SymbolTable} (ht : table ∈ [ctlNames, kernNames, hwNames])
    {c : Char} (hc : IsMibMark c) (v : Int) : c ∉ (table.get v (toString v)).toList := by
  unfold SymbolTable.get
  cases hl : table.lookup v with
  | none => exact not_mem_toString_int hc v
  | some s =>
    have hnames := ((sysctlTables_names table ht).2 (v, s) (Dict.mem_of_lookup hl)).2
    rcases hc with rfl | rfl
    · exact hnames.1
    · exact hnames.2

/-- The names of a MIB can be told apart from the commas between them, and from a failure. -/
theorem not_mem_decodeMibNames {c : Char} (hc : IsMibMark c) (mib : List Int) :
    ∀ s ∈ decodeMibNames mib, c ∉ s.toList := by
  have htop (top : Int) := not_mem_get_sysctlTable (by simp : ctlNames ∈ _) hc top
  rcases mib with _ | ⟨top, _ | ⟨second, rest⟩⟩
  · simp [decodeMibNames]
  · simpa [decodeMibNames] using htop top
  · have hsecond : c ∉ (decodeMibSecond top second).toList := by
      unfold decodeMibSecond
      split_ifs
      · exact not_mem_get_sysctlTable (by simp) hc second
      · exact not_mem_get_sysctlTable (by simp) hc second
      · exact not_mem_toString_int hc second
    simp only [decodeMibNames, List.forall_mem_cons, List.forall_mem_map]
    exact ⟨htop top, hsecond, fun v _ => not_mem_toString_int hc v⟩

theorem decodeMibNames_length (mib : List Int) : (decodeMibNames mib).length = mib.length := by
  rcases mib with _ | ⟨top, _ | ⟨second, rest⟩⟩ <;> simp [decodeMibNames]

theorem readMib_length {mibPtr n i : Nat} {mib : List Int}
    (h : readMib process mibPtr n i = .ok mib) : mib.length = n := by
  induction n generalizing i mib with
  | zero => cases h; rfl
  | succ n ih =>
    rw [readMib] at h
    cases hd : process.readMemory (mibPtr + i * 4) 4 with
    | none => rw [hd] at h; cases h
    | some data =>
      rw [hd] at h
      obtain ⟨rest, hrest, rfl⟩ := map_eq_ok.mp h
      rw [List.length_cons, ih hrest]

/-- The text between the brackets. -/
def mibText : Except Nat (List Int) → Nat → String
  | .error i, namelen => "<unreadable " ++ toString i ++ "/" ++ toString namelen ++ ">"
  | .ok mib, _ => Text.join ", " (decodeMibNames mib)

theorem decodeSysctlMib_eq {mibPtr namelen : Nat} (hptr : mibPtr ≠ 0) (hpos : namelen ≠ 0)
    (hle : namelen ≤ 12) : (decodeSysctlMib process mibPtr namelen).1 =
      "[" ++ mibText (readMib process mibPtr namelen 0) namelen ++ "]" := by
  unfold decodeSysctlMib
  rw [if_neg (by simp [hptr, hpos]), if_neg (by omega)]
  cases readMib process mibPtr namelen 0 with
  | error i => simp only [mibText, String.append_assoc]; rfl
  | ok mib => rfl

/-- The text of a MIB tells apart what is read. -/
theorem mibText_inj {mibPtr namelen : Nat}
    (h : mibText (readMib process mibPtr namelen 0) namelen =
      mibText (readMib process' mibPtr namelen 0) namelen) :
    readMib process mibPtr namelen 0 = readMib process' mibPtr namelen 0 := by
  have hfailure (i : Nat) (mib : List Int) :
      mibText (.error i) namelen ≠ mibText (.ok mib) namelen := by
    intro h
    have hmem : '<' ∈ (mibText (.ok mib) namelen).toList := by
      rw [← h]
      simp [mibText]
    obtain ⟨s, hs, hmem⟩ := (Text.mem_join_iff (by decide) _).mp hmem
    exact not_mem_decodeMibNames (.inr rfl) mib s hs hmem
  cases hread : readMib process mibPtr namelen 0 with
  | error i =>
    cases hread' : readMib process' mibPtr namelen 0 with
    | error j =>
      rw [hread, hread'] at h
      simp only [mibText, String.append_left_inj, String.append_right_inj] at h
      have hnumeral : Text.numeral 10 i = Text.numeral 10 j := h
      rw [(Text.numeral_inj (by omega) (by omega)).mp hnumeral]
    | ok mib' =>
      rw [hread, hread'] at h
      exact absurd h (hfailure i mib')
  | ok mib =>
    cases hread' : readMib process' mibPtr namelen 0 with
    | error j =>
      rw [hread, hread'] at h
      exact absurd h.symm (hfailure j mib)
    | ok mib' =>
      rw [hread, hread'] at h
      have hlen : mib.length = mib'.length := by rw [readMib_length hread, readMib_length hread']
      have hnames : decodeMibNames mib = decodeMibNames mib' :=
        Text.join_inj (by simpa [decodeMibNames_length] using hlen)
          (not_mem_decodeMibNames (.inl rfl) mib) (not_mem_decodeMibNames (.inl rfl) mib')
          (h : Text.join (String.ofList [',', ' ']) _ = _)
      rw [decodeMibNames_inj hlen hnames]

/-- The text of a MIB tells apart what is read, unless nothing is. -/
theorem decodeSysctlMib_inj {mibPtr namelen : Nat} (hptr : mibPtr ≠ 0) :
    (decodeSysctlMib process mibPtr namelen).1 = (decodeSysctlMib process' mibPtr namelen).1 ↔
      (namelen ≤ 12 → readMib process mibPtr namelen 0 = readMib process' mibPtr namelen 0) := by
  by_cases hpos : namelen = 0
  · subst hpos
    simp [decodeSysctlMib, readMib]
  by_cases hle : namelen ≤ 12
  · rw [decodeSysctlMib_eq hptr hpos hle, decodeSysctlMib_eq hptr hpos hle,
      String.append_left_inj, String.append_right_inj]
    exact ⟨fun h _ => mibText_inj h, fun h => by rw [h hle]⟩
  · have hlt : 12 < namelen := not_le.mp hle
    exact iff_of_true (by simp [decodeSysctlMib, hptr, hpos, hlt]) fun h => absurd h hle

/-! ## The times of `sysinfo.py` -/

theorem eq_of_slices {a b : Bytes} (ha : a.length = 16) (hb : b.length = 16)
    (h : a.slice 0 8 = b.slice 0 8) (h' : a.slice 8 16 = b.slice 8 16) : a = b := by
  unfold Bytes.slice at h h'
  have hdrop (x : Bytes) (hx : x.length = 16) : (x.drop 8).take (16 - 8) = x.drop 8 :=
    List.take_of_length_le (by rw [List.length_drop]; omega)
  rw [hdrop a ha, hdrop b hb] at h'
  calc a = a.take 8 ++ a.drop 8 := (List.take_append_drop 8 a).symm
    _ = b.take 8 ++ b.drop 8 := congrArg₂ _ h h'
    _ = b := List.take_append_drop 8 b

theorem decodeSysinfoTimespec_kept_iff {rawValue : Nat} {rawArgs : PyList}
    {value value' : Option ReturnValue} :
    decodeSysinfoTimespec ⟨noAbbrev, process', rawValue, rawArgs, false, value'⟩ =
        decodeSysinfoTimespec ⟨noAbbrev, process, rawValue, rawArgs, true, value⟩ ↔
      (rawValue ≠ 0 → process.readMemory rawValue 16 = process'.readMemory rawValue 16) := by
  unfold decodeSysinfoTimespec
  by_cases h0 : rawValue = 0
  · simp [h0]
  simp only [ne_eq, h0, not_false_eq_true, forall_const, if_false]
  cases hread : process.readMemory rawValue 16 with
  | none => cases process'.readMemory rawValue 16 <;> simp
  | some data =>
    cases hread' : process'.readMemory rawValue 16 with
    | none => simp
    | some data' =>
      have hlen := Process.readMemory_length hread
      have hlen' := Process.readMemory_length hread'
      simp only [Option.some.injEq]
      refine ⟨fun h => ?_, fun h => by rw [h]⟩
      simp only [SyscallArg.struct.injEq, List.cons.injEq, Prod.mk.injEq, FieldVal.int.injEq,
        true_and, and_true] at h
      have hslice {a b : Bytes} (h : Bytes.toInt .little a = Bytes.toInt .little b)
          (ha : a.length = 8) (hb : b.length = 8) : a = b :=
        Bytes.toInt_little_inj (ha.trans hb.symm) h
      refine (eq_of_slices hlen' hlen (hslice h.1 ?_ ?_) (hslice h.2 ?_ ?_)).symm <;>
        simp [Bytes.slice, hlen, hlen']

end StraceMacos
