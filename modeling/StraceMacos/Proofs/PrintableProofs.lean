import StraceMacos.Library.Dict
import StraceMacos.Library.Printable
import StraceMacos.Syscalls.Args
import StraceMacos.Syscalls.Symbols.Table

/-!
# Control characters in arguments

An argument consists of names from the tables of the tracer, of numerals, of quoted buffers and of
texts from the memory of the traced process. The first three have no control characters. The texts
are shown in quotes, where backslashes and quotes are escaped but control characters are not.
-/

namespace StraceMacos

open Text (Printable)

/-! ## Symbols -/

namespace SymbolTable

/-- All names of the table are printable. -/
def Printable (table : SymbolTable) : Prop :=
  ∀ e ∈ table, Text.Printable e.2

instance (table : SymbolTable) : Decidable table.Printable :=
  inferInstanceAs (Decidable (∀ e ∈ table, Text.Printable e.2))

variable {table : SymbolTable}

theorem Printable.filter (h : table.Printable) (p : Int × String → Bool) :
    SymbolTable.Printable (List.filter p table) :=
  fun e he => h e (List.mem_of_mem_filter he)

theorem Printable.names (h : table.Printable) (value : Int) :
    ∀ s ∈ table.names value, Text.Printable s := by
  intro s hs
  obtain ⟨e, he, rfl⟩ := List.mem_map.mp hs
  exact h.filter _ e he

theorem Printable.positiveNames (h : table.Printable) (value : Int) :
    ∀ s ∈ table.positiveNames value, Text.Printable s := by
  intro s hs
  obtain ⟨e, he, rfl⟩ := List.mem_map.mp hs
  exact h.filter _ e he

theorem Printable.sorted (h : table.Printable) : table.sorted.Printable := by
  intro e he
  exact h e ((List.mem_insertionSort _).mp he)

theorem Printable.of_lookup (h : table.Printable) {value : Int} {name : String}
    (hl : table.lookup value = some name) : Text.Printable name :=
  h _ (Dict.mem_of_lookup hl)

theorem Printable.get (h : table.Printable) (value : Int) {default : String}
    (hdefault : Text.Printable default) : Text.Printable (table.get value default) := by
  unfold SymbolTable.get
  cases hl : table.lookup value with
  | none => exact hdefault
  | some name => exact h.of_lookup hl

end SymbolTable

theorem printable_joinOr {flags : List String} {default : String}
    (h : ∀ s ∈ flags, Printable s) (hdefault : Printable default) :
    Printable (joinOr flags default) := by
  unfold joinOr
  split_ifs
  · exact hdefault
  · exact (Text.printable_join (by decide)).mpr h

theorem printable_hexFormat (value : Int) : Printable (hexFormat value) :=
  Text.printable_append.mpr
    ⟨by decide, Text.printable_signedNumeral (by omega) (by omega) value⟩

theorem printable_hexInt (value : Int) : Printable (hexInt value) := by
  cases value with
  | ofNat n => exact Text.printable_hex0x n
  | negSucc n => exact Text.printable_append.mpr ⟨by decide, Text.printable_hex0x _⟩

/-! ## Quoted buffers -/

theorem printable_escapeByte (byte : UInt8) (nextByte : Option UInt8) :
    Printable (escapeByte byte nextByte) := by
  have hmap : ∀ e ∈ escapeMap, Printable e.2 := by decide
  have hascii : ∀ n < 256, isPrintable n = true → Text.isControl (Char.ofNat n) = false := by
    decide +kernel
  have hoctal (n : Nat) : Printable ("\\" ++ Text.oct n) :=
    Text.printable_append.mpr ⟨by decide, Text.printable_oct n⟩
  have hpadded (n : Nat) : Printable ("\\" ++ Text.padLeft 3 '0' (Text.oct n)) :=
    Text.printable_append.mpr
      ⟨by decide, (Text.printable_padLeft (by decide)).mpr (Text.printable_oct n)⟩
  unfold escapeByte
  cases hl : escapeMap.lookup byte.toNat with
  | some escape =>
    simp only [hl]
    exact hmap _ (Dict.mem_of_lookup hl)
  | none =>
    simp only [hl]
    by_cases hp : isPrintable byte.toNat = true
    · rw [if_pos hp, Text.printable_ofList]
      simpa using hascii _ byte.toNat_lt hp
    · rw [if_neg hp]
      cases nextByte with
      | none => exact hoctal _
      | some next =>
        simp only
        split_ifs
        · exact hpadded _
        · exact hoctal _

theorem printable_quoteString (data : Bytes) (maxLength : Nat) :
    Printable (quoteString data maxLength) := by
  have hbytes (bs : Bytes) : ∀ s ∈ escapeBytes bs, Printable s := by
    induction bs with
    | nil => simp [escapeBytes]
    | cons b bs ih =>
      rw [escapeBytes, List.forall_mem_cons]
      exact ⟨printable_escapeByte b _, ih⟩
  have hsuffix : Printable (if data.length > maxLength then "..." else "") := by
    split_ifs <;> decide
  unfold quoteString
  by_cases hempty : data.isEmpty = true
  · rw [if_pos hempty]
    decide
  · rw [if_neg hempty]
    exact Text.printable_append.mpr ⟨(Text.printable_join (by decide)).mpr (hbytes _), hsuffix⟩

/-! ## Arguments -/

/-- The fields of structures that show a text of the traced process. -/
def textFields : List String :=
  ["sun_path", "f_fstypename", "f_mntonname", "f_mntfromname"]

/-- The text of the traced process in a field of a structure. -/
def fieldText : String × FieldVal → Option String
  | (name, .str s) => if name ∈ textFields then some s else none
  | _ => none

/-- The texts of the traced process in an argument. -/
def SyscallArg.texts : SyscallArg → List String
  | .string value => [value]
  | .stringArray strings => strings
  | .struct fields => fields.filterMap fieldText
  | _ => []

/-- A field value of a structure in a list is printable. -/
def Scalar.Printable : Scalar → Prop
  | .str s => Text.Printable s
  | .int _ => True

/-- The names and values of a structure in a list are printable. -/
def PrintableItem (d : ItemFields) : Prop :=
  ∀ e ∈ d, Printable e.1 ∧ e.2.Printable

def FieldVal.Printable : FieldVal → Prop
  | .str s => Text.Printable s
  | .list items => ∀ d ∈ items, PrintableItem d
  | _ => True

def StructItem.Printable : StructItem → Prop
  | .text s => Text.Printable s
  | .fields d => PrintableItem d

/-- Everything in an argument but the texts of the traced process is printable. -/
def SyscallArg.Clean : SyscallArg → Prop
  | .int _ symbolic | .flags _ symbolic => ∀ s ∈ symbolic, Printable s
  | .struct fields => ∀ e ∈ fields, Printable e.1 ∧ (fieldText e = none → e.2.Printable)
  | .structArray items => ∀ item ∈ items, item.Printable
  | .uuid uuidStr => Printable uuidStr
  | _ => True

theorem printable_quoted {s : String} : Printable (quoted s) ↔ Printable s := by
  have hquote : Printable "\"" := by decide
  unfold quoted
  rw [Text.printable_append, Text.printable_append,
    Text.printable_replaceChar (by decide) (by decide),
    Text.printable_replaceChar (by decide) (by decide)]
  simp only [hquote, true_and, and_true]

theorem printable_symbolicOr {symbolic : Option String} {default : String}
    (h : ∀ s ∈ symbolic, Printable s) (hdefault : Printable default) :
    Printable (symbolicOr symbolic default) := by
  unfold symbolicOr
  cases symbolic with
  | none => exact hdefault
  | some s =>
    simp only
    split_ifs
    · exact hdefault
    · exact h s rfl

theorem printable_formatItem {d : ItemFields} (h : PrintableItem d) : Printable (formatItem d) := by
  unfold formatItem
  rw [Text.printable_enclosed (by decide) (by decide) (by decide), List.forall_mem_map]
  intro e he
  obtain ⟨key, value⟩ := e
  obtain ⟨hkey, hvalue⟩ := h _ he
  cases value with
  | str v =>
    have hv : Printable v := hvalue
    simp only [formatItemField]
    split_ifs <;> simp only [Text.printable_append, hkey, hv, and_true, true_and] <;> decide
  | int v =>
    simp only [formatItemField, Text.printable_append, hkey, Text.printable_toString_int, and_true,
      true_and]
    decide

theorem printable_formatList {items : List ItemFields} (h : ∀ d ∈ items, PrintableItem d) :
    Printable (formatList items) := by
  unfold formatList
  split_ifs
  · decide
  · rw [Text.printable_enclosed (by decide) (by decide) (by decide), List.forall_mem_map]
    exact fun d hd => printable_formatItem (h d hd)

theorem FieldVal.Printable.toStr {v : FieldVal} (h : v.Printable) : Text.Printable v.toStr := by
  cases v with
  | str s => exact h
  | int i => exact Text.printable_toString_int i
  | none => decide
  | list items => exact printable_formatList h
  | object v =>
    cases v with
    | chars bs => exact Bytes.printable_repr bs
    | int | voidPtr | array | struct => exact (by decide : Text.Printable "<object>")

theorem StructItem.Printable.toStr {item : StructItem} (h : item.Printable) :
    Text.Printable item.toStr := by
  cases item with
  | text s => exact h
  | fields d => exact printable_formatItem h

/-- A field of a structure is printable exactly when its text is. -/
theorem printable_field {e : String × FieldVal} (hname : Printable e.1)
    (h : fieldText e = none → e.2.Printable) :
    Printable (e.1 ++ "=" ++ e.2.toStr) ↔ ∀ text ∈ fieldText e, Printable text := by
  rw [Text.printable_append, Text.printable_append]
  simp only [hname, and_iff_right (by decide : Printable "="), true_and]
  obtain ⟨name, value⟩ := e
  cases ht : fieldText (name, value) with
  | none => simpa using (h ht).toStr
  | some text =>
    cases value with
    | str s =>
      obtain ⟨-, rfl⟩ : name ∈ textFields ∧ s = text := by simpa [fieldText] using ht
      simp [FieldVal.toStr]
    | int | none | list | object => cases ht

/-- An argument is printable exactly when its texts are. -/
theorem SyscallArg.Clean.printable_iff {arg : SyscallArg} (h : arg.Clean) :
    Printable arg.toStr ↔ ∀ text ∈ arg.texts, Printable text := by
  cases arg with
  | int value symbolic =>
    exact iff_of_true (printable_symbolicOr h (Text.printable_toString_int value)) (by simp [texts])
  | flags value symbolic =>
    exact iff_of_true (printable_symbolicOr h (Text.printable_hex0x value)) (by simp [texts])
  | unsigned value => exact iff_of_true (Text.printable_toString_nat value) (by simp [texts])
  | pointer address => exact iff_of_true (Text.printable_hex0x address) (by simp [texts])
  | string value => simpa [texts, toStr] using printable_quoted
  | fileDescriptor fd => exact iff_of_true (Text.printable_toString_int fd) (by simp [texts])
  | struct fields =>
    have htexts : (∀ text ∈ (SyscallArg.struct fields).texts, Printable text) ↔
        ∀ e ∈ fields, ∀ text ∈ fieldText e, Printable text := by
      simp only [texts, List.mem_filterMap]
      exact ⟨fun h e he text ht => h text ⟨e, he, ht⟩, fun h text ⟨e, he, ht⟩ => h e he text ht⟩
    rw [htexts, toStr]
    split_ifs with hempty
    · obtain rfl := List.isEmpty_iff.mp hempty
      exact iff_of_true (by decide) (by simp)
    · rw [Text.printable_enclosed (by decide) (by decide) (by decide), List.forall_mem_map]
      exact forall₂_congr fun e he => printable_field (h e he).1 (h e he).2
  | buffer data address maxDisplay =>
    refine iff_of_true ?_ (by simp [texts])
    rw [toStr, Text.printable_append, Text.printable_append]
    exact ⟨⟨by decide, printable_quoteString data maxDisplay⟩, by decide⟩
  | stringArray strings =>
    rw [toStr, texts]
    split_ifs with hempty
    · obtain rfl := List.isEmpty_iff.mp hempty
      exact iff_of_true (by decide) (by simp)
    · rw [Text.printable_enclosed (by decide) (by decide) (by decide), List.forall_mem_map]
      exact forall₂_congr fun s _ => printable_quoted
  | structArray items =>
    refine iff_of_true ?_ (by simp [texts])
    rw [toStr]
    split_ifs with hempty
    · decide
    · rw [Text.printable_enclosed (by decide) (by decide) (by decide), List.forall_mem_map]
      exact fun item hitem => (h item hitem).toStr
  | unknown => exact iff_of_true (by decide) (by simp [texts])
  | skip => exact iff_of_true (by decide) (by simp [texts])
  | uuid uuidStr => exact iff_of_true h (by simp [texts])
  | intPtr value =>
    refine iff_of_true ?_ (by simp [texts])
    rw [toStr, Text.printable_append, Text.printable_append]
    exact ⟨⟨by decide, Text.printable_toString_int value⟩, by decide⟩

end StraceMacos
