import StraceMacos.Library.CImage
import StraceMacos.Proofs.StringProofs
import StraceMacos.Syscalls.StructParams.Process

/-!
# `struct sigevent`

The structure has 32 bytes, with a union of an `int` and a pointer at offset 8. The decoder gives
the two members of the union places of their own: it reads 40 bytes and takes the pointer from the
place of the notify function.
-/

namespace StraceMacos

open CStruct
open CString (window AgreeOn)

variable {byteAt : Nat → Option UInt8} {order : ByteOrder} {address : Nat}

/-- The memory in which every byte from `bound` on is replaced. -/
def withTail (byteAt : Nat → Option UInt8) (bound : Nat) (tail : Option UInt8) (a : Nat) :
    Option UInt8 :=
  if a < bound then byteAt a else tail

theorem withTail_of_le {bound a : Nat} {tail : Option UInt8} (h : bound ≤ a) :
    withTail byteAt bound tail a = tail :=
  if_neg (by omega)

theorem agreeOn_withTail {n : Nat} (tail : Option UInt8) :
    AgreeOn byteAt (withTail byteAt (address + n) tail) address n := by
  intro i hi
  rw [withTail, if_pos (by omega)]

/-- `struct sigevent` of macOS; `value` is the union of an `int` and a pointer. -/
structure Sigevent where
  notify : BitVec 32
  signo : BitVec 32
  value : BitVec 64
  notifyFunction : BitVec 64
  notifyAttributes : BitVec 64

namespace Sigevent

/-- The 32 bytes of the structure. -/
def image (order : ByteOrder) (s : Sigevent) : Bytes :=
  Bytes.ofWord order s.notify ++ Bytes.ofWord order s.signo ++ Bytes.ofWord order s.value ++
    Bytes.ofWord order s.notifyFunction ++ Bytes.ofWord order s.notifyAttributes

/-- The fields that show the structure with the given word as `sigev_value_ptr`. -/
def fields (s : Sigevent) (noAbbrev : Bool) (valuePtr : BitVec 64) : Fields :=
  [("sigev_notify", .str (decodeNotify s.notify.toInt noAbbrev)),
    ("sigev_signo", .int s.signo.toInt),
    ("sigev_value_ptr", if valuePtr = 0 then .none else .int valuePtr.toNat)]

theorem fields_inj {s : Sigevent} {noAbbrev : Bool} {v v' : BitVec 64} :
    s.fields noAbbrev v = s.fields noAbbrev v' ↔ v = v' := by
  refine ⟨fun h => ?_, fun h => by rw [h]⟩
  have hptr : (if v = 0 then FieldVal.none else .int v.toNat) =
      if v' = 0 then FieldVal.none else .int v'.toNat := by
    simpa [fields] using h
  split_ifs at hptr with h0 h0'
  · rw [h0, h0']
  · exact BitVec.eq_of_toNat_eq (by simpa using hptr)

/-- The structure and eight bytes behind it as the members that are read: the second half of the
value is padding in front of the pointer. -/
theorem lays_image (s : Sigevent) {behind : Bytes} (hlen : behind.length = 8) :
    Lays 0 sigeventSpec.fields
      [Bytes.ofWord order s.notify, Bytes.ofWord order s.signo, (Bytes.ofWord order s.value).take 4,
        Bytes.ofWord order s.notifyFunction, Bytes.ofWord order s.notifyAttributes, behind]
      (s.image order ++ behind) := by
  have hdata : s.image order ++ behind = [] ++ (Bytes.ofWord order s.notify ++
      ([] ++ (Bytes.ofWord order s.signo ++ ([] ++ ((Bytes.ofWord order s.value).take 4 ++
        ((Bytes.ofWord order s.value).drop 4 ++ (Bytes.ofWord order s.notifyFunction ++
          ([] ++ (Bytes.ofWord order s.notifyAttributes ++ ([] ++ (behind ++ []))))))))))) := by
    simp only [image, List.append_assoc, List.nil_append, List.append_nil]
    rw [← List.append_assoc (List.take 4 _), List.take_append_drop]
  have hvalue : (Bytes.ofWord order s.value).length = 8 := Bytes.length_ofWord _
  rw [hdata]
  refine .cons rfl (Bytes.length_ofWord _) (.cons rfl (Bytes.length_ofWord _) (.cons rfl ?_
    (.cons ?_ (Bytes.length_ofWord _) (.cons rfl (Bytes.length_ofWord _)
      (.cons rfl hlen (.nil _ _))))))
  · rw [List.length_take, hvalue]
    rfl
  · rw [List.length_drop, hvalue]
    rfl

/-- Where the structure is followed by eight readable bytes, its function pointer is shown as the
value. -/
theorem decodeStruct_of_readable (s : Sigevent)
    (h : window byteAt address 32 = some (s.image order))
    {behind : Bytes} (hbehind : window byteAt (address + 32) 8 = some behind) (noAbbrev : Bool) :
    sigeventSpec.decodeStruct (byteProcess byteAt order) address noAbbrev =
      .ok (some (s.fields noAbbrev s.notifyFunction)) := by
  have hlen : behind.length = 8 := CString.length_window hbehind
  have hwindow : window byteAt address 40 = some (s.image order ++ behind) :=
    CString.window_append h hbehind
  have hread : readStruct (byteProcess byteAt order) address sigeventSpec.fields =
      some (loadParts order sigeventSpec.fields [Bytes.ofWord order s.notify,
        Bytes.ofWord order s.signo, (Bytes.ofWord order s.value).take 4,
        Bytes.ofWord order s.notifyFunction, Bytes.ofWord order s.notifyAttributes, behind]) := by
    rw [← loadAll_of_lays (lays_image s hlen)]
    exact readStruct_of_window sigeventSpec.fields (by decide) hwindow
  have hnotify : loadInt order true (Bytes.ofWord order s.notify) = s.notify.toInt :=
    Bytes.toInt_ofWord (by decide) _
  have hsigno : loadInt order true (Bytes.ofWord order s.signo) = s.signo.toInt :=
    Bytes.toInt_ofWord (by decide) _
  have hptr : rawFieldVal (load order .voidPtr (Bytes.ofWord order s.notifyFunction)) =
      if s.notifyFunction = 0 then FieldVal.none else .int s.notifyFunction.toNat := by
    have hzero : s.notifyFunction.toNat = 0 ↔ s.notifyFunction = 0 :=
      (BitVec.toNat_eq (y := 0)).symm
    simp only [load, Bytes.toNat_ofWord (by decide : 8 ∣ 64), hzero]
    split_ifs <;> rfl
  rw [StructSpec.decodeStruct, hread, fields, ← hnotify, ← hsigno, ← hptr]
  rfl

theorem decodeStruct_of_unreadable (hbehind : window byteAt (address + 32) 8 = none)
    (noAbbrev : Bool) :
    sigeventSpec.decodeStruct (byteProcess byteAt order) address noAbbrev = .ok none := by
  have hwindow : window byteAt address 40 = none := by
    cases hw : window byteAt address 40 with
    | none => rfl
    | some data =>
      have hdrop := CString.window_drop hw (n := 32) (by omega)
      rw [hbehind] at hdrop
      cases hdrop
  have hread : readStruct (byteProcess byteAt order) address sigeventSpec.fields = none :=
    readStruct_of_window sigeventSpec.fields (by decide) hwindow
  rw [StructSpec.decodeStruct, hread]

/-- **A `struct sigevent` is shown with its value exactly when the eight bytes behind it can be read
and the notify function is the value**, and what is shown always depends on these bytes. -/
theorem decodeStruct_value_iff (s : Sigevent) (h : window byteAt address 32 = some (s.image order))
    (noAbbrev : Bool) :
    (sigeventSpec.decodeStruct (byteProcess byteAt order) address noAbbrev =
        .ok (some (s.fields noAbbrev s.value)) ↔
      (window byteAt (address + 32) 8).isSome ∧ s.notifyFunction = s.value) ∧
    ∃ byteAt', AgreeOn byteAt byteAt' address 32 ∧
      sigeventSpec.decodeStruct (byteProcess byteAt' order) address noAbbrev ≠
        sigeventSpec.decodeStruct (byteProcess byteAt order) address noAbbrev := by
  constructor
  · cases hbehind : window byteAt (address + 32) 8 with
    | none =>
      rw [decodeStruct_of_unreadable hbehind]
      simp
    | some behind =>
      rw [decodeStruct_of_readable s h hbehind]
      simp [fields_inj]
  · cases hbehind : window byteAt (address + 32) 8 with
    | none =>
      have hsome : (window (withTail byteAt (address + 32) (some 0)) (address + 32) 8).isSome :=
        CString.window_isSome fun i _ => by rw [withTail_of_le (Nat.le_add_right _ i)]; rfl
      obtain ⟨behind, hbehind'⟩ := Option.isSome_iff_exists.mp hsome
      refine ⟨_, agreeOn_withTail (some 0), ?_⟩
      rw [decodeStruct_of_unreadable hbehind, decodeStruct_of_readable s
        ((agreeOn_withTail (some 0)).window_eq le_rfl ▸ h) hbehind']
      simp
    | some behind =>
      have hnone : window (withTail byteAt (address + 32) none) (address + 32) 8 = none :=
        CString.window_succ_eq_none_iff.mpr (.inl (withTail_of_le le_rfl))
      refine ⟨_, agreeOn_withTail none, ?_⟩
      rw [decodeStruct_of_readable s h hbehind, decodeStruct_of_unreadable hnone]
      simp

/-- A notification by signal 30 with the value 7 and the given notify function. -/
def bySignal (notifyFunction : BitVec 64) : Sigevent :=
  ⟨1, 30, 7, notifyFunction, 0⟩

theorem bySignal_shown_with_value :
    sigeventSpec.decodeStruct (byteProcess (page ((bySignal 7).image .little)) .little) 0x1000
      false = .ok (some ((bySignal 7).fields false 7)) :=
  (decodeStruct_value_iff (bySignal 7) (by decide +kernel) false).1.mpr ⟨by decide +kernel, rfl⟩

/-- Without a notify function the value is shown as null. -/
theorem bySignal_shown_with_null : ¬ ∀ (s : Sigevent) byteAt order address noAbbrev,
    window byteAt address 32 = some (s.image order) →
    sigeventSpec.decodeStruct (byteProcess byteAt order) address noAbbrev =
      .ok (some (s.fields noAbbrev s.value)) := by
  intro h
  have hwindow : window (page ((bySignal 0).image .little)) 0x1000 32 =
      some ((bySignal 0).image .little) := by
    decide +kernel
  have hbehind : window (page ((bySignal 0).image .little)) (0x1000 + 32) 8 =
      some (List.replicate 8 0) := by
    decide +kernel
  have hshown := h (bySignal 0) _ .little 0x1000 false hwindow
  rw [decodeStruct_of_readable _ hwindow hbehind] at hshown
  have hvalue : (0 : BitVec 64) = 7 := fields_inj.mp (Option.some.inj (Except.ok.inj hshown))
  cases hvalue

end Sigevent

end StraceMacos
