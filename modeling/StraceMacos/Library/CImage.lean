import StraceMacos.Library.CStruct

/-!
# Images of C structures

The bytes of machine words, and the bytes of structures whose members are laid out with natural
alignment. What is loaded from an image are the members that it was made of, whatever its padding
holds; an array is the image of its elements one after another.
-/

namespace Bytes

/-- The `size` little-endian bytes of a number. -/
def ofNatLE : Nat → Nat → Bytes
  | 0, _ => []
  | size + 1, n => UInt8.ofNat n :: ofNatLE size (n / 256)

/-- The bytes of a number in the given order. -/
def ofNat (order : ByteOrder) (size n : Nat) : Bytes :=
  match order with
  | .little => ofNatLE size n
  | .big => (ofNatLE size n).reverse

/-- The bytes of a machine word. -/
def ofWord (order : ByteOrder) {w : Nat} (v : BitVec w) : Bytes :=
  ofNat order (w / 8) v.toNat

theorem length_ofNatLE (size n : Nat) : (ofNatLE size n).length = size := by
  induction size generalizing n with
  | zero => rfl
  | succ size ih => rw [ofNatLE, List.length_cons, ih]

theorem toNatLE_ofNatLE {size n : Nat} (h : n < 256 ^ size) : toNatLE (ofNatLE size n) = n := by
  induction size generalizing n with
  | zero =>
    obtain rfl : n = 0 := by simpa using h
    rfl
  | succ size ih =>
    rw [Nat.pow_succ] at h
    have hrest : n / 256 < 256 ^ size := by omega
    have hbyte : (UInt8.ofNat n).toNat = n % 256 := by simp
    rw [ofNatLE, toNatLE, ih hrest, hbyte]
    omega

variable {order : ByteOrder}

@[simp] theorem length_ofNat (size n : Nat) : (ofNat order size n).length = size := by
  cases order <;> simp [ofNat, length_ofNatLE]

theorem toNat_ofNat {size n : Nat} (h : n < 256 ^ size) : toNat order (ofNat order size n) = n := by
  cases order <;> simp [toNat, ofNat, toNatLE_ofNatLE h]

@[simp] theorem length_ofWord {w : Nat} (v : BitVec w) : (ofWord order v).length = w / 8 :=
  length_ofNat _ _

theorem toNat_ofWord {w : Nat} (hw : 8 ∣ w) (v : BitVec w) :
    toNat order (ofWord order v) = v.toNat := by
  obtain ⟨n, rfl⟩ := hw
  refine toNat_ofNat ?_
  have hlt := v.isLt
  rw [Nat.pow_mul] at hlt
  rwa [Nat.mul_div_cancel_left n (by omega)]

theorem toInt_ofWord {w : Nat} (hw : 8 ∣ w) (v : BitVec w) :
    toInt order (ofWord order v) = v.toInt := by
  rw [toInt, length_ofWord, toNat_ofWord hw, BitVec.toInt_eq_toNat_cond, toSigned]
  obtain ⟨n, rfl⟩ := hw
  rw [Nat.mul_div_cancel_left n (by omega), Nat.pow_mul]

theorem slice_append {before part rest : Bytes} {start stop : Nat} (hstart : before.length = start)
    (hstop : start + part.length = stop) : slice (before ++ (part ++ rest)) start stop = part := by
  subst hstart hstop
  simp [slice]

end Bytes

namespace CStruct

variable {order : ByteOrder} {fs : List Field} {parts : List Bytes} {data : Bytes}

/-- The bytes lay out the members from an offset on: each behind the padding that its alignment
asks for, with any bytes in the padding and behind the last member. -/
inductive Lays : Nat → List Field → List Bytes → Bytes → Prop where
  | nil (off : Nat) (tail : Bytes) : Lays off [] [] tail
  | cons {off : Nat} {f : Field} {fs : List Field} {part : Bytes} {parts : List Bytes}
      {pad rest : Bytes} (hpad : off + pad.length = alignUp f.type.align off)
      (hsize : part.length = f.type.size)
      (hrest : Lays (alignUp f.type.align off + f.type.size) fs parts rest) :
      Lays off (f :: fs) (part :: parts) (pad ++ (part ++ rest))

/-- The members with the values that their bytes denote. -/
def loadParts (order : ByteOrder) (fs : List Field) (parts : List Bytes) : List (Field × CVal) :=
  List.zipWith (fun f part => (f, load order f.type part)) fs parts

theorem load_offsets_of_lays {off : Nat} (h : Lays off fs parts data) {before : Bytes}
    (hoff : before.length = off) :
    ((offsets off fs).map fun o => (o.2, load order o.2.type
      (Bytes.slice (before ++ data) o.1 (o.1 + o.2.type.size)))) = loadParts order fs parts := by
  induction h generalizing before with
  | nil => rfl
  | @cons off f fs part parts pad rest hpad hsize _ ih =>
    have hstart : (before ++ pad).length = alignUp f.type.align off := by
      rw [List.length_append, hoff, hpad]
    have hpart : Bytes.slice (before ++ (pad ++ (part ++ rest))) (alignUp f.type.align off)
        (alignUp f.type.align off + f.type.size) = part := by
      rw [← List.append_assoc]
      exact Bytes.slice_append hstart (by rw [hsize])
    have hrest := @ih (before ++ pad ++ part) (by rw [List.length_append, hstart, hsize])
    rw [List.append_assoc, List.append_assoc] at hrest
    rw [offsets, List.map_cons, loadParts, List.zipWith_cons_cons]
    exact congrArg₂ List.cons (by rw [hpart]) hrest

/-- Every member is loaded from an image as it was laid out. -/
theorem loadAll_of_lays (h : Lays 0 fs parts data) :
    loadAll order fs data = loadParts order fs parts := by
  rw [← load_offsets_of_lays h List.length_nil]
  exact List.map_congr_left fun o _ => rfl

/-- Whether the members need no padding between them. -/
def packed : Nat → List Field → Bool
  | _, [] => true
  | off, f :: fs => alignUp f.type.align off == off && packed (off + f.type.size) fs

theorem lays_flatten {off : Nat} (hpacked : packed off fs = true)
    (hsizes : parts.map List.length = fs.map (·.type.size)) : Lays off fs parts parts.flatten := by
  induction fs generalizing off parts with
  | nil =>
    obtain rfl : parts = [] := by simpa using hsizes
    exact .nil off []
  | cons f fs ih =>
    cases parts with
    | nil => cases hsizes
    | cons part parts =>
      obtain ⟨hsize, hsizes⟩ := List.cons.inj hsizes
      obtain ⟨halign, hrest⟩ : alignUp f.type.align off = off ∧
          packed (off + f.type.size) fs = true := by simpa [packed] using hpacked
      exact @Lays.cons off f fs part parts [] parts.flatten halign.symm hsize
        (halign.symm ▸ ih hrest hsizes)

/-! ## Arrays -/

/-- The elements of an array are the slices of its image. -/
theorem slices_flatten {images : List Bytes} {size : Nat}
    (h : ∀ image ∈ images, image.length = size) :
    ((List.range images.length).map fun i =>
      Bytes.slice images.flatten (i * size) ((i + 1) * size)) = images := by
  induction images with
  | nil => rfl
  | cons image images ih =>
    have hsize := h image List.mem_cons_self
    have hfirst : Bytes.slice (image :: images).flatten (0 * size) ((0 + 1) * size) = image := by
      show Bytes.slice ([] ++ (image ++ images.flatten)) (0 * size) ((0 + 1) * size) = image
      exact Bytes.slice_append (by simp) (by rw [hsize]; simp)
    have hshift (i : Nat) : Bytes.slice (image :: images).flatten ((i + 1) * size)
        ((i + 1 + 1) * size) = Bytes.slice images.flatten (i * size) ((i + 1) * size) := by
      have hdrop : (image ++ images.flatten).drop ((i + 1) * size) =
          images.flatten.drop (i * size) := by
        rw [Nat.succ_mul, Nat.add_comm, ← hsize, List.drop_append]
        simp
      have hlen : (i + 1 + 1) * size - (i + 1) * size = (i + 1) * size - i * size := by
        simp only [Nat.succ_mul]
        omega
      rw [Bytes.slice, Bytes.slice, List.flatten_cons, hdrop, hlen]
    rw [List.length_cons, List.range_succ_eq_map, List.map_cons, List.map_map, hfirst]
    simp only [Function.comp_def, Nat.succ_eq_add_one, hshift]
    rw [ih fun b hb => h b (List.mem_cons_of_mem _ hb)]

theorem slice_flatten {images : List Bytes} {size i : Nat}
    (h : ∀ image ∈ images, image.length = size) (hi : i < images.length) :
    Bytes.slice images.flatten (i * size) ((i + 1) * size) = images[i] := by
  have hget := congrArg (·[i]?) (slices_flatten h)
  simpa [hi] using hget

end CStruct
