import StraceMacos.Proofs.StringProofs
import StraceMacos.Syscalls.Registry

/-!
# Socket addresses in memory

The address and the port of an Internet address stand in network byte order in memory. The members
are loaded in the order of the host and swapped by the `socket` module, which shows the bytes in the
order of memory on either host.
-/

namespace StraceMacos

open CStruct
open CString (window run AgreeOn)

variable {byteAt : Nat → Option UInt8} {order : ByteOrder} {address : Nat}

/-! ## Network byte order -/

theorem ntohs_toNat (b0 b1 : UInt8) :
    ntohs order (Bytes.toNat order [b0, b1]) = 256 * b0.toNat + b1.toNat := by
  have h0 := b0.toNat_lt
  have h1 := b1.toNat_lt
  cases order with
  | little =>
    simp only [ntohs, Bytes.toNat, Bytes.toNatLE]
    omega
  | big =>
    simp only [ntohs, Bytes.toNat, Bytes.toNatLE, List.reverse_cons, List.reverse_nil,
      List.nil_append, List.cons_append]
    omega

/-- The octets of a number of four bytes. -/
theorem octets_eq {v : Nat} {b0 b1 b2 b3 : UInt8}
    (h : v = b0.toNat * 2 ^ 24 + b1.toNat * 2 ^ 16 + b2.toNat * 256 + b3.toNat) :
    v / 2 ^ 24 % 256 = b0.toNat ∧ v / 2 ^ 16 % 256 = b1.toNat ∧ v / 256 % 256 = b2.toNat ∧
      v % 256 = b3.toNat := by
  have h0 := b0.toNat_lt
  have h1 := b1.toNat_lt
  have h2 := b2.toNat_lt
  have h3 := b3.toNat_lt
  omega

/-- The number has the bytes in network order, whatever the order of the host. -/
theorem ntohl_toNat (order : ByteOrder) (b0 b1 b2 b3 : UInt8) :
    ntohl order (Bytes.toNat order [b0, b1, b2, b3]) =
      b0.toNat * 2 ^ 24 + b1.toNat * 2 ^ 16 + b2.toNat * 256 + b3.toNat := by
  cases order with
  | little =>
    have hvalue : Bytes.toNat .little [b0, b1, b2, b3] =
        b3.toNat * 2 ^ 24 + b2.toNat * 2 ^ 16 + b1.toNat * 256 + b0.toNat := by
      simp only [Bytes.toNat, Bytes.toNatLE]
      omega
    obtain ⟨h3, h2, h1, h0⟩ := octets_eq hvalue
    simp only [ntohl, h0, h1, h2, h3]
  | big =>
    simp only [ntohl, Bytes.toNat, Bytes.toNatLE, List.reverse_cons, List.reverse_nil,
      List.nil_append, List.cons_append]
    omega

theorem toBytesBig4_ntohl (b0 b1 b2 b3 : UInt8) :
    toBytesBig4 (ntohl order (Bytes.toNat order [b0, b1, b2, b3])) =
      [b0, b1, b2, b3].map UInt8.toNat := by
  obtain ⟨h0, h1, h2, h3⟩ := octets_eq (ntohl_toNat order b0 b1 b2 b3)
  simp only [toBytesBig4, h0, h1, h2, h3, List.map_cons, List.map_nil]

/-! ## Families -/

/-- The fields of an address of the given family. -/
def familyFields (process : Process) (address : Nat) (family : UInt8) : Fields :=
  if family = 1 then decodeUnix process address
  else if family = 2 then decodeInet process address
  else if family = 30 then decodeInet6 process address
  else [("sa_family", .str (afConstants.get family.toNat (toString (family.toNat : Int))))]

theorem decodeSockaddr_of_none (h : window byteAt address 2 = none) (noAbbrev : Bool) :
    decodeSockaddr (byteProcess byteAt order) address noAbbrev = .ok none := by
  have hread : readStruct (byteProcess byteAt order) address sockaddrBase = none :=
    readStruct_of_window sockaddrBase (by decide) h
  rw [decodeSockaddr, hread]
  rfl

theorem decodeSockaddr_of_family {len family : UInt8}
    (h : window byteAt address 2 = some [len, family]) (noAbbrev : Bool) :
    decodeSockaddr (byteProcess byteAt order) address noAbbrev =
      .ok (some (familyFields (byteProcess byteAt order) address family)) := by
  have hread : readStruct (byteProcess byteAt order) address sockaddrBase =
      some (loadAll order sockaddrBase [len, family]) :=
    readStruct_of_window sockaddrBase (by decide) h
  have hfamily : getInt (loadAll order sockaddrBase [len, family]) "sa_family" =
      family.toNat := by
    have hbyte : Bytes.toNat order [family] = family.toNat := by
      cases order <;> simp [Bytes.toNat, Bytes.toNatLE]
    rw [← hbyte]
    rfl
  have hcast {n : Nat} {b : UInt8} (hb : b.toNat = n) : (family.toNat : Int) = n ↔ family = b := by
    rw [← hb, Nat.cast_inj, UInt8.toNat_inj]
  have hunix : (family.toNat : Int) = 1 ↔ family = 1 := hcast (by decide)
  have hinet : (family.toNat : Int) = 2 ↔ family = 2 := hcast (by decide)
  have hinet6 : (family.toNat : Int) = 30 ↔ family = 30 := hcast (by decide)
  simp only [decodeSockaddr, hread, Option.map_some, hfamily, hunix, hinet, hinet6, familyFields]

/-! ## Internet addresses -/

/-- The fields that show an `AF_INET` address with the port and the octets of the address. -/
def inetFields (port : Nat) (octets : List Nat) : Fields :=
  ("sa_family", .str "AF_INET") ::
    (if port = 0 then [] else [("sin_port", .str ("htons(" ++ toString port ++ ")"))]) ++
    [("sin_addr", .str ("inet_addr(\"" ++ Text.join "." (octets.map toString) ++ "\")"))]

/-- The port and the address of an `AF_INET` address are shown from their bytes. -/
theorem decodeInet_eq {bytes : Bytes} (h : window byteAt address 16 = some bytes) :
    decodeInet (byteProcess byteAt order) address =
      inetFields (ntohs order (Bytes.toNat order (bytes.slice 2 4)))
        (toBytesBig4 (ntohl order (Bytes.toNat order (bytes.slice 4 8)))) := by
  have hread : readStruct (byteProcess byteAt order) address sockaddrIn =
      some (loadAll order sockaddrIn bytes) :=
    readStruct_of_window sockaddrIn (by decide) h
  have hport : (getInt (loadAll order sockaddrIn bytes) "sin_port").toNat =
      Bytes.toNat order (bytes.slice 2 4) := rfl
  have haddr : (getInt (loadAll order sockaddrIn bytes) "sin_addr").toNat =
      Bytes.toNat order (bytes.slice 4 8) := rfl
  have horder : (byteProcess byteAt order).byteOrder = order := rfl
  simp only [decodeInet, hread, horder, hport, haddr, portField, inetNtoa, inetFields, ne_eq,
    ite_not]

/-- **An Internet address is shown by its octets in the order of memory, and by its port when that
is not zero, on a little-endian and on a big-endian host.** -/
theorem sockaddr_inet {ctx : DecodeContext} {direction : ParamDirection}
    (hactive : direction.active ctx) (hprocess : ctx.process = byteProcess byteAt order)
    {len p0 p1 a0 a1 a2 a3 : UInt8} {zero : Bytes}
    (hread : window byteAt ctx.rawValue 16 = some ([len, 2, p0, p1, a0, a1, a2, a3] ++ zero)) :
    decodeStructParam decodeSockaddr direction ctx = .ok (some (.struct
      (inetFields (256 * p0.toNat + p1.toNat) ([a0, a1, a2, a3].map UInt8.toNat)))) := by
  have hfamily : window byteAt ctx.rawValue 2 = some [len, 2] :=
    CString.window_take hread (by omega)
  have hport : Bytes.slice ([len, 2, p0, p1, a0, a1, a2, a3] ++ zero) 2 4 = [p0, p1] := rfl
  have haddr : Bytes.slice ([len, 2, p0, p1, a0, a1, a2, a3] ++ zero) 4 8 = [a0, a1, a2, a3] := rfl
  refine decodeStructParam_of_active hactive ?_
  rw [hprocess, decodeSockaddr_of_family hfamily, familyFields, if_neg (by decide), if_pos rfl,
    decodeInet_eq hread, hport, haddr, ntohs_toNat, toBytesBig4_ntohl]
  rfl

/-- A page with the address `127.0.0.1:8080` at its beginning. -/
def inetPage : Nat → Option UInt8 :=
  page [16, 2, 0x1F, 0x90, 127, 0, 0, 1]

/-- `connect(3, 0x1000, n)` -/
def connectContext (byteAt : Nat → Option UInt8) (order : ByteOrder) (n : Nat) : DecodeContext where
  noAbbrev := false
  process := byteProcess byteAt order
  rawValue := 0x1000
  allArgs := ⟨0, [3, 0x1000, n]⟩
  atEntry := true
  returnValue := none

theorem sockaddr_inet_loopback :
    decodeStructParam decodeSockaddr .in (connectContext inetPage .big 16) =
      .ok (some (.struct [("sa_family", .str "AF_INET"), ("sin_port", .str "htons(8080)"),
        ("sin_addr", .str "inet_addr(\"127.0.0.1\")")])) := by
  have hactive : ParamDirection.in.active (connectContext inetPage .big 16) := by decide
  have hprocess : (connectContext inetPage .big 16).process = byteProcess inetPage .big := rfl
  have hread : window inetPage 0x1000 16 =
      some ([16, 2, 0x1F, 0x90, 127, 0, 0, 1] ++ List.replicate 8 0) := by
    decide +kernel
  exact sockaddr_inet hactive hprocess hread

/-! ## The bytes that decide -/

/-- The end of the structure that is read for the family of the address. -/
def structureEnd (byteAt : Nat → Option UInt8) (address : Nat) : Nat :=
  match byteAt (address + 1) with
  | some 1 => 106
  | some 2 => 16
  | some 30 => 28
  | _ => 2

/-- The end of the bytes that are shown when the structure can be read: a path ends with its NUL,
and `sin_zero` is not shown. -/
def shownEnd (byteAt : Nat → Option UInt8) (address : Nat) : Nat :=
  match byteAt (address + 1) with
  | some 1 => min 106 ((run byteAt 104 (address + 2)).length + 3)
  | some 2 => 8
  | some 30 => 28
  | _ => 2

/-- The structure that is read for the address can be read. -/
def StructureReadable (byteAt : Nat → Option UInt8) (address : Nat) : Prop :=
  (window byteAt address (structureEnd byteAt address)).isSome

/-- The first `n` bytes decide what is shown: they are the whole structure, or the structure can be
read in both memories and what it shows is among them. -/
def Decides (byteAt byteAt' : Nat → Option UInt8) (address n : Nat) : Prop :=
  structureEnd byteAt address ≤ n ∨
    StructureReadable byteAt address ∧ StructureReadable byteAt' address ∧
      shownEnd byteAt address ≤ n

theorem two_le_shownEnd : 2 ≤ shownEnd byteAt address := by
  unfold shownEnd
  split <;> omega

theorem shownEnd_le_structureEnd : shownEnd byteAt address ≤ structureEnd byteAt address := by
  unfold shownEnd structureEnd
  split <;> omega

/-- The fields that show an `AF_UNIX` address with this path; one that is empty or not valid UTF-8
is left out. -/
def unixFields (path : Bytes) : Fields :=
  ("sa_family", .str "AF_UNIX") ::
    match path.decodeUtf8 with
    | some path => if path.isEmpty then [] else [("sun_path", .str ("\"" ++ path ++ "\""))]
    | none => []

theorem decodeUnix_eq {bytes : Bytes} (h : window byteAt address 106 = some bytes) :
    decodeUnix (byteProcess byteAt order) address = unixFields (run byteAt 104 (address + 2)) := by
  have hlen : bytes.length = 106 := CString.length_window h
  have hread : readStruct (byteProcess byteAt order) address sockaddrUn =
      some (loadAll order sockaddrUn bytes) :=
    readStruct_of_window sockaddrUn (by decide) h
  have hpath : getChars (loadAll order sockaddrUn bytes) "sun_path" =
      run byteAt 104 (address + 2) := by
    have hdrop : window byteAt (address + 2) 104 = some (bytes.drop 2) :=
      CString.window_drop h (by omega)
    have hslice : bytes.slice 2 106 = bytes.drop 2 :=
      List.take_of_length_le (by rw [List.length_drop]; omega)
    rw [CString.run_of_readable hdrop, ← hslice]
    rfl
  unfold decodeUnix unixFields
  cases htext : (run byteAt 104 (address + 2)).decodeUtf8 <;> simp only [hread, hpath, htext]

section Agree

variable {byteAt' : Nat → Option UInt8} {n : Nat}

theorem readStruct_congr (h : AgreeOn byteAt byteAt' address n) (fields : List Field)
    (hpos : 0 < structSize fields) (hn : structSize fields ≤ n) :
    readStruct (byteProcess byteAt order) address fields =
      readStruct (byteProcess byteAt' order) address fields := by
  rw [readStruct_byteProcess hpos, readStruct_byteProcess hpos, h.window_eq hn]

theorem Decides.two_le (h : Decides byteAt byteAt' address n) : 2 ≤ n :=
  have hend := two_le_shownEnd.trans shownEnd_le_structureEnd
  h.elim hend.trans fun h => two_le_shownEnd.trans h.2.2

/-- The cases of `Decides` for an address with a known family. -/
theorem Decides.cases (h : Decides byteAt byteAt' address n)
    (hagree : AgreeOn byteAt byteAt' address n) {size shown : Nat}
    (hsize : structureEnd byteAt address = size) (hshown : shownEnd byteAt address = shown) :
    size ≤ n ∨ ∃ bytes bytes', window byteAt address size = some bytes ∧
      window byteAt' address size = some bytes' ∧ shown ≤ n := by
  have hsize' : structureEnd byteAt' address = size := by
    rw [← hsize, structureEnd, structureEnd, hagree 1 h.two_le]
  refine h.imp (hsize ▸ ·) fun ⟨hread, hread', hn⟩ => ?_
  rw [StructureReadable, hsize] at hread
  rw [StructureReadable, hsize'] at hread'
  obtain ⟨bytes, hbytes⟩ := Option.isSome_iff_exists.mp hread
  obtain ⟨bytes', hbytes'⟩ := Option.isSome_iff_exists.mp hread'
  exact ⟨bytes, bytes', hbytes, hbytes', hshown ▸ hn⟩

theorem decodeUnix_congr (h : AgreeOn byteAt byteAt' address n)
    (hfamily : byteAt (address + 1) = some 1) (hdecides : Decides byteAt byteAt' address n) :
    decodeUnix (byteProcess byteAt order) address =
      decodeUnix (byteProcess byteAt' order) address := by
  have hsize : structureEnd byteAt address = 106 := by simp [structureEnd, hfamily]
  have hshown : shownEnd byteAt address =
      min 106 ((run byteAt 104 (address + 2)).length + 3) := by
    simp [shownEnd, hfamily]
  rcases hdecides.cases h hsize hshown with hn | ⟨bytes, bytes', hbytes, hbytes', hn⟩
  · unfold decodeUnix
    rw [readStruct_congr h sockaddrUn (by decide) hn]
  · rw [decodeUnix_eq hbytes, decodeUnix_eq hbytes', (h.drop (k := 2)).run_eq (by omega)]

theorem decodeInet_congr (h : AgreeOn byteAt byteAt' address n)
    (hfamily : byteAt (address + 1) = some 2) (hdecides : Decides byteAt byteAt' address n) :
    decodeInet (byteProcess byteAt order) address =
      decodeInet (byteProcess byteAt' order) address := by
  have hsize : structureEnd byteAt address = 16 := by simp [structureEnd, hfamily]
  have hshown : shownEnd byteAt address = 8 := by simp [shownEnd, hfamily]
  rcases hdecides.cases h hsize hshown with hn | ⟨bytes, bytes', hbytes, hbytes', hn⟩
  · unfold decodeInet
    rw [readStruct_congr h sockaddrIn (by decide) hn]
    rfl
  · have hprefix : bytes.take 8 = bytes'.take 8 := by
      have hwindow := h.window_eq hn
      rw [CString.window_take hbytes (by omega), CString.window_take hbytes' (by omega)] at hwindow
      exact Option.some.inj hwindow
    have hslice {i j : Nat} (hj : j ≤ 8) : bytes.slice i j = bytes'.slice i j := by
      rw [← Bytes.slice_take hj, hprefix, Bytes.slice_take hj]
    rw [decodeInet_eq hbytes, decodeInet_eq hbytes', hslice (by omega), hslice (by omega)]

theorem decodeInet6_congr (h : AgreeOn byteAt byteAt' address n)
    (hfamily : byteAt (address + 1) = some 30) (hdecides : Decides byteAt byteAt' address n) :
    decodeInet6 (byteProcess byteAt order) address =
      decodeInet6 (byteProcess byteAt' order) address := by
  have hsize : structureEnd byteAt address = 28 := by simp [structureEnd, hfamily]
  have hshown : shownEnd byteAt address = 28 := by simp [shownEnd, hfamily]
  have hn : 28 ≤ n := by
    rcases hdecides.cases h hsize hshown with hn | ⟨-, -, -, -, hn⟩ <;> exact hn
  unfold decodeInet6
  rw [readStruct_congr h sockaddrIn6 (by decide) hn]
  rfl

theorem familyFields_congr (h : AgreeOn byteAt byteAt' address n) {family : UInt8}
    (hfamily : byteAt (address + 1) = some family) (hdecides : Decides byteAt byteAt' address n) :
    familyFields (byteProcess byteAt order) address family =
      familyFields (byteProcess byteAt' order) address family := by
  unfold familyFields
  split_ifs with hunix hinet hinet6
  · exact decodeUnix_congr h (hunix ▸ hfamily) hdecides
  · exact decodeInet_congr h (hinet ▸ hfamily) hdecides
  · exact decodeInet6_congr h (hinet6 ▸ hfamily) hdecides
  · rfl

/-- Memories that agree where the address is decided are decoded to the same fields. -/
theorem decodeSockaddr_congr (h : AgreeOn byteAt byteAt' address n)
    (hdecides : Decides byteAt byteAt' address n) (noAbbrev : Bool) :
    decodeSockaddr (byteProcess byteAt order) address noAbbrev =
      decodeSockaddr (byteProcess byteAt' order) address noAbbrev := by
  have hwindow := h.window_eq hdecides.two_le
  cases hbase : window byteAt address 2 with
  | none =>
    rw [decodeSockaddr_of_none hbase, decodeSockaddr_of_none (hwindow.symm.trans hbase)]
  | some base =>
    obtain ⟨len, tail, -, htail, rfl⟩ := CString.window_succ_eq_some_iff.mp hbase
    obtain ⟨family, rest, hfamily, hrest, rfl⟩ := CString.window_succ_eq_some_iff.mp htail
    obtain rfl : [] = rest := by simpa using hrest
    rw [decodeSockaddr_of_family hbase, decodeSockaddr_of_family (hwindow.symm.trans hbase),
      familyFields_congr h hfamily hdecides]

end Agree

/-! ## The calls that pass an address -/

/-- The calls that pass an address with its length, with the index of the address. -/
def addressArgs : List (String × Nat) :=
  [("bind", 1), ("connect", 1), ("sendto", 4)]

def SyscallParam.isAddress : SyscallParam → Bool
  | .plain (.sockaddr .in) => true
  | _ => false

theorem registered_addresses : ∀ e ∈ registered, ∀ o ∈ addressArgs, e.1.name = o.1 →
    e.1.params[o.2]? = some (.plain (.sockaddr .in)) := by
  have h : ∀ e ∈ registered, ∀ o ∈ addressArgs, e.1.name = o.1 →
      e.1.params[o.2]?.any SyscallParam.isAddress = true := by
    decide +kernel
  intro e he o ho hname
  obtain ⟨param, hparam, haddress⟩ := (Option.any_eq_true _ _).mp (h e he o ho hname)
  unfold SyscallParam.isAddress at haddress
  split at haddress
  · exact hparam
  · cases haddress

/-- The same context with another memory. -/
def DecodeContext.withBytes (ctx : DecodeContext) (byteAt : Nat → Option UInt8) : DecodeContext :=
  { ctx with process := byteProcess byteAt ctx.process.byteOrder }

/-- A path that fills its 104 bytes is shown as they are. -/
theorem decodeUnix_of_full_path {bytes : Bytes} {path : String}
    (hread : window byteAt address 106 = some bytes) (h0 : (0 : UInt8) ∉ bytes.drop 2)
    (hpath : Bytes.decodeUtf8 (bytes.drop 2) = some path) :
    decodeUnix (byteProcess byteAt order) address =
      [("sa_family", .str "AF_UNIX"), ("sun_path", .str ("\"" ++ path ++ "\""))] := by
  have hdrop : window byteAt (address + 2) 104 = some (bytes.drop 2) :=
    CString.window_drop hread (by omega)
  have hlen : (bytes.drop 2).length = 104 := CString.length_window hdrop
  have hrun : run byteAt 104 (address + 2) = bytes.drop 2 := (run_of_lastChunk hdrop h0 hlen).1
  have hempty : path.isEmpty = false := by
    obtain ⟨b, bs, hbs⟩ := List.exists_cons_of_length_eq_add_one hlen
    rw [hbs] at hpath
    exact Bytes.isEmpty_of_decodeUtf8 hpath
  rw [decodeUnix_eq hread, unixFields, hrun, hpath]
  simp [hempty]

/-- **The socket addresses of `bind`, `connect` and `sendto` are decoded from the structure of their
family**: two memories that agree on the first bytes of the address are decoded alike when these
bytes are the whole structure, or hold what is shown of structures that can be read. -/
theorem sockaddr_decided {d : SyscallDef} (hd : d ∈ registered.map Prod.fst) {i : Nat}
    (hi : (d.name, i) ∈ addressArgs) :
    d.params[i]? = some (.plain (.sockaddr .in)) ∧
    (∀ (ctx : DecodeContext) caches n byteAt byteAt', AgreeOn byteAt byteAt' ctx.rawValue n →
      Decides byteAt byteAt' ctx.rawValue n →
      (Param.sockaddr .in).decodePure (ctx.withBytes byteAt) caches =
        (Param.sockaddr .in).decodePure (ctx.withBytes byteAt') caches) ∧
    ∀ (ctx : DecodeContext) caches byteAt bytes path, ParamDirection.in.active ctx →
      window byteAt ctx.rawValue 106 = some bytes → bytes.getD 1 0 = 1 →
      (0 : UInt8) ∉ bytes.drop 2 → Bytes.decodeUtf8 (bytes.drop 2) = some path →
      (Param.sockaddr .in).decodePure (ctx.withBytes byteAt) caches = .ok (some (.struct
        [("sa_family", .str "AF_UNIX"), ("sun_path", .str ("\"" ++ path ++ "\""))])) := by
  obtain ⟨e, he, rfl⟩ := List.mem_map.mp hd
  refine ⟨registered_addresses e he _ hi rfl, fun ctx caches n byteAt byteAt' hagree hdecides => ?_,
    fun ctx caches byteAt bytes path hactive hread hfamily h0 hpath => ?_⟩
  · have hfields : decodeSockaddr (byteProcess byteAt ctx.process.byteOrder) ctx.rawValue
          ctx.noAbbrev =
        decodeSockaddr (byteProcess byteAt' ctx.process.byteOrder) ctx.rawValue ctx.noAbbrev :=
      decodeSockaddr_congr hagree hdecides _
    simp only [Param.decodePure, decodeStructParam, DecodeContext.withBytes, hfields]
    rfl
  · obtain ⟨len, tail, -, htail, rfl⟩ := CString.window_succ_eq_some_iff.mp hread
    obtain ⟨family, rest, -, -, rfl⟩ := CString.window_succ_eq_some_iff.mp htail
    obtain rfl : family = 1 := hfamily
    have hbase : window byteAt ctx.rawValue 2 = some [len, 1] :=
      CString.window_take hread (by omega)
    have hactive' : ParamDirection.in.active (ctx.withBytes byteAt) := hactive
    refine decodeStructParam_of_active hactive' ?_
    rw [DecodeContext.withBytes, decodeSockaddr_of_family hbase, familyFields, if_pos rfl,
      decodeUnix_of_full_path hread h0 hpath]

/-- `connect` -/
def connectDef : SyscallDef where
  number := 98
  name := "connect"
  params := plainParams [.fileDescriptor, .sockaddr .in, .unsigned]

theorem connectDef_mem : connectDef ∈ registered.map Prod.fst := by
  have hfind : (registered.map Prod.fst).find? (·.name == "connect") = some connectDef := rfl
  exact List.mem_of_find?_eq_some hfind

/-- The sixteen bytes of an Internet address at the end of the readable memory. -/
def lastInet (address : Nat) : Option UInt8 :=
  if address < 0x1010 then inetPage address else none

/-- A page with an `AF_UNIX` address whose path has no end. -/
def pathPage (address : Nat) : Option UInt8 :=
  if address = 0x1001 then some 1
  else if 0x1000 ≤ address ∧ address < 0x2000 then some 0x61
  else none

/-- A page with the path `/`, and the byte `c` behind the NUL that ends it. -/
def rootPage (c : UInt8) (address : Nat) : Option UInt8 :=
  if address = 0x1001 then some 1
  else if address = 0x1002 then some 0x2F
  else if address = 0x1004 then some c
  else if 0x1000 ≤ address ∧ address < 0x2000 then some 0
  else none

theorem sockaddr_decided_connect : connectDef.params[1]? = some (.plain (.sockaddr .in)) ∧
    (Param.sockaddr .in).decodePure ((connectContext inetPage .little 16).withBytes inetPage)
        ⟨[], []⟩ =
      (Param.sockaddr .in).decodePure ((connectContext inetPage .little 16).withBytes lastInet)
        ⟨[], []⟩ ∧
    (Param.sockaddr .in).decodePure ((connectContext inetPage .little 4).withBytes (rootPage 0x78))
        ⟨[], []⟩ =
      (Param.sockaddr .in).decodePure
        ((connectContext inetPage .little 4).withBytes (rootPage 0x79)) ⟨[], []⟩ ∧
    (Param.sockaddr .in).decodePure ((connectContext inetPage .little 106).withBytes pathPage)
        ⟨[], []⟩ = .ok (some (.struct [("sa_family", .str "AF_UNIX"),
          ("sun_path", .str ("\"" ++ String.ofList (List.replicate 104 'a') ++ "\""))])) := by
  have h := sockaddr_decided connectDef_mem (i := 1) (by decide)
  have hagree : AgreeOn inetPage lastInet 0x1000 16 := by
    intro i hi
    rw [lastInet, if_pos (by omega)]
  have hagreeRoot : AgreeOn (rootPage 0x78) (rootPage 0x79) 0x1000 4 := by
    intro i hi
    interval_cases i <;> rfl
  refine ⟨h.1, h.2.1 _ _ 16 _ _ hagree (.inl (by decide +kernel)),
    h.2.1 _ _ 4 _ _ hagreeRoot (.inr ?_), ?_⟩
  · exact ⟨by unfold StructureReadable; decide +kernel,
      by unfold StructureReadable; decide +kernel, by decide +kernel⟩
  exact h.2.2 _ _ _ (0x61 :: 1 :: List.replicate 104 0x61) _ (by decide) (by decide +kernel) rfl
    (by decide) (by decide +kernel)

/-- A page with the path `/` that the byte `c` follows. -/
def unixPage (c : UInt8) (address : Nat) : Option UInt8 :=
  if address = 0x1001 then some 1
  else if address = 0x1002 then some 0x2F
  else if address = 0x1003 then some c
  else if 0x1000 ≤ address ∧ address < 0x2000 then some 0
  else none

/-- The byte behind an address of three bytes is shown as a part of its path. -/
theorem path_beyond_address : ¬ ∀ (ctx : DecodeContext) caches n byteAt byteAt',
    ctx.allArgs.vals[2]? = some n → AgreeOn byteAt byteAt' ctx.rawValue n →
    (Param.sockaddr .in).decodePure (ctx.withBytes byteAt) caches =
      (Param.sockaddr .in).decodePure (ctx.withBytes byteAt') caches := by
  intro h
  have hagree : AgreeOn (unixPage 0) (unixPage 0x78) 0x1000 3 := by
    intro i hi
    interval_cases i <;> rfl
  have hsame := congrArg Except.toOption
    (h (connectContext (unixPage 0) .little 3) ⟨[], []⟩ 3 _ _ rfl hagree)
  revert hsame
  decide +kernel

end StraceMacos
