import StraceMacos.Library.CImage
import StraceMacos.Proofs.EventArgProofs

/-!
# The values of `sysctl`

When a call of `sysctl` or `sysctlbyname` has returned, its name is read again before its buffer, so
that the value is decoded by the type of the call's own name, whatever names the tracer has stored
by then. The two calls show the value of a variable alike.
-/

namespace StraceMacos

open Fallible

variable {process : Process} {address : Nat}

/-! ## What the memory holds -/

/-- The memory holds the integers of a MIB. -/
def HoldsMib (process : Process) (address : Nat) (mib : List (BitVec 32)) : Prop :=
  ∀ i v, mib[i]? = some v →
    process.readMemory (address + i * 4) 4 = some (Bytes.ofWord .little v)

/-- The memory holds a short string, which ends in the first 256 bytes. -/
def HoldsText (process : Process) (address : Nat) (text : String) : Prop :=
  ∃ data, process.readMemory address 256 = some data ∧ 0 ∈ data ∧
    data.untilNul.decodeUtf8Replace = text

/-- A value of a variable. -/
inductive SysctlValue where
  | string (text : String)
  | int (v : BitVec 32)
  | int64 (v : BitVec 64)
  deriving DecidableEq, Repr

namespace SysctlValue

def type : SysctlValue → SysctlType
  | string _ => .string
  | int _ => .int
  | int64 _ => .int64

/-- The memory holds the value. A text that looks like a pointer is no value here: the tracer takes
it for an unreadable buffer. -/
def HeldAt (process : Process) (address : Nat) : SysctlValue → Prop
  | string text => HoldsText process address text ∧ Text.startsWith text "0x" = false
  | int v => process.readMemory address 4 = some (Bytes.ofWord .little v)
  | int64 v => process.readMemory address 8 = some (Bytes.ofWord .little v)

/-- The argument that shows the value. -/
def shown : SysctlValue → SyscallArg
  | string text => .string text
  | int v => .int v.toInt none
  | int64 v => .int v.toInt none

end SysctlValue

theorem readMib_of_holds {mib : List (BitVec 32)} {k : Nat}
    (h : ∀ i v, mib[i]? = some v →
      process.readMemory (address + (k + i) * 4) 4 = some (Bytes.ofWord .little v)) :
    readMib process address mib.length k = .ok (mib.map BitVec.toInt) := by
  induction mib generalizing k with
  | nil => rfl
  | cons v mib ih =>
    have hhead := h 0 v rfl
    rw [Nat.add_zero] at hhead
    have htail := ih (k := k + 1) fun i w hw => by
      rw [Nat.add_assoc, Nat.add_comm 1 i]
      exact h (i + 1) w hw
    rw [List.length_cons, readMib, hhead]
    simp only [htail]
    rw [Bytes.toInt_ofWord (by decide)]
    rfl

theorem decodeSysctlMib_of_holds {mib : List (BitVec 32)} (hne : address ≠ 0)
    (h : HoldsMib process address mib) (hpos : 0 < mib.length) (hle : mib.length ≤ 12) :
    decodeSysctlMib process address mib.length =
      ("[" ++ Text.join ", " (decodeMibNames (mib.map BitVec.toInt)) ++ "]",
        mib.map BitVec.toInt) := by
  have hread : readMib process address mib.length 0 = .ok (mib.map BitVec.toInt) :=
    readMib_of_holds fun i v hv => by
      rw [Nat.zero_add]
      exact h i v hv
  unfold decodeSysctlMib
  rw [if_neg (by omega), if_neg (by omega), hread]

theorem readString_of_holds {text : String} {maxLength : Nat} (hne : address ≠ 0)
    (hmax : 256 ≤ maxLength) (h : HoldsText process address text) :
    readString process address maxLength = text := by
  obtain ⟨data, hdata, hnul, htext⟩ := h
  have hchunks : readChunks process maxLength address 0 [] = some data.untilNul := by
    rw [readChunks, dif_pos (by omega), Nat.sub_zero, Nat.min_eq_left hmax]
    split
    · rename_i hnone
      rw [hdata] at hnone
      cases hnone
    · rename_i chunk hchunk
      obtain rfl : data = chunk := Option.some.inj (hdata.symm.trans hchunk)
      rw [if_pos (by simpa using hnul), List.nil_append]
  rw [readString, if_neg hne, hchunks]
  exact htext

theorem decodeByType_of_heldAt {value : SysctlValue} (hne : address ≠ 0)
    (h : value.HeldAt process address) :
    decodeByType process address value.type = value.shown := by
  cases value with
  | string text =>
    have hread := readString_of_holds hne (by omega : 256 ≤ 256) h.1
    simp only [SysctlValue.type, decodeByType, hread, h.2]
    rfl
  | int v =>
    have hread : process.readMemory address 4 = some (Bytes.ofWord .little v) := h
    simp only [SysctlValue.type, decodeByType, hread]
    rw [Bytes.toInt_ofWord (by decide)]
    rfl
  | int64 v =>
    have hread : process.readMemory address 8 = some (Bytes.ofWord .little v) := h
    simp only [SysctlValue.type, decodeByType, hread]
    rw [Bytes.toInt_ofWord (by decide)]
    rfl

/-! ## The loop at the return of a call -/

/-- One argument and the rest of them. -/
theorem decodeArgsAtExit_cons {noAbbrev : Bool} {shared : SharedContext} {caches : SysctlCaches}
    {param : SyscallParam} {params : List SyscallParam} {rawValue : Nat} {rawValues : List Nat}
    {arg : SyscallArg} {args args' : List SyscallArg} {state : DecoderState}
    (h : decodeArgsAtExit process (param :: params) (rawValue :: rawValues) (arg :: args)
      ⟨noAbbrev, some shared, caches⟩ = .ok (args', state)) :
    ∃ r after rest, param.decode (shared.viewAt noAbbrev process rawValue) caches =
        .ok (r, after) ∧
      decodeArgsAtExit process params rawValues args
        ⟨noAbbrev, some { shared with rawValue := rawValue }, after⟩ = .ok (rest, state) ∧
      args' = r.getD arg :: rest := by
  rw [decodeArgsAtExit, decodeShared_eq] at h
  obtain ⟨⟨a, s⟩, hs, h⟩ := bind_eq_ok.mp h
  obtain ⟨⟨rest, s'⟩, hrest, h⟩ := bind_eq_ok.mp h
  obtain ⟨⟨r, after⟩, hdecode, hres⟩ := map_eq_ok.mp hs
  cases h
  cases hres
  exact ⟨r, after, rest, hdecode, hrest, rfl⟩

/-! ## Calls of the two functions -/

/-- A variable as one of the two calls names it. -/
inductive SysctlName where
  | mib (ids : List (BitVec 32))
  | text (name : String)

namespace SysctlName

/-- The type that the tracer knows for the variable. -/
def type : SysctlName → Option SysctlType
  | mib ids => getSysctlType (ids.map BitVec.toInt)
  | text name => getSysctlTypeByName name

/-- The argument that shows the name. -/
def shown : SysctlName → SyscallArg
  | mib ids => .string ("[" ++ Text.join ", " (decodeMibNames (ids.map BitVec.toInt)) ++ "]")
  | text name => .string name

/-- The position of the buffer among the arguments. -/
def bufferIndex : SysctlName → Nat
  | mib _ => 2
  | text _ => 1

/-- The symbolic names of the integers that name the variable. -/
def symbols : SysctlName → List String
  | mib ids => decodeMibNames (ids.map BitVec.toInt)
  | text name =>
    let parts := (Text.split '.' name).map String.toUpper
    ["CTL_" ++ parts.headD "", Text.join "_" parts]

end SysctlName

/-- The event is a call for this variable, whose name and value the memory holds. -/
inductive SyscallEvent.Gets (event : SyscallEvent) (process : Process) (value : SysctlValue) :
    SysctlName → Prop where
  | sysctl {ids : List (BitVec 32)} {name buffer : Nat} {rest : List Nat}
      (hcall : event.syscallName = "sysctl")
      (hvals : event.rawArgs.vals = name :: ids.length :: buffer :: rest) (hname : name ≠ 0)
      (hpos : 0 < ids.length) (hle : ids.length ≤ 12) (hids : HoldsMib process name ids)
      (hbuffer : buffer ≠ 0) (hvalue : value.HeldAt process buffer) :
      Gets event process value (.mib ids)
  | sysctlbyname {text : String} {name buffer : Nat} {rest : List Nat}
      (hcall : event.syscallName = "sysctlbyname")
      (hvals : event.rawArgs.vals = name :: buffer :: rest) (hname : name ≠ 0)
      (htext : HoldsText process name text) (hbuffer : buffer ≠ 0)
      (hvalue : value.HeldAt process buffer) : Gets event process value (.text text)

def sysctlDef : SyscallDef where
  number := 202
  name := "sysctl"
  params := plainParams [.sysctlMib, .unsigned, .sysctlBuffer, .sysctlSizePointer, .pointer,
    .unsigned]

def sysctlbynameDef : SyscallDef where
  number := 274
  name := "sysctlbyname"
  params := plainParams [.sysctlBynameName, .sysctlBynameBuffer, .sysctlSizePointer, .pointer,
    .unsigned]

set_option maxRecDepth 10000 in
theorem lookup_sysctl : SyscallRegistry.init.lookupByName "sysctl" = some sysctlDef :=
  SyscallRegistry.lookupByName_of_number 202 (sysctlDef, .sysinfo) rfl

set_option maxRecDepth 10000 in
theorem lookup_sysctlbyname :
    SyscallRegistry.init.lookupByName "sysctlbyname" = some sysctlbynameDef :=
  SyscallRegistry.lookupByName_of_number 274 (sysctlbynameDef, .sysinfo) rfl

theorem decodeSysctlMibParam_of_holds {ctx : DecodeContext} {caches : SysctlCaches}
    {ids : List (BitVec 32)} {name : Nat} {rest : List Nat}
    (hvals : ctx.allArgs.vals = name :: ids.length :: rest) (hne : ctx.rawValue ≠ 0)
    (hids : HoldsMib ctx.process ctx.rawValue ids) (hpos : 0 < ids.length)
    (hle : ids.length ≤ 12) :
    decodeSysctlMibParam ctx caches = ((SysctlName.mib ids).shown,
      { caches with mib := (ctx.allArgs.id, ids.map BitVec.toInt) :: caches.mib }) := by
  rw [decodeSysctlMibParam, if_neg hne, hvals]
  simp only [decodeSysctlMib_of_holds hne hids hpos hle]
  rfl

theorem decodeSysctlBuffer_of_heldAt {ctx : DecodeContext} {value : SysctlValue}
    (hexit : ctx.atEntry = false) (hne : ctx.rawValue ≠ 0)
    (h : value.HeldAt ctx.process ctx.rawValue) :
    decodeSysctlBuffer (some value.type) ctx = value.shown := by
  rw [decodeSysctlBuffer, if_neg (by simp [hexit, hne])]
  exact decodeByType_of_heldAt hne h

section Exit

variable {noAbbrev : Bool} {rawArgs : PyList} {raw : Nat} {returnValue : Option ReturnValue}
  {caches : SysctlCaches} {state : DecoderState} {args args' : List SyscallArg}
  {value : SysctlValue} {name buffer : Nat} {rest : List Nat}

/-- At the return of `sysctl` the name is read again before the buffer, and stored under the
identity of the call's list. -/
theorem decodeArgsAtExit_sysctl {ids : List (BitVec 32)}
    (hvals : rawArgs.vals = name :: ids.length :: buffer :: rest) (hname : name ≠ 0)
    (hpos : 0 < ids.length) (hle : ids.length ≤ 12) (hids : HoldsMib process name ids)
    (hbuffer : buffer ≠ 0) (hvalue : value.HeldAt process buffer)
    (htype : (SysctlName.mib ids).type = some value.type)
    (hlength : args.length = sysctlDef.params.length)
    (h : decodeArgsAtExit process sysctlDef.params rawArgs.vals args
      ⟨noAbbrev, some ⟨raw, rawArgs, false, returnValue⟩, caches⟩ = .ok (args', state)) :
    args'[0]? = some (SysctlName.mib ids).shown ∧ args'[2]? = some value.shown := by
  obtain ⟨mibArg, args, rfl⟩ := List.exists_cons_of_length_eq_add_one hlength
  obtain ⟨lengthArg, args, rfl⟩ := List.exists_cons_of_length_eq_add_one (Nat.succ.inj hlength)
  obtain ⟨bufferArg, args, rfl⟩ :=
    List.exists_cons_of_length_eq_add_one (Nat.succ.inj (Nat.succ.inj hlength))
  rw [hvals] at h
  obtain ⟨r₀, caches₀, args₀, hr₀, h₀, hargs₀⟩ := decodeArgsAtExit_cons h
  obtain ⟨r₁, caches₁, args₁, hr₁, h₁, hargs₁⟩ := decodeArgsAtExit_cons h₀
  obtain ⟨r₂, caches₂, args₂, hr₂, -, hargs₂⟩ := decodeArgsAtExit_cons h₁
  have hmib : decodeSysctlMibParam ⟨noAbbrev, process, name, rawArgs, false, returnValue⟩ caches =
      ((SysctlName.mib ids).shown, { caches with
        mib := (rawArgs.id, ids.map BitVec.toInt) :: caches.mib }) :=
    decodeSysctlMibParam_of_holds hvals hname hids hpos hle
  obtain ⟨hr₀, hcaches₀⟩ := Prod.mk.inj (Except.ok.inj hr₀)
  obtain ⟨-, hcaches₁⟩ := Prod.mk.inj (Except.ok.inj hr₁)
  obtain ⟨hr₂, -⟩ := Prod.mk.inj (Except.ok.inj hr₂)
  replace hr₀ : r₀ = some (SysctlName.mib ids).shown :=
    hr₀.symm.trans (congrArg (fun r => some r.1) hmib)
  replace hcaches₁ : caches₁ = { caches with
      mib := (rawArgs.id, ids.map BitVec.toInt) :: caches.mib } :=
    hcaches₁.symm.trans (hcaches₀.symm.trans (congrArg Prod.snd hmib))
  replace hr₂ : r₂ = some value.shown := by
    have hids : getSysctlType (ids.map BitVec.toInt) = some value.type := htype
    rw [← hr₂, hcaches₁, decodeSysctlBufferParam]
    dsimp only [SharedContext.viewAt, SharedContext.view]
    rw [List.lookup_cons_self, Option.getD_some, hids]
    exact congrArg some (decodeSysctlBuffer_of_heldAt rfl hbuffer hvalue)
  rw [hargs₀, hargs₁, hargs₂, hr₀, hr₂]
  exact ⟨rfl, rfl⟩

/-- The same at the return of `sysctlbyname`. -/
theorem decodeArgsAtExit_sysctlbyname {text : String}
    (hvals : rawArgs.vals = name :: buffer :: rest) (hname : name ≠ 0)
    (htext : HoldsText process name text) (hbuffer : buffer ≠ 0)
    (hvalue : value.HeldAt process buffer)
    (htype : (SysctlName.text text).type = some value.type)
    (hlength : args.length = sysctlbynameDef.params.length)
    (h : decodeArgsAtExit process sysctlbynameDef.params rawArgs.vals args
      ⟨noAbbrev, some ⟨raw, rawArgs, false, returnValue⟩, caches⟩ = .ok (args', state)) :
    args'[0]? = some (SysctlName.text text).shown ∧ args'[1]? = some value.shown := by
  obtain ⟨nameArg, args, rfl⟩ := List.exists_cons_of_length_eq_add_one hlength
  obtain ⟨bufferArg, args, rfl⟩ := List.exists_cons_of_length_eq_add_one (Nat.succ.inj hlength)
  rw [hvals] at h
  obtain ⟨r₀, caches₀, args₀, hr₀, h₀, hargs₀⟩ := decodeArgsAtExit_cons h
  obtain ⟨r₁, caches₁, args₁, hr₁, -, hargs₁⟩ := decodeArgsAtExit_cons h₀
  have hread : readString process name 4096 = text :=
    readString_of_holds hname (by omega) htext
  obtain ⟨hr₀, hcaches₀⟩ := Prod.mk.inj (Except.ok.inj hr₀)
  obtain ⟨hr₁, -⟩ := Prod.mk.inj (Except.ok.inj hr₁)
  replace hr₀ : r₀ = some (SysctlName.text text).shown :=
    hr₀.symm.trans (congrArg (fun s => some (SyscallArg.string s)) hread)
  replace hcaches₀ : caches₀ = { caches with byname := (rawArgs.id, text) :: caches.byname } :=
    hcaches₀.symm.trans
      (congrArg (fun s => { caches with byname := (rawArgs.id, s) :: caches.byname }) hread)
  replace hr₁ : r₁ = some value.shown := by
    have hknown : getSysctlTypeByName text = some value.type := htype
    rw [← hr₁, hcaches₀, decodeSysctlBynameBufferParam]
    dsimp only [SharedContext.viewAt, SharedContext.view]
    rw [List.lookup_cons_self, Option.bind_some, hknown]
    exact congrArg some (decodeSysctlBuffer_of_heldAt rfl hbuffer hvalue)
  rw [hargs₀, hargs₁, hr₀, hr₁]
  exact ⟨rfl, rfl⟩

end Exit

namespace Tracer

variable {options : Options} {filter : Filter} {pre : List Stop} {stop : Stop}
  {event : SyscallEvent} {value : SysctlValue} {name : SysctlName}

/-- A written event of either call shows the name and the value. -/
theorem WrittenAt.shows_sysctl (h : WrittenAt options filter pre stop event)
    (hsuccess : event.Succeeded) (hgets : event.Gets stop.process value name)
    (htype : name.type = some value.type) :
    event.args[0]? = some name.shown ∧ event.args[name.bufferIndex]? = some value.shown := by
  cases hgets with
  | sysctl hcall hvals hname hpos hle hids hbuffer hvalue =>
    obtain ⟨args, raw, caches, state, hlength, -, hdecode⟩ :=
      h.decoded_again (hcall ▸ lookup_sysctl) hsuccess
    exact decodeArgsAtExit_sysctl hvals hname hpos hle hids hbuffer hvalue htype hlength hdecode
  | sysctlbyname hcall hvals hname htext hbuffer hvalue =>
    obtain ⟨args, raw, caches, state, hlength, -, hdecode⟩ :=
      h.decoded_again (hcall ▸ lookup_sysctlbyname) hsuccess
    exact decodeArgsAtExit_sysctlbyname hvals hname htext hbuffer hvalue htype hlength hdecode

/-- The names that have a type, each with the integers that have the same symbolic names and this
type. -/
theorem nameToType_symbols : ∀ e ∈ nameToType, ∃ e' ∈ sysctlTypes, e'.2 = e.2 ∧
    decodeMibNames [e'.1.1, e'.1.2] = (SysctlName.text e.1).symbols := by
  decide +kernel

theorem sysctlTypes_words : ∀ e ∈ sysctlTypes,
    (BitVec.ofInt 32 e.1.1).toInt = e.1.1 ∧ (BitVec.ofInt 32 e.1.2).toInt = e.1.2 ∧
      sysctlTypes.lookup e.1 = some e.2 := by
  decide

/-- **The value of a variable is shown by the call's own name**, in every run and whatever names the
tracer has stored: at a successful return the name and the value are shown as the memory holds them.
Each name that `sysctlbyname` has a type for stands for integers for which `sysctl` has the same
type, so that both calls show the value alike. -/
theorem sysctl_value_shown :
    (∀ options filter pre stop event value name, WrittenAt options filter pre stop event →
      event.Succeeded → event.Gets stop.process value name → name.type = some value.type →
      event.args[0]? = some name.shown ∧ event.args[name.bufferIndex]? = some value.shown) ∧
    ∀ text type, (SysctlName.text text).type = some type →
      (∃ ids, (SysctlName.mib ids).symbols = (SysctlName.text text).symbols) ∧
      ∀ ids, (SysctlName.mib ids).symbols = (SysctlName.text text).symbols →
        (SysctlName.mib ids).type = some type := by
  refine ⟨fun _ _ _ _ _ _ _ hat hsuccess hgets htype => hat.shows_sysctl hsuccess hgets htype, ?_⟩
  intro text type htype
  obtain ⟨⟨⟨top, second⟩, _⟩, he, rfl, hsymbols⟩ :=
    nameToType_symbols _ (Dict.mem_of_lookup htype)
  obtain ⟨htop, hsecond, hlookup⟩ := sysctlTypes_words _ he
  refine ⟨⟨[BitVec.ofInt 32 top, BitVec.ofInt 32 second], ?_⟩, fun ids hids => ?_⟩
  · rw [← hsymbols, SysctlName.symbols, List.map_cons, List.map_singleton, htop, hsecond]
  · have hmib : ids.map BitVec.toInt = [top, second] := by
      have hnames := hids.trans hsymbols.symm
      have hlen := congrArg List.length hnames
      rw [SysctlName.symbols, decodeMibNames_length, decodeMibNames_length] at hlen
      exact decodeMibNames_inj hlen hnames
    rw [SysctlName.type, hmib]
    exact hlookup

/-- The memory of a process that asks for the size of its memory: the integers at 0x1000, the value
at 0x1010 and the name at 0x1020. -/
def memsizeProcess : Process :=
  byteProcess (page (
    Bytes.ofWord .little (6 : BitVec 32) ++ Bytes.ofWord .little (24 : BitVec 32) ++
      List.replicate 8 0 ++ Bytes.ofWord .little (0x200000000 : BitVec 64) ++ List.replicate 8 0 ++
        [0x68, 0x77, 0x2E, 0x6D, 0x65, 0x6D, 0x73, 0x69, 0x7A, 0x65])) .little

/-- A call of `name` with these arguments, which returns 0. -/
def memsizeCall (name : String) (args : List (String × BitVec 64)) : List Stop :=
  [{ sampleStop 1 0x100 name (("lr", 0x500) :: args) with process := memsizeProcess },
    { sampleStop 1 0x500 "main" [("x0", 0)] with process := memsizeProcess }]

/-- The size of the memory is asked for by its integers, and then by its name. -/
def memsizeStops : List Stop :=
  memsizeCall "sysctl" [("x0", 0x1000), ("x1", 2), ("x2", 0x1010)] ++
    memsizeCall "sysctlbyname" [("x0", 0x1020), ("x1", 0x1010)]

theorem run_memsizeStops : ∃ t, (init sampleOptions .all).run memsizeStops = .ok t ∧
    t.written.map (fun event => (event.syscallName, event.returnValue, event.rawArgs.vals)) =
      [("sysctl", .int 0, [0x1000, 2, 0x1010, 0, 0, 0]),
        ("sysctlbyname", .int 0, [0x1020, 0x1010, 0, 0, 0])] := by
  have hrun : ((init sampleOptions .all).run memsizeStops).toOption.map (fun t => t.written.map
      fun event => (event.syscallName, event.returnValue, event.rawArgs.vals)) =
        some [("sysctl", .int 0, [0x1000, 2, 0x1010, 0, 0, 0]),
          ("sysctlbyname", .int 0, [0x1020, 0x1010, 0, 0, 0])] := by
    rw [init_eq_initByNumber]
    decide +kernel
  obtain ⟨t, ht, hwritten⟩ := Option.map_eq_some_iff.mp hrun
  exact ⟨t, toOption_eq_some.mp ht, hwritten⟩

set_option maxRecDepth 10000 in
/-- 8 GiB, as both calls find them. -/
theorem gets_memsize (event : SyscallEvent)
    (h : (event.syscallName, event.returnValue, event.rawArgs.vals) ∈
      [("sysctl", .int 0, [0x1000, 2, 0x1010, 0, 0, 0]),
        ("sysctlbyname", .int 0, [0x1020, 0x1010, 0, 0, 0])]) :
    event.Succeeded ∧ ∃ name, event.Gets memsizeProcess (.int64 0x200000000) name ∧
      name.type = some .int64 := by
  have hvalue : (SysctlValue.int64 0x200000000).HeldAt memsizeProcess 0x1010 := rfl
  rcases List.mem_pair.mp h with hpair | hpair
  · obtain ⟨hname, hpair⟩ := Prod.mk.inj hpair
    obtain ⟨hreturn, hvals⟩ := Prod.mk.inj hpair
    refine ⟨by rw [SyscallEvent.Succeeded, hreturn]; rfl, .mib [6, 24], ?_, rfl⟩
    refine .sysctl hname hvals (by decide) (by decide) (by decide) ?_ (by decide) hvalue
    intro i v hv
    rcases i with _ | _ | i
    · cases hv
      rfl
    · cases hv
      rfl
    · cases hv
  · obtain ⟨hname, hpair⟩ := Prod.mk.inj hpair
    obtain ⟨hreturn, hvals⟩ := Prod.mk.inj hpair
    refine ⟨by rw [SyscallEvent.Succeeded, hreturn]; rfl, .text "hw.memsize", ?_, rfl⟩
    have htext : HoldsText memsizeProcess 0x1020 "hw.memsize" :=
      ⟨_, rfl, by decide +kernel, by decide +kernel⟩
    exact .sysctlbyname hname hvals (by decide) htext (by decide) hvalue

/-- Both calls show the size of the memory. -/
theorem sysctl_value_shown_memsize : ∃ t, (init sampleOptions .all).run memsizeStops = .ok t ∧
    t.written.length = 2 ∧ ∀ event ∈ t.written, ∃ i : Nat,
      event.args[i]? = some (SyscallArg.int 0x200000000 none) := by
  obtain ⟨t, ht, hwritten⟩ := run_memsizeStops
  have hlength := congrArg List.length hwritten
  rw [List.length_map] at hlength
  refine ⟨t, ht, hlength, fun event hmem => ?_⟩
  obtain ⟨hsuccess, name, hgets, htype⟩ := gets_memsize event (hwritten ▸ List.mem_map_of_mem hmem)
  have hprocess : ∀ stop ∈ memsizeStops, stop.process = memsizeProcess := by
    simp [memsizeStops, memsizeCall]
  rcases (run_origins ht).written event hmem with hreturned | ⟨-, hunknown⟩
  · obtain ⟨pre, entry, mid, ret, post, _, _, hstops, -, -, -, hat⟩ := hreturned
    rw [← hprocess ret (by rw [hstops]; simp)] at hgets
    exact ⟨_, (sysctl_value_shown.1 _ _ _ _ _ _ _ hat hsuccess hgets htype).2⟩
  · rw [SyscallEvent.Succeeded, hunknown] at hsuccess
    cases hsuccess

end Tracer

end StraceMacos
