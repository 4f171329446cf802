import StraceMacos.Library.Numeral
import StraceMacos.Proofs.RegistryProofs

/-!
# Arguments of 32-bit types

A register has 64 bits, and the upper half of one that holds a 32-bit argument is not specified.
Some decoders look at the whole register: they show the argument where the upper half happens to
extend it. `fcntl` reads its command three times, once from the lower half and twice from the whole
register.
-/

namespace StraceMacos

/-- The parameters of C types with 32 bits. -/
inductive Param32 where
  | fileDescriptor
  | dirFd
  | uidGid
  | octal
  deriving DecidableEq, Repr

namespace Param32

def param : Param32 → Param
  | fileDescriptor => .fileDescriptor
  | dirFd => .dirFd
  | uidGid => .uidGid
  | octal => .octal

/-- The C value of the lower half of a register: descriptors are signed, identifiers and modes are
not, and the identifier with all bits set stands for -1. -/
def cValue (noAbbrev : Bool) (low : Nat) : Param32 → SyscallArg
  | fileDescriptor => .fileDescriptor (toSignedInt32 low)
  | dirFd =>
    let symbolic := if toSignedInt32 low = -2 then some "AT_FDCWD" else none
    .int (toSignedInt32 low) (if noAbbrev then some (Text.hex0x low) else symbolic)
  | uidGid => if low = 0xFFFFFFFF then .int (-1) none else .unsigned low
  | octal => .int low (some (if noAbbrev then Text.hex0x low else "0" ++ Text.oct low))

/-- The register extends its lower half in the way that the decoder reads: by the sign for file
descriptors, by zeros for identifiers, for modes and for anything in hexadecimal. The decoder of
directory descriptors looks at the lower half only. -/
def Extends (noAbbrev : Bool) (v : Nat) : Param32 → Prop
  | fileDescriptor => v < 2 ^ 31 ∨ 2 ^ 64 - 2 ^ 31 ≤ v
  | dirFd => noAbbrev = true → v < 2 ^ 32
  | uidGid | octal => v < 2 ^ 32

end Param32

theorem and_mask32 (v : Nat) : v &&& 0xFFFFFFFF = v % 2 ^ 32 :=
  Nat.and_two_pow_sub_one_eq_mod v 32

theorem toSignedInt32_mod (v : Nat) : toSignedInt32 (v % 2 ^ 32) = toSignedInt32 v := by
  unfold toSignedInt32
  rw [and_mask32, and_mask32, Nat.mod_mod]

theorem toSignedInt32_eq (v : Nat) : toSignedInt32 v =
    if v % 2 ^ 32 < 2 ^ 31 then ((v % 2 ^ 32 : Nat) : Int) else (v % 2 ^ 32 : Nat) - 2 ^ 32 := by
  unfold toSignedInt32
  rw [and_mask32]
  rfl

theorem toSignedInt_eq_toSignedInt32_iff {v : Nat} (hv : v < 2 ^ 64) :
    toSignedInt v = toSignedInt32 v ↔ v < 2 ^ 31 ∨ 2 ^ 64 - 2 ^ 31 ≤ v := by
  rw [toSignedInt32_eq]
  unfold toSignedInt
  split_ifs <;> omega

/-- The number that an argument shows. -/
def SyscallArg.number : SyscallArg → Option Int
  | .int value _ => some value
  | .unsigned value => some value
  | .fileDescriptor fd => some fd
  | _ => none

section

variable (ctx : DecodeContext) (v : BitVec 64)

/-- The context in which a register with the value `v` is decoded. -/
def DecodeContext.withRegister : DecodeContext := { ctx with rawValue := v.toNat }

theorem decodeFileDescriptor_cValue_iff :
    decodeFileDescriptor (ctx.withRegister v) =
        Param32.fileDescriptor.cValue ctx.noAbbrev (v.toNat % 2 ^ 32) ↔
      Param32.fileDescriptor.Extends ctx.noAbbrev v.toNat := by
  simp only [decodeFileDescriptor, DecodeContext.withRegister, Param32.cValue, toSignedInt32_mod,
    SyscallArg.fileDescriptor.injEq]
  exact toSignedInt_eq_toSignedInt32_iff v.isLt

theorem decodeDirFd_cValue_iff :
    decodeDirFd (ctx.withRegister v) =
        Param32.dirFd.cValue ctx.noAbbrev (v.toNat % 2 ^ 32) ↔
      Param32.dirFd.Extends ctx.noAbbrev v.toNat := by
  have hv := v.isLt
  unfold decodeDirFd DecodeContext.withRegister Param32.cValue Param32.Extends
  by_cases hab : ctx.noAbbrev = true
  · simp only [hab, if_true, toSignedInt32_mod, SyscallArg.int.injEq, Option.some.injEq, true_and,
      Text.hex0x_inj, forall_const]
    omega
  · simp only [hab, toSignedInt32_mod]
    by_cases hcwd : toSignedInt32 v.toNat = -2 <;> simp [hcwd]

theorem decodeUidGid_cValue_iff :
    decodeUidGid (ctx.withRegister v) =
        Param32.uidGid.cValue ctx.noAbbrev (v.toNat % 2 ^ 32) ↔
      Param32.uidGid.Extends ctx.noAbbrev v.toNat := by
  have hv := v.isLt
  unfold decodeUidGid DecodeContext.withRegister Param32.cValue Param32.Extends
  simp only
  split_ifs with hraw hlow hlow
  · exact iff_of_true rfl (by omega)
  · exact absurd hraw (by omega)
  · exact iff_of_false (by simp) (by omega)
  · rw [SyscallArg.unsigned.injEq]
    omega

theorem decodeOctal_cValue_iff :
    decodeOctal (ctx.withRegister v) =
        Param32.octal.cValue ctx.noAbbrev (v.toNat % 2 ^ 32) ↔
      Param32.octal.Extends ctx.noAbbrev v.toNat := by
  have hv := v.isLt
  unfold decodeOctal DecodeContext.withRegister Param32.cValue Param32.Extends
  by_cases hlt : v.toNat < 2 ^ 32
  · have hsigned : toSignedInt v.toNat = v.toNat := by
      unfold toSignedInt
      split_ifs <;> omega
    have hlow : v.toNat % 2 ^ 32 = v.toNat := Nat.mod_eq_of_lt hlt
    refine iff_of_true ?_ hlt
    rw [hlow]
    by_cases hab : ctx.noAbbrev = true <;> simp [hsigned, hab]
  · have hne : toSignedInt v.toNat ≠ (v.toNat % 2 ^ 32 : Nat) := by
      unfold toSignedInt
      split_ifs <;> omega
    refine iff_of_false ?_ hlt
    simp only
    split_ifs <;> simp only [SyscallArg.int.injEq, hne, false_and, not_false_eq_true]

theorem Param32.decode_iff (p : Param32) (caches : SysctlCaches) :
    p.param.decode (ctx.withRegister v) caches =
        .ok (some (p.cValue ctx.noAbbrev (v.toNat % 2 ^ 32)), caches) ↔
      p.Extends ctx.noAbbrev v.toNat := by
  have hpure (arg : SyscallArg)
      (h : p.param.decodePure (ctx.withRegister v) caches = .ok (some arg)) (shown : SyscallArg) :
      p.param.decode (ctx.withRegister v) caches = .ok (some shown, caches) ↔
        arg = shown := by
    have hcaches : p.param.updateCaches (ctx.withRegister v) caches = caches := by cases p <;> rfl
    simp [Param.decode, h, hcaches, Except.map]
  cases p with
  | fileDescriptor => rw [hpure _ rfl, decodeFileDescriptor_cValue_iff]
  | dirFd => rw [hpure _ rfl, decodeDirFd_cValue_iff]
  | uidGid => rw [hpure _ rfl, decodeUidGid_cValue_iff]
  | octal => rw [hpure _ rfl, decodeOctal_cValue_iff]

theorem number_decodeDirFd :
    (decodeDirFd (ctx.withRegister v)).number = some (toSignedInt32 v.toNat) := by
  unfold decodeDirFd DecodeContext.withRegister
  simp only
  split_ifs <;> rfl

theorem number_decodeUidGid_iff :
    ((decodeUidGid (ctx.withRegister v)).number = some (-1) ↔ v.toNat % 2 ^ 32 = 0xFFFFFFFF) ↔
      v.toNat < 2 ^ 32 ∨ v.toNat % 2 ^ 32 ≠ 0xFFFFFFFF := by
  have hv := v.isLt
  by_cases hraw : v.toNat = 0xFFFFFFFF
  · simp [decodeUidGid, DecodeContext.withRegister, SyscallArg.number, hraw]
  · have hnumber : (decodeUidGid (ctx.withRegister v)).number = some (v.toNat : Int) := by
      simp [decodeUidGid, DecodeContext.withRegister, SyscallArg.number, hraw]
    rw [hnumber, Option.some_inj]
    omega

/-- **A decoder of a 32-bit type shows the C value of the lower half of the register exactly when
the upper half extends it in the way that this decoder reads.** In particular the decoders of file
descriptors and of directory descriptors show the same number exactly when the register is
sign-extended, and the identifier -1 is recognised exactly when it is zero-extended. -/
theorem shown_by_lower_half_iff (caches : SysctlCaches) :
    (∀ p : Param32, p.param.decode (ctx.withRegister v) caches =
        .ok (some (p.cValue ctx.noAbbrev (v.toNat % 2 ^ 32)), caches) ↔
      p.Extends ctx.noAbbrev v.toNat) ∧
    ((decodeFileDescriptor (ctx.withRegister v)).number =
        (decodeDirFd (ctx.withRegister v)).number ↔
      v.toNat < 2 ^ 31 ∨ 2 ^ 64 - 2 ^ 31 ≤ v.toNat) ∧
    (((decodeUidGid (ctx.withRegister v)).number = some (-1) ↔
        v.toNat % 2 ^ 32 = 0xFFFFFFFF) ↔
      v.toNat < 2 ^ 32 ∨ v.toNat % 2 ^ 32 ≠ 0xFFFFFFFF) := by
  refine ⟨fun p => Param32.decode_iff ctx v p caches, ?_, number_decodeUidGid_iff ctx v⟩
  rw [number_decodeDirFd, ← toSignedInt_eq_toSignedInt32_iff v.isLt]
  exact Option.some_inj

end

/-- The descriptor -1 of an anonymous `mmap`, held with zeros in the upper half, is shown as
4294967295. -/
theorem descriptor_of_anonymous_mmap : ¬ ∀ (p : Param32) (ctx : DecodeContext) (v : BitVec 64)
    (caches : SysctlCaches), p.param.decode (ctx.withRegister v) caches =
      .ok (some (p.cValue ctx.noAbbrev (v.toNat % 2 ^ 32)), caches) := by
  intro h
  have hfd := h .fileDescriptor ⟨false, ⟨.empty, .little⟩, 0, ⟨0, []⟩, true, none⟩
    0x00000000FFFFFFFF ⟨[], []⟩
  rw [Param32.decode_iff] at hfd
  revert hfd
  unfold Param32.Extends
  decide

/-! ## The command of `fcntl` -/

/-- The parameter of the third argument of `fcntl`. -/
def fcntlThird : VariantParam where
  discriminatorIndex := 1
  variants := [(0, .fileDescriptor), (67, .fileDescriptor), (2, .flags fdFlags),
    (4, .custom decodeOpenFlags)]
  defaultParam := some .int
  skipFor := [1, 3]

def fcntlParams : List SyscallParam :=
  [.plain .fileDescriptor, .plain (.const fcntlCommands), .variant fcntlThird]

section

variable (ctx : DecodeContext) (fd cmd arg : Nat)

/-- The context in which the command of an `fcntl` is decoded. -/
def DecodeContext.ofFcntl : DecodeContext :=
  { ctx with rawValue := cmd, allArgs := ⟨ctx.allArgs.id, [fd, cmd, arg]⟩ }

/-- The three readers of the command agree with `command`: the number and name that are displayed,
the decoder or omission of the third argument, and the decoding of every return value. -/
structure ReadsCommand (command : Nat) : Prop where
  displayed : decodeConst fcntlCommands (ctx.ofFcntl fd cmd arg) =
    decodeConst fcntlCommands (ctx.ofFcntl fd command arg)
  third : fcntlThird.select (ctx.ofFcntl fd cmd arg) =
    fcntlThird.select (ctx.ofFcntl fd command arg)
  returned : ∀ ret, decodeFcntlReturn ret [fd, cmd, arg] ctx.noAbbrev =
    decodeFcntlReturn ret [fd, command, arg] ctx.noAbbrev

/-- The third argument is omitted exactly when the displayed command is `F_GETFD` or `F_GETFL`. -/
def OmitsByDisplay : Prop :=
  fcntlThird.select (ctx.ofFcntl fd cmd arg) = .done .skip ↔
    (decodeConst fcntlCommands (ctx.ofFcntl fd cmd arg)).number = some 1 ∨
    (decodeConst fcntlCommands (ctx.ofFcntl fd cmd arg)).number = some 3

end

/-- The arguments of an `fcntl` at entry and at exit, and its return value. -/
def fcntlShown (noAbbrev : Bool) (entry exit : Process) (listId : Nat) (caches : SysctlCaches)
    (ret : Int) (fd cmd arg : Nat) :
    Except PyError (List SyscallArg × List SyscallArg × ReturnValue) := do
  let rawArgs : PyList := ⟨listId, [fd, cmd, arg]⟩
  let value := decodeFcntlReturn ret rawArgs.vals noAbbrev
  let (args, state) ← decodeArgs entry fcntlParams rawArgs.vals
    { noAbbrev := noAbbrev, ctx := some { allArgs := rawArgs }, caches := caches }
  let shared : SharedContext :=
    { allArgs := rawArgs, atEntry := false, returnValue := some value }
  let (args', _) ←
    decodeArgsAtExit exit fcntlParams rawArgs.vals args { state with ctx := some shared }
  return (args, args', value)

/-- The commands for which one of the readers does something of its own. -/
def fcntlSpecial : List Nat := [0, 1, 2, 3, 4, 67]

theorem select_fcntlThird {ctx : DecodeContext} (cmd : Nat)
    (hget : ctx.allArgs.vals[1]? = some cmd) (h : cmd ∉ fcntlSpecial) :
    fcntlThird.select ctx = .decode .int := by
  simp only [fcntlSpecial, List.mem_cons, List.not_mem_nil, or_false, not_or] at h
  obtain ⟨h0, h1, h2, h3, h4, h67⟩ := h
  have hget : ctx.allArgs.vals[fcntlThird.discriminatorIndex]? = some cmd := hget
  have hskip : cmd ∉ fcntlThird.skipFor := by simp [fcntlThird, h1, h3]
  have hl : fcntlThird.variants.lookup cmd = none := by
    rw [List.lookup_eq_none_iff]
    simp [fcntlThird, h0, h2, h4, h67]
  unfold VariantParam.select
  rw [hget]
  simp only [hl, if_neg hskip]
  rfl

theorem decodeFcntlReturn_of_not_mem {fd cmd arg : Nat} (h : cmd ∉ fcntlSpecial) (ret : Int)
    (noAbbrev : Bool) : decodeFcntlReturn ret [fd, cmd, arg] noAbbrev = .int ret := by
  simp only [fcntlSpecial, List.mem_cons, List.not_mem_nil, or_false, not_or] at h
  obtain ⟨h0, h1, h2, h3, h4, h67⟩ := h
  simp [decodeFcntlReturn, h1, h3]

theorem toSignedInt32_inj {a b : Nat} :
    toSignedInt32 a = toSignedInt32 b ↔ a % 2 ^ 32 = b % 2 ^ 32 := by
  rw [toSignedInt32_eq, toSignedInt32_eq]
  split_ifs <;> omega

theorem number_decodeConst (table : SymbolTable) (ctx : DecodeContext) :
    (decodeConst table ctx).number = some (toSignedInt32 ctx.rawValue) := by
  unfold decodeConst
  simp only
  split_ifs <;> rfl

/-- Only the lower half of the command is displayed. -/
theorem decodeConst_ofFcntl_eq_iff {ctx : DecodeContext} {fd cmd arg cmd' : Nat} :
    decodeConst fcntlCommands (ctx.ofFcntl fd cmd arg) =
        decodeConst fcntlCommands (ctx.ofFcntl fd cmd' arg) ↔
      cmd % 2 ^ 32 = cmd' % 2 ^ 32 := by
  constructor
  · intro h
    have hnumber := congrArg SyscallArg.number h
    rw [number_decodeConst, number_decodeConst] at hnumber
    exact toSignedInt32_inj.mp (Option.some.inj hnumber)
  · intro h
    unfold decodeConst DecodeContext.ofFcntl
    simp only [toSignedInt32_inj.mpr h]

theorem decode_fcntlThird {ctx : DecodeContext} {cmd : Nat} (caches : SysctlCaches)
    (hget : ctx.allArgs.vals[1]? = some cmd) (h : cmd ∉ fcntlSpecial) :
    fcntlThird.decode ctx caches = .ok (some (decodeInt ctx), caches) := by
  unfold VariantParam.decode
  rw [select_fcntlThird cmd hget h]
  rfl

theorem fcntlShown_of_not_mem {fd cmd arg : Nat} (h : cmd ∉ fcntlSpecial) (noAbbrev : Bool)
    (entry exit : Process) (listId : Nat) (caches : SysctlCaches) (ret : Int) :
    fcntlShown noAbbrev entry exit listId caches ret fd cmd arg =
      let command := if noAbbrev then none else fcntlCommands.lookup (toSignedInt32 cmd)
      let args := [.fileDescriptor (toSignedInt fd), .int (toSignedInt32 cmd) command,
        .int (toSignedInt arg) none]
      .ok (args, args, .int ret) := by
  have hthird (process : Process) (shared : SharedContext)
      (hvals : shared.allArgs.vals[1]? = some cmd) :
      fcntlThird.decode (shared.view noAbbrev process) caches =
        .ok (some (.int (toSignedInt shared.rawValue) none), caches) :=
    decode_fcntlThird caches hvals h
  unfold fcntlShown
  simp only [decodeFcntlReturn_of_not_mem h, fcntlParams, decodeArgs, decodeShared,
    SyscallParam.decode, bind, Except.bind, Param.decode, Param.decodePure, Param.updateCaches,
    Except.map, pure, Except.pure]
  rw [hthird _ _ rfl]
  simp only [decodeArgsAtExit, decodeShared, SyscallParam.decode, bind, Except.bind, Param.decode,
    Param.decodePure, Param.updateCaches, Except.map, pure, Except.pure]
  rw [hthird _ _ rfl]
  cases noAbbrev <;> rfl

theorem select_fcntlThird_eq_skip_iff {ctx : DecodeContext} (cmd : Nat)
    (hget : ctx.allArgs.vals[1]? = some cmd) :
    fcntlThird.select ctx = .done .skip ↔ cmd = 1 ∨ cmd = 3 := by
  by_cases h : cmd ∈ fcntlSpecial
  · have hget : ctx.allArgs.vals[fcntlThird.discriminatorIndex]? = some cmd := hget
    unfold VariantParam.select
    rw [hget]
    simp only [fcntlSpecial, List.mem_cons, List.not_mem_nil, or_false] at h
    rcases h with rfl | rfl | rfl | rfl | rfl | rfl <;> simp [fcntlThird, List.lookup_cons]
  · rw [select_fcntlThird cmd hget h]
    simp only [fcntlSpecial, List.mem_cons, List.not_mem_nil, or_false] at h
    refine iff_of_false (by rintro ⟨⟩) ?_
    omega

/-- The omission follows the display where the command is not a longer number with the lower half of
`F_GETFD` or `F_GETFL`. -/
theorem omitsByDisplay_iff {ctx : DecodeContext} {fd cmd arg : Nat} :
    OmitsByDisplay ctx fd cmd arg ↔
      (cmd = 1 ∨ cmd = 3 ↔ cmd % 2 ^ 32 = 1 ∨ cmd % 2 ^ 32 = 3) := by
  have hraw : (ctx.ofFcntl fd cmd arg).rawValue = cmd := rfl
  unfold OmitsByDisplay
  rw [select_fcntlThird_eq_skip_iff cmd rfl, number_decodeConst, hraw, Option.some_inj,
    Option.some_inj, toSignedInt32_eq]
  split_ifs <;> omega

theorem select_fcntlThird_special {ctx : DecodeContext} {cmd : Nat}
    (hget : ctx.allArgs.vals[1]? = some cmd) (h : cmd ∈ fcntlSpecial) :
    fcntlThird.select ctx ≠ .decode .int := by
  have hget : ctx.allArgs.vals[fcntlThird.discriminatorIndex]? = some cmd := hget
  unfold VariantParam.select
  rw [hget]
  simp only [fcntlSpecial, List.mem_cons, List.not_mem_nil, or_false] at h
  rcases h with rfl | rfl | rfl | rfl | rfl | rfl <;> simp [fcntlThird, List.lookup_cons]

theorem mod_of_not_special {cmd : Nat} (h : cmd < 2 ^ 32 ∨ cmd % 2 ^ 32 ∉ fcntlSpecial) :
    cmd % 2 ^ 32 = cmd ∨ cmd ∉ fcntlSpecial ∧ cmd % 2 ^ 32 ∉ fcntlSpecial := by
  rcases Nat.lt_or_ge cmd (2 ^ 32) with hlt | hge
  · exact .inl (Nat.mod_eq_of_lt hlt)
  · refine .inr ⟨fun hmem => ?_, h.resolve_left (by omega)⟩
    simp only [fcntlSpecial, List.mem_cons, List.not_mem_nil, or_false] at hmem
    omega

/-- **The readers of the command of an `fcntl` agree on one 32-bit command exactly when the upper
half of the register is clear or the lower half is not one of the commands that any reader treats
specially.** Then the call is shown like one with a clear upper half, at entry and at exit, and the
third argument is omitted exactly for `F_GETFD` and `F_GETFL`. -/
theorem fcntl_one_command_iff (ctx : DecodeContext) (fd cmd arg : Nat) :
    ((∃ command < 2 ^ 32, ReadsCommand ctx fd cmd arg command) ∧ OmitsByDisplay ctx fd cmd arg ∧
        ∀ noAbbrev entry exit listId caches ret,
          fcntlShown noAbbrev entry exit listId caches ret fd cmd arg =
            fcntlShown noAbbrev entry exit listId caches ret fd (cmd % 2 ^ 32) arg) ↔
      cmd < 2 ^ 32 ∨ cmd % 2 ^ 32 ∉ fcntlSpecial := by
  constructor
  · rintro ⟨⟨command, hlt, hreads⟩, -, -⟩
    by_contra hno
    push Not at hno
    obtain ⟨hge, hspecial⟩ := hno
    have hmod := decodeConst_ofFcntl_eq_iff.mp hreads.displayed
    rw [Nat.mod_eq_of_lt hlt] at hmod
    have hnot : cmd ∉ fcntlSpecial := by
      simp only [fcntlSpecial, List.mem_cons, List.not_mem_nil, or_false]
      omega
    have hthird := hreads.third
    rw [select_fcntlThird cmd rfl hnot, ← hmod] at hthird
    exact select_fcntlThird_special rfl hspecial hthird.symm
  · intro h
    rcases mod_of_not_special h with hmod | ⟨hcmd, hlow⟩
    · have hlt : cmd < 2 ^ 32 := by omega
      refine ⟨⟨cmd, hlt, rfl, rfl, fun _ => rfl⟩, ?_, fun _ _ _ _ _ _ => by rw [hmod]⟩
      rw [omitsByDisplay_iff, hmod]
    · refine ⟨⟨cmd % 2 ^ 32, Nat.mod_lt _ (by omega), ⟨?_, ?_, fun ret => ?_⟩⟩, ?_, ?_⟩
      · exact decodeConst_ofFcntl_eq_iff.mpr (by rw [Nat.mod_mod])
      · rw [select_fcntlThird cmd rfl hcmd,
          select_fcntlThird (cmd % 2 ^ 32) rfl hlow]
      · rw [decodeFcntlReturn_of_not_mem hcmd, decodeFcntlReturn_of_not_mem hlow]
      · rw [omitsByDisplay_iff]
        simp only [fcntlSpecial, List.mem_cons, List.not_mem_nil, or_false, not_or] at hcmd hlow
        omega
      · intro noAbbrev entry exit listId caches ret
        rw [fcntlShown_of_not_mem hcmd, fcntlShown_of_not_mem hlow, toSignedInt32_mod]

/-- With a bit of the upper half set the command is displayed as `F_GETFL`, while the third argument
is shown and the return value is not decoded. -/
theorem getfl_with_upper_bits : ¬ ∀ (ctx : DecodeContext) (fd cmd arg : Nat),
    (∃ command < 2 ^ 32, ReadsCommand ctx fd cmd arg command) ∧ OmitsByDisplay ctx fd cmd arg ∧
      ∀ noAbbrev entry exit listId caches ret,
        fcntlShown noAbbrev entry exit listId caches ret fd cmd arg =
          fcntlShown noAbbrev entry exit listId caches ret fd (cmd % 2 ^ 32) arg := by
  intro h
  have hgetfl := (h ⟨false, ⟨.empty, .little⟩, 0, ⟨0, []⟩, true, none⟩ 5 0x100000003 0).2.1
  rw [omitsByDisplay_iff] at hgetfl
  revert hgetfl
  decide

end StraceMacos
