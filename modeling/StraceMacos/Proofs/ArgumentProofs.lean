import Mathlib.Tactic.IntervalCases
import StraceMacos.Decoding

/-!
# Where raw arguments are read

The calling conventions say in which register or stack word an argument is passed. On ARM64 the
tracer reads the arguments of a call there. On x86-64 it does so for the arguments in registers that
are not variadic, and for variadic ones that begin behind the last register.
-/

namespace StraceMacos

/-- A place in which an argument is passed: a register, or the word of the stack at an offset from
the stack pointer. -/
inductive ArgSlot where
  | register (name : String)
  | stack (offset : Nat)
  deriving DecidableEq, Repr

namespace Architecture

def stackPointer : Architecture → String
  | arm64 => "sp"
  | x8664 => "rsp"

/-- The value in a place at the first instruction of a function. -/
def readSlot (arch : Architecture) (frame : Frame) (process : Process) : ArgSlot → Option Nat
  | .register name => frame.findRegister name
  | .stack offset => (frame.findRegister arch.stackPointer).bind fun sp =>
      (process.readMemory (sp + offset) 8).map (Bytes.toNat .little)

/-- The place of an argument in the calling convention of the platform. On x86-64 variadic arguments
are passed like fixed ones, and the return address lies between the stack pointer and the arguments
on the stack. On ARM64 variadic arguments are passed on the stack; fixed arguments behind the last
register are left out. -/
def conventionSlot (arch : Architecture) (argIndex : Nat) (variadicStart : Option Nat) :
    Option ArgSlot :=
  match arch with
  | x8664 =>
    match arch.argRegisters[argIndex]? with
    | some reg => some (.register reg)
    | none => some (.stack (8 + 8 * (argIndex - 6)))
  | arm64 =>
    match variadicStart.filter (· ≤ argIndex) with
    | some start => some (.stack (8 * (argIndex - start)))
    | none => arch.argRegisters[argIndex]?.map .register

/-- The place from which `_read_raw_arg_value` takes an argument. -/
def sourceSlot (arch : Architecture) (argIndex : Nat) (variadicStart : Option Nat) :
    Option ArgSlot :=
  match variadicStart.filter (· ≤ argIndex) with
  | some start =>
    match arch with
    | arm64 => some (.stack (8 * (argIndex - start)))
    | x8664 => some (.stack (8 + 8 * (argIndex - start)))
  | none => arch.argRegisters[argIndex]?.map .register

/-- On x86-64 a fixed argument has a register, and variadic arguments begin behind the registers. -/
def ReadsRightSlot (arch : Architecture) (argIndex : Nat) (variadicStart : Option Nat) : Prop :=
  arch = .x8664 →
    match variadicStart.filter (· ≤ argIndex) with
    | none => argIndex < 6
    | some start => start = 6

end Architecture

variable {arch : Architecture} {frame : Frame} {process : Process} {argIndex : Nat}
variable {variadicStart : Option Nat}

/-- The tracer reads one place, and takes 0 where there is none or it is not readable. -/
theorem readRawArgValue_eq (arch : Architecture) (frame : Frame) (process : Process)
    (argIndex : Nat) (variadicStart : Option Nat) :
    readRawArgValue arch frame process argIndex variadicStart =
      ((arch.sourceSlot argIndex variadicStart).bind (arch.readSlot frame process)).getD 0 := by
  unfold readRawArgValue Architecture.sourceSlot
  cases variadicStart.filter (· ≤ argIndex) with
  | none =>
    cases arch.argRegisters[argIndex]? with
    | none => rfl
    | some reg => rfl
  | some start =>
    have hdata (a : Nat) := process.readData_eq_readMemory a (by omega : 0 < 8)
    cases arch with
    | arm64 =>
      simp only [Architecture.readVariadicArg, Architecture.readSlot, Architecture.stackPointer,
        Option.bind_some, hdata, Nat.mul_comm 8]
      cases frame.findRegister "sp" <;> rfl
    | x8664 =>
      have hoff : (argIndex - start + 1) * 8 = 8 + 8 * (argIndex - start) := by omega
      simp only [Architecture.readVariadicArg, Architecture.readSlot, Architecture.stackPointer,
        Option.bind_some, hdata, hoff]
      cases frame.findRegister "rsp" <;> rfl

/-- The raw value of an argument is the one that the calling convention passes. -/
def ReadsByConvention (arch : Architecture) (frame : Frame) (process : Process) (argIndex : Nat)
    (variadicStart : Option Nat) : Prop :=
  ∀ slot value, arch.conventionSlot argIndex variadicStart = some slot →
    arch.readSlot frame process slot = some value →
    readRawArgValue arch frame process argIndex variadicStart = value

theorem Architecture.sourceSlot_eq (h : arch.ReadsRightSlot argIndex variadicStart) {slot : ArgSlot}
    (hc : arch.conventionSlot argIndex variadicStart = some slot) :
    arch.sourceSlot argIndex variadicStart = some slot := by
  cases arch with
  | arm64 =>
    unfold conventionSlot at hc
    unfold sourceSlot
    cases hv : variadicStart.filter (· ≤ argIndex) with
    | none => rwa [hv] at hc
    | some start => rwa [hv] at hc
  | x8664 =>
    have h := h rfl
    unfold conventionSlot at hc
    unfold sourceSlot
    cases hv : variadicStart.filter (· ≤ argIndex) with
    | none =>
      rw [hv] at h
      have hreg : argRegisters .x8664 = ["rdi", "rsi", "rdx", "rcx", "r8", "r9"] := rfl
      rw [hreg] at hc ⊢
      rw [List.getElem?_eq_getElem (by simpa using h)] at hc ⊢
      exact hc
    | some start =>
      obtain ⟨-, hle⟩ := Option.filter_eq_some_iff.mp hv
      rw [hv] at h
      have hlen : (argRegisters .x8664).length ≤ argIndex := by
        simpa [argRegisters, h] using hle
      rw [List.getElem?_eq_none hlen, ← h] at hc
      exact hc

/-! ## A stop at which two places hold different values -/

/-- Memory in which the byte at one address is 1 and all others are 0. -/
def oneByteMemory (address : Nat) : Memory :=
  Memory.ofBytes fun a => some (if a = address then 1 else 0)

theorem read_oneByteMemory (address a size : Nat) :
    (oneByteMemory address).read a size =
      some ((List.range size).map fun i => if a + i = address then 1 else 0) :=
  List.mapM_pure

/-- A stop at which a place holds 1, and any other word of the stack that begins at a multiple of 8
holds 0; there are no other registers. -/
def slotFrame (arch : Architecture) : ArgSlot → Frame
  | .register name => ⟨none, 0, 0, fun r => if r = name then some 1 else none, none⟩
  | .stack _ => ⟨none, 0, 0, fun r => if r = arch.stackPointer then some 0 else none, none⟩

def slotProcess : ArgSlot → Process
  | .register _ => ⟨.empty, .little⟩
  | .stack offset => ⟨oneByteMemory offset, .little⟩

theorem readSlot_slotFrame (arch : Architecture) (slot : ArgSlot) :
    arch.readSlot (slotFrame arch slot) (slotProcess slot) slot = some 1 := by
  cases slot with
  | register name => simp [Architecture.readSlot, slotFrame, Frame.findRegister]
  | stack offset =>
    simp [Architecture.readSlot, slotFrame, slotProcess, Frame.findRegister, Process.readMemory,
      read_oneByteMemory, List.range_succ, Bytes.toNat, Bytes.toNatLE]

theorem readSlot_slotFrame_stack (arch : Architecture) {i j : Nat} (h : i ≠ j) :
    arch.readSlot (slotFrame arch (.stack (8 * i))) (slotProcess (.stack (8 * i)))
      (.stack (8 * j)) = some 0 := by
  have hne (k : Nat) (hk : k < 8) : 8 * j + k ≠ 8 * i := by omega
  have hbyte (k : Nat) (hk : k < 8) : (if 8 * j + k = 8 * i then (1 : UInt8) else 0) = 0 :=
    if_neg (hne k hk)
  simp [Architecture.readSlot, slotFrame, slotProcess, Frame.findRegister, Process.readMemory,
    read_oneByteMemory, List.range_succ, Bytes.toNat, Bytes.toNatLE, hbyte, h.symm]

/-- A place in which the argument is passed but that is not read, at a stop where it holds 1. -/
theorem not_readsByConvention {slot : ArgSlot}
    (hc : arch.conventionSlot argIndex variadicStart = some slot)
    (hs : ∀ source, arch.sourceSlot argIndex variadicStart = some source →
      arch.readSlot (slotFrame arch slot) (slotProcess slot) source ≠ some 1) :
    ¬ ReadsByConvention arch (slotFrame arch slot) (slotProcess slot) argIndex variadicStart := by
  intro h
  have hone := h slot 1 hc (readSlot_slotFrame arch slot)
  rw [readRawArgValue_eq] at hone
  cases hsource : arch.sourceSlot argIndex variadicStart with
  | none => simp [hsource] at hone
  | some source =>
    have hne := hs source hsource
    rw [hsource, Option.bind_some] at hone
    cases hr : arch.readSlot (slotFrame arch slot) (slotProcess slot) source with
    | none => simp [hr] at hone
    | some value => simp_all

theorem conventionSlot_x8664_register (variadicStart : Option Nat) (h : argIndex < 6) :
    ∃ name ≠ "rsp", Architecture.conventionSlot .x8664 argIndex variadicStart =
      some (.register name) := by
  unfold Architecture.conventionSlot
  interval_cases argIndex <;> exact ⟨_, by decide, rfl⟩

theorem conventionSlot_x8664_stack (variadicStart : Option Nat) (h : 6 ≤ argIndex) :
    Architecture.conventionSlot .x8664 argIndex variadicStart =
      some (.stack (8 * (argIndex - 6 + 1))) := by
  unfold Architecture.conventionSlot
  have hoff : 8 + 8 * (argIndex - 6) = 8 * (argIndex - 6 + 1) := by omega
  rw [List.getElem?_eq_none (by simpa [Architecture.argRegisters] using h), ← hoff]

/-- **A raw argument is read by the calling convention at every stop exactly when it is one of an
ARM64 call, or a fixed argument of an x86-64 call that is passed in a register, or a variadic one of
an x86-64 call whose variadic arguments begin right behind the registers.** On x86-64 a variadic
argument that is passed in a register is looked for on the stack, and a fixed argument on the stack
is taken for 0. -/
theorem raw_argument_iff (arch : Architecture) (argIndex : Nat) (variadicStart : Option Nat) :
    (∀ frame process, ReadsByConvention arch frame process argIndex variadicStart) ↔
      arch.ReadsRightSlot argIndex variadicStart := by
  constructor
  · intro h harch
    subst harch
    have hslot (slot : ArgSlot) := h (slotFrame .x8664 slot) (slotProcess slot)
    cases hv : variadicStart.filter (· ≤ argIndex) with
    | none =>
      by_contra hlt
      have hc := conventionSlot_x8664_stack variadicStart (not_lt.mp hlt)
      refine not_readsByConvention hc ?_ (hslot _)
      intro source hsource
      have hlen : (Architecture.argRegisters .x8664).length ≤ argIndex := not_lt.mp hlt
      simp [Architecture.sourceSlot, hv, List.getElem?_eq_none hlen] at hsource
    | some start =>
      by_contra hne
      obtain ⟨-, hle⟩ := Option.filter_eq_some_iff.mp hv
      have hle : start ≤ argIndex := by simpa using hle
      have hsource : Architecture.sourceSlot .x8664 argIndex variadicStart =
          some (.stack (8 * (argIndex - start + 1))) := by
        have hoff : 8 + 8 * (argIndex - start) = 8 * (argIndex - start + 1) := by omega
        simp only [Architecture.sourceSlot, hv, hoff]
      rcases Nat.lt_or_ge argIndex 6 with hlt | hge
      · obtain ⟨name, hrsp, hc⟩ :=
          conventionSlot_x8664_register variadicStart hlt
        refine not_readsByConvention hc ?_ (hslot _)
        rintro source hs
        cases hsource.symm.trans hs
        simp [Architecture.readSlot, slotFrame, Frame.findRegister, Architecture.stackPointer,
          hrsp.symm]
      · refine not_readsByConvention (conventionSlot_x8664_stack variadicStart hge) ?_ (hslot _)
        rintro source hs
        cases hsource.symm.trans hs
        rw [readSlot_slotFrame_stack _ (by omega)]
        decide
  · intro h frame process slot value hc hvalue
    rw [readRawArgValue_eq, Architecture.sourceSlot_eq h hc, Option.bind_some, hvalue,
      Option.getD_some]

/-- The third argument of an `fcntl` or `ioctl` on x86-64 is in `rdx`, and is taken from the word
above the return address. -/
theorem third_argument_from_stack : ¬ ∀ (arch : Architecture) (frame : Frame) (process : Process)
    (argIndex : Nat) (variadicStart : Option Nat),
    ReadsByConvention arch frame process argIndex variadicStart := by
  intro h
  have hthird := h .x8664
    ⟨some "fcntl", 0x1000, 0,
      fun r => [("rdi", 3), ("rsi", 4), ("rdx", 4), ("rsp", 0x7000)].lookup r, none⟩
    ⟨Memory.ofBytes fun a => some (if a = 0x7001 then 0x12 else if a = 0x7008 then 0x63 else 0),
      .little⟩
    2 (some 2) (.register "rdx") 4 rfl rfl
  have hread : (0x63 : Nat) = 4 := hthird
  omega

end StraceMacos
