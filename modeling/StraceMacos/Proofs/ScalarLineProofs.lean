import Mathlib.Data.Int.ModEq
import StraceMacos.Proofs.EventArgProofs
import StraceMacos.Proofs.NestingProofs
import StraceMacos.Proofs.ReadLineProofs
import StraceMacos.Proofs.ScalarProofs

/-!
# Reading numbers without abbreviations

Without abbreviations a number is shown in decimal or in hexadecimal digits. The lines of calls
whose arguments are all numbers are read back to the argument registers, up to the width of their
types.
-/

namespace StraceMacos

open Fallible Text

/-! ## One argument -/

/-- The parameters whose argument is a number and depends on the raw value alone. -/
def Param.isScalar : Param → Bool
  | .int | .unsigned | .uidGid | .dirFd | .flockOp | .pointer | .fileDescriptor | .octal => true
  | .flags _ | .const _ | .custom _ => true
  | _ => false

/-- The bits of the raw value that the argument tells. -/
def Param.bits : Param → Nat
  | .uidGid | .const _ => 32
  | _ => 64

theorem toSignedInt32_modEq (v : Nat) : toSignedInt32 v ≡ v [ZMOD 2 ^ 32] := by
  rw [toSignedInt32_eq, Int.modEq_iff_dvd]
  split_ifs <;> omega

theorem toSignedInt_modEq (v : Nat) : toSignedInt v ≡ v [ZMOD 2 ^ 64] := by
  unfold toSignedInt
  rw [Int.modEq_iff_dvd]
  split_ifs <;> omega

/-- The text is a number, in decimal or hexadecimal digits. -/
inductive IsNumber : String → Int → Prop where
  | decimal (v : Int) : IsNumber (toString v) v
  | hex (n : Nat) : IsNumber (hex0x n) n

theorem IsNumber.readInt_eq {s : String} {v : Int} (h : IsNumber s v) : readInt s = some v := by
  cases h with
  | decimal v => exact CExpr.readOperand_toString v
  | hex n => exact CExpr.readOperand_hex0x n

theorem IsNumber.not_mem {s : String} {v : Int} (h : IsNumber s v) {c : Char} (hc : IsForeign c) :
    c ∉ s.toList := by
  cases h with
  | decimal v => exact hc.not_mem_toString v
  | hex n => exact hc.not_mem_hex0x n

theorem IsNumber.isEmpty_eq {s : String} {v : Int} (h : IsNumber s v) : s.isEmpty = false := by
  rw [← Bool.not_eq_true, String.isEmpty_iff]
  rintro rfl
  cases h.readInt_eq

/-- The argument shows the raw value of a parameter. -/
structure SyscallArg.ShowsRaw (arg : SyscallArg) (param : Param) (rawValue : Nat) : Prop where
  shown : arg.isSkip = false
  number : ∃ v, IsNumber arg.toStr v ∧ v ≡ rawValue [ZMOD 2 ^ param.bits]

/-- Without abbreviations, the decoder of a number shows the raw value. -/
theorem Param.decode_scalar {param : Param} (hscalar : param.isScalar = true) {ctx : DecodeContext}
    (habbrev : ctx.noAbbrev = true) {caches caches' : SysctlCaches} {arg : Option SyscallArg}
    (h : param.decode ctx caches = .ok (arg, caches')) :
    ∃ a, arg = some a ∧ a.ShowsRaw param ctx.rawValue := by
  have hhex (value : Int) : ∃ v,
      IsNumber (SyscallArg.int value (some (hex0x ctx.rawValue))).toStr v ∧
        v ≡ ctx.rawValue [ZMOD 2 ^ 64] := by
    refine ⟨ctx.rawValue, ?_, .rfl⟩
    rw [SyscallArg.toStr, symbolicOr]
    simp only [(IsNumber.hex ctx.rawValue).isEmpty_eq]
    exact .hex ctx.rawValue
  obtain ⟨a, ha, hres⟩ := map_eq_ok.mp h
  cases hres
  cases param with
  | int =>
    cases ha
    exact ⟨_, rfl, rfl, _, .decimal _, toSignedInt_modEq _⟩
  | unsigned =>
    cases ha
    exact ⟨_, rfl, rfl, _, .decimal ctx.rawValue, .rfl⟩
  | uidGid =>
    cases ha
    refine ⟨_, rfl, ?_⟩
    rw [decodeUidGid]
    split_ifs with hall
    · refine ⟨rfl, -1, .decimal (-1), ?_⟩
      rw [hall]
      decide
    · exact ⟨rfl, _, .decimal ctx.rawValue, .rfl⟩
  | dirFd =>
    cases ha
    have harg : decodeDirFd ctx =
        .int (toSignedInt32 ctx.rawValue) (some (hex0x ctx.rawValue)) := if_pos habbrev
    rw [harg]
    exact ⟨_, rfl, rfl, hhex _⟩
  | flockOp =>
    cases ha
    have harg : decodeFlockOp ctx = .int ctx.rawValue (some (hex0x ctx.rawValue)) := if_pos habbrev
    rw [harg]
    exact ⟨_, rfl, rfl, hhex _⟩
  | pointer =>
    cases ha
    exact ⟨_, rfl, rfl, _, .hex ctx.rawValue, .rfl⟩
  | fileDescriptor =>
    cases ha
    exact ⟨_, rfl, rfl, _, .decimal _, toSignedInt_modEq _⟩
  | flags table =>
    cases ha
    refine ⟨_, rfl, ?_⟩
    rw [decodeFlags, if_pos habbrev]
    exact ⟨rfl, _, .hex ctx.rawValue, .rfl⟩
  | const table =>
    cases ha
    refine ⟨_, rfl, ?_⟩
    simp only [decodeConst, habbrev, if_true]
    exact ⟨rfl, _, .decimal _, toSignedInt32_modEq _⟩
  | custom decodeFunc =>
    cases ha
    have harg : decodeCustom decodeFunc ctx =
        .int (toSignedInt ctx.rawValue) (some (hex0x ctx.rawValue)) := if_pos habbrev
    rw [harg]
    exact ⟨_, rfl, rfl, hhex _⟩
  | octal =>
    cases ha
    have harg : decodeOctal ctx =
        .int (toSignedInt ctx.rawValue) (some (hex0x ctx.rawValue)) := if_pos habbrev
    rw [harg]
    exact ⟨_, rfl, rfl, hhex _⟩
  | _ => cases hscalar

/-! ## The arguments of a line -/

/-- The integers between commas. -/
def readArgs (args : String) : Option (List Int) :=
  if args.isEmpty then some [] else ((split ',' args).map (lstrip ' ')).mapM readInt

theorem split_append_join {p s : String} {texts : List String} (hp : ',' ∉ p.toList)
    (h : ∀ s' ∈ s :: texts, ',' ∉ s'.toList) :
    split ',' (p ++ join ", " (s :: texts)) = (p ++ s) :: texts.map (" " ++ ·) := by
  induction texts generalizing p s with
  | nil =>
    have hs : ',' ∉ (p ++ s).toList := by
      rw [String.toList_append, List.mem_append, not_or]
      exact ⟨hp, h s List.mem_cons_self⟩
    rw [join_singleton, split_of_not_mem hs, List.map_nil]
  | cons s' texts ih =>
    obtain ⟨hs, htexts⟩ := List.forall_mem_cons.mp h
    have hjoin : p ++ join ", " (s :: s' :: texts) =
        p ++ s ++ String.ofList [','] ++ (" " ++ join ", " (s' :: texts)) := by
      apply String.toList_injective
      simp [join, List.intercalate_cons_cons]
    have hhead : ',' ∉ (p ++ s).toList := by
      rw [String.toList_append, List.mem_append, not_or]
      exact ⟨hp, hs⟩
    rw [hjoin, split_append, split_of_not_mem hhead, ih (by decide) htexts]
    rfl

theorem lstrip_of_not_mem {c : Char} {s : String} (h : c ∉ s.toList) : lstrip c s = s := by
  unfold lstrip
  cases hs : s.toList with
  | nil =>
    rw [← String.ofList_toList (s := s), hs]
    rfl
  | cons d cs =>
    have hd : d ≠ c := fun hd => h (by rw [hs, hd]; exact List.mem_cons_self)
    rw [List.dropWhile_cons_of_neg (by simpa using hd), ← hs, String.ofList_toList]

theorem lstrip_space {s : String} (h : ' ' ∉ s.toList) : lstrip ' ' (" " ++ s) = s := by
  have hlist : (" " ++ s).toList = ' ' :: s.toList := by simp
  have hstrip : lstrip ' ' (" " ++ s) = lstrip ' ' s := by
    rw [lstrip, hlist, List.dropWhile_cons_of_pos (by rfl), lstrip]
  rw [hstrip, lstrip_of_not_mem h]

/-- Numbers are read back from what joins them. -/
theorem readArgs_join {texts : List String} {values : List Int}
    (h : List.Forall₂ IsNumber texts values) : readArgs (join ", " texts) = some values := by
  have hread : texts.mapM readInt = some values := by
    induction h with
    | nil => rfl
    | cons hs _ ih => rw [List.mapM_cons, hs.readInt_eq, ih]; rfl
  have hforeign : ∀ s ∈ texts, ∀ c, IsForeign c → c ∉ s.toList := by
    clear hread
    induction h with
    | nil => simp
    | cons hs _ ih => exact List.forall_mem_cons.mpr ⟨fun c hc => hs.not_mem hc, ih⟩
  cases h with
  | nil => rfl
  | @cons s v texts values hs htexts =>
    obtain ⟨hfirst, hrest⟩ := List.forall_mem_cons.mp hforeign
    have hempty : (join ", " (s :: texts)).isEmpty = false :=
      isEmpty_join_cons _ _ hs.isEmpty_eq
    have hsplit := split_append_join (p := "") (by decide)
      fun s' hs' => hforeign s' hs' _ isForeign_marks.2.2
    rw [String.empty_append, String.empty_append] at hsplit
    have hstrip : (texts.map (" " ++ ·)).map (lstrip ' ') = texts := by
      rw [List.map_map]
      refine (List.map_congr_left fun s' hs' => ?_).trans (List.map_id texts)
      exact lstrip_space (hrest s' hs' _ isForeign_marks.1)
    rw [readArgs, if_neg (by rw [hempty]; decide), hsplit, List.map_cons, hstrip,
      lstrip_of_not_mem (hfirst _ isForeign_marks.1), hread]

/-! ## Numbers in the events of a run -/

/-- The event has an argument and a raw value for each parameter, and the arguments of numbers show
the raw values. -/
structure SyscallEvent.ShowsScalars (event : SyscallEvent) (d : SyscallDef) : Prop where
  args_length : event.args.length = d.params.length
  vals_length : event.rawArgs.vals.length = d.params.length
  shown : ∀ (i : Nat) (param : Param) (rawValue : Nat) (arg : SyscallArg),
    d.params[i]? = some (.plain param) → param.isScalar = true →
    event.rawArgs.vals[i]? = some rawValue → event.args[i]? = some arg →
    arg.ShowsRaw param rawValue

namespace Tracer

variable {t : Tracer} {options : Options} {filter : Filter} {stops : List Stop}

theorem showsScalars_at_entry (habbrev : options.noAbbrev = true) :
    HoldsAtEntry options filter fun _ event => ∀ d,
      SyscallRegistry.init.lookupByName event.syscallName = some d → event.ShowsScalars d := by
  intro s stop frame name args rawArgs decoder hs hdecode d hd
  have hlookup : s.registry.lookupByName name = some d := by
    rw [hs.registry]
    exact hd
  refine ⟨decodeEntry_length hlookup hdecode, ?_, ?_⟩
  · exact (congrArg List.length (decodeEntry_vals hs hd hdecode)).trans (by simp [readRawValues])
  · intro i param rawValue arg hparam hscalar hraw harg
    obtain ⟨before, after, r, hget, hr⟩ := decodeEntry_arg hs hd hdecode hparam hraw
    obtain ⟨a, rfl, ha⟩ := Param.decode_scalar hscalar habbrev hr
    obtain rfl : a = arg := Option.some.inj (hget.symm.trans harg)
    exact ha

theorem showsScalars_at_return (habbrev : options.noAbbrev = true) :
    KeptAtReturn options filter fun _ event => ∀ d,
      SyscallRegistry.init.lookupByName event.syscallName = some d → event.ShowsScalars d := by
  intro _ s stop frame event event' decoder hs hcomplete hevent d hd
  obtain ⟨args, heq⟩ := completeEvent_eq hcomplete
  have hname : event'.syscallName = event.syscallName := by rw [heq]
  have hraw : event'.rawArgs = event.rawArgs := by rw [heq]
  rw [hname] at hd
  have hbefore := hevent d hd
  have hlength := completeEvent_args_length hs hcomplete
  refine ⟨hlength.trans hbefore.args_length, by rw [hraw]; exact hbefore.vals_length, ?_⟩
  intro i param rawValue arg hparam hscalar hval harg
  rw [hraw] at hval
  have hlt : i < event.args.length := by
    rw [← hlength]
    exact (List.getElem?_eq_some_iff.mp harg).1
  have hbeforeArg : event.args[i]? = some event.args[i] := List.getElem?_eq_getElem hlt
  rcases completeEvent_arg hs hd hcomplete hparam hval hbeforeArg with hkept | hagain
  · obtain rfl : event.args[i] = arg := Option.some.inj (hkept.symm.trans harg)
    exact hbefore.shown i param rawValue _ hparam hscalar hval hbeforeArg
  · obtain ⟨before, after, r, hget, hr⟩ := hagain
    obtain ⟨a, rfl, ha⟩ := Param.decode_scalar hscalar habbrev hr
    obtain rfl : a = arg := Option.some.inj (hget.symm.trans harg)
    exact ha

end Tracer

/-! ## Lines of numbers -/

/-- The values are those of the raw values, up to the width of the parameters. -/
def MatchRaw (params : List Param) (rawValues : List Nat) (values : List Int) : Prop :=
  values.length = params.length ∧ ∀ (i : Nat) (param : Param) (rawValue : Nat) (v : Int),
    params[i]? = some param → rawValues[i]? = some rawValue → values[i]? = some v →
    v ≡ rawValue [ZMOD 2 ^ param.bits]

theorem exists_matchRaw {params : List Param} {rawValues : List Nat} {args : List SyscallArg}
    (hargs : args.length = params.length) (hvals : rawValues.length = params.length)
    (h : ∀ (i : Nat) (param : Param) (rawValue : Nat) (arg : SyscallArg),
      params[i]? = some param → rawValues[i]? = some rawValue → args[i]? = some arg →
      arg.ShowsRaw param rawValue) :
    ∃ values, List.Forall₂ IsNumber (args.map SyscallArg.toStr) values ∧
      MatchRaw params rawValues values := by
  induction params generalizing rawValues args with
  | nil =>
    obtain rfl := List.length_eq_zero_iff.mp hargs
    exact ⟨[], .nil, rfl, fun i _ _ _ hparam => by simp at hparam⟩
  | cons param params ih =>
    obtain ⟨arg, args, rfl⟩ := List.exists_cons_of_length_eq_add_one hargs
    obtain ⟨rawValue, rawValues, rfl⟩ := List.exists_cons_of_length_eq_add_one hvals
    obtain ⟨values, hnumbers, hlength, hmatch⟩ := ih (Nat.succ.inj hargs) (Nat.succ.inj hvals)
      fun i param rawValue arg => h (i + 1) param rawValue arg
    obtain ⟨v, hv, hmod⟩ := (h 0 param rawValue arg rfl rfl rfl).number
    refine ⟨v :: values, .cons hv hnumbers, by rw [List.length_cons, hlength, List.length_cons],
      fun i param' rawValue' v' hparam hraw hval => ?_⟩
    cases i with
    | zero =>
      cases hparam
      cases hraw
      cases hval
      exact hmod
    | succ i => exact hmatch i param' rawValue' v' hparam hraw hval

theorem argsText_of_shown {event : SyscallEvent} (h : ∀ arg ∈ event.args, arg.isSkip = false) :
    event.argsText = join ", " (event.args.map SyscallArg.toStr) := by
  have hall : event.args.filter (! ·.isSkip) = event.args :=
    List.filter_eq_self.mpr fun arg harg => by rw [h arg harg]; rfl
  rw [SyscallEvent.argsText, hall]

/-- The arguments of a call that has only numbers are read back to its raw values. -/
theorem SyscallEvent.ShowsScalars.readArgs_argsText {event : SyscallEvent} {d : SyscallDef}
    {params : List Param} (h : event.ShowsScalars d) (hparams : d.params = plainParams params)
    (hscalar : ∀ param ∈ params, param.isScalar = true) :
    ∃ values, readArgs event.argsText = some values ∧
      MatchRaw params event.rawArgs.vals values := by
  have hlength : d.params.length = params.length := by
    rw [hparams, plainParams, List.length_map]
  have hshown : ∀ (i : Nat) (param : Param) (rawValue : Nat) (arg : SyscallArg),
      params[i]? = some param → event.rawArgs.vals[i]? = some rawValue →
      event.args[i]? = some arg → arg.ShowsRaw param rawValue := by
    intro i param rawValue arg hparam
    refine h.shown i param rawValue arg ?_ (hscalar param (List.mem_of_getElem? hparam))
    rw [hparams, plainParams, List.getElem?_map, hparam, Option.map_some]
  obtain ⟨values, hnumbers, hmatch⟩ := exists_matchRaw (h.args_length.trans hlength)
    (h.vals_length.trans hlength) hshown
  refine ⟨values, ?_, hmatch⟩
  have hskip : ∀ arg ∈ event.args, arg.isSkip = false := by
    intro arg harg
    obtain ⟨i, hi, rfl⟩ := List.mem_iff_getElem.mp harg
    have hiparam : i < params.length := by rwa [h.args_length, hlength] at hi
    have hival : i < event.rawArgs.vals.length := by rwa [h.vals_length, ← h.args_length]
    exact (hshown i _ _ _ (List.getElem?_eq_getElem hiparam) (List.getElem?_eq_getElem hival)
      (List.getElem?_eq_getElem hi)).shown
  rw [argsText_of_shown hskip]
  exact readArgs_join hnumbers

namespace Tracer

variable {t : Tracer} {options : Options} {filter : Filter} {stops : List Stop}

/-- **Without abbreviations the lines of calls with numbers tell the argument registers**: the name
in the line gives the definition of the call, and if its parameters are all numbers, those between
the parentheses are the raw values at the entry of the call, up to the width of their types. -/
theorem scalar_lines_read_back (h : (init options filter).run stops = .ok t)
    (habbrev : options.noAbbrev = true) : ∀ event ∈ t.written, ∀ d params,
    SyscallRegistry.init.lookupByName (readLine (formatText event)).name = some d →
    d.params = plainParams params → (∀ param ∈ params, param.isScalar = true) →
    ∃ pre stop post tid address frame values, stops = pre ++ stop :: post ∧
      EnteredAt options filter pre stop tid address event ∧ stop.frame = some frame ∧
      readArgs (readLine (formatText event)).args = some values ∧
      MatchRaw params (readRawValues options.arch frame stop.process d) values := by
  intro event hmem d params hd hparams hscalar
  obtain ⟨pre, stop, post, tid, address, rfl, hentered, hall⟩ := (run_madeWith
    (showsScalars_at_entry habbrev) (showsScalars_at_return habbrev) h).written event hmem
  rw [readLine_formatText ((run_allProduced h).written event hmem)] at hd ⊢
  obtain ⟨values, hread, hmatch⟩ := (hall d hd).readArgs_argsText hparams hscalar
  obtain ⟨s, frame, args, decoder, hrun, hentry, hdecode, -⟩ := hentered.entry
  refine ⟨pre, stop, post, tid, address, frame, values, rfl, hentered, hentry.frame_eq, hread, ?_⟩
  rwa [← decodeEntry_vals (run_sound hrun) hd hdecode]

theorem scalar_lines_read_back_close : ∃ t event stop frame values,
    (init plainOptions .all).run [closeEntry, closeReturn] = .ok t ∧ event ∈ t.written ∧
    stop ∈ [closeEntry, closeReturn] ∧ stop.frame = some frame ∧
    readArgs (readLine (formatText event)).args = some values ∧
    MatchRaw [.fileDescriptor] (readRawValues .arm64 frame stop.process closeDef) values := by
  obtain ⟨t, hrun, haccount⟩ := run_of_account (t := init plainOptions .all)
    [closeEntry, closeReturn] ⟨1, [(0, "close", .int 0)], []⟩
    (by rw [init_eq_initByNumber]; decide +kernel)
  have hwritten : (0, "close", ReturnValue.int 0) ∈ t.account.written := by
    rw [haccount]
    exact List.mem_singleton.mpr rfl
  obtain ⟨event, hmem, heq⟩ := List.mem_map.mp hwritten
  have hname : (readLine (formatText event)).name = "close" := by
    rw [readLine_formatText ((run_allProduced hrun).written event hmem)]
    exact (Prod.mk.inj (Prod.mk.inj heq).2).1
  have hlookup : SyscallRegistry.init.lookupByName (readLine (formatText event)).name =
      some closeDef := by
    rw [hname, lookup_close]
  obtain ⟨pre, stop, post, tid, address, frame, values, hstops, -, hframe, hread, hmatch⟩ :=
    scalar_lines_read_back hrun rfl event hmem closeDef [.fileDescriptor] hlookup rfl (by decide)
  have hstop : stop ∈ [closeEntry, closeReturn] := by
    rw [hstops]
    simp
  exact ⟨t, event, stop, frame, values, hrun, hmem, hstop, hframe, hread, hmatch⟩

end Tracer

end StraceMacos
