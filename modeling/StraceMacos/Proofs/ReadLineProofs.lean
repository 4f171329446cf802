import StraceMacos.Library.CExpr
import StraceMacos.Library.Words
import StraceMacos.Proofs.LedgerProofs
import StraceMacos.Proofs.LineProofs
import StraceMacos.Proofs.ThreadProofs

/-!
# Reading the lines of a text trace

A reader of the lines of a text trace: the name before the first parenthesis, the result behind the
last equals sign, and the arguments between them. Neither a name nor a result contains the character
that ends it, so that the arguments may contain anything. The result is the return register and the
error number of the call.
-/

namespace StraceMacos

open Text

/-! ## The reader -/

/-- The parts of a line. -/
structure LineParts where
  name : String
  args : String
  result : String
  deriving DecidableEq, Repr

def readLine (line : String) : LineParts where
  name := before '(' line
  args := String.ofList (beforeLast '=' (behind '(' line)).toList.dropLast.dropLast
  result := String.ofList ((behindLast '=' line).toList.drop 1)

/-- The integer that a text shows, without named constants. -/
def readInt (s : String) : Option Int :=
  CExpr.readOperand (fun _ => none) s

/-- The value of a result: the number alone, before the name of an error, or in parentheses behind
flags. -/
def readValue (result : String) : Option Int :=
  match split ' ' result with
  | [] => none
  | [_, mask] => readInt (String.ofList (mask.toList.drop 1).dropLast)
  | word :: _ => readInt word

/-- The number of the error that a result names. -/
def readErrorNumber (result : String) : Option Int :=
  match split ' ' result with
  | _ :: name :: _ :: _ => (errnoMap.find? fun e => e.2.1 == name).map Prod.fst
  | _ => none

/-! ## Results -/

/-- The texts of results with the return register and the error number that they tell. -/
inductive ResultText : String → Option Int → Option Int → Prop where
  | unknown : ResultText "?" none none
  | number (v : Int) : ResultText (toString v) (some v) none
  | mask (n : Nat) : ResultText (hex0x n) (some n) none
  | flags (n : Nat) {flags : String} (hspace : ' ' ∉ flags.toList) (hequals : '=' ∉ flags.toList) :
    ResultText (flags ++ " (" ++ hex0x n ++ ")") (some n) none
  | closeOnExec : ResultText "FD_CLOEXEC" none none
  | error {e : Int × String × String} (he : e ∈ errnoMap) :
    ResultText ("-1 " ++ e.2.1 ++ " (" ++ e.2.2 ++ ")") (some (-1)) (some e.1)

/-- A character that stands in no numeral. -/
def IsForeign (c : Char) : Prop :=
  (∀ d < 16, d.digitChar ≠ c) ∧ c ≠ '-' ∧ c ≠ 'x'

theorem isForeign_marks : IsForeign ' ' ∧ IsForeign '=' ∧ IsForeign ',' := by
  unfold IsForeign
  decide

theorem IsForeign.not_mem_toString {c : Char} (h : IsForeign c) (v : Int) :
    c ∉ (toString v).toList :=
  Text.not_mem_toString_int h.2.1 (fun d hd => h.1 d (by omega)) v

theorem IsForeign.not_mem_hex0x {c : Char} (h : IsForeign c) (n : Nat) : c ∉ (hex0x n).toList := by
  rw [CExpr.toList_hex0x, List.mem_cons, List.mem_cons]
  rintro (hzero | hx | hdigits)
  · exact h.1 0 (by omega) hzero.symm
  · exact h.2.2 hx
  · exact not_mem_toDigits (by omega) (by omega) h.1 n hdigits

set_option maxRecDepth 20000 in
/-- The names of errors are distinct words, and no equals sign stands in their texts. -/
theorem errnoMap_texts : (errnoMap.map fun e => e.2.1).Nodup ∧ ∀ e ∈ errnoMap,
    ' ' ∉ e.2.1.toList ∧ '=' ∉ e.2.1.toList ∧ '=' ∉ e.2.2.toList := by
  have h : ((errnoMap.map fun e => e.2.1).map byteCode).Nodup ∧ ∀ e ∈ errnoMap,
      (IsAscii e.2.1 ∧ IsAscii e.2.2) ∧
        ' ' ∉ asciiChars e.2.1 ∧ '=' ∉ asciiChars e.2.1 ∧ '=' ∉ asciiChars e.2.2 := by
    decide
  refine ⟨h.1.of_map, fun e he => ?_⟩
  obtain ⟨⟨hname, hdesc⟩, hmarks⟩ := h.2 e he
  rwa [toList_eq_asciiChars hname, toList_eq_asciiChars hdesc]

theorem find_errnoMap {e : Int × String × String} (he : e ∈ errnoMap) :
    errnoMap.find? (fun e' => e'.2.1 == e.2.1) = some e := by
  cases hf : errnoMap.find? (fun e' => e'.2.1 == e.2.1) with
  | none => exact absurd (List.find?_eq_none.mp hf e he) (by simp)
  | some e' =>
    have hname := List.find?_some hf
    rw [List.inj_on_of_nodup_map errnoMap_texts.1 (List.mem_of_find?_eq_some hf) he
      (beq_iff_eq.mp hname)]

namespace ResultText

variable {text : String} {value errno : Option Int}

theorem equals_not_mem (h : ResultText text value errno) : '=' ∉ text.toList := by
  cases h with
  | unknown => decide
  | number v => exact isForeign_marks.2.1.not_mem_toString v
  | mask n => exact isForeign_marks.2.1.not_mem_hex0x n
  | @flags n flags hspace hequals =>
    simp only [String.toList_append, List.mem_append, not_or]
    exact ⟨⟨⟨hequals, by decide⟩, isForeign_marks.2.1.not_mem_hex0x n⟩, by decide⟩
  | closeOnExec => decide
  | @error e he =>
    obtain ⟨-, hname, hdesc⟩ := errnoMap_texts.2 e he
    simp only [String.toList_append, List.mem_append, not_or]
    exact ⟨⟨⟨⟨by decide, hname⟩, by decide⟩, hdesc⟩, by decide⟩

theorem split_number (v : Int) : split ' ' (toString v) = [toString v] :=
  split_of_not_mem (isForeign_marks.1.not_mem_toString v)

theorem split_mask (n : Nat) : split ' ' (hex0x n) = [hex0x n] :=
  split_of_not_mem (isForeign_marks.1.not_mem_hex0x n)

theorem split_flags (n : Nat) {flags : String} (hspace : ' ' ∉ flags.toList) :
    split ' ' (flags ++ " (" ++ hex0x n ++ ")") = [flags, "(" ++ hex0x n ++ ")"] := by
  have htext : flags ++ " (" ++ hex0x n ++ ")" =
      flags ++ String.ofList [' '] ++ ("(" ++ hex0x n ++ ")") := by
    apply String.toList_injective
    simp
  have hmask : ' ' ∉ ("(" ++ hex0x n ++ ")").toList := by
    simp only [String.toList_append, List.mem_append, not_or]
    exact ⟨⟨by decide, isForeign_marks.1.not_mem_hex0x n⟩, by decide⟩
  rw [htext, split_append, split_of_not_mem hspace, split_of_not_mem hmask, List.singleton_append]

/-- The text of an error is its value, its name and the words of its description. -/
theorem split_error {e : Int × String × String} (he : e ∈ errnoMap) : ∃ word words,
    split ' ' ("-1 " ++ e.2.1 ++ " (" ++ e.2.2 ++ ")") = "-1" :: e.2.1 :: word :: words := by
  have htext : "-1 " ++ e.2.1 ++ " (" ++ e.2.2 ++ ")" =
      "-1" ++ String.ofList [' '] ++ (e.2.1 ++ String.ofList [' '] ++ ("(" ++ e.2.2 ++ ")")) := by
    apply String.toList_injective
    simp
  have hvalue : split ' ' "-1" = ["-1"] := split_of_not_mem (by decide)
  have hname := split_of_not_mem (errnoMap_texts.2 e he).1
  rw [htext, split_append, split_append, hvalue, hname]
  cases hdesc : split ' ' ("(" ++ e.2.2 ++ ")") with
  | nil =>
    rw [split, List.map_eq_nil_iff] at hdesc
    exact absurd hdesc (by simp)
  | cons word words => exact ⟨word, words, rfl⟩

/-- The value is read back. -/
theorem readValue_eq (h : ResultText text value errno) : readValue text = value := by
  unfold readValue
  cases h with
  | unknown => rfl
  | number v =>
    rw [split_number]
    exact CExpr.readOperand_toString v
  | mask n =>
    rw [split_mask]
    exact CExpr.readOperand_hex0x n
  | flags n hspace =>
    have hmask : String.ofList (("(" ++ hex0x n ++ ")").toList.drop 1).dropLast = hex0x n := by
      apply String.toList_injective
      simp
    rw [split_flags n hspace]
    simp only [hmask]
    exact CExpr.readOperand_hex0x n
  | closeOnExec => rfl
  | error he =>
    obtain ⟨word, words, hsplit⟩ := split_error he
    rw [hsplit]
    rfl

/-- The error number is read back. -/
theorem readErrorNumber_eq (h : ResultText text value errno) : readErrorNumber text = errno := by
  unfold readErrorNumber
  cases h with
  | unknown => rfl
  | number v => rw [split_number]
  | mask n => rw [split_mask]
  | flags n hspace => rw [split_flags n hspace]
  | closeOnExec => rfl
  | error he =>
    obtain ⟨word, words, hsplit⟩ := split_error he
    rw [hsplit]
    simp only [find_errnoMap he, Option.map_some]

end ResultText

/-! ## Return values -/

theorem not_mem_decodeOpenFlags {c : Char} (hc : c = ' ' ∨ c = '=') (value : Int) :
    c ∉ (decodeOpenFlags value).toList := by
  have hforeign : IsForeign c := by
    rcases hc with rfl | rfl
    · exact isForeign_marks.1
    · exact isForeign_marks.2.1
  have htable : ∀ e ∈ oFlags, ' ' ∉ e.2.toList ∧ '=' ∉ e.2.toList := by
    have h : ∀ e ∈ oFlags, IsAscii e.2 ∧ ' ' ∉ asciiChars e.2 ∧ '=' ∉ asciiChars e.2 := by decide
    intro e he
    obtain ⟨hascii, hmarks⟩ := h e he
    rwa [toList_eq_asciiChars hascii]
  have hname : ∀ e ∈ oFlags, c ∉ e.2.toList := by
    intro e he
    rcases hc with rfl | rfl
    · exact (htable e he).1
    · exact (htable e he).2
  have hbar : c ∉ "|".toList := by
    rcases hc with rfl | rfl <;> decide
  have hzero : c ∉ "O_RDONLY".toList := by
    rcases hc with rfl | rfl <;> decide
  have hhex : c ∉ (hexInt value).toList := by
    cases value with
    | ofNat n => exact hforeign.not_mem_hex0x n
    | negSucc n =>
      rw [hexInt, String.toList_append, List.mem_append]
      rintro (hminus | hdigits)
      · exact hforeign.2.1 (List.mem_singleton.mp hminus)
      · exact hforeign.not_mem_hex0x _ hdigits
  unfold decodeOpenFlags joinOr
  simp only
  split_ifs
  · exact hzero
  · exact hhex
  · rw [mem_join_iff hbar]
    rintro ⟨name, hmem, hin⟩
    rcases List.mem_append.mp hmem with hmem | hmem
    · exact hname _ (Dict.mem_of_lookup (Option.mem_toList.mp hmem)) hin
    · obtain ⟨e, he, rfl⟩ := List.mem_map.mp hmem
      exact hname e (List.mem_of_mem_filter (List.mem_of_mem_filter he)) hin

/-- The number of the error that a failed call reports, if the tracer knows its name. -/
def knownErrno (frame : Frame) : Option Int :=
  (readErrno frame).filter fun n => (errnoMap.lookup n).isSome

theorem resultText_decodeErrno {n : Int} {e : String × String} (h : errnoMap.lookup n = some e) :
    ResultText (decodeErrno n) (some (-1)) (some n) := by
  have herror := ResultText.error (Dict.mem_of_lookup h)
  rwa [decodeErrno, h]

theorem resultText_minusOne : ResultText "-1" (some (-1)) none := by
  have htext : toString (-1 : Int) = "-1" := by decide
  rw [← htext]
  exact .number (-1)

theorem resultText_failedReturn (noAbbrev : Bool) (frame : Frame) (v : Int) :
    ResultText (decodeReturnValue.failedReturn noAbbrev frame v).toStr (some v)
      (if v = -1 ∧ noAbbrev = false then knownErrno frame else none) := by
  unfold decodeReturnValue.failedReturn knownErrno
  split_ifs with hfailed
  · rw [hfailed.1]
    cases readErrno frame with
    | none => exact resultText_minusOne
    | some n =>
      rw [ReturnValue.toStr, Option.filter_some]
      cases hl : errnoMap.lookup n with
      | none =>
        rw [decodeErrno, hl]
        exact resultText_minusOne
      | some e => exact resultText_decodeErrno hl
  · exact .number v

theorem resultText_decodeFcntlReturn {v : Int} (hv : 0 ≤ v) (allArgs : List Nat)
    (noAbbrev : Bool) :
    ResultText (decodeFcntlReturn v allArgs noAbbrev).toStr (some v) none ∨
      (decodeFcntlReturn v allArgs noAbbrev).toStr = "FD_CLOEXEC" ∧ Text.band v 1 ≠ 0 := by
  obtain ⟨n, rfl⟩ := Int.eq_ofNat_of_zero_le hv
  unfold decodeFcntlReturn
  rw [if_neg (by omega)]
  cases allArgs[1]? with
  | none => exact .inl (.number _)
  | some cmd =>
    simp only
    split_ifs with hget habbrev hcloexec
    · exact .inl (.mask n)
    · exact .inl (.flags n (not_mem_decodeOpenFlags (.inl rfl) n)
        (not_mem_decodeOpenFlags (.inr rfl) n))
    · exact .inr ⟨rfl, hcloexec.2.2.2⟩
    · exact .inl (.number _)

/-- The text shows the result of a call that returned in this frame: the return register, and the
number of the error unless it has no name or names are not shown. Only `FD_CLOEXEC` stands for any
register with the lowest bit set. -/
structure ShowsResult (arch : Architecture) (noAbbrev : Bool) (frame : Frame) (text : String) :
    Prop where
  value : readValue text = signedReturn arch frame ∨
    text = "FD_CLOEXEC" ∧ ∃ v ∈ signedReturn arch frame, Text.band v 1 ≠ 0
  errno : readErrorNumber text =
    if signedReturn arch frame = some (-1) ∧ noAbbrev = false then knownErrno frame else none

theorem ResultText.showsResult {arch : Architecture} {noAbbrev : Bool} {frame : Frame}
    {text : String} {v : Int} {errno : Option Int} (h : ResultText text (some v) errno)
    (hv : signedReturn arch frame = some v)
    (herrno : errno = if v = -1 ∧ noAbbrev = false then knownErrno frame else none) :
    ShowsResult arch noAbbrev frame text := by
  refine ⟨.inl (h.readValue_eq.trans hv.symm), ?_⟩
  rw [h.readErrorNumber_eq, herrno, hv]
  simp only [Option.some.injEq]

/-- The text of a return value shows the result, and no equals sign stands in it. -/
theorem decodeReturnValue_shows (registry : SyscallRegistry) (arch : Architecture)
    (noAbbrev : Bool) (frame : Frame) (event : SyscallEvent) :
    ShowsResult arch noAbbrev frame
        (decodeReturnValue registry arch noAbbrev frame event).toStr ∧
      '=' ∉ (decodeReturnValue registry arch noAbbrev frame event).toStr.toList := by
  unfold decodeReturnValue
  cases hv : signedReturn arch frame with
  | none =>
    refine ⟨⟨.inl (ResultText.unknown.readValue_eq.trans hv.symm), ?_⟩,
      ResultText.unknown.equals_not_mem⟩
    rw [hv, if_neg (by simp)]
    exact ResultText.unknown.readErrorNumber_eq
  | some v =>
    have hfailed := resultText_failedReturn noAbbrev frame v
    have hshown := And.intro (hfailed.showsResult hv rfl) hfailed.equals_not_mem
    cases (registry.lookupByName event.syscallName).bind SyscallDef.returnDecoder with
    | none => exact hshown
    | some returnDecoder =>
      simp only
      split_ifs with hnonneg
      · cases returnDecoder
        have herrno : ¬ (v = -1 ∧ noAbbrev = false) := fun h => by omega
        rcases resultText_decodeFcntlReturn hnonneg event.rawArgs.vals noAbbrev with
          htext | ⟨htext, hbit⟩
        · exact ⟨htext.showsResult hv (if_neg herrno).symm, htext.equals_not_mem⟩
        · rw [ReturnDecoder.decode, htext]
          refine ⟨⟨.inr ⟨rfl, v, hv, hbit⟩, ?_⟩, ResultText.closeOnExec.equals_not_mem⟩
          rw [if_neg (by rwa [hv, Option.some.injEq])]
          exact ResultText.closeOnExec.readErrorNumber_eq
      · exact hshown

/-! ## Lines -/

/-- The texts of the arguments of an event, as they stand between the parentheses. -/
def SyscallEvent.argsText (event : SyscallEvent) : String :=
  join ", " ((event.args.filter (! ·.isSkip)).map SyscallArg.toStr)

theorem SyscallEvent.Produced.equals_not_mem {event : SyscallEvent} (h : event.Produced) :
    '=' ∉ event.returnValue.toStr.toList := by
  rcases h.returnValue with hvalue | ⟨registry, arch, noAbbrev, frame, event₀, hvalue⟩
  · rw [hvalue]
    exact ResultText.unknown.equals_not_mem
  · rw [hvalue]
    exact (decodeReturnValue_shows registry arch noAbbrev frame event₀).2

/-- **A line is cut into its parts**, whatever its arguments contain. -/
theorem readLine_formatText {event : SyscallEvent} (h : event.Produced) :
    readLine (formatText event) =
      ⟨event.syscallName, event.argsText, event.returnValue.toStr⟩ := by
  obtain ⟨e, he, hname⟩ := h.name
  have hparen : '(' ∉ event.syscallName.toList := by
    rw [← hname]
    exact (marks_not_mem_name he).2
  have hequals : '=' ∉ (" " ++ event.returnValue.toStr).toList := by
    rw [String.toList_append, List.mem_append, not_or]
    exact ⟨by decide, h.equals_not_mem⟩
  have hcall : formatText event = event.syscallName ++ String.ofList ['('] ++
      (event.argsText ++ ") " ++ String.ofList ['='] ++ (" " ++ event.returnValue.toStr)) := by
    apply String.toList_injective
    simp [formatText, SyscallEvent.argsText]
  have hline : formatText event = event.syscallName ++ "(" ++ event.argsText ++ ") " ++
      String.ofList ['='] ++ (" " ++ event.returnValue.toStr) := by
    apply String.toList_injective
    simp [formatText, SyscallEvent.argsText]
  have hargs : (beforeLast '=' (behind '(' (formatText event))).toList.dropLast.dropLast =
      event.argsText.toList := by
    rw [hcall, behind_append hparen, beforeLast_append hequals, String.toList_append]
    have hend : ") ".toList = [')', ' '] := rfl
    rw [hend, List.dropLast_append_of_ne_nil (by simp)]
    simp
  have hresult : (behindLast '=' (formatText event)).toList.drop 1 =
      event.returnValue.toStr.toList := by
    rw [hline, behindLast_append hequals]
    simp
  rw [readLine, hargs, hresult, String.ofList_toList, String.ofList_toList]
  rw [hcall, before_append hparen]

namespace Tracer

variable {t : Tracer} {options : Options} {filter : Filter} {pre stops : List Stop} {stop : Stop}
variable {event : SyscallEvent}

/-- An event is written at its return, with the result there, or at its entry. -/
theorem WrittenAt.shows_result (h : WrittenAt options filter pre stop event) :
    (∃ frame, stop.frame = some frame ∧
      ShowsResult options.arch options.noAbbrev frame event.returnValue.toStr) ∨
    Reported options filter (pre ++ [stop]) event ∧ event.returnValue = .str "?" := by
  obtain ⟨s, s', hrun, hstep, hwritten⟩ := h
  have hs := run_sound hrun
  have hnot {events : List SyscallEvent} (h : events = events ++ [event]) : False := by
    simpa using congrArg List.length h
  cases handleStop_handles hstep with
  | ignored => exact (hnot hwritten).elim
  | recorded => exact (hnot hwritten).elim
  | @returned tid frame event₀ event' decoder hr hc =>
    obtain rfl : event' = event := by simpa [settle, writeEvent] using hwritten
    obtain ⟨args, heq⟩ := completeEvent_eq hc
    refine .inl ⟨frame, hr.frame_eq, ?_⟩
    rw [heq, ← hs.options_eq]
    exact (decodeReturnValue_shows s.registry s.options.arch s.options.noAbbrev frame event₀).1
  | @reported tid frame name args rawArgs decoder he hd hra =>
    obtain rfl : s.entryEvent stop name args rawArgs = event := by
      simpa [report, writeEvent] using hwritten
    exact .inr ⟨⟨pre, stop, [], tid, rfl,
      ⟨⟨s, frame, args, decoder, hrun, he, hd, hra, rfl⟩, rfl, rfl⟩, s, _, hrun, hstep, hwritten⟩,
      rfl⟩

/-- **Every line of a text trace is read back**: its name, the text of its arguments, and its
result, which is that of the stop at which the call returned. A line without a result belongs to a
call whose return address could not be read. -/
theorem lines_read_back (h : (init options filter).run stops = .ok t) : ∀ event ∈ t.written,
    readLine (formatText event) =
      ⟨event.syscallName, event.argsText, event.returnValue.toStr⟩ ∧
    ((∃ pre stop post frame, stops = pre ++ stop :: post ∧ stop.frame = some frame ∧
        WrittenAt options filter pre stop event ∧
        ShowsResult options.arch options.noAbbrev frame event.returnValue.toStr) ∨
      Reported options filter stops event ∧ event.returnValue.toStr = "?") := by
  intro event hmem
  refine ⟨readLine_formatText ((run_allProduced h).written event hmem), ?_⟩
  rcases (run_origins h).written event hmem with hreturned | ⟨hreported, hvalue⟩
  · obtain ⟨pre, entry, mid, ret, post, tid, frame, rfl, -, -, -, hat⟩ := hreturned
    rcases hat.shows_result with ⟨frame, hframe, hshows⟩ | ⟨hreported, hvalue⟩
    · exact .inl ⟨pre ++ entry :: mid, ret, post, frame, by simp, hframe, hat, hshows⟩
    · refine .inr ⟨?_, by rw [hvalue]; rfl⟩
      obtain ⟨pre', stop, post', tid', heq, hentered, hwritten⟩ := hreported
      refine ⟨pre', stop, post' ++ post, tid', ?_, hentered, hwritten⟩
      have hstops : pre ++ entry :: (mid ++ ret :: post) =
          pre ++ entry :: mid ++ [ret] ++ post := by
        simp
      rw [hstops, heq]
      simp
  · exact .inr ⟨hreported, by rw [hvalue]; rfl⟩

/-- The line of a call that fails with `EBADF` tells its result and the number of the error. -/
theorem lines_read_back_failed : ∃ t, (init sampleOptions .all).run (closeReturning (-1)) = .ok t ∧
    t.written.length = 1 ∧ ∀ event ∈ t.written,
      (readLine (formatText event)).name = "close" ∧
      readValue (readLine (formatText event)).result = some (-1) ∧
      readErrorNumber (readLine (formatText event)).result = some 9 ∧
      ∃ stop ∈ closeReturning (-1), ∃ frame, stop.frame = some frame ∧
        ShowsResult .arm64 false frame (readLine (formatText event)).result := by
  obtain ⟨t, ht, haccount⟩ := run_of_account (t := init sampleOptions .all) (closeReturning (-1))
    ⟨1, [(0, "close", .str (decodeErrno 9))], []⟩ (by rw [init_eq_initByNumber]; decide +kernel)
  refine ⟨t, ht, ?_, fun event hmem => ?_⟩
  · have hlength := congrArg (fun a => a.written.length) haccount
    simpa [account] using hlength
  · have hwritten : (event.serial, event.syscallName, event.returnValue) ∈ t.account.written :=
      List.mem_map_of_mem hmem
    rw [haccount, List.mem_singleton] at hwritten
    obtain ⟨-, hname, hvalue⟩ := Prod.mk.inj hwritten |>.imp_right Prod.mk.inj
    have herror : ResultText (decodeErrno 9) (some (-1)) (some 9) := resultText_decodeErrno rfl
    obtain ⟨hline, hresult⟩ := lines_read_back ht event hmem
    rw [hline, hname, hvalue]
    refine ⟨rfl, herror.readValue_eq, herror.readErrorNumber_eq, ?_⟩
    rcases hresult with ⟨pre, stop, post, frame, hstops, hframe, -, hshows⟩ | ⟨-, hunknown⟩
    · refine ⟨stop, by rw [hstops]; simp, frame, hframe, ?_⟩
      rwa [hvalue] at hshows
    · rw [hvalue] at hunknown
      exact absurd hunknown (by decide)

end Tracer

end StraceMacos
