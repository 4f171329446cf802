import StraceMacos.Proofs.PresentationProofs
import StraceMacos.Proofs.TableReadProofs

/-!
# Failed calls in the summary and in colour

The printed table and the coloured lines derive failure from the decoded return value. A return
register of -1 is replaced by a text unless abbreviation is off, and then no consumer takes the call
for a failed one. All other failures are seen by all of them.
-/

namespace StraceMacos

/-- The return register of a failed call. -/
def failed (register : Option Int) : Bool :=
  register.any (· < 0)

/-- The coloured line of an event, with its return value in the colour of a failure or of a success.
-/
def colouredLine (event : SyscallEvent) (failure : Bool) : String :=
  ansiColors.formatCall event ++ (if failure then ansiColors.returnErr else ansiColors.returnOk) ++
    event.returnValue.toStr ++ ansiColors.reset

theorem colouredLine_inj {event : SyscallEvent} {b b' : Bool}
    (h : colouredLine event b = colouredLine event b') : b = b' := by
  unfold colouredLine at h
  rw [String.append_left_inj, String.append_left_inj, String.append_right_inj] at h
  have hne : ansiColors.returnErr ≠ ansiColors.returnOk := by decide
  cases b with
  | true =>
    cases b' with
    | true => rfl
    | false => exact absurd h hne
  | false =>
    cases b' with
    | true => exact absurd h.symm hne
    | false => rfl

/-- A line shows a failure where the decoded value is a negative number. -/
theorem format_eq_colouredLine (event : SyscallEvent) :
    ansiColors.format event = colouredLine event event.returnValue.isNegative := by
  unfold Colors.format colouredLine
  cases hvalue : event.returnValue with
  | str s => rfl
  | int v =>
    by_cases hv : v < 0
    · simp [Colors.ofReturn, ReturnValue.isNegative, ReturnValue.int?, hv]
    · simp [Colors.ofReturn, ReturnValue.isNegative, ReturnValue.int?, hv]

/-- The rows and the total of a table of calls: one row for each name, with the number of calls of
this name and of the failed ones among them. -/
structure IsTable (completed : List (SyscallEvent × Option Int)) (rows : List SummaryRow)
    (total : Nat) : Prop where
  names : ∀ name, name ∈ rows.map SummaryRow.syscall ↔ ∃ p ∈ completed, p.1.syscallName = name
  nodup : (rows.map SummaryRow.syscall).Nodup
  calls : ∀ row ∈ rows, row.calls = completed.countP fun p => p.1.syscallName = row.syscall
  errors : ∀ row ∈ rows,
    row.errors = completed.countP fun p => p.1.syscallName = row.syscall ∧ failed p.2
  total : total = (rows.map SummaryRow.calls).sum

namespace Tracer

variable {t : Tracer} {stops : List Stop} {options : Options} {filter : Filter}

/-- The printed table counts exactly the failed calls as failed, and the coloured lines, also where
they are the output, have the colour of a failure exactly for these. -/
structure Classified (t : Tracer) (completed : List (SyscallEvent × Option Int)) : Prop where
  written : t.written = completed.map Prod.fst
  table : ∀ percent, (∀ calls total, IsPercentage (percent calls total)) → ∃ rows total,
    readTable (formatSummary percent t.summary) = some (rows, total) ∧ IsTable completed rows total
  colour : ∀ p ∈ completed, ansiColors.format p.1 = colouredLine p.1 (failed p.2)
  output : t.options.formatter = .color → t.options.summaryOnly = false →
    t.output = completed.map fun p => .text (colouredLine p.1 (failed p.2))

theorem isTable_summaryRows {completed : List (SyscallEvent × Option Int)}
    (hwritten : t.written = completed.map Prod.fst)
    (hneg : ∀ p ∈ completed, p.1.returnValue.isNegative = failed p.2) :
    IsTable completed (summaryRows (t.written.foldl addEvent .empty)) t.written.length where
  names name := by
    rw [mem_rows_iff, hwritten]
    simp
  nodup := by
    rw [map_syscall_summaryRows]
    exact (List.perm_insertionSort _ _).nodup_iff.mpr (Dict.nodup_keys _)
  calls row hrow := by
    rw [(summaryRows_counts hrow).1, hwritten, List.countP_map]
    rfl
  errors row hrow := by
    rw [(summaryRows_counts hrow).2, hwritten, List.countP_map]
    refine List.countP_congr fun p hp => ?_
    simp only [Function.comp_apply, hneg p hp]
  total := by
    rw [← totalCalls_eq_sum, totalCalls_foldl_addEvent]

/-- The events of a run are classified right when each decoded value shows whether the register was
negative. -/
theorem classified_of_isNegative {completed : List (SyscallEvent × Option Int)}
    (h : (init options filter).run stops = .ok t) (hwritten : t.written = completed.map Prod.fst)
    (hneg : ∀ p ∈ completed, p.1.returnValue.isNegative = failed p.2) :
    t.Classified completed := by
  have hcolour : ∀ p ∈ completed, ansiColors.format p.1 = colouredLine p.1 (failed p.2) := by
    intro p hp
    rw [format_eq_colouredLine, hneg p hp]
  refine ⟨hwritten, fun percent hpercent => ?_, hcolour, fun hformatter hsummary => ?_⟩
  · exact ⟨_, _, readTable_run hpercent h, isTable_summaryRows hwritten hneg⟩
  · have hoptions : t.options = options := (run_sound h).options_eq
    rw [hoptions] at hformatter hsummary
    rw [run_output h, Options.lines, if_neg (by simp [hsummary]), hformatter, hwritten,
      List.map_map]
    refine List.map_congr_left fun p hp => ?_
    rw [Function.comp_apply, ← hcolour p hp]
    rfl

/-- **All consumers classify the failed calls of both runs right, and the two runs print the same
summary, exactly when no call returned -1.** -/
theorem failures_classified_iff {t : Bool → Tracer}
    (hrun : ∀ b, (init { options with noAbbrev := b } filter).run stops = .ok (t b)) :
    ((∀ b, (t b).Classified ((init { options with noAbbrev := b } filter).completions stops)) ∧
      ∀ percent, formatSummary percent (t true).summary =
        formatSummary percent (t false).summary) ↔
    ∀ p ∈ (init { options with noAbbrev := false } filter).completions stops,
      p.2 ≠ some (-1) := by
  have hneg := fun b => run_isNegative (hrun b)
  have hwritten : ∀ b, (t b).written =
      ((init { options with noAbbrev := b } filter).completions stops).map Prod.fst :=
    fun b => run_completions (hrun b)
  have hcontrol : SameControl (init { options with noAbbrev := false } filter)
      (init { options with noAbbrev := true } filter) := by
    refine ⟨?_, rfl, rfl, fun _ => rfl⟩
    dsimp only [init]
  have hsame := hcontrol.completions (hrun false) (hrun true)
  constructor
  · rintro ⟨hclass, -⟩ p hp hminus
    have hcolour := (hclass false).colour p hp
    rw [format_eq_colouredLine] at hcolour
    have hvalue := colouredLine_inj hcolour
    rw [hneg false p hp, hminus] at hvalue
    simp [init, failed] at hvalue
  · intro hno
    have hneg' : ∀ b, ∀ p ∈ (init { options with noAbbrev := b } filter).completions stops,
        p.1.returnValue.isNegative = failed p.2 := by
      intro b p hp
      rw [hneg b p hp, failed]
      have hne : p.2 ≠ some (-1) ∨ b = true := by
        cases b with
        | true => exact .inr rfl
        | false => exact .inl (hno p hp)
      cases hreg : p.2 with
      | none => rfl
      | some v =>
        rw [hreg] at hne
        simp only [Option.any_some, init]
        rcases hne with hne | rfl
        · have hv : v ≠ -1 := fun h => hne (by rw [h])
          simp [hv]
        · simp
    refine ⟨fun b => classified_of_isNegative (hrun b) (hwritten b) (hneg' b), fun percent => ?_⟩
    have hsummary : (t true).summary = (t false).summary := by
      rw [run_summary_eq (hrun true), run_summary_eq (hrun false)]
      refine foldl_addEvent_congr ?_ _
      have hmap : ∀ b, (t b).written.map (fun e => (e.syscallName, e.returnValue.isNegative)) =
          (((init { options with noAbbrev := b } filter).completions stops).map
            fun p => (p.1.syscallName, p.2)).map fun p => (p.1, failed p.2) := by
        intro b
        rw [hwritten b, List.map_map, List.map_map]
        refine List.map_congr_left fun p hp => ?_
        simp only [Function.comp_apply, hneg' b p hp]
      rw [hmap true, hmap false, hsame]
    rw [hsummary]

/-- The calls of `closeReturning`, with their return values and registers. -/
def closePairs (values : List (ReturnValue × Int)) : List (String × ReturnValue × Option Int) :=
  values.map fun v => ("close", v.1, some v.2)

/-- Two calls of `close`, the first of which fails with -2. -/
def failingStops : List Stop :=
  closeReturning (-2) ++ closeReturning 0

theorem run_failingStops (b : Bool) : ∃ t,
    (init { sampleOptions with noAbbrev := b } .all).run failingStops = .ok t ∧
    ((init { sampleOptions with noAbbrev := b } .all).completions failingStops).map
      (fun p => (p.1.syscallName, p.1.returnValue, p.2)) =
        closePairs [(.int (-2), -2), (.int 0, 0)] := by
  obtain ⟨t, ht, -⟩ := run_of_account (t := init { sampleOptions with noAbbrev := b } .all)
    failingStops ⟨2, [(0, "close", .int (-2)), (1, "close", .int 0)], []⟩
    (by rw [init_eq_initByNumber]; cases b <;> decide +kernel)
  refine ⟨t, ht, ?_⟩
  rw [init_eq_initByNumber]
  cases b <;> decide +kernel

/-- The call that fails with -2 has the colour of a failure, and the table counts one error of two
calls, in both modes. -/
theorem failures_classified_close : ∃ t : Bool → Tracer,
    (∀ b, (init { sampleOptions with noAbbrev := b } .all).run failingStops = .ok (t b)) ∧
    ∀ b, (∃ event ∈ (t b).written, event.returnValue = .int (-2) ∧
        ansiColors.format event = colouredLine event true) ∧
      ∃ rows total, readTable (formatSummary wholePercent (t b).summary) = some (rows, total) ∧
        "close" ∈ rows.map SummaryRow.syscall ∧ ∀ row ∈ rows, row.calls = 2 ∧ row.errors = 1 := by
  choose t hrun hpairs using run_failingStops
  have hno : ∀ p ∈ (init { sampleOptions with noAbbrev := false } .all).completions failingStops,
      p.2 ≠ some (-1) := by
    intro p hp hminus
    have hmem : (p.1.syscallName, p.1.returnValue, p.2) ∈
        closePairs [(.int (-2), -2), (.int 0, 0)] :=
      hpairs false ▸ List.mem_map_of_mem hp
    simp [closePairs, hminus] at hmem
  obtain ⟨hclass, -⟩ := (failures_classified_iff hrun).mpr hno
  refine ⟨t, hrun, fun b => ⟨?_, ?_⟩⟩
  · have hmem : ("close", ReturnValue.int (-2), some (-2)) ∈
        closePairs [(.int (-2), -2), (.int 0, 0)] := List.mem_cons_self
    rw [← hpairs b] at hmem
    obtain ⟨p, hp, hpair⟩ := List.mem_map.mp hmem
    obtain ⟨-, hvalue, hreg⟩ := Prod.mk.inj hpair |>.imp_right Prod.mk.inj
    have hcolour := (hclass b).colour p hp
    rw [hreg] at hcolour
    refine ⟨p.1, ?_, hvalue, hcolour⟩
    rw [(hclass b).written]
    exact List.mem_map_of_mem hp
  · obtain ⟨rows, total, hread, htable⟩ := (hclass b).table wholePercent isPercentage_wholePercent
    have hcount (p : String × ReturnValue × Option Int → Bool) :
        ((init { sampleOptions with noAbbrev := b } .all).completions failingStops).countP
          (fun e => p (e.1.syscallName, e.1.returnValue, e.2)) =
            (closePairs [(.int (-2), -2), (.int 0, 0)]).countP p := by
      rw [← hpairs b, List.countP_map]
      rfl
    have hname : ∀ name, name ∈ rows.map SummaryRow.syscall ↔ name = "close" := by
      intro name
      rw [htable.names]
      have hmem : (∃ p ∈ (init { sampleOptions with noAbbrev := b } .all).completions failingStops,
          p.1.syscallName = name) ↔
          ∃ q ∈ closePairs [(.int (-2), -2), (.int 0, 0)], q.1 = name := by
        rw [← hpairs b]
        exact ⟨fun ⟨p, hp, hpname⟩ => ⟨_, List.mem_map_of_mem hp, hpname⟩, fun ⟨q, hq, hqname⟩ => by
          obtain ⟨p, hp, rfl⟩ := List.mem_map.mp hq
          exact ⟨p, hp, hqname⟩⟩
      rw [hmem]
      simp [closePairs, eq_comm]
    refine ⟨rows, total, hread, (hname "close").mpr rfl, fun row hrow => ?_⟩
    have hrowName : row.syscall = "close" := (hname _).mp (List.mem_map_of_mem hrow)
    refine ⟨?_, ?_⟩
    · rw [htable.calls row hrow, hrowName]
      exact hcount fun q => q.1 = "close"
    · rw [htable.errors row hrow, hrowName]
      exact hcount fun q => q.1 = "close" ∧ failed q.2.2

/-- A failed `close` is not coloured as a failure when abbreviation is on. -/
theorem failed_close_not_classified :
    ¬ ∀ (options : Options) (filter : Filter) (stops : List Stop) (t : Bool → Tracer),
      (∀ b, (init { options with noAbbrev := b } filter).run stops = .ok (t b)) →
      (∀ b, (t b).Classified ((init { options with noAbbrev := b } filter).completions stops)) ∧
      ∀ percent, formatSummary percent (t true).summary =
        formatSummary percent (t false).summary := by
  intro h
  obtain ⟨t₀, h₀, -⟩ := run_of_account (t := init { sampleOptions with noAbbrev := false } .all)
    (closeReturning (-1)) ⟨1, [(0, "close", .str (decodeErrno 9))], []⟩
    (by rw [init_eq_initByNumber]; decide +kernel)
  obtain ⟨t₁, h₁, -⟩ := run_of_account (t := init { sampleOptions with noAbbrev := true } .all)
    (closeReturning (-1)) ⟨1, [(0, "close", .int (-1))], []⟩
    (by rw [init_eq_initByNumber]; decide +kernel)
  obtain ⟨hclass, -⟩ := h sampleOptions .all (closeReturning (-1))
    (fun b => if b then t₁ else t₀) fun b => by
      cases b
      · exact h₀
      · exact h₁
  have hpairs : ((init { sampleOptions with noAbbrev := false } .all).completions
      (closeReturning (-1))).map (fun p => (p.1.syscallName, p.1.returnValue, p.2)) =
        closePairs [(.str (decodeErrno 9), -1)] := by
    rw [init_eq_initByNumber]
    decide +kernel
  have hmem : ("close", ReturnValue.str (decodeErrno 9), some (-1)) ∈
      closePairs [(.str (decodeErrno 9), -1)] := List.mem_singleton_self _
  rw [← hpairs] at hmem
  obtain ⟨p, hp, hpair⟩ := List.mem_map.mp hmem
  obtain ⟨-, hvalue, hreg⟩ := Prod.mk.inj hpair |>.imp_right Prod.mk.inj
  have hcolour := (hclass false).colour p hp
  rw [format_eq_colouredLine, hvalue, hreg] at hcolour
  exact absurd (colouredLine_inj hcolour) (by decide)

end Tracer

end StraceMacos
