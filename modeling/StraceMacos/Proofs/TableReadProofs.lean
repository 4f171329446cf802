import Mathlib.Algebra.BigOperators.Group.List.Lemmas
import StraceMacos.Library.Ascii
import StraceMacos.Library.Words
import StraceMacos.Proofs.LineProofs
import StraceMacos.Proofs.ThreadProofs

/-!
# Reading the summary table

A reader of the summary table: the lines between the two rules, and the words of each of them. From
the table of a run it finds how many events of each name were written and how many of them count as
failed.
-/

namespace StraceMacos

open Text

/-! ## The reader -/

/-- One line of the table; the column of errors is empty when there are none. -/
def readRow (line : String) : Option SummaryRow :=
  match words line with
  | [_, calls, syscall] => (readNat calls).map fun calls => ⟨calls, 0, syscall⟩
  | [_, calls, errors, syscall] =>
    (readNat calls).bind fun calls => (readNat errors).map fun errors => ⟨calls, errors, syscall⟩
  | _ => none

/-- The rows of the table, up to the second rule, and the number of calls in the line behind it. -/
def readTable (table : String) : Option (List SummaryRow × Nat) :=
  match split '\n' table with
  | _ :: rule :: lines =>
    match lines.dropWhile (· != rule) with
    | [] => some ([], 0)
    | _ :: totals :: _ => ((lines.takeWhile (· != rule)).mapM readRow).bind fun rows =>
        (readRow totals).map fun total => (rows, total.calls)
    | _ => none
  | _ => none

/-- The text of a percentage: one word, perhaps behind spaces. -/
def IsPercentage (s : String) : Prop :=
  (words s).length = 1 ∧ Printable s

variable {percent : Nat → Nat → String} {total : Nat} {row : SummaryRow}

theorem words_formatRow (hpercent : IsPercentage (percent row.calls total))
    (hname : IsWord row.syscall) : ∃ w, words (formatRow percent total row) =
      if 0 < row.errors then [w, toString row.calls, toString row.errors, row.syscall]
      else [w, toString row.calls, row.syscall] := by
  obtain ⟨w, hw⟩ := List.length_eq_one_iff.mp hpercent.1
  refine ⟨w, ?_⟩
  rw [formatRow, words_append, words_append, words_append, words_padLeft, words_padLeft, hw,
    words_of_isWord (isWord_toString_nat row.calls), words_of_isWord hname]
  split_ifs
  · rw [words_of_isWord (isWord_toString_nat row.errors)]
    rfl
  · rw [words_empty]
    rfl

/-- A row is read back. -/
theorem readRow_formatRow (hpercent : IsPercentage (percent row.calls total))
    (hname : IsWord row.syscall) : readRow (formatRow percent total row) = some row := by
  obtain ⟨w, hw⟩ := words_formatRow hpercent hname
  rw [readRow, hw]
  split_ifs with herrors
  · simp only [readNat_toString, Option.bind_some, Option.map_some]
  · obtain ⟨calls, errors, syscall⟩ := row
    obtain rfl : errors = 0 := by simpa using herrors
    simp only [readNat_toString, Option.map_some]

/-! ## The table -/

/-- The line between the rows and the totals. -/
def tableRule : String :=
  String.ofList (List.replicate 50 '-')

def tableTotals (total : Nat) : String :=
  "100.00 " ++ padLeft 10 ' ' (toString total) ++ "             total"

theorem readRow_tableTotals (total : Nat) :
    readRow (tableTotals total) = some ⟨total, 0, "total"⟩ := by
  have hline : tableTotals total =
      "100.00" ++ " " ++ padLeft 10 ' ' (toString total) ++ " " ++ padLeft 17 ' ' "total" := by
    have hname : "             total" = " " ++ padLeft 17 ' ' "total" := rfl
    rw [tableTotals, hname, ← String.append_assoc]
    rfl
  have hpercent : IsWord "100.00" := ⟨by decide, by decide⟩
  have hname : IsWord "total" := ⟨by decide, by decide⟩
  have hwords : words (tableTotals total) = ["100.00", toString total, "total"] := by
    rw [hline, words_append, words_append, words_padLeft, words_padLeft,
      words_of_isWord (isWord_toString_nat total), words_of_isWord hname, words_of_isWord hpercent]
    rfl
  simp only [readRow, hwords, readNat_toString, Option.map_some]

theorem newline_not_mem {s : String} (h : Printable s) : '\n' ∉ s.toList := fun hmem =>
  absurd (h _ hmem) (by decide)

theorem printable_formatRow (hpercent : IsPercentage (percent row.calls total))
    (hname : Printable row.syscall) : Printable (formatRow percent total row) := by
  have herrors : Printable (if 0 < row.errors then toString row.errors else "") := by
    split_ifs
    · exact printable_toString_nat _
    · exact (by decide : Printable "")
  have hspace : Printable " " := by decide
  simp only [formatRow, printable_append]
  have hpad {s : String} (h : Printable s) : Printable (padLeft 10 ' ' s) :=
    (printable_padLeft (by decide)).mpr h
  exact ⟨⟨⟨⟨⟨⟨hpercent.2, hspace⟩, hpad (printable_toString_nat _)⟩, hspace⟩, hpad herrors⟩,
    hspace⟩, hname⟩

/-- A row is no rule. -/
theorem formatRow_ne_tableRule (hpercent : IsPercentage (percent row.calls total))
    (hname : IsWord row.syscall) : formatRow percent total row ≠ tableRule := by
  intro heq
  obtain ⟨w, hw⟩ := words_formatRow hpercent hname
  have hrule : words tableRule = [tableRule] := words_of_isWord ⟨by decide, by decide⟩
  rw [heq, hrule] at hw
  split_ifs at hw <;> cases hw

theorem formatSummary_eq {stats : SummaryStats} (hne : stats.entries ≠ []) :
    formatSummary percent stats = join "\n" ("% time     calls      errors syscall" :: tableRule ::
      ((summaryRows stats).map (formatRow percent (totalCalls stats)) ++
        [tableRule, tableTotals (totalCalls stats), ""])) := by
  rw [formatSummary, if_neg (by simpa using hne)]
  rfl

theorem mapM_map_eq_some {α β : Type} {f : α → β} {g : β → Option α} {l : List α}
    (h : ∀ x ∈ l, g (f x) = some x) : (l.map f).mapM g = some l := by
  induction l with
  | nil => rfl
  | cons x l ih =>
    obtain ⟨hx, hl⟩ := List.forall_mem_cons.mp h
    rw [List.map_cons, List.mapM_cons, hx, ih hl]
    rfl

/-- **The table is read back**: its rows, and the number of calls. -/
theorem readTable_formatSummary {stats : SummaryStats}
    (hpercent : ∀ calls total, IsPercentage (percent calls total))
    (hname : ∀ row ∈ summaryRows stats, IsWord row.syscall ∧ Printable row.syscall) :
    readTable (formatSummary percent stats) = some (summaryRows stats, totalCalls stats) := by
  by_cases hne : stats.entries = []
  · have hrows : summaryRows stats = [] := summaryRows_eq_nil_iff.mpr hne
    have htotal : totalCalls stats = 0 := by
      rw [totalCalls_eq_sum, hrows]
      rfl
    have htable : formatSummary percent stats = "No syscalls captured." ++ "\n" := by
      rw [formatSummary, if_pos (by simpa using hne)]
      rfl
    rw [hrows, htotal, htable]
    rfl
  · have hlines : ∀ line ∈ (summaryRows stats).map (formatRow percent (totalCalls stats)),
        Printable line ∧ (line != tableRule) = true := by
      refine List.forall_mem_map.mpr fun row hrow => ?_
      obtain ⟨hword, hprintable⟩ := hname row hrow
      exact ⟨printable_formatRow (hpercent _ _) hprintable,
        bne_iff_ne.mpr (formatRow_ne_tableRule (hpercent _ _) hword)⟩
    have hread : ((summaryRows stats).map (formatRow percent (totalCalls stats))).mapM readRow =
        some (summaryRows stats) :=
      mapM_map_eq_some fun row hrow => readRow_formatRow (hpercent _ _) (hname row hrow).1
    have htotals : Printable (tableTotals (totalCalls stats)) := by
      have hnumber : Printable (padLeft 10 ' ' (toString (totalCalls stats))) :=
        (printable_padLeft (by decide)).mpr (printable_toString_nat _)
      simp only [tableTotals, printable_append]
      exact ⟨⟨by decide, hnumber⟩, by decide⟩
    have hsplit : split '\n' (formatSummary percent stats) =
        "% time     calls      errors syscall" :: tableRule ::
          ((summaryRows stats).map (formatRow percent (totalCalls stats)) ++
            [tableRule, tableTotals (totalCalls stats), ""]) := by
      rw [formatSummary_eq hne]
      refine split_join (List.cons_ne_nil _ _) ?_
      simp only [List.forall_mem_cons, List.forall_mem_append]
      exact ⟨newline_not_mem (by decide), newline_not_mem (by decide),
        fun line hline => newline_not_mem (hlines line hline).1, newline_not_mem (by decide),
        newline_not_mem htotals, by decide⟩
    have hdrop : ((summaryRows stats).map (formatRow percent (totalCalls stats)) ++
        [tableRule, tableTotals (totalCalls stats), ""]).dropWhile (· != tableRule) =
          [tableRule, tableTotals (totalCalls stats), ""] := by
      rw [List.dropWhile_append_of_pos fun line hline => (hlines line hline).2,
        List.dropWhile_cons_of_neg (by simp)]
    have htake : ((summaryRows stats).map (formatRow percent (totalCalls stats)) ++
        [tableRule, tableTotals (totalCalls stats), ""]).takeWhile (· != tableRule) =
          (summaryRows stats).map (formatRow percent (totalCalls stats)) := by
      rw [List.takeWhile_append_of_pos fun line hline => (hlines line hline).2,
        List.takeWhile_cons_of_neg (by simp), List.append_nil]
    rw [readTable, hsplit]
    simp only [hdrop, htake, hread, readRow_tableTotals, Option.bind_some, Option.map_some]

/-! ## The table of a run -/

theorem isWord_of_registered {e : SyscallDef × SyscallCategory} (he : e ∈ registered) :
    IsWord e.1.name := by
  refine ⟨?_, (marks_not_mem_name he).1⟩
  rw [← Bool.not_eq_true, String.isEmpty_iff]
  exact (registered_names e he).1

theorem mem_rows_iff {events : List SyscallEvent} {name : String} :
    name ∈ (summaryRows (events.foldl addEvent .empty)).map SummaryRow.syscall ↔
      ∃ e ∈ events, e.syscallName = name := by
  rw [map_syscall_summaryRows, List.mem_insertionSort, mem_keys_foldl_addEvent]
  simp [Dict.keys, Dict.empty]

theorem summaryRows_counts {events : List SyscallEvent} {row : SummaryRow}
    (h : row ∈ summaryRows (events.foldl addEvent .empty)) :
    row.calls = events.countP (·.syscallName = row.syscall) ∧
      row.errors =
        events.countP fun e => e.syscallName = row.syscall ∧ e.returnValue.isNegative := by
  obtain ⟨name, -, rfl⟩ := List.mem_map.mp h
  have hget := get_foldl_addEvent events .empty name
  constructor
  · exact (congrArg Stats.count hget).trans (Nat.zero_add _)
  · exact (congrArg Stats.errors hget).trans (Nat.zero_add _)

/-- Every event is counted once. -/
theorem totalCalls_foldl_addEvent (events : List SyscallEvent) :
    totalCalls (events.foldl addEvent .empty) = events.length := by
  have hkeys : ((events.foldl addEvent .empty).keys.insertionSort (· ≤ ·)).Perm
      (events.map SyscallEvent.syscallName).dedup := by
    refine (List.perm_insertionSort _ _).trans ?_
    refine (List.perm_ext_iff_of_nodup (Dict.nodup_keys _) (List.nodup_dedup _)).mpr fun name => ?_
    refine mem_keys_foldl_addEvent.trans ?_
    rw [List.mem_dedup, List.mem_map]
    simp [Dict.keys, Dict.empty]
  have hcalls : (summaryRows (events.foldl addEvent .empty)).map SummaryRow.calls =
      ((events.foldl addEvent .empty).keys.insertionSort (· ≤ ·)).map fun name =>
        (events.map SyscallEvent.syscallName).count name := by
    rw [← map_syscall_summaryRows, List.map_map]
    refine List.map_congr_left fun row hrow => ?_
    rw [(summaryRows_counts hrow).1, Function.comp_apply, List.count, List.countP_map]
    exact List.countP_congr fun e _ => by simp
  rw [totalCalls_eq_sum, hcalls, (hkeys.map _).sum_eq, List.sum_map_count_dedup_eq_length,
    List.length_map]

/-- The rows tell how many events of a name there are and how many of them failed. -/
theorem countP_eq_of_rows_eq {events events' : List SyscallEvent}
    (h : summaryRows (events.foldl addEvent .empty) = summaryRows (events'.foldl addEvent .empty))
    (name : String) :
    events.countP (·.syscallName = name) = events'.countP (·.syscallName = name) ∧
      (events.countP fun e => e.syscallName = name ∧ e.returnValue.isNegative) =
        events'.countP fun e => e.syscallName = name ∧ e.returnValue.isNegative := by
  by_cases hmem : name ∈ (summaryRows (events.foldl addEvent .empty)).map SummaryRow.syscall
  · obtain ⟨row, hrow, rfl⟩ := List.mem_map.mp hmem
    obtain ⟨hcalls, herrors⟩ := summaryRows_counts hrow
    rw [h] at hrow
    obtain ⟨hcalls', herrors'⟩ := summaryRows_counts hrow
    exact ⟨hcalls.symm.trans hcalls', herrors.symm.trans herrors'⟩
  · have hnone : ∀ e ∈ events, e.syscallName ≠ name := fun e he heq =>
      hmem (mem_rows_iff.mpr ⟨e, he, heq⟩)
    rw [h] at hmem
    have hnone' : ∀ e ∈ events', e.syscallName ≠ name := fun e he heq =>
      hmem (mem_rows_iff.mpr ⟨e, he, heq⟩)
    have hzero {l : List SyscallEvent} (hl : ∀ e ∈ l, e.syscallName ≠ name)
        {p : SyscallEvent → Bool} (hp : ∀ e, p e = true → e.syscallName = name) :
        l.countP p = 0 :=
      List.countP_eq_zero.mpr fun e he hpe => hl e he (hp e hpe)
    rw [hzero hnone (by simp), hzero hnone' (by simp), hzero hnone (by simp +contextual),
      hzero hnone' (by simp +contextual)]
    exact ⟨rfl, rfl⟩

/-- Events with the same rows have the same tallies, perhaps in another order. -/
theorem tally_perm_of_rows_eq {events events' : List SyscallEvent}
    (h : summaryRows (events.foldl addEvent .empty) = summaryRows (events'.foldl addEvent .empty)) :
    (events.map SyscallEvent.tally).Perm (events'.map SyscallEvent.tally) := by
  refine List.perm_iff_count.mpr fun p => ?_
  obtain ⟨name, negative⟩ := p
  obtain ⟨hcalls, herrors⟩ := countP_eq_of_rows_eq h name
  have hcount (l : List SyscallEvent) (b : Bool) : (l.map SyscallEvent.tally).count (name, b) =
      l.countP fun e => e.syscallName = name ∧ e.returnValue.isNegative = b := by
    rw [List.count, List.countP_map]
    exact List.countP_congr fun e _ => by simp [SyscallEvent.tally]
  have hsplit (l : List SyscallEvent) : l.countP (·.syscallName = name) =
      (l.countP fun e => e.syscallName = name ∧ e.returnValue.isNegative) +
        l.countP fun e => e.syscallName = name ∧ e.returnValue.isNegative = false := by
    rw [List.countP_eq_countP_filter_add l _ fun e => e.returnValue.isNegative, List.countP_filter,
      List.countP_filter]
    congr 1 <;> exact List.countP_congr fun e _ => by simp
  rw [hcount, hcount]
  cases negative with
  | true => exact herrors
  | false =>
    rw [hsplit events, hsplit events', herrors] at hcalls
    exact Nat.add_left_cancel hcalls

namespace Tracer

variable {options : Options} {filter : Filter} {stops : List Stop} {t : Tracer}

theorem readTable_run (hpercent : ∀ calls total, IsPercentage (percent calls total))
    (h : (init options filter).run stops = .ok t) :
    readTable (formatSummary percent t.summary) =
      some (summaryRows (t.written.foldl addEvent .empty), t.written.length) := by
  rw [run_summary_eq h, ← totalCalls_foldl_addEvent]
  refine readTable_formatSummary hpercent fun row hrow => ?_
  obtain ⟨event, hevent, hname⟩ :=
    mem_rows_iff.mp (List.mem_map_of_mem (f := SummaryRow.syscall) hrow)
  obtain ⟨e, he, hsyscall⟩ := ((run_allProduced h).written event hevent).name
  rw [← hname, ← hsyscall]
  exact ⟨isWord_of_registered he, registered_names_printable e he⟩

/-- **The summary table of a run is read back**: one row for each name that was written, in the
order of the names, with the number of its events and of the failed ones among them, and the number
of all events. So two runs have the same table exactly when they wrote as many events of each name
and as many failed ones. -/
theorem summary_read_back (hpercent : ∀ calls total, IsPercentage (percent calls total))
    (h : (init options filter).run stops = .ok t) :
    (∃ rows, readTable (formatSummary percent t.summary) = some (rows, t.written.length) ∧
      (rows.map SummaryRow.syscall).Pairwise (· < ·) ∧
      (∀ name, name ∈ rows.map SummaryRow.syscall ↔ ∃ e ∈ t.written, e.syscallName = name) ∧
      ∀ row ∈ rows, row.calls = t.written.countP (·.syscallName = row.syscall) ∧
        row.errors =
          t.written.countP fun e => e.syscallName = row.syscall ∧ e.returnValue.isNegative) ∧
    ∀ options' filter' stops' t', (init options' filter').run stops' = .ok t' →
      (formatSummary percent t'.summary = formatSummary percent t.summary ↔
        (t'.written.map SyscallEvent.tally).Perm (t.written.map SyscallEvent.tally)) := by
  refine ⟨⟨_, readTable_run hpercent h, ?_, fun name => mem_rows_iff,
    fun row hrow => summaryRows_counts hrow⟩, fun options' filter' stops' t' h' => ⟨?_, ?_⟩⟩
  · rw [map_syscall_summaryRows]
    have hnodup := ((List.perm_insertionSort (· ≤ ·) _).nodup_iff).mpr
      (Dict.nodup_keys (t.written.foldl addEvent .empty))
    exact (List.sortedLE_insertionSort.sortedLT_of_nodup hnodup).pairwise
  · intro htable
    have hread := readTable_run hpercent h'
    rw [htable, readTable_run hpercent h] at hread
    exact tally_perm_of_rows_eq (Prod.mk.inj (Option.some.inj hread)).1.symm
  · intro hperm
    rw [run_summary_eq h, run_summary_eq h']
    exact formatSummary_congr (summaryRows_of_perm hperm) percent

/-- Percentages whose decimals are cut off. -/
def wholePercent (calls total : Nat) : String :=
  padLeft 6 ' ' (toString (calls * 100 / total) ++ ".00")

theorem isPercentage_wholePercent (calls total : Nat) :
    IsPercentage (wholePercent calls total) := by
  have hword : IsWord (toString (calls * 100 / total) ++ ".00") := by
    obtain ⟨hempty, hspace⟩ := isWord_toString_nat (calls * 100 / total)
    refine ⟨?_, ?_⟩
    · rw [← Bool.not_eq_true, String.isEmpty_iff, String.append_eq_empty_iff]
      exact fun h => absurd h.2 (by decide)
    · rw [String.toList_append, List.mem_append, not_or]
      exact ⟨hspace, by decide⟩
  constructor
  · rw [wholePercent, words_padLeft, words_of_isWord hword]
    rfl
  · exact (printable_padLeft (by decide)).mpr
      (printable_append.mpr ⟨printable_toString_nat _, by decide⟩)

/-- Two calls of `close`, with their failures. -/
theorem run_closeReturning (first second : BitVec 64) (values : List (Nat × String × ReturnValue))
    (h : ((init plainOptions .all).run (closeReturning first ++ closeReturning second)).toOption.map
      account = some ⟨2, values, []⟩) :
    ∃ t, (init plainOptions .all).run (closeReturning first ++ closeReturning second) = .ok t ∧
      t.written.map SyscallEvent.tally = values.map fun v => (v.2.1, v.2.2.isNegative) := by
  obtain ⟨t, ht, haccount⟩ := run_of_account _ _ h
  refine ⟨t, ht, ?_⟩
  have hwritten : t.account.written = values := by rw [haccount]
  rw [← hwritten, account, List.map_map]
  rfl

/-- A call that fails and one that succeeds, in both orders. -/
theorem summary_read_back_failed : ∃ t t' rows,
    (init plainOptions .all).run (closeReturning (-1) ++ closeReturning 0) = .ok t ∧
    (init plainOptions .all).run (closeReturning 0 ++ closeReturning (-1)) = .ok t' ∧
    readTable (formatSummary wholePercent t.summary) = some (rows, 2) ∧
    "close" ∈ rows.map SummaryRow.syscall ∧ (∀ row ∈ rows, row.calls = 2 ∧ row.errors = 1) ∧
    formatSummary wholePercent t'.summary = formatSummary wholePercent t.summary := by
  obtain ⟨t, ht, htally⟩ := run_closeReturning (-1) 0
    [(0, "close", .int (-1)), (1, "close", .int 0)] (by rw [init_eq_initByNumber]; decide +kernel)
  obtain ⟨t', ht', htally'⟩ := run_closeReturning 0 (-1)
    [(0, "close", .int 0), (1, "close", .int (-1))] (by rw [init_eq_initByNumber]; decide +kernel)
  obtain ⟨⟨rows, hread, -, hnames, hcounts⟩, hsame⟩ :=
    summary_read_back isPercentage_wholePercent ht
  have hlength : t.written.length = 2 := by
    have hlength := congrArg List.length htally
    rwa [List.length_map] at hlength
  have hmap : t.written.map SyscallEvent.tally = [("close", true), ("close", false)] := htally
  have hcount (p : String × Bool → Bool) :
      t.written.countP (fun e => p e.tally) = [("close", true), ("close", false)].countP p := by
    rw [← hmap, List.countP_map]
    rfl
  have hclose : ∀ name, name ∈ rows.map SummaryRow.syscall ↔ name = "close" := by
    intro name
    have hpos := hcount fun q => q.1 = name
    rw [hnames]
    constructor
    · rintro ⟨e, he, rfl⟩
      have hmem : e.tally ∈ [("close", true), ("close", false)] := hmap ▸ List.mem_map_of_mem he
      rcases List.mem_pair.mp hmem with hpair | hpair <;> exact congrArg Prod.fst hpair
    · rintro rfl
      obtain ⟨e, he, hname⟩ := List.countP_pos_iff.mp
        (hpos ▸ by decide : 0 < t.written.countP fun e => decide (e.tally.1 = "close"))
      exact ⟨e, he, of_decide_eq_true hname⟩
  rw [hlength] at hread
  refine ⟨t, t', rows, ht, ht', hread, (hclose _).mpr rfl, fun row hrow => ?_, ?_⟩
  · have hrowName := (hclose _).mp (List.mem_map_of_mem (f := SummaryRow.syscall) hrow)
    obtain ⟨hcalls, herrors⟩ := hcounts row hrow
    rw [hrowName] at hcalls herrors
    exact ⟨hcalls.trans (hcount fun q => q.1 = "close"),
      herrors.trans (hcount fun q => q.1 = "close" ∧ q.2)⟩
  · refine (hsame _ _ _ _ ht').mpr ?_
    rw [htally, htally']
    exact .swap _ _ _

end Tracer

end StraceMacos
