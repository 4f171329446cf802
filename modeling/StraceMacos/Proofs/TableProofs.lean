import Mathlib.Data.String.Basic
import StraceMacos.Proofs.SummaryProofs

/-!
# The summary table

The table depends on how many events there are of each name and how many of them failed, and not on
their order.
-/

namespace StraceMacos

/-! ## The rows -/

/-- What the summary counts of an event. -/
def SyscallEvent.tally (event : SyscallEvent) : String × Bool :=
  (event.syscallName, event.returnValue.isNegative)

variable {events events' : List SyscallEvent}

/-- Events with the same tallies are counted alike. -/
theorem countP_tally (h : (events.map SyscallEvent.tally).Perm (events'.map SyscallEvent.tally))
    (p : String × Bool → Bool) {q : SyscallEvent → Bool} (hq : ∀ e, q e = true ↔ p e.tally = true) :
    events.countP q = events'.countP q := by
  have hcount := h.countP_eq p
  rw [List.countP_map, List.countP_map] at hcount
  rwa [show q = p ∘ SyscallEvent.tally from funext fun e => Bool.eq_iff_iff.mpr (hq e)]

/-- The rows do not depend on the order of the events. -/
theorem summaryRows_of_perm
    (h : (events.map SyscallEvent.tally).Perm (events'.map SyscallEvent.tally)) :
    summaryRows (events.foldl addEvent .empty) = summaryRows (events'.foldl addEvent .empty) := by
  have hmem : ∀ name, (∃ e ∈ events, e.syscallName = name) ↔
      ∃ e ∈ events', e.syscallName = name := fun name => by
    have hnames := (h.map Prod.fst).mem_iff (a := name)
    simpa [SyscallEvent.tally] using hnames
  have hkeys : ((events.foldl addEvent Dict.empty).keys).Perm
      (events'.foldl addEvent Dict.empty).keys := by
    refine (List.perm_ext_iff_of_nodup (Dict.nodup_keys _) (Dict.nodup_keys _)).mpr fun name => ?_
    exact (mem_keys_foldl_addEvent.trans (or_congr_right (hmem name))).trans
      mem_keys_foldl_addEvent.symm
  have hsorted : (events.foldl addEvent Dict.empty).keys.insertionSort (· ≤ ·) =
      (events'.foldl addEvent Dict.empty).keys.insertionSort (· ≤ ·) :=
    List.Perm.eq_of_sortedLE List.sortedLE_insertionSort List.sortedLE_insertionSort
      (((List.perm_insertionSort _ _).trans hkeys).trans (List.perm_insertionSort _ _).symm)
  have hget : ∀ name, ((events.foldl addEvent Dict.empty).get name).getD ⟨0, 0⟩ =
      ((events'.foldl addEvent Dict.empty).get name).getD ⟨0, 0⟩ := fun name => by
    rw [get_foldl_addEvent, get_foldl_addEvent]
    congr 2
    · exact countP_tally h (fun p => p.1 = name) fun _ =>
        decide_eq_true_iff.trans (@decide_eq_true_iff _ _).symm
    · exact countP_tally h (fun p => p.1 = name ∧ p.2) fun _ =>
        decide_eq_true_iff.trans (@decide_eq_true_iff _ _).symm
  unfold summaryRows
  rw [hsorted]
  exact List.map_congr_left fun name _ => by rw [hget]

theorem summaryRows_eq_nil_iff {stats : SummaryStats} :
    summaryRows stats = [] ↔ stats.entries = [] := by
  have hlength := congrArg List.length (map_syscall_summaryRows stats)
  rw [List.length_map, List.length_insertionSort] at hlength
  rw [← List.length_eq_zero_iff, hlength, List.length_eq_zero_iff]
  exact List.map_eq_nil_iff

/-- The table is made of its rows. -/
theorem formatSummary_congr {stats stats' : SummaryStats}
    (h : summaryRows stats = summaryRows stats') (percent : Nat → Nat → String) :
    formatSummary percent stats = formatSummary percent stats' := by
  have hempty : stats.entries.isEmpty = stats'.entries.isEmpty := by
    rw [Bool.eq_iff_iff, List.isEmpty_iff, List.isEmpty_iff, ← summaryRows_eq_nil_iff,
      ← summaryRows_eq_nil_iff, h]
  unfold formatSummary
  rw [hempty, totalCalls_eq_sum, totalCalls_eq_sum stats', h]

end StraceMacos
