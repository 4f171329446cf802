import Mathlib.Data.List.AList
import Mathlib.Data.List.Nodup
import Mathlib.Data.List.Perm.Subperm
import Mathlib.Data.List.Range

/-!
# Ledgers

A ledger numbers the entries that are opened in it. An open entry waits under a key until it is
settled; an entry may also be reported at once. Recording an entry under a key that is taken drops
the entry that waited there.
-/

variable {κ α : Type} [DecidableEq κ]

/-- The number of entries opened so far, those that wait under a key, and those closed, in the order
in which they were closed. -/
structure Ledger (κ α : Type) [DecidableEq κ] where
  opened : Nat
  pending : AList fun _ : κ => α
  closed : List α

namespace Ledger

variable (tag : α → Nat)

/-- The steps of a ledger; `tag` is the number of an entry, which settling keeps. -/
inductive Step : Ledger κ α → Ledger κ α → Prop where
  | skip (L : Ledger κ α) : Step L L
  | record (L : Ledger κ α) (k : κ) (a : α) (htag : tag a = L.opened) :
      Step L ⟨L.opened + 1, L.pending.insert k a, L.closed⟩
  | report (L : Ledger κ α) (a : α) (htag : tag a = L.opened) :
      Step L ⟨L.opened + 1, L.pending, L.closed ++ [a]⟩
  | settle (L : Ledger κ α) (k : κ) (a b : α) (ha : L.pending.lookup k = some a)
      (htag : tag b = tag a) : Step L ⟨L.opened, L.pending.erase k, L.closed ++ [b]⟩

/-- The numbers of all entries that are closed or waiting. -/
def tags (L : Ledger κ α) : List Nat :=
  L.closed.map tag ++ L.pending.entries.map fun e => tag e.2

/-- No entry is closed or waiting twice, and all of them have been opened. -/
structure Valid (L : Ledger κ α) : Prop where
  nodup : (L.tags tag).Nodup
  lt_opened : ∀ n ∈ L.tags tag, n < L.opened

/-- The number of closed and waiting entries. -/
def held (L : Ledger κ α) : Nat :=
  L.closed.length + L.pending.entries.length

/-- The empty ledger. -/
def empty : Ledger κ α := ⟨0, ∅, []⟩

theorem valid_empty : Valid tag (empty : Ledger κ α) := by
  refine ⟨?_, ?_⟩ <;> simp [tags, empty]

variable {tag}

theorem mem_tags_of_lookup {L : Ledger κ α} {k : κ} {a : α} (h : L.pending.lookup k = some a) :
    tag a ∈ L.tags tag := by
  refine List.mem_append_right _ (List.mem_map.mpr ⟨⟨k, a⟩, ?_, rfl⟩)
  exact AList.mem_lookup_iff.mp h

/-- A table consists of the entry at a key and the entries that remain without it. -/
theorem entries_perm {m : AList fun _ : κ => α} {k : κ} {a : α} (h : m.lookup k = some a) :
    m.entries.Perm (⟨k, a⟩ :: m.entries.kerase k) := by
  have hmem : (⟨k, a⟩ : Sigma fun _ : κ => α) ∈ m.entries := AList.mem_lookup_iff.mp h
  obtain ⟨b, l₁, l₂, -, hl, hker⟩ := List.exists_of_kerase (List.mem_keys_of_mem hmem)
  have hb : (⟨k, b⟩ : Sigma fun _ : κ => α) ∈ m.entries := by rw [hl]; simp
  have hab : a = b := m.nodupKeys.eq_of_mk_mem hmem hb
  rw [hker, hl, hab]
  exact List.perm_middle

/-- The numbers that wait after an entry has been removed waited before. -/
theorem tags_kerase_sublist (k : κ) (es : List (Sigma fun _ : κ => α)) :
    ((es.kerase k).map fun e => tag e.2).Sublist (es.map fun e => tag e.2) :=
  (List.kerase_sublist k es).map _

theorem tags_settle_perm {L : Ledger κ α} {k : κ} {a b : α} (ha : L.pending.lookup k = some a)
    (htag : tag b = tag a) :
    (tags tag ⟨L.opened, L.pending.erase k, L.closed ++ [b]⟩).Perm (L.tags tag) := by
  have hp := (entries_perm ha).map fun e => tag e.2
  rw [List.map_cons, ← htag] at hp
  unfold tags
  rw [List.map_append, List.append_assoc]
  exact List.Perm.append_left _ hp.symm

/-- **A step keeps a ledger valid.** -/
theorem Valid.step {L L' : Ledger κ α} (h : Step tag L L') (hv : Valid tag L) : Valid tag L' := by
  cases h with
  | skip => exact hv
  | record k a htag =>
    have hfresh : tag a ∉ L.tags tag := fun hm => by
      have := hv.lt_opened _ hm
      omega
    have hsub : (L.closed.map tag ++ (L.pending.entries.kerase k).map fun e => tag e.2).Sublist
        (L.tags tag) := (List.Sublist.refl _).append (tags_kerase_sublist k _)
    have hperm : (tags tag ⟨L.opened + 1, L.pending.insert k a, L.closed⟩).Perm
        (tag a :: (L.closed.map tag ++ (L.pending.entries.kerase k).map fun e => tag e.2)) := by
      unfold tags
      rw [AList.entries_insert, List.map_cons]
      exact List.perm_middle
    refine ⟨?_, fun n hn => ?_⟩
    · rw [hperm.nodup_iff, List.nodup_cons]
      exact ⟨fun hm => hfresh (hsub.subset hm), hv.nodup.sublist hsub⟩
    · rcases List.mem_cons.mp (hperm.subset hn) with rfl | hn
      · show tag a < L.opened + 1
        omega
      · have := hv.lt_opened _ (hsub.subset hn)
        show n < L.opened + 1
        omega
  | report a htag =>
    have hfresh : tag a ∉ L.tags tag := fun hm => by
      have := hv.lt_opened _ hm
      omega
    have hperm : (tags tag ⟨L.opened + 1, L.pending, L.closed ++ [a]⟩).Perm
        (tag a :: L.tags tag) := by
      unfold tags
      rw [List.map_append, List.append_assoc]
      exact List.perm_middle
    refine ⟨?_, fun n hn => ?_⟩
    · rw [hperm.nodup_iff, List.nodup_cons]
      exact ⟨hfresh, hv.nodup⟩
    · rcases List.mem_cons.mp (hperm.subset hn) with rfl | hn
      · show tag a < L.opened + 1
        omega
      · have := hv.lt_opened _ hn
        show n < L.opened + 1
        omega
  | settle k a b ha htag =>
    have hperm := tags_settle_perm (L := L) ha htag
    exact ⟨hperm.nodup_iff.mpr hv.nodup, fun n hn => hv.lt_opened n (hperm.subset hn)⟩

/-! ## Conservation -/

theorem held_settle {L : Ledger κ α} {k : κ} {a b : α} (ha : L.pending.lookup k = some a) :
    held ⟨L.opened, L.pending.erase k, L.closed ++ [b]⟩ = L.held := by
  have hl := (entries_perm ha).length_eq
  unfold held
  rw [List.length_append, List.length_singleton]
  show L.closed.length + 1 + (L.pending.entries.kerase k).length = _
  rw [hl, List.length_cons]
  omega

theorem held_report (L : Ledger κ α) (a : α) :
    held ⟨L.opened + 1, L.pending, L.closed ++ [a]⟩ = L.held + 1 := by
  unfold held
  rw [List.length_append, List.length_singleton]
  show L.closed.length + 1 + L.pending.entries.length = _
  omega

theorem held_record (L : Ledger κ α) (k : κ) (a : α) :
    held ⟨L.opened + 1, L.pending.insert k a, L.closed⟩ =
      L.held + if k ∈ L.pending then 0 else 1 := by
  unfold held
  simp only [AList.entries_insert, List.length_cons]
  split_ifs with hk
  · obtain ⟨a', ha'⟩ := Option.isSome_iff_exists.mp (AList.lookup_isSome.mpr hk)
    rw [(entries_perm ha').length_eq, List.length_cons]
    omega
  · rw [List.kerase_of_notMem_keys hk]
    omega

/-- **At every point, at most as many entries are held as have been opened.** -/
theorem Valid.held_le {L : Ledger κ α} (hv : Valid tag L) : L.held ≤ L.opened := by
  have hsub : L.tags tag ⊆ List.range L.opened := fun n hn =>
    List.mem_range.mpr (hv.lt_opened n hn)
  have := (List.subperm_of_subset hv.nodup hsub).length_le
  simpa [tags, held] using this

/-- A step loses nothing that was not lost before, unless it records under a key that is taken. -/
theorem Step.held_le {L L' : Ledger κ α} (h : Step tag L L') :
    L'.held + L.opened ≤ L.held + L'.opened := by
  cases h with
  | skip => exact le_rfl
  | record k a =>
    rw [held_record]
    show _ ≤ L.held + (L.opened + 1)
    split_ifs <;> omega
  | report a =>
    rw [held_report]
    show _ ≤ L.held + (L.opened + 1)
    omega
  | settle k a b ha =>
    rw [held_settle ha]

/-- When as many entries are closed as have been opened, each one is closed exactly once. -/
theorem Valid.count_eq_one_iff {L : Ledger κ α} (hv : Valid tag L) :
    (∀ n < L.opened, (L.closed.map tag).count n = 1) ↔ L.closed.length = L.opened := by
  have hnd : (L.closed.map tag).Nodup := (List.nodup_append.mp hv.nodup).1
  have hlt : ∀ n ∈ L.closed.map tag, n < L.opened := fun n hn =>
    hv.lt_opened n (List.mem_append_left _ hn)
  have hsub : (L.closed.map tag).Subperm (List.range L.opened) :=
    List.subperm_of_subset hnd fun n hn => List.mem_range.mpr (hlt n hn)
  constructor
  · intro h
    have hsub' : (List.range L.opened).Subperm (L.closed.map tag) :=
      List.subperm_of_subset List.nodup_range fun n hn => by
        refine List.count_pos_iff.mp ?_
        rw [h n (List.mem_range.mp hn)]
        exact Nat.one_pos
    have h₁ := hsub.length_le
    have h₂ := hsub'.length_le
    simp only [List.length_map, List.length_range] at h₁ h₂
    omega
  · intro h n hn
    have hperm : (L.closed.map tag).Perm (List.range L.opened) :=
      hsub.perm_of_length_le (by simp [h])
    rw [hperm.count_eq]
    exact List.count_eq_one_of_mem List.nodup_range (List.mem_range.mpr hn)

/-- Each entry is closed exactly once when nothing waits and nothing was lost. -/
theorem Valid.all_closed_iff {L : Ledger κ α} (hv : Valid tag L) :
    (∀ n < L.opened, (L.closed.map tag).count n = 1) ↔
      L.pending.entries = [] ∧ L.held = L.opened := by
  have hle := hv.held_le
  rw [hv.count_eq_one_iff, ← List.length_eq_zero_iff]
  unfold held at *
  constructor
  · intro h
    omega
  · rintro ⟨h₀, h⟩
    omega

end Ledger
