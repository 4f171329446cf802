import Mathlib.Data.List.Nodup
import Mathlib.Data.List.Basic

/-!
# Insertion-ordered dictionaries

A dictionary that iterates over its entries in the order in which their keys were first assigned; a
later assignment to a key replaces its value in place.
-/

variable {κ ν : Type}

/-- The entries of a dictionary, one for each key. -/
structure Dict (κ ν : Type) where
  entries : List (κ × ν)
  nodup_keys : (entries.map Prod.fst).Nodup

namespace Dict

def empty : Dict κ ν := ⟨[], List.nodup_nil⟩

def keys (d : Dict κ ν) : List κ :=
  d.entries.map Prod.fst

def values (d : Dict κ ν) : List ν :=
  d.entries.map Prod.snd

variable [DecidableEq κ]

/-- `d[k]`, `none` for an absent key. -/
def get (d : Dict κ ν) (k : κ) : Option ν :=
  d.entries.lookup k

/-- The entries after the assignment of `v` to `k`. -/
def setEntry (k : κ) (v : ν) : List (κ × ν) → List (κ × ν)
  | [] => [(k, v)]
  | (k', v') :: es => if k = k' then (k, v) :: es else (k', v') :: setEntry k v es

theorem mem_of_lookup {k : κ} {v : ν} {es : List (κ × ν)} (h : es.lookup k = some v) :
    (k, v) ∈ es := by
  obtain ⟨l₁, l₂, hes, -⟩ := List.lookup_eq_some_iff.mp h
  simp [hes]

theorem map_fst_setEntry (k : κ) (v : ν) (es : List (κ × ν)) :
    (setEntry k v es).map Prod.fst =
      if k ∈ es.map Prod.fst then es.map Prod.fst else es.map Prod.fst ++ [k] := by
  induction es with
  | nil => rfl
  | cons e es ih =>
    obtain ⟨k₁, v₁⟩ := e
    unfold setEntry
    by_cases h : k = k₁
    · simp [h]
    · rw [if_neg h, List.map_cons, ih]
      by_cases hmem : k ∈ es.map Prod.fst
      · simp [hmem]
      · simp [h, hmem]

/-- `d[k] = v` -/
def set (d : Dict κ ν) (k : κ) (v : ν) : Dict κ ν where
  entries := setEntry k v d.entries
  nodup_keys := by
    rw [map_fst_setEntry]
    split_ifs with h
    · exact d.nodup_keys
    · exact List.nodup_append_comm.mp (List.nodup_cons.mpr ⟨h, d.nodup_keys⟩)

theorem keys_set (d : Dict κ ν) (k : κ) (v : ν) :
    (d.set k v).keys = if k ∈ d.keys then d.keys else d.keys ++ [k] :=
  map_fst_setEntry k v d.entries

theorem lookup_setEntry (k k' : κ) (v : ν) (es : List (κ × ν)) :
    (setEntry k v es).lookup k' = if k' = k then some v else es.lookup k' := by
  induction es with
  | nil =>
    by_cases h : k' = k
    · simp [setEntry, h]
    · simp [setEntry, h]
  | cons e es ih =>
    obtain ⟨k₁, v₁⟩ := e
    unfold setEntry
    by_cases h₁ : k = k₁
    · subst h₁
      by_cases h : k' = k
      · simp [h]
      · simp [List.lookup_cons, h, beq_false_of_ne h]
    · rw [if_neg h₁]
      by_cases h : k' = k₁
      · have hk : k' ≠ k := fun hk => h₁ (hk.symm.trans h)
        simp [h, Ne.symm h₁]
      · simp [List.lookup_cons, beq_false_of_ne h, ih]

/-- Reading after an assignment. -/
theorem get_set (d : Dict κ ν) (k k' : κ) (v : ν) :
    (d.set k v).get k' = if k' = k then some v else d.get k' :=
  lookup_setEntry k k' v d.entries

theorem mem_entries_iff {d : Dict κ ν} {k : κ} {v : ν} :
    (k, v) ∈ d.entries ↔ d.get k = some v := by
  obtain ⟨es, hnd⟩ := d
  show (k, v) ∈ es ↔ es.lookup k = some v
  induction es with
  | nil => simp
  | cons e es ih =>
    obtain ⟨k₁, v₁⟩ := e
    obtain ⟨hk₁, hes⟩ := List.nodup_cons.mp hnd
    rw [List.mem_cons, List.lookup_cons, ih hes]
    by_cases hk : k = k₁
    · subst hk
      have hnone : es.lookup k = none := by
        rw [List.lookup_eq_none_iff]
        intro p hp
        have hp₁ : p.1 ∈ es.map Prod.fst := List.mem_map_of_mem hp
        have hne : k ≠ p.1 := fun h => hk₁ (h ▸ hp₁)
        simpa using hne
      simp [hnone, eq_comm]
    · simp [hk, beq_false_of_ne hk]

theorem mem_values_iff {d : Dict κ ν} {v : ν} : v ∈ d.values ↔ ∃ k, d.get k = some v := by
  simp only [values, List.mem_map, Prod.exists, mem_entries_iff, exists_eq_right]

/-! ## Filling a dictionary from a list -/

variable {ι : Type} (key : ι → κ) (value : ι → ν)

/-- A dictionary filled from a list of items holds, for each key, the value of the last item. -/
theorem get_foldl_set (items : List ι) (d : Dict κ ν) (k : κ) :
    (items.foldl (fun d i => d.set (key i) (value i)) d).get k =
      ((items.reverse.find? fun i => key i = k).map value).or (d.get k) := by
  induction items generalizing d with
  | nil => simp
  | cons i is ih =>
    rw [List.foldl_cons, ih, get_set, List.reverse_cons, List.find?_append]
    cases hf : is.reverse.find? fun i => key i = k with
    | some j => simp
    | none =>
      by_cases hk : key i = k
      · simp [hk]
      · simp [hk, Ne.symm hk]

/-- The items of a list whose keys occur neither in `seen` nor before them. -/
def newItems (seen : List κ) : List ι → List ι
  | [] => []
  | i :: is =>
    if key i ∈ seen then newItems seen is else i :: newItems (seen ++ [key i]) is

theorem newItems_sublist (seen : List κ) (items : List ι) :
    (newItems key seen items).Sublist items := by
  induction items generalizing seen with
  | nil => exact .slnil
  | cons i is ih =>
    rw [newItems]
    split_ifs
    · exact (ih seen).cons i
    · exact (ih _).cons_cons i

/-- The keys of a dictionary filled from a list are those of its new items. -/
theorem keys_foldl_set (items : List ι) (d : Dict κ ν) :
    (items.foldl (fun d i => d.set (key i) (value i)) d).keys =
      d.keys ++ (newItems key d.keys items).map key := by
  induction items generalizing d with
  | nil => simp [newItems]
  | cons i is ih =>
    rw [List.foldl_cons, ih, keys_set, newItems]
    by_cases hi : key i ∈ d.keys
    · rw [if_pos hi, if_pos hi]
    · rw [if_neg hi, if_neg hi, List.map_cons, List.append_assoc, List.singleton_append]

theorem keys_foldl_set_empty (items : List ι) :
    (items.foldl (fun d i => d.set (key i) (value i)) empty).keys =
      (newItems key [] items).map key :=
  keys_foldl_set key value items empty

/-- The entries of a dictionary, given its keys and their values. -/
theorem entries_eq_map {d : Dict κ ν} {items : List ι} (hkeys : d.keys = items.map key)
    (hvalue : ∀ i ∈ items, d.get (key i) = some (value i)) :
    d.entries = items.map fun i => (key i, value i) := by
  have hlen : d.entries.length = items.length := by
    simpa [keys] using congrArg List.length hkeys
  refine List.ext_getElem (by simpa using hlen) fun n h₁ h₂ => ?_
  have hn : n < items.length := hlen ▸ h₁
  have hkey : d.entries[n].1 = key items[n] := by
    have h := congrArg (·[n]?) hkeys
    simpa [keys, h₁, hn] using h
  have hget : d.get d.entries[n].1 = some d.entries[n].2 :=
    mem_entries_iff.mp (List.getElem_mem h₁)
  rw [hkey, hvalue _ (List.getElem_mem hn)] at hget
  rw [List.getElem_map]
  exact Prod.ext hkey (Option.some.inj hget).symm

end Dict
