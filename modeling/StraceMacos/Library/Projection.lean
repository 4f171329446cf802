import Mathlib.Data.List.AList

/-!
# Projections of tables

A table is a projection of another one if it has exactly the entries of the other that meet a
condition, up to what is not observed of an entry.
-/

variable {κ α β γ : Type} [DecidableEq κ]

/-- Under every key, `m'` has the entry of `m` if it meets `p`, and no entry otherwise; of the
entries only what `g` and `g'` show is compared. -/
def Projection (p : α → Bool) (g : α → γ) (g' : β → γ) (m : AList fun _ : κ => α)
    (m' : AList fun _ : κ => β) : Prop :=
  ∀ k, (m'.lookup k).map g' = ((m.lookup k).filter p).map g

namespace Projection

variable {p : α → Bool} {g : α → γ} {g' : β → γ} {m : AList fun _ : κ => α}
variable {m' : AList fun _ : κ => β} {k : κ} {a : α} {b : β}

theorem empty : Projection p g g' (∅ : AList fun _ : κ => α) ∅ := fun _ => rfl

/-- An entry of the projection comes from one that meets the condition. -/
theorem exists_of_lookup (h : Projection p g g' m m') (hb : m'.lookup k = some b) :
    ∃ a, m.lookup k = some a ∧ p a = true ∧ g' b = g a := by
  have hk := (h k).symm
  rw [hb, Option.map_some, Option.map_eq_some_iff] at hk
  obtain ⟨a, ha, heq⟩ := hk
  obtain ⟨ha, hp⟩ := Option.filter_eq_some_iff.mp ha
  exact ⟨a, ha, hp, heq.symm⟩

/-- An entry that meets the condition stays. -/
theorem lookup_of_pos (h : Projection p g g' m m') (ha : m.lookup k = some a) (hp : p a = true) :
    ∃ b, m'.lookup k = some b ∧ g' b = g a := by
  have hk := h k
  rw [ha, Option.filter_some_pos hp, Option.map_some, Option.map_eq_some_iff] at hk
  exact hk

/-- Where no entry meets the condition there is none. -/
theorem lookup_eq_none (h : Projection p g g' m m')
    (hn : ∀ a, m.lookup k = some a → p a = false) : m'.lookup k = none := by
  cases hb : m'.lookup k with
  | none => rfl
  | some b =>
    obtain ⟨a, ha, hp, -⟩ := h.exists_of_lookup hb
    rw [hn a ha] at hp
    cases hp

theorem lookup_eq_none_of_eq_none (h : Projection p g g' m m') (hk : m.lookup k = none) :
    m'.lookup k = none :=
  h.lookup_eq_none fun a ha => by rw [hk] at ha; cases ha

theorem mem (h : Projection p g g' m m') (hk : k ∈ m') : k ∈ m := by
  obtain ⟨b, hb⟩ := Option.isSome_iff_exists.mp (AList.lookup_isSome.mpr hk)
  obtain ⟨a, ha, -⟩ := h.exists_of_lookup hb
  rw [← AList.lookup_isSome, ha]
  rfl

/-- Entries that meet the condition and look alike may be inserted on both sides. -/
theorem insert (h : Projection p g g' m m') (k : κ) (hp : p a = true) (heq : g' b = g a) :
    Projection p g g' (m.insert k a) (m'.insert k b) := by
  intro k'
  by_cases hk : k' = k
  · subst hk
    rw [AList.lookup_insert, AList.lookup_insert, Option.filter_some_pos hp, Option.map_some,
      Option.map_some, heq]
  · rw [AList.lookup_insert_ne hk, AList.lookup_insert_ne hk]
    exact h k'

/-- An entry that does not meet the condition may be inserted where none that does is lost. -/
theorem insert_left (h : Projection p g g' m m') (hp : p a = false)
    (hn : ∀ a, m.lookup k = some a → p a = false) : Projection p g g' (m.insert k a) m' := by
  intro k'
  by_cases hk : k' = k
  · subst hk
    rw [AList.lookup_insert, h.lookup_eq_none hn, Option.filter_some_neg hp]
    rfl
  · rw [AList.lookup_insert_ne hk]
    exact h k'

theorem erase (h : Projection p g g' m m') (k : κ) :
    Projection p g g' (m.erase k) (m'.erase k) := by
  intro k'
  by_cases hk : k' = k
  · subst hk
    rw [AList.lookup_erase, AList.lookup_erase]
    rfl
  · rw [AList.lookup_erase_ne hk, AList.lookup_erase_ne hk]
    exact h k'

/-- An entry that does not meet the condition may be erased. -/
theorem erase_left (h : Projection p g g' m m') (hn : ∀ a, m.lookup k = some a → p a = false) :
    Projection p g g' (m.erase k) m' := by
  intro k'
  by_cases hk : k' = k
  · subst hk
    rw [AList.lookup_erase, h.lookup_eq_none hn]
    rfl
  · rw [AList.lookup_erase_ne hk]
    exact h k'

end Projection
