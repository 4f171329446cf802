import Mathlib.Data.List.Perm.Basic
import StraceMacos.Library.Run

/-!
# Interleavings

A machine that serves several parties gets the inputs of all of them in some order. Where the inputs
of the others leave alone what one party sees, the machine does for this party what it does when the
party is alone. Items that are labelled with their parties are the same ones, whatever the order, as
soon as every party has the same items.
-/

namespace Run

variable {σ τ ι κ ε ω : Type} {step : σ → ι → Except ε σ} {step' : τ → κ → Except ε τ}

/-- What the steps of a run put out, one after the other. -/
def outputs (step : σ → ι → Except ε σ) (out : σ → ι → σ → List ω) : σ → List ι → List ω
  | _, [] => []
  | s, i :: is =>
    match step s i with
    | .error _ => []
    | .ok s' => out s i s' ++ outputs step out s' is

variable {out : σ → ι → σ → List ω} {out' : τ → κ → τ → List ω}

theorem outputs_cons {s s' : σ} {i : ι} (is : List ι) (h : step s i = .ok s') :
    outputs step out s (i :: is) = out s i s' ++ outputs step out s' is := by
  rw [outputs, h]

/-- A selection of the outputs is what the steps put out of the selection. -/
theorem filter_outputs (p : ω → Bool) (s : σ) (is : List ι) :
    (outputs step out s is).filter p =
      outputs step (fun s i s' => (out s i s').filter p) s is := by
  induction is generalizing s with
  | nil => rfl
  | cons i is ih =>
    cases h : step s i with
    | error e => rw [outputs, outputs, h]; rfl
    | ok s' => rw [outputs_cons _ h, outputs_cons _ h, List.filter_append, ih]

theorem map_outputs {γ : Type} (g : ω → γ) (s : σ) (is : List ι) :
    (outputs step out s is).map g = outputs step (fun s i s' => (out s i s').map g) s is := by
  induction is generalizing s with
  | nil => rfl
  | cons i is ih =>
    cases h : step s i with
    | error e => rw [outputs, outputs, h]; rfl
    | ok s' => rw [outputs_cons _ h, outputs_cons _ h, List.map_append, ih]

theorem mem_outputs {s : σ} {is : List ι} {x : ω} (h : x ∈ outputs step out s is) :
    ∃ i ∈ is, ∃ s₁ s₂, step s₁ i = .ok s₂ ∧ x ∈ out s₁ i s₂ := by
  induction is generalizing s with
  | nil => cases h
  | cons i is ih =>
    cases hstep : step s i with
    | error e =>
      rw [outputs, hstep] at h
      cases h
    | ok s' =>
      rw [outputs_cons _ hstep] at h
      rcases List.mem_append.mp h with h | h
      · exact ⟨i, List.mem_cons_self, s, s', hstep, h⟩
      · obtain ⟨j, hj, hout⟩ := ih h
        exact ⟨j, List.mem_cons_of_mem i hj, hout⟩

theorem along_cons_of_ok {P : σ → ι → Prop} {s s' : σ} {i : ι} {is : List ι}
    (h : step s i = .ok s') : Along step P s (i :: is) ↔ P s i ∧ Along step P s' is := by
  refine and_congr_right fun _ => ⟨fun hall => hall s' h, fun hrest s₁ h₁ => ?_⟩
  cases h.symm.trans h₁
  exact hrest

theorem along_append_of_ok {P : σ → ι → Prop} {s s' : σ} {is js : List ι}
    (h : List.foldlM step s is = .ok s') :
    Along step P s (is ++ js) ↔ Along step P s is ∧ Along step P s' js := by
  induction is generalizing s with
  | nil => simp [nil_ok.mp h]
  | cons i is ih =>
    obtain ⟨s₁, h₁, h₂⟩ := cons_ok.mp h
    rw [List.cons_append, along_cons_of_ok h₁, along_cons_of_ok h₁, ih h₂, and_assoc]

/-- **Projection rule.** A run of a machine is matched by a run of another one over a part of the
inputs: the steps for the other inputs put out nothing and keep the states related, and each step
for an input of the part is matched. -/
theorem projection {P : σ → ι → Prop} {P' : τ → κ → Prop} {R : σ → τ → Prop} {own : ι → Bool}
    {C : ι → κ → Prop}
    (hother : ∀ s t i s', R s t → own i = false → step s i = .ok s' → R s' t ∧ out s i s' = [])
    (hown : ∀ s t i j s', R s t → P s i → own i = true → C i j → step s i = .ok s' →
      P' t j ∧ ∃ t', step' t j = .ok t' ∧ R s' t' ∧ out' t j t' = out s i s')
    {s s' : σ} {t : τ} {is : List ι} {js : List κ} (hR : R s t) (hP : Along step P s is)
    (h : List.foldlM step s is = .ok s') (hC : List.Forall₂ C (is.filter own) js) :
    Along step' P' t js ∧ ∃ t', List.foldlM step' t js = .ok t' ∧ R s' t' ∧
      outputs step' out' t js = outputs step out s is := by
  induction is generalizing s t js with
  | nil =>
    cases hC
    rw [← nil_ok.mp h]
    exact ⟨along_nil, t, rfl, hR, rfl⟩
  | cons i is ih =>
    obtain ⟨s₁, h₁, h₂⟩ := cons_ok.mp h
    obtain ⟨hPi, hP⟩ := (along_cons_of_ok h₁).mp hP
    cases hi : own i with
    | false =>
      rw [List.filter_cons_of_neg (by simp [hi])] at hC
      obtain ⟨hR₁, hout⟩ := hother s t i s₁ hR hi h₁
      rw [outputs_cons _ h₁, hout]
      exact ih hR₁ hP h₂ hC
    | true =>
      rw [List.filter_cons_of_pos hi] at hC
      obtain ⟨j, js, hCj, hCs, rfl⟩ := List.forall₂_cons_left_iff.mp hC
      obtain ⟨hPj, t₁, ht₁, hR₁, hout⟩ := hown s t i j s₁ hR hPi hi hCj h₁
      obtain ⟨hP', t', ht', hR', houts⟩ := ih hR₁ hP h₂ hCs
      refine ⟨(along_cons_of_ok ht₁).mpr ⟨hPj, hP'⟩, t', cons_ok.mpr ⟨t₁, ht₁, ht'⟩, hR', ?_⟩
      rw [outputs_cons _ ht₁, outputs_cons _ h₁, hout, houts]

/-- **Composition rule.** A machine runs over the inputs of several parties when each party has a
run over its own inputs: the step for an input is possible because it is in the run of the party,
and it keeps the states of the others related; `p` gives the party of an input. -/
theorem composition {π : Type} [DecidableEq π] {step' : τ → ι → Except ε τ} {P : σ → ι → Prop}
    {P' : τ → ι → Prop} {R : π → σ → τ → Prop} {p : ι → Option π}
    (hidle : ∀ s i, p i = none → P s i ∧ step s i = .ok s)
    (hother : ∀ k s t i s', R k s t → p i ≠ some k → step s i = .ok s' → R k s' t)
    (hown : ∀ k s t i t', R k s t → P' t i → p i = some k → step' t i = .ok t' →
      P s i ∧ ∃ s', step s i = .ok s' ∧ R k s' t')
    {s : σ} {t : π → τ} {is : List ι} (hR : ∀ k, R k s (t k))
    (h : ∀ k, ∃ t', List.foldlM step' (t k) (is.filter fun i => p i = some k) = .ok t')
    (hP : ∀ k, Along step' P' (t k) (is.filter fun i => p i = some k)) :
    Along step P s is ∧ ∃ s', List.foldlM step s is = .ok s' := by
  induction is generalizing s t with
  | nil => exact ⟨along_nil, s, rfl⟩
  | cons i is ih =>
    cases hi : p i with
    | none =>
      obtain ⟨hPi, hstep⟩ := hidle s i hi
      have hfilter : ∀ k, (i :: is).filter (fun i => p i = some k) =
          is.filter fun i => p i = some k := fun k =>
        List.filter_cons_of_neg (by simp [hi])
      obtain ⟨hPs, s', hs'⟩ := ih hR (fun k => hfilter k ▸ h k) fun k => hfilter k ▸ hP k
      exact ⟨(along_cons_of_ok hstep).mpr ⟨hPi, hPs⟩, s', cons_ok.mpr ⟨s, hstep, hs'⟩⟩
    | some k =>
      have hfilter : (i :: is).filter (fun i => p i = some k) =
          i :: is.filter fun i => p i = some k := List.filter_cons_of_pos (by simp [hi])
      obtain ⟨tk, htk⟩ := h k
      have hPk := hP k
      rw [hfilter] at htk hPk
      obtain ⟨t₁, ht₁, hrest⟩ := cons_ok.mp htk
      obtain ⟨hPti, hPrest⟩ := (along_cons_of_ok ht₁).mp hPk
      obtain ⟨hPi, s₁, hs₁, hR₁⟩ := hown k s (t k) i t₁ (hR k) hPti hi ht₁
      -- The other parties wait where they are.
      have hcases : ∀ k', R k' s₁ (if k' = k then t₁ else t k') ∧
          (∃ t', List.foldlM step' (if k' = k then t₁ else t k')
            (is.filter fun i => p i = some k') = .ok t') ∧
          Along step' P' (if k' = k then t₁ else t k')
            (is.filter fun i => p i = some k') := by
        intro k'
        by_cases hk : k' = k
        · subst hk
          simp only [if_true]
          exact ⟨hR₁, ⟨tk, hrest⟩, hPrest⟩
        · have hne : p i ≠ some k' := by
            rw [hi]
            exact fun h => hk (Option.some.inj h).symm
          have hskip : (i :: is).filter (fun i => p i = some k') =
              is.filter fun i => p i = some k' := List.filter_cons_of_neg (by simpa using hne)
          simp only [if_neg hk]
          exact ⟨hother k' s (t k') i s₁ (hR k') hne hs₁, hskip ▸ h k', hskip ▸ hP k'⟩
      obtain ⟨hPs, s', hs'⟩ := ih (fun k' => (hcases k').1) (fun k' => (hcases k').2.1)
        fun k' => (hcases k').2.2
      exact ⟨(along_cons_of_ok hs₁).mpr ⟨hPi, hPs⟩, s', cons_ok.mpr ⟨s₁, hs₁, hs'⟩⟩

end Run

namespace List

/-- Labelled items are a permutation of others when every label has the same items in both. -/
theorem perm_of_parts {κ α : Type} [DecidableEq κ] [DecidableEq α] {l l' : List (κ × α)}
    (h : ∀ k, l.filter (fun e => e.1 = k) = l'.filter fun e => e.1 = k) : l.Perm l' := by
  refine List.perm_iff_count.mpr fun e => ?_
  have hcount (l : List (κ × α)) : (l.filter fun x => x.1 = e.1).count e = l.count e :=
    List.count_filter (by simp)
  rw [← hcount l, h, hcount]

end List
