import Mathlib.Data.List.Forall2
import Mathlib.Data.List.Induction

/-!
# Runs of a fallible machine

A machine takes one step for each input and may fail at any of them; a run is the fold of its step
function over a list of inputs. The rules below carry invariants and step conditions along a run.
-/

namespace Run

variable {σ ι ε : Type} {step : σ → ι → Except ε σ}

theorem nil_ok {s t : σ} : List.foldlM step s ([] : List ι) = Except.ok t ↔ s = t := by
  simp [pure, Except.pure]

theorem cons_ok {s t : σ} {i : ι} {is : List ι} :
    List.foldlM step s (i :: is) = Except.ok t ↔
      ∃ s', step s i = .ok s' ∧ List.foldlM step s' is = .ok t := by
  rw [List.foldlM_cons]
  cases h : step s i <;> simp [bind, Except.bind]

theorem append_ok {s t : σ} {is js : List ι} :
    List.foldlM step s (is ++ js) = Except.ok t ↔
      ∃ s', List.foldlM step s is = .ok s' ∧ List.foldlM step s' js = .ok t := by
  induction is generalizing s with
  | nil => simp [pure, Except.pure]
  | cons i is ih =>
    rw [List.cons_append, cons_ok]
    constructor
    · rintro ⟨s₁, h₁, h⟩
      obtain ⟨s', h₂, h₃⟩ := ih.mp h
      exact ⟨s', cons_ok.mpr ⟨s₁, h₁, h₂⟩, h₃⟩
    · rintro ⟨s', h, h₃⟩
      obtain ⟨s₁, h₁, h₂⟩ := cons_ok.mp h
      exact ⟨s₁, h₁, ih.mpr ⟨s', h₂, h₃⟩⟩

theorem snoc_ok {s t : σ} {is : List ι} {i : ι} :
    List.foldlM step s (is ++ [i]) = Except.ok t ↔
      ∃ s', List.foldlM step s is = .ok s' ∧ step s' i = .ok t := by
  rw [append_ok]
  refine exists_congr fun s' => and_congr_right fun _ => ?_
  rw [cons_ok]
  simp [pure, Except.pure]

/-- **Invariant rule.** What every step preserves holds at the end of every run. -/
theorem invariant {I : σ → Prop} (hstep : ∀ s i t, I s → step s i = .ok t → I t)
    {s t : σ} {is : List ι} (hs : I s) (h : List.foldlM step s is = .ok t) : I t := by
  induction is generalizing s with
  | nil => rwa [← nil_ok.mp h]
  | cons i is ih =>
    obtain ⟨s', h₁, h₂⟩ := cons_ok.mp h
    exact ih (hstep s i s' hs h₁) h₂

/-- **Invariant rule with a history.** The invariant may speak about the inputs read so far. -/
theorem invariant_history {I : List ι → σ → Prop} {s₀ : σ}
    (hstep : ∀ past s i t, List.foldlM step s₀ past = .ok s → I past s → step s i = .ok t →
      I (past ++ [i]) t)
    (h₀ : I [] s₀) {t : σ} {is : List ι} (h : List.foldlM step s₀ is = .ok t) : I is t := by
  induction is using List.reverseRecOn generalizing t with
  | nil => rwa [← nil_ok.mp h]
  | append_singleton is i ih =>
    obtain ⟨s', h₁, h₂⟩ := snoc_ok.mp h
    exact hstep is s' i t h₁ (ih h₁) h₂

/-- Every step of the run from `s` is taken from a state and with an input that meet `P`. -/
def Along (step : σ → ι → Except ε σ) (P : σ → ι → Prop) : σ → List ι → Prop
  | _, [] => True
  | s, i :: is => P s i ∧ ∀ s', step s i = .ok s' → Along step P s' is

@[simp] theorem along_nil {P : σ → ι → Prop} {s : σ} : Along step P s [] := trivial

theorem along_cons {P : σ → ι → Prop} {s : σ} {i : ι} {is : List ι} :
    Along step P s (i :: is) ↔ P s i ∧ ∀ s', step s i = .ok s' → Along step P s' is :=
  Iff.rfl

/-- A condition that every state and every input meets holds along every run. -/
theorem along_of_forall {P : σ → ι → Prop} {is : List ι} (h : ∀ s, ∀ i ∈ is, P s i) (s : σ) :
    Along step P s is := by
  induction is generalizing s with
  | nil => exact along_nil
  | cons i is ih =>
    exact ⟨h s i List.mem_cons_self,
      fun s' _ => ih (fun s j hj => h s j (List.mem_cons_of_mem i hj)) s'⟩

/-- Whether a concrete run is along a decidable condition can be computed. -/
instance decidableAlong {P : σ → ι → Prop} [∀ s i, Decidable (P s i)] :
    ∀ (s : σ) (is : List ι), Decidable (Along step P s is)
  | _, [] => .isTrue trivial
  | s, i :: is =>
    match h : step s i with
    | .error _ => decidable_of_iff (P s i)
        ⟨fun hP => ⟨hP, fun s' hs' => by rw [h] at hs'; cases hs'⟩, And.left⟩
    | .ok s' =>
      have := decidableAlong (P := P) s' is
      decidable_of_iff (P s i ∧ Along step P s' is)
        ⟨fun ⟨hP, hA⟩ => ⟨hP, fun s'' hs' => by rw [h] at hs'; cases hs'; exact hA⟩,
          fun ⟨hP, hA⟩ => ⟨hP, hA s' h⟩⟩

/-- **Invariant rule under a step condition.** -/
theorem invariant_along {P : σ → ι → Prop} {I : σ → Prop}
    (hstep : ∀ s i t, I s → P s i → step s i = .ok t → I t) {s t : σ} {is : List ι}
    (hs : I s) (hP : Along step P s is) (h : List.foldlM step s is = .ok t) : I t := by
  induction is generalizing s with
  | nil => rwa [← nil_ok.mp h]
  | cons i is ih =>
    obtain ⟨s', h₁, h₂⟩ := cons_ok.mp h
    exact ih (hstep s i s' hs hP.1 h₁) (hP.2 s' h₁) h₂

/-- **Progress rule.** Where every step of the condition returns and keeps the invariant, the run
returns. -/
theorem returns_along {P : σ → ι → Prop} {I : σ → Prop}
    (hstep : ∀ s i, I s → P s i → ∃ t, step s i = .ok t ∧ I t) {s : σ} {is : List ι}
    (hs : I s) (hP : Along step P s is) : ∃ t, List.foldlM step s is = .ok t ∧ I t := by
  induction is generalizing s with
  | nil => exact ⟨s, nil_ok.mpr rfl, hs⟩
  | cons i is ih =>
    obtain ⟨s', h, hs'⟩ := hstep s i hs hP.1
    obtain ⟨t, ht, hInv⟩ := ih hs' (hP.2 s' h)
    exact ⟨t, cons_ok.mpr ⟨s', h, ht⟩, hInv⟩

/-- **Simulation rule under a step condition.** Two machines over inputs that correspond stay
related where every step of the first that meets the condition is matched by one of the second. -/
theorem simulation_along {τ κ : Type} {step' : τ → κ → Except ε τ} {P : σ → ι → Prop}
    {R : σ → τ → Prop} {C : ι → κ → Prop}
    (hstep : ∀ s t i j, R s t → C i j → P s i →
      ∃ s' t', step s i = .ok s' ∧ step' t j = .ok t' ∧ R s' t')
    {s : σ} {t : τ} {is : List ι} {js : List κ} (hR : R s t) (hC : List.Forall₂ C is js)
    (hP : Along step P s is) :
    ∃ s' t', List.foldlM step s is = .ok s' ∧ List.foldlM step' t js = .ok t' ∧ R s' t' := by
  induction hC generalizing s t with
  | nil => exact ⟨s, t, nil_ok.mpr rfl, nil_ok.mpr rfl, hR⟩
  | cons hC _ ih =>
    obtain ⟨s₁, t₁, hs, ht, hR₁⟩ := hstep s t _ _ hR hC hP.1
    obtain ⟨s', t', hs', ht', hR'⟩ := ih hR₁ (hP.2 s₁ hs)
    exact ⟨s', t', cons_ok.mpr ⟨s₁, hs, hs'⟩, cons_ok.mpr ⟨t₁, ht, ht'⟩, hR'⟩

/-- A step that does not meet the condition stands in every run that is not along it. -/
theorem exists_of_not_along {P : σ → ι → Prop} {s : σ} {is : List ι}
    (h : ¬ Along step P s is) :
    ∃ pre i post s', is = pre ++ i :: post ∧ List.foldlM step s pre = .ok s' ∧ ¬ P s' i := by
  induction is generalizing s with
  | nil => exact absurd along_nil h
  | cons i is ih =>
    by_cases hP : P s i
    · have : ∃ s', step s i = .ok s' ∧ ¬ Along step P s' is := by
        by_contra hn
        push Not at hn
        exact h ⟨hP, hn⟩
      obtain ⟨s', h₁, h₂⟩ := this
      obtain ⟨pre, j, post, s'', rfl, hpre, hj⟩ := ih h₂
      exact ⟨i :: pre, j, post, s'', rfl, cons_ok.mpr ⟨s', h₁, hpre⟩, hj⟩
    · exact ⟨[], i, is, s, rfl, nil_ok.mpr rfl, hP⟩

end Run
