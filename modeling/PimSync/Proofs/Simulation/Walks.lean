import Mathlib.Algebra.Ring.Nat

/-! The runs of a system that goes from state to state, and when all of them come to the same end. -/

namespace PimSync.Simulation

variable {σ : Type} {step fine coarse : σ → σ → Prop} {c d e final : σ} {n m k : Nat}

inductive Walk (step : σ → σ → Prop) : Nat → σ → σ → Prop
  | stay (c : σ) : Walk step 0 c c
  | step {c d e : σ} {n : Nat} : step c d → Walk step n d e → Walk step (n + 1) c e

def Leads (step : σ → σ → Prop) (c d : σ) : Prop := ∃ n, Walk step n c d

/-- There are only so many steps, and whichever have been taken, the rest lead to this end, where there are none. -/
def ComesTo (step : σ → σ → Prop) (c final : σ) : Prop :=
  (∀ d, ¬ step final d) ∧ ∃ n, ∀ k d, Walk step k c d → k ≤ n ∧ ∃ m, Walk step m d final

def Diamond (step : σ → σ → Prop) : Prop := ∀ c d e, step c d → step c e → d = e ∨ ∃ f, step d f ∧ step e f

namespace Walk

lemma trans (h : Walk step n c d) (k : Walk step m d e) : Walk step (n + m) c e := by
  induction h with
  | stay c => rwa [Nat.zero_add]
  | step hs _ ih =>
    rw [Nat.add_right_comm]
    exact .step hs (ih k)

lemma begin (hd : Diamond step) (h : Walk step n c final) (hf : ∀ d, ¬ step final d) (hs : step c e) :
    ∃ m, n = m + 1 ∧ Walk step m e final := by
  -- the step moves back along the walk until it meets the step that it is
  induction h generalizing e with
  | stay c => exact absurd hs (hf e)
  | @step c d _ n hc hrest ih =>
    refine ⟨n, rfl, ?_⟩
    obtain rfl | ⟨f, hef, hdf⟩ := hd c e d hs hc
    · exact hrest
    · obtain ⟨m, rfl, hm⟩ := ih hf hdf
      exact .step hef hm

lemma mono (hf : ∀ d e, fine d e → coarse d e) (h : Walk fine n c d) : Walk coarse n c d := by
  induction h with
  | stay c => exact .stay c
  | step hs _ ih => exact .step (hf _ _ hs) ih

lemma refine (hc : ∀ d e, coarse d e → ∃ n, Walk fine (n + 1) d e) (h : Walk coarse k c d) :
    ∃ m, k ≤ m ∧ Walk fine m c d := by
  induction h with
  | stay c => exact ⟨0, Nat.le_refl 0, .stay c⟩
  | step hs _ ih =>
    obtain ⟨l, hl⟩ := hc _ _ hs
    obtain ⟨m, hle, hm⟩ := ih
    exact ⟨l + 1 + m, by omega, hl.trans hm⟩

lemma comesTo (hd : Diamond step) (h : Walk step n c final) (hf : ∀ d, ¬ step final d) : ComesTo step c final := by
  refine ⟨hf, n, fun k d hk => ?_⟩
  induction hk generalizing n with
  | stay c => exact ⟨Nat.zero_le n, n, h⟩
  | step hs _ ih =>
    obtain ⟨m, rfl, hm⟩ := h.begin hd hf hs
    obtain ⟨hle, hrest⟩ := ih hm
    exact ⟨Nat.succ_le_succ hle, hrest⟩

end Walk

lemma Diamond.of_commutes {f g : σ → Option σ}
    (h : ∀ {c d e}, f c = some d → g c = some e → ∃ x, g d = some x ∧ f e = some x) :
    Diamond fun c d => f c = some d ∨ g c = some d := by
  rintro c d e (hd | hd) (he | he)
  · exact .inl (Option.some.inj (hd.symm.trans he))
  · obtain ⟨x, hx, hx'⟩ := h hd he
    exact .inr ⟨x, .inr hx, .inl hx'⟩
  · obtain ⟨x, hx, hx'⟩ := h he hd
    exact .inr ⟨x, .inl hx', .inr hx⟩
  · exact .inl (Option.some.inj (hd.symm.trans he))

namespace Leads

lemma refl (c : σ) : Leads step c c := ⟨0, .stay c⟩

lemma of_step (h : step c d) : Leads step c d := ⟨1, .step h (.stay d)⟩

lemma trans (h : Leads step c d) (k : Leads step d e) : Leads step c e := by
  obtain ⟨n, h⟩ := h
  obtain ⟨m, k⟩ := k
  exact ⟨n + m, h.trans k⟩

lemma comesTo (h : Leads step c final) (hd : Diamond step) (hf : ∀ d, ¬ step final d) : ComesTo step c final := by
  obtain ⟨n, hn⟩ := h
  exact hn.comesTo hd hf

end Leads

namespace ComesTo

lemma coarsen (h : ComesTo fine c final) (hf : ∀ d e, fine d e → coarse d e)
    (hc : ∀ d e, coarse d e → ∃ n, Walk fine (n + 1) d e) : ComesTo coarse c final := by
  obtain ⟨hend, n, hn⟩ := h
  refine ⟨fun d hd => ?_, n, fun k d hk => ?_⟩
  · obtain ⟨l, hl⟩ := hc _ _ hd
    cases hl with
    | step hs _ => exact hend _ hs
  · obtain ⟨m, hle, hm⟩ := hk.refine hc
    obtain ⟨hbound, l, hl⟩ := hn m d hm
    exact ⟨Nat.le_trans hle hbound, l, hl.mono hf⟩

end ComesTo

end PimSync.Simulation
