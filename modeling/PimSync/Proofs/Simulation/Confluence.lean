import PimSync.Proofs.Simulation.Walks
import PimSync.Simulation.Duet

/-! The order in which two parties move does not matter: they always come to the same end. -/

namespace PimSync.Simulation

open Wire

namespace Pipe

def Le (p q : Pipe) : Prop := p.bytes <+: q.bytes ∧ (p.ended → q = p)

lemma le_refl (p : Pipe) : p.Le p := ⟨List.prefix_refl _, fun _ => rfl⟩

lemma Le.trans {p q r : Pipe} (h : p.Le q) (k : q.Le r) : p.Le r := by
  refine ⟨h.1.trans k.1, fun he => ?_⟩
  obtain rfl := h.2 he
  exact k.2 he

lemma le_push (p : Pipe) (b : UInt8) : p.Le (p.push b) := by
  unfold push
  split
  · exact le_refl p
  · exact ⟨List.prefix_append _ _, fun he => absurd he ‹_›⟩

lemma le_finish (p : Pipe) : p.Le p.finish := by
  refine ⟨List.prefix_refl _, fun he => ?_⟩
  obtain ⟨bytes, ended⟩ := p
  cases he
  rfl

lemma push_pop {p : Pipe} (b : UInt8) (hp : p.bytes ≠ []) : (p.push b).pop = p.pop.push b := by
  obtain ⟨bytes, ended⟩ := p
  cases bytes with
  | nil => exact absurd rfl hp
  | cons c bytes => cases ended <;> rfl

lemma finish_pop (p : Pipe) : p.finish.pop = p.pop.finish := rfl

end Pipe

namespace Pipes

variable {p q : Pipes} {leg leg' : Leg} {f g : Pipe → Pipe}

lemma edit_self : p.edit leg f leg = f (p leg) := if_pos rfl

lemma edit_of_ne (h : leg' ≠ leg) : p.edit leg f leg' = p leg' := if_neg h

lemma edit_comm (h : leg = leg' → f (g (p leg)) = g (f (p leg))) :
    (p.edit leg g).edit leg' f = (p.edit leg' f).edit leg g := by
  funext l
  unfold edit
  by_cases hl : l = leg
  · by_cases hl' : l = leg'
    · subst hl
      subst hl'
      simpa using h rfl
    · simp only [if_pos hl, if_neg hl']
  · simp only [if_neg hl]

end Pipes

namespace Move

variable {p : Pipes} {x y : Move} {leg : Leg}

lemma le_onOutgoing (x : Move) (p : Pipes) (leg : Leg) : (p leg).Le (x.onOutgoing p leg) := by
  cases x with
  | within => exact Pipe.le_refl _
  | read leg' => exact Pipe.le_refl _
  | write leg' b =>
    by_cases h : leg = leg'
    · subst h
      rw [onOutgoing, Pipes.edit_self]
      exact Pipe.le_push _ _
    · rw [onOutgoing, Pipes.edit_of_ne h]
      exact Pipe.le_refl _
  | close leg' =>
    by_cases h : leg = leg'
    · subst h
      rw [onOutgoing, Pipes.edit_self]
      exact Pipe.le_finish _
    · rw [onOutgoing, Pipes.edit_of_ne h]
      exact Pipe.le_refl _

lemma ended_onIncoming (x : Move) (p : Pipes) (leg : Leg) : (x.onIncoming p leg).ended = (p leg).ended := by
  cases x with
  | read leg' =>
    by_cases h : leg = leg'
    · subst h
      rw [onIncoming, Pipes.edit_self]
      rfl
    · rw [onIncoming, Pipes.edit_of_ne h]
  | _ => rfl

lemma comm (h : ∀ leg, y = .read leg → (p leg).bytes ≠ []) :
    y.onIncoming (x.onOutgoing p) = x.onOutgoing (y.onIncoming p) := by
  cases y with
  | read leg =>
    cases x with
    | write leg' b =>
      simp only [onIncoming, onOutgoing]
      apply Pipes.edit_comm
      rintro rfl
      exact Pipe.push_pop b (h _ rfl)
    | close leg' =>
      simp only [onIncoming, onOutgoing]
      exact Pipes.edit_comm fun _ => Pipe.finish_pop _
    | _ => rfl
  | _ => rfl

end Move

namespace Voice

variable {α : Type} {p p' : Voice α} {outgoing outgoing' incoming incoming' : Pipes} {x : Move}

lemma read_of_step (h : p.step outgoing incoming = some (p', x)) (leg : Leg) (hx : x = .read leg) :
    (incoming leg).bytes ≠ [] := by
  subst hx
  unfold step at h
  split at h <;> try cases h
  · split at h
    · cases h
    · split at h <;> cases h
  · split at h
    · cases h
    · split at h
      · cases h
      · cases h
      · split at h
        · rename_i hb
          cases h
          simp [hb]
        · split at h <;> cases h

lemma step_mono (h : p.step outgoing incoming = some (p', x))
    (ho : ∀ leg, (outgoing' leg).ended = (outgoing leg).ended)
    (hi : ∀ leg, (incoming leg).Le (incoming' leg)) : p.step outgoing' incoming' = some (p', x) := by
  unfold step at h ⊢
  split at h <;> try cases h
  · rfl
  · rfl
  · simp only [ho]
    exact h
  · rename_i leg next _
    -- what was in front when the party read is in front still, and an end stays where it is
    simp only [ho]
    by_cases hc : (outgoing leg).ended
    · rw [if_pos hc] at h ⊢
      exact h
    rw [if_neg hc] at h ⊢
    split at h
    · exact h
    · exact h
    · obtain ⟨⟨tail, ht⟩, he⟩ := hi leg
      split at h
      · rename_i b rest hb
        rw [hb] at ht
        simp only [← ht, List.cons_append]
        exact h
      · rename_i hb
        split at h
        · rename_i hend
          rw [he hend, hb]
          simp only [hend, if_true]
          exact h
        · cases h

end Voice

namespace Duet

variable {α : Type} {d e f final : Duet α} {n k : Nat}

lemma heard_of_not_hungUp (h : d.hasHungUp = false) : d.heard = d.toDesktop := by
  funext leg
  simp [heard, h]

lemma le_heard {p : Pipes} (h : d.toDesktop = p) (leg : Leg) : (p leg).Le (d.heard leg) := by
  subst h
  unfold heard
  split
  · exact Pipe.le_finish _
  · exact Pipe.le_refl _

lemma stepDesktop_eq_some : d.stepDesktop = some e ↔ ∃ p x, d.desktop.step d.toDevice d.heard = some (p, x) ∧
    e = { d with desktop := p, toDevice := x.onOutgoing d.toDevice, toDesktop := x.onIncoming d.toDesktop } := by
  constructor
  · intro h
    obtain ⟨⟨p, x⟩, hp, rfl⟩ := Option.map_eq_some_iff.mp h
    exact ⟨p, x, hp, rfl⟩
  · rintro ⟨p, x, hp, rfl⟩
    simp [stepDesktop, hp]

lemma stepDevice_eq_some : d.stepDevice = some e ↔
    (∃ v, d.device.talk = .done (.again v) ∧ e = { d with device := .start v.round }) ∨
    ∃ p x, d.device.step d.toDesktop d.toDevice = some (p, x) ∧
      e = { d with device := p, toDesktop := x.onOutgoing d.toDesktop, toDevice := x.onIncoming d.toDevice } := by
  unfold stepDevice
  split
  · rename_i v ht
    constructor
    · intro h
      exact .inl ⟨v, ht, (Option.some.inj h).symm⟩
    · rintro (⟨w, hw, rfl⟩ | ⟨p, x, hp, -⟩)
      · cases ht.symm.trans hw
        rfl
      · simp [Voice.step, ht] at hp
  · rename_i ht
    constructor
    · intro h
      obtain ⟨⟨p, x⟩, hp, rfl⟩ := Option.map_eq_some_iff.mp h
      exact .inr ⟨p, x, hp, rfl⟩
    · rintro (⟨v, hv, -⟩ | ⟨p, x, hp, rfl⟩)
      · exact absurd hv (ht v)
      · simp [hp]

lemma hasHungUp_of_stepDevice (h : d.stepDevice = some e) : d.hasHungUp = false := by
  rw [hasHungUp]
  split
  · rename_i ht
    simp [stepDevice, ht, Voice.step] at h
  · rfl

lemma commutes (hd : d.stepDesktop = some e) (hv : d.stepDevice = some f) :
    ∃ g, e.stepDevice = some g ∧ f.stepDesktop = some g := by
  -- a device that moves has not hung up, so the desktop has not seen an end that was not there before
  have hh := heard_of_not_hungUp (hasHungUp_of_stepDevice hv)
  obtain ⟨p, x, hp, rfl⟩ := stepDesktop_eq_some.mp hd
  rw [hh] at hp
  rcases stepDevice_eq_some.mp hv with ⟨v, ht, rfl⟩ | ⟨q, y, hq, rfl⟩
  · refine ⟨{ d with
      desktop := p, device := .start v.round, toDevice := x.onOutgoing d.toDevice
      toDesktop := x.onIncoming d.toDesktop }, stepDevice_eq_some.mpr (.inl ⟨v, ht, rfl⟩), ?_⟩
    refine stepDesktop_eq_some.mpr ⟨p, x, ?_, rfl⟩
    exact Voice.step_mono hp (fun _ => rfl) (le_heard rfl)
  · have hpop := Voice.read_of_step hp
    have hpop' := Voice.read_of_step hq
    refine ⟨{ d with
      desktop := p, device := q, toDevice := y.onIncoming (x.onOutgoing d.toDevice)
      toDesktop := y.onOutgoing (x.onIncoming d.toDesktop) }, stepDevice_eq_some.mpr (.inr ⟨q, y, ?_, rfl⟩), ?_⟩
    · exact Voice.step_mono hq (Move.ended_onIncoming x _) (Move.le_onOutgoing x _)
    · refine stepDesktop_eq_some.mpr ⟨p, x, ?_, ?_⟩
      · refine Voice.step_mono hp (Move.ended_onIncoming y _) fun leg => ?_
        apply (Move.le_onOutgoing y d.toDesktop leg).trans
        apply le_heard
        rfl
      · rw [Move.comm hpop', Move.comm hpop]

def Moves (d e : Duet α) : Prop := d.stepDesktop = some e ∨ d.stepDevice = some e

lemma diamond : Diamond (Moves (α := α)) := .of_commutes commutes

lemma steps_iff_walk : Steps n d e ↔ Walk Moves n d e := by
  constructor
  · intro h
    induction h with
    | stay d => exact .stay d
    | desktop hs _ ih => exact .step (.inl hs) ih
    | device hs _ ih => exact .step (.inr hs) ih
  · intro h
    induction h with
    | stay d => exact .stay d
    | step hs _ ih =>
      rcases hs with hs | hs
      · exact .desktop hs ih
      · exact .device hs ih

lemma Steps.begin (h : Steps n d final) (he : final.stepDesktop = none) (hv : final.stepDevice = none)
    (hs : d.Moves e) : ∃ m, n = m + 1 ∧ Steps m e final := by
  have hend : ∀ f, ¬ final.Moves f := by
    rintro f (hf | hf)
    · simp [he] at hf
    · simp [hv] at hf
  obtain ⟨m, hm, hrest⟩ := (steps_iff_walk.mp h).begin diamond hend hs
  exact ⟨m, hm, steps_iff_walk.mpr hrest⟩

lemma settles_of_steps (h : Steps n d final) (he : final.stepDesktop = none) (hv : final.stepDevice = none) :
    d.Settles final := by
  refine ⟨he, hv, n, fun k e hk => ?_⟩
  induction hk generalizing n with
  | stay d => exact ⟨Nat.zero_le n, h⟩
  | desktop hs _ ih =>
    obtain ⟨m, rfl, hm⟩ := h.begin he hv (.inl hs)
    obtain ⟨hle, hrest⟩ := ih hm
    exact ⟨Nat.succ_le_succ hle, by rwa [Nat.add_sub_add_right]⟩
  | device hs _ ih =>
    obtain ⟨m, rfl, hm⟩ := h.begin he hv (.inr hs)
    obtain ⟨hle, hrest⟩ := ih hm
    exact ⟨Nat.succ_le_succ hle, by rwa [Nat.add_sub_add_right]⟩

end Duet

end PimSync.Simulation
