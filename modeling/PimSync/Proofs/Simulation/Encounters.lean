import PimSync.Proofs.Simulation.Standstill
import PimSync.Simulation.Encounter

namespace PimSync

lemma Device.meet_asks (d : Device) {f : Wire.Frame} (hf : Message.ofFrame f = .ok ready) (desktop : Endpoint)
    (caller : String) : ∃ next, d.meet false desktop = .ask (.accept .outbound) next ∧ ∃ next',
      (next (.ok caller)).After (Exchange.collection .outbound f) (.ask (.dial .inbound desktop) next') ∧
      next' (.ok ()) = .done (.again d) := by
  have hready := yields_expectReady hf
  exact ⟨_, rfl, _, (hready.bind _).bind _, rfl⟩

end PimSync

namespace PimSync.Simulation

open Wire

namespace Calls

variable {c : Calls} {leg leg' : Leg}

lemma take_add (h : c leg ≠ 0) : (c.add leg').take leg = (c.take leg).add leg' := by
  funext l
  unfold take add
  by_cases hl : l = leg
  · subst hl
    simp only [if_true]
    split <;> omega
  · simp only [if_neg hl]

lemma take_none_add (leg : Leg) : (none.add leg).take leg = none := by
  funext l
  unfold take add none
  split <;> rfl

lemma add_ne_zero (h : c leg ≠ 0) (leg' : Leg) : c.add leg' leg ≠ 0 := by
  unfold add
  split <;> omega

end Calls

namespace Contact

variable {c : Calls} {leg : Leg} {x y : Contact}

lemma onOutgoing_ne_zero (x : Contact) (h : c leg ≠ 0) : x.onOutgoing c leg ≠ 0 := by
  cases x with
  | dial leg' => exact Calls.add_ne_zero h leg'
  | _ => exact h

lemma comm (h : ∀ leg, y = .accept leg → c leg ≠ 0) :
    y.onIncoming (x.onOutgoing c) = x.onOutgoing (y.onIncoming c) := by
  cases y with
  | accept leg =>
    cases x with
    | dial leg' => exact Calls.take_add (h leg rfl)
    | _ => rfl
  | _ => rfl

end Contact

namespace Voice

variable {α : Type} {p p' : Voice α} {outgoing incoming : Pipes} {c c' : Calls} {host : Leg → String} {x : Contact}
  {r : Voice α × Move}

lemma contact_of_step (h : p.step outgoing incoming = some r) (c : Calls) (host : Leg → String) :
    p.contact c host = none := by
  obtain ⟨talk, moved⟩ := p
  cases talk with
  | done a => rfl
  | ask r next =>
    cases r with
    | listen | accept | dial => cases h
    | _ => rfl

lemma taken_of_contact (h : p.contact c host = some (p', x)) (leg : Leg) (hx : x = .accept leg) : c leg ≠ 0 := by
  subst hx
  unfold contact at h
  split at h <;> try cases h
  split at h <;> cases h
  assumption

lemma contact_mono (h : p.contact c host = some (p', x)) (hc : ∀ leg, c leg ≠ 0 → c' leg ≠ 0) :
    p.contact c' host = some (p', x) := by
  unfold contact at h ⊢
  split at h
  · exact h
  · exact h
  · rename_i leg next _
    split at h
    · cases h
    · rename_i hl
      rw [if_neg (hc leg hl)]
      exact h
  · cases h

end Voice

namespace Duet

variable {α : Type} {c d : Duet α}

lemma stepDevice_desktop (h : c.stepDevice = some d) (p : Voice α) :
    stepDevice { c with desktop := p } = some { d with desktop := p } ∧ d.desktop = c.desktop := by
  rcases stepDevice_eq_some.mp h with ⟨v, ht, rfl⟩ | ⟨v, x, hv, rfl⟩
  · exact ⟨stepDevice_eq_some.mpr (.inl ⟨v, ht, rfl⟩), rfl⟩
  · exact ⟨stepDevice_eq_some.mpr (.inr ⟨v, x, hv, rfl⟩), rfl⟩

lemma stepDesktop_device (h : c.stepDesktop = some d) (hc : c.hasHungUp = false) (v : Voice Device.Served) :
    stepDesktop { c with device := v } = some { d with device := v } ∧ d.device = c.device := by
  obtain ⟨p, x, hp, rfl⟩ := stepDesktop_eq_some.mp h
  rw [heard_of_not_hungUp hc] at hp
  refine ⟨stepDesktop_eq_some.mpr ⟨p, x, ?_, rfl⟩, rfl⟩
  exact Voice.step_mono hp (fun _ => rfl) (le_heard rfl)

lemma hasHungUp_of_contact {calls : Calls} {host : Leg → String} {r : Voice Device.Served × Contact}
    (h : c.device.contact calls host = some r) : c.hasHungUp = false := by
  rw [hasHungUp]
  split
  · rename_i ht
    simp [Voice.contact, ht] at h
  · rfl

end Duet

namespace Encounter

variable {α : Type} {d e f : Encounter α} {c c' : Duet α}

lemma stepDesktop_eq_some : d.stepDesktop = some e ↔
    (∃ p x, d.duet.desktop.contact d.toDesktop d.host = some (p, x) ∧ e = ⟨{ d.duet with desktop := p },
      x.onOutgoing d.toDevice, x.onIncoming d.toDesktop, d.host⟩) ∨
    ∃ c, d.duet.stepDesktop = some c ∧ e = { d with duet := c } := by
  unfold stepDesktop
  constructor
  · intro h
    split at h
    · rename_i p x hp
      exact .inl ⟨p, x, hp, (Option.some.inj h).symm⟩
    · obtain ⟨c, hc, rfl⟩ := Option.map_eq_some_iff.mp h
      exact .inr ⟨c, hc, rfl⟩
  · rintro (⟨p, x, hp, rfl⟩ | ⟨c, hc, rfl⟩)
    · rw [hp]
    · obtain ⟨p, x, hp, -⟩ := Duet.stepDesktop_eq_some.mp hc
      rw [Voice.contact_of_step hp, hc]
      rfl

lemma stepDevice_eq_some : d.stepDevice = some e ↔
    (∃ p x, d.duet.device.contact d.toDevice d.host = some (p, x) ∧ e = ⟨{ d.duet with device := p },
      x.onIncoming d.toDevice, x.onOutgoing d.toDesktop, d.host⟩) ∨
    ∃ c, d.duet.stepDevice = some c ∧ e = { d with duet := c } := by
  unfold stepDevice
  constructor
  · intro h
    split at h
    · rename_i p x hp
      exact .inl ⟨p, x, hp, (Option.some.inj h).symm⟩
    · obtain ⟨c, hc, rfl⟩ := Option.map_eq_some_iff.mp h
      exact .inr ⟨c, hc, rfl⟩
  · rintro (⟨p, x, hp, rfl⟩ | ⟨c, hc, rfl⟩)
    · rw [hp]
    · have hnone : d.duet.device.contact d.toDevice d.host = none := by
        rcases Duet.stepDevice_eq_some.mp hc with ⟨v, ht, -⟩ | ⟨p, x, hp, -⟩
        · rw [Voice.contact, ht]
        · exact Voice.contact_of_step hp _ _
      rw [hnone, hc]
      rfl

lemma commutes (hd : d.stepDesktop = some e) (hv : d.stepDevice = some f) :
    ∃ g, e.stepDevice = some g ∧ f.stepDesktop = some g := by
  -- each of the two is either at a call or at a packet
  rcases stepDesktop_eq_some.mp hd with ⟨p, x, hp, rfl⟩ | ⟨c, hc, rfl⟩ <;>
    rcases stepDevice_eq_some.mp hv with ⟨q, y, hq, rfl⟩ | ⟨c', hc', rfl⟩
  · refine ⟨⟨{ d.duet with desktop := p, device := q }, y.onIncoming (x.onOutgoing d.toDevice),
      y.onOutgoing (x.onIncoming d.toDesktop), d.host⟩, stepDevice_eq_some.mpr (.inl ⟨q, y, ?_, rfl⟩),
      stepDesktop_eq_some.mpr (.inl ⟨p, x, ?_, ?_⟩)⟩
    · exact Voice.contact_mono hq fun _ => x.onOutgoing_ne_zero
    · exact Voice.contact_mono hp fun _ => y.onOutgoing_ne_zero
    · rw [Contact.comm (Voice.taken_of_contact hq), Contact.comm (Voice.taken_of_contact hp)]
  · obtain ⟨hstep, hdesktop⟩ := Duet.stepDevice_desktop hc' p
    refine ⟨_, stepDevice_eq_some.mpr (.inr ⟨_, hstep, rfl⟩), stepDesktop_eq_some.mpr (.inl ⟨p, x, ?_, rfl⟩)⟩
    rw [hdesktop]
    exact hp
  · obtain ⟨hstep, hdevice⟩ := Duet.stepDesktop_device hc (Duet.hasHungUp_of_contact hq) q
    refine ⟨_, stepDevice_eq_some.mpr (.inl ⟨q, y, ?_, rfl⟩), stepDesktop_eq_some.mpr (.inr ⟨_, hstep, rfl⟩)⟩
    rw [hdevice]
    exact hq
  · obtain ⟨g, hg, hg'⟩ := Duet.commutes hc hc'
    exact ⟨_, stepDevice_eq_some.mpr (.inr ⟨g, hg, rfl⟩), stepDesktop_eq_some.mpr (.inr ⟨g, hg', rfl⟩)⟩

lemma diamond : Diamond (Moves (α := α)) := .of_commutes commutes

variable {a b : Calls} {host : Leg → String} {final : Duet α} {device : Device}

lemma leads_of_duet (h : c.Leads c') : Leads Moves ⟨c, a, b, host⟩ ⟨c', a, b, host⟩ := by
  obtain ⟨n, h⟩ := h
  induction h with
  | stay => exact .refl _
  | desktop hs _ ih => exact (Leads.of_step (.inl (stepDesktop_eq_some.mpr (.inr ⟨_, hs, rfl⟩)))).trans ih
  | device hs _ ih => exact (Leads.of_step (.inr (stepDevice_eq_some.mpr (.inr ⟨_, hs, rfl⟩)))).trans ih

lemma comesTo_of_settles {x : α} (h : Leads Moves e ⟨c, a, b, host⟩) (hs : c.Settles final)
    (ht : final.desktop.talk = .done x) (hw : final.Waiting device) : ComesTo Moves e ⟨final, a, b, host⟩ := by
  obtain ⟨he, hv, n, hn⟩ := hs
  have hleads : c.Leads final := ⟨n, (hn 0 c (.stay c)).2⟩
  refine (h.trans (leads_of_duet hleads)).comesTo diamond fun d hd => ?_
  rcases hd with hd | hd
  · rcases stepDesktop_eq_some.mp hd with ⟨p, y, hp, -⟩ | ⟨c, hc, -⟩
    · simp [Voice.contact, ht] at hp
    · simp [he] at hc
  · rcases stepDevice_eq_some.mp hd with ⟨p, y, hp, -⟩ | ⟨c, hc, -⟩
    · obtain ⟨next, -, hdevice⟩ := hw.device
      simp [Voice.contact, hdevice, Voice.start] at hp
    · simp [hv] at hc

lemma leads_of_desktop {p q : Voice α} {v : Voice Device.Served} {y z : Pipes} {x : Contact}
    (h : p.contact b host = some (q, x)) :
    Leads Moves ⟨⟨p, v, y, z⟩, a, b, host⟩ ⟨⟨q, v, y, z⟩, x.onOutgoing a, x.onIncoming b, host⟩ :=
  .of_step (.inl (stepDesktop_eq_some.mpr (.inl ⟨q, x, h, rfl⟩)))

lemma leads_of_device {p : Voice α} {v w : Voice Device.Served} {y z : Pipes} {x : Contact}
    (h : v.contact a host = some (w, x)) :
    Leads Moves ⟨⟨p, v, y, z⟩, a, b, host⟩ ⟨⟨p, w, y, z⟩, x.onIncoming a, x.onOutgoing b, host⟩ :=
  .of_step (.inr (stepDevice_eq_some.mpr (.inl ⟨w, x, h, rfl⟩)))

lemma leads_meet {f : Frame} (hf : ready.frame = .ok f) {desktop address : Endpoint}
    {next : Except LinkError Unit → Talk α} {next' : Except LinkError String → Talk α}
    (ht : (next (.ok ())).After (Exchange.delivery .outbound f) (.ask (.accept .inbound) next')) :
    Leads Moves (start (.ask (.dial .outbound address) next) device desktop host)
      ⟨Duet.meet (next' (.ok (host .inbound))) device.round, .none, .none, host⟩ := by
  obtain ⟨g, hg, hclear, hready⟩ := exists_frame fits_ready
  obtain rfl : g = f := Except.ok.inj (hg.symm.trans hf)
  obtain ⟨next₁, hmeet, next₁', hcollect, hagain⟩ := Device.meet_asks device hready desktop (host .outbound)
  have hdial : Leads Moves (start (.ask (.dial .outbound address) next) device desktop host)
      ⟨Duet.meet (next (.ok ())) (.ask (.accept .outbound) next₁), Calls.none.add .outbound, .none, host⟩ := by
    rw [start, hmeet]
    exact leads_of_desktop (x := .dial .outbound) rfl
  have haccept : Leads Moves
      ⟨Duet.meet (next (.ok ())) (.ask (.accept .outbound) next₁), Calls.none.add .outbound, .none, host⟩
      ⟨Duet.meet (next (.ok ())) (next₁ (.ok (host .outbound))), (Calls.none.add .outbound).take .outbound, .none,
        host⟩ := leads_of_device (x := .accept .outbound) rfl
  have hcross : (Duet.meet (next (.ok ())) (next₁ (.ok (host .outbound)))).Leads
      (Duet.meet (.ask (.accept .inbound) next') (.ask (.dial .inbound desktop) next₁')) :=
    Duet.leads_of_crossings (Crossing.clear_message hclear true .outbound) ht hcollect
  have hcall : Leads Moves
      ⟨Duet.meet (.ask (.accept .inbound) next') (.ask (.dial .inbound desktop) next₁'), .none, .none, host⟩
      ⟨Duet.meet (.ask (.accept .inbound) next') (next₁' (.ok ())), .none, Calls.none.add .inbound, host⟩ :=
    leads_of_device (x := .dial .inbound) rfl
  have hanswer : Leads Moves
      ⟨Duet.meet (.ask (.accept .inbound) next') (next₁' (.ok ())), .none, Calls.none.add .inbound, host⟩
      ⟨Duet.meet (next' (.ok (host .inbound))) (next₁' (.ok ())), .none, (Calls.none.add .inbound).take .inbound,
        host⟩ := leads_of_desktop (x := .accept .inbound) rfl
  -- every call has been taken, so none is left when the first round begins
  rw [Calls.take_none_add] at haccept hanswer
  rw [hagain] at hcall hanswer
  have hmet := hdial.trans (haccept.trans (leads_of_duet hcross))
  exact hmet.trans (hcall.trans (hanswer.trans (leads_of_duet Duet.leads_again)))

end Encounter

end PimSync.Simulation
