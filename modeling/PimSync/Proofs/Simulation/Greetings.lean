import PimSync.Proofs.Simulation.Scenes

/-! How desktop and device find each other, and how they never do. -/

namespace PimSync

open Wire Exchange

lemma Device.call_asks (d : Device) {f g : Frame} (hf : Message.frame ⟨.deviceReady, ()⟩ = .ok f)
    (hg : Message.ofFrame g = .ok ready) (desktop : Endpoint) (caller : String) : ∃ next,
    d.meet true desktop = .ask (.dial .inbound desktop) next ∧ (∃ ask, next (.ok ()) = .ask (.receive .inbound) ask) ∧
      ∃ next', (next (.ok ())).After (Exchange.delivery .inbound f) (.ask (.accept .outbound) next') ∧
        (next' (.ok caller)).After (Exchange.collection .outbound g) (.done (.again d)) := by
  have hdelivered : (deliver .inbound ⟨.deviceReady, ()⟩).run.Yields (Exchange.delivery .inbound f) (.ok ()) :=
    yields_deliver.mpr ⟨f, hf, rfl⟩
  exact ⟨_, rfl, ⟨_, rfl⟩, _, (hdelivered.bind _).bind _, (Device.yields_expectReady hg).bind _⟩

namespace Simulation

open Encounter

lemma Voice.onOutgoing_of_undialling {α : Type} {p q : Voice α} {c calls : Calls} {host : Leg → String} {x : Contact}
    (h : p.contact c host = some (q, x)) (hu : p.talk.Undialling) : x.onOutgoing calls = calls := by
  obtain ⟨talk, moved⟩ := p
  unfold contact at h
  split at h
  case h_1 =>
    cases h
    rfl
  case h_2 =>
    rename_i ht
    cases ht
    exact absurd trivial hu.1
  case h_3 =>
    split at h <;> cases h
    rfl
  case h_4 => cases h

namespace Encounter

variable {α : Type} {e f : Encounter α} {Q : α → Talk Device.Served → Prop} {leg : Leg}

lemma undialling_of_stepDevice (h : e.stepDevice = some f) (hu : e.duet.device.talk.Undialling) :
    f.duet.device.talk.Undialling ∧ f.toDesktop = e.toDesktop := by
  constructor
  · rcases after_of_stepDevice h with ⟨es, hes⟩ | ⟨d, -, ht⟩
    · exact (hu.after hes).2
    · rw [ht]
      exact d.undialling_round
  · rcases stepDevice_eq_some.mp h with ⟨p, x, hp, rfl⟩ | ⟨c, -, rfl⟩
    · exact Voice.onOutgoing_of_undialling hp hu
    · rfl

lemma ends_of_uncalled {next : Except LinkError String → Talk α} (hd : e.duet.desktop.talk = .ask (.accept leg) next)
    (hc : e.toDesktop = .none) (hu : e.duet.device.talk.Undialling) : e.Ends Q := by
  rintro f ⟨n, hf⟩ a ha
  induction hf with
  | stay => cases hd.symm.trans ha
  | step hs _ ih =>
    rcases hs with hs | hs
    · simp [stepDesktop, Voice.contact, hd, hc, Calls.none, Duet.stepDesktop, Voice.step] at hs
    · obtain ⟨hu', hc'⟩ := undialling_of_stepDevice hs hu
      exact ih (by rw [desktop_of_stepDevice hs, hd]) (hc'.trans hc) hu' ha

end Encounter

namespace Scene

variable {α : Type} {c : Scene} {d : Device} {desktop address : Endpoint} {x y : Calls} {host : Leg → String}
  {leg : Leg} {f : Frame} {z : Talk Device.Served}

def before (initiating : Bool) (d : Device) (desktop : Endpoint) (host : Leg → String) : Scene :=
  ⟨.start (d.meet initiating desktop), .idle, .idle, .none, .none, host⟩

structure Parted (c : Scene) : Prop where
  ended : (c.toDevice .outbound).ended
  called : c.called = .none
  undialling : c.device.talk.Undialling

def hangUp (c : Scene) (present : Bool) (leg : Leg) : Scene :=
  if present then { c with toDevice := c.toDevice.edit leg .finish } else c

lemma Parted.hangUp (h : c.Parted) (present : Bool) (leg : Leg) : (c.hangUp present leg).Parted := by
  cases present with
  | false => exact h
  | true =>
    refine ⟨?_, h.called, h.undialling⟩
    change (Pipes.edit c.toDevice leg .finish .outbound).ended
    unfold Pipes.edit
    split
    · rfl
    · exact h.ended

section Steps

lemma becomes_listen (c : Scene) (address : Endpoint) : c.Becomes (Talk.request (.listen address)) (.ok ()) c :=
  fun _ _ => through_contact (c := .bind) rfl

lemma becomes_dial (c : Scene) (leg : Leg) (address : Endpoint) :
    c.Becomes (Talk.request (.dial leg address)) (.ok ()) { c with dialled := c.dialled.add leg } :=
  fun _ _ => through_contact (c := .dial leg) rfl

lemma becomes_unlisten (c : Scene) : c.Becomes (Talk.request .unlisten) () c :=
  fun _ _ => through_of_desktop (.step (x := .within) rfl (.stay _ _ _))

lemma does_deliver_ended (h : (c.toDevice leg).ended) (m : Message) :
    c.Does (deliver leg m).run fun r c' => (∃ e, r = .error e) ∧ c' = c := by
  obtain ⟨ask, hrun, hfails⟩ := deliver_asks_first leg m
  obtain ⟨e, he⟩ := hfails (.error (.link .closed)) nofun
  have hbecomes : c.Becomes (deliver leg m).run (.error e) c := by
    intro β k
    rw [hrun]
    refine through_of_desktop (.step (q := .start (k (.error e))) (x := .within) ?_ (.stay _ _ _))
    change Voice.step ⟨.ask (.receive leg) fun answer => ask answer >>= k, []⟩ c.toDevice _ = _
    simp only [Voice.step, if_pos h, he]
    rfl
  exact hbecomes.does ⟨⟨e, rfl⟩, rfl⟩

end Steps

section Calls

lemma becomes_called {next : Except LinkError Unit → Talk Device.Served}
    (hn : ∀ e, next (.ok ()) ≠ .done (.finished (.error e))) :
    Becomes ⟨.start (.ask (.dial .inbound desktop) next), .idle, .idle, x, .none, host⟩
      (Talk.request (.accept .inbound)) (.ok (host .inbound))
      ⟨.start (next (.ok ())), .idle, .idle, x, .none, host⟩ := by
  intro β k
  have hdialled : Through
      (Encounter.meet (Talk.request (.accept .inbound) >>= k) (.ask (.dial .inbound desktop) next) x .none host)
      (Encounter.meet (Talk.request (.accept .inbound) >>= k) (next (.ok ())) x (Calls.none.add .inbound) host) :=
    through_contacted (c := .dial .inbound) (e := ⟨.dial .inbound desktop, .ok ()⟩) rfl (.answered _ (.here _))
      ⟨nofun, nofun⟩ hn
  have htaken : Through
      (Encounter.meet (Talk.request (.accept .inbound) >>= k) (next (.ok ())) x (Calls.none.add .inbound) host)
      (Encounter.meet (k (.ok (host .inbound))) (next (.ok ())) x ((Calls.none.add .inbound).take .inbound) host) :=
    through_contact (c := .accept .inbound) rfl
  rw [Calls.take_none_add] at htaken
  exact hdialled.trans htaken

lemma becomes_greeted {next : Except LinkError String → Talk Device.Served} (hf : ready.frame = .ok f)
    (hz : (next (.ok (host .outbound))).After (collection .outbound f) z)
    (hn : ∀ e, z ≠ .done (.finished (.error e))) :
    Becomes ⟨.start (.ask (.accept .outbound) next), .idle, .idle, Calls.none.add .outbound, .none, host⟩
      (deliver .outbound ready).run (.ok ()) ⟨.start z, .idle, .idle, .none, .none, host⟩ := by
  intro β k
  obtain ⟨g, hg, hclear, -⟩ := exists_frame fits_ready
  obtain rfl : g = f := Except.ok.inj (hg.symm.trans hf)
  have haccepted : Through
      (Encounter.meet ((deliver .outbound ready).run >>= k) (.ask (.accept .outbound) next)
        (Calls.none.add .outbound) .none host)
      (Encounter.meet ((deliver .outbound ready).run >>= k) (next (.ok (host .outbound)))
        ((Calls.none.add .outbound).take .outbound) .none host) :=
    through_contacted (c := .accept .outbound) (e := ⟨.accept .outbound, .ok (host .outbound)⟩) rfl
      (.answered _ (.here _)) ⟨nofun, nofun⟩ (goes_on hz hn)
  rw [Calls.take_none_add] at haccepted
  have hdelivered : (deliver .outbound ready).run.Yields (delivery .outbound g) (.ok ()) :=
    yields_deliver.mpr ⟨g, hf, rfl⟩
  exact haccepted.trans (through_crossings (Crossing.clear_message hclear true .outbound) (Crossing.silent_ready g)
    (hdelivered.bind k) hz hn)

lemma becomes_announced {m : Message} {t : Talk Device.Served} (hm : m.frame = .ok f) (hfit : m.Fits)
    (hz : t.After (delivery .inbound f) z) (hn : ∀ e, z ≠ .done (.finished (.error e))) :
    Becomes ⟨.start t, .idle, .idle, x, .none, host⟩ (collect .inbound).run (.ok m)
      ⟨.start z, .idle, .idle, x, .none, host⟩ := by
  intro β k
  obtain ⟨g, hg, hclear, hread⟩ := exists_frame hfit
  obtain rfl : g = f := Except.ok.inj (hg.symm.trans hm)
  have hcollected : (collect .inbound).run.Yields (collection .inbound g) (.ok m) := yields_collect.mpr ⟨g, hread, rfl⟩
  exact through_crossings (Crossing.clear_message hclear false .inbound) (Crossing.silent_message g)
    (hcollected.bind k) hz hn

lemma Becomes.again {t : Talk α} {a : α} (h : c.Becomes t a ⟨.start (.done (.again d)), .idle, .idle, x, .none, host⟩) :
    c.Becomes t a (awaiting d x host) :=
  fun β k => (h β k).trans through_again

lemma Parted.does_accept (h : c.Parted) (leg : Leg) : c.Does (Talk.request (.accept leg)) fun _ _ => False :=
  fun _ _ _ _ _ => ends_of_uncalled rfl h.called h.undialling

lemma does_await (d : Device) (desktop : Endpoint) (host : Leg → String) :
    (before false d desktop host).Does (Talk.request (.accept .inbound)) fun _ _ => False := by
  intro β k Q _ _
  -- each waits to be called by the other
  exact ends_of_rest rfl rfl nofun

lemma does_collide (d : Device) (desktop : Endpoint) (host : Leg → String) (m : Message) :
    Does { before true d desktop host with dialled := Calls.none.add .outbound } (deliver .outbound m).run
      fun _ _ => False := by
  intro β k Q hQ _
  obtain ⟨f, hf, -⟩ := exists_frame (m := ⟨.deviceReady, ()⟩) (by decide)
  obtain ⟨g, -, -, hg⟩ := exists_frame fits_ready
  obtain ⟨next, hmeet, ⟨ask, hnext⟩, -⟩ := d.call_asks hf hg desktop ""
  obtain ⟨ask', hrun, -⟩ := deliver_asks_first .outbound m
  rw [before, hmeet, hrun]
  apply through_contacted (c := .dial .inbound) (e := ⟨.dial .inbound desktop, .ok ()⟩) rfl (.answered _ (.here _))
    ⟨nofun, nofun⟩ (by rw [hnext]; nofun) Q hQ
  rw [hnext]
  -- both have called, and each waits for the other to ask
  exact ends_of_rest (not_stepDesktop_of_waiting rfl rfl rfl rfl) (not_stepDevice_of_waiting rfl rfl rfl) nofun

end Calls

end Scene

end Simulation

end PimSync
