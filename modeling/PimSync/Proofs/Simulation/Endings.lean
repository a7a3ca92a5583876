import PimSync.Proofs.Device.Standing
import PimSync.Proofs.Simulation.Encounters

/-! What holds whenever the desktop is through. It need only be watched as it moves ahead of the device as far as it
can. -/

namespace PimSync

lemma Talk.not_after_self {α : Type} {t : Talk α} {es : List Event} (h : t.After es t) : es = [] := by
  induction t generalizing es with
  | done a => exact (after_done.mp h).1
  | ask r next ih =>
    rcases after_ask.mp h with ⟨rfl, -⟩ | ⟨answer, rest, -, hrest⟩
    · rfl
    · have hagain : (next answer).After (rest ++ [⟨r, answer⟩]) (next answer) :=
        hrest.trans (.answered answer (.here _))
      simpa using ih answer hagain

namespace Simulation

open Wire

namespace Voice

variable {α : Type} {p q : Voice α} {a b a' b' : Pipes} {x : Move}

lemma after_of_step (h : p.step a b = some (q, x)) : ∃ es, p.talk.After es q.talk := by
  obtain ⟨talk, moved⟩ := p
  unfold step at h
  split at h
  case h_1 | h_2 | h_3 | h_4 => cases h
  case h_5 | h_6 =>
    rename_i ht
    cases ht
    cases h
    exact ⟨_, .answered _ (.here _)⟩
  case h_7 =>
    rename_i ht
    cases ht
    split at h
    · cases h
      exact ⟨_, .answered _ (.here _)⟩
    · split at h <;> cases h
      · exact ⟨_, .here _⟩
      · exact ⟨_, .answered _ (.here _)⟩
  case h_8 =>
    rename_i ht
    cases ht
    split at h
    · cases h
      exact ⟨_, .answered _ (.here _)⟩
    · split at h
      · cases h
        exact ⟨_, .answered _ (.here _)⟩
      · cases h
        exact ⟨_, .answered _ (.here _)⟩
      · split at h
        · cases h
          exact ⟨_, .here _⟩
        · split at h <;> cases h
          exact ⟨_, .answered _ (.here _)⟩

lemma after_of_contact {c : Calls} {host : Leg → String} {x : Contact} (h : p.contact c host = some (q, x)) :
    ∃ es, p.talk.After es q.talk := by
  obtain ⟨talk, moved⟩ := p
  unfold contact at h
  split at h
  case h_1 | h_2 =>
    rename_i ht
    cases ht
    cases h
    exact ⟨_, .answered _ (.here _)⟩
  case h_3 =>
    rename_i ht
    cases ht
    split at h <;> cases h
    exact ⟨_, .answered _ (.here _)⟩
  case h_4 => cases h

lemma Runs.after (h : p.Runs a b q a' b') : ∃ es, p.talk.After es q.talk := by
  induction h with
  | stay => exact ⟨_, .here _⟩
  | step hs _ ih =>
    obtain ⟨es, hes⟩ := after_of_step hs
    obtain ⟨fs, hfs⟩ := ih
    exact ⟨_, hes.trans hfs⟩

end Voice

namespace Encounter

variable {α : Type} {d e f g : Encounter α} {Q : α → Talk Device.Served → Prop} {a : α}

def Ends (e : Encounter α) (Q : α → Talk Device.Served → Prop) : Prop :=
  ∀ f, Leads Moves e f → ∀ a, f.duet.desktop.talk = .done a → Q a f.duet.device.talk

/-- What holds once the device has done something held before, unless it has been asked for something or has given
up. -/
structure Backed (Q : α → Talk Device.Served → Prop) : Prop where
  silent {a : α} {t u : Talk Device.Served} {e : Event} : t.After [e] u → e.IsSilent →
    (∀ x, u ≠ .done (.finished (.error x))) → Q a u → Q a t
  again {a : α} {d : Device} : Q a d.round → Q a (.done (.again d))

def Through (e f : Encounter α) : Prop := ∀ Q, Backed Q → f.Ends Q → e.Ends Q

namespace Through

lemma refl (e : Encounter α) : Through e e := fun _ _ h => h

lemma trans (h : Through e f) (k : Through f g) : Through e g := fun Q hQ hg => h Q hQ (k Q hQ hg)

end Through

lemma stepDesktop_of_done (h : e.duet.desktop.talk = .done a) : e.stepDesktop = none := by
  rw [Option.eq_none_iff_forall_ne_some]
  intro f hf
  rcases stepDesktop_eq_some.mp hf with ⟨p, x, hp, -⟩ | ⟨c, hc, -⟩
  · simp [Voice.contact, h] at hp
  · obtain ⟨p, x, hp, -⟩ := Duet.stepDesktop_eq_some.mp hc
    simp [Voice.step, h] at hp

lemma desktop_of_stepDevice (h : e.stepDevice = some f) : f.duet.desktop = e.duet.desktop := by
  rcases stepDevice_eq_some.mp h with ⟨p, x, -, rfl⟩ | ⟨c, hc, rfl⟩
  · rfl
  · exact (Duet.stepDevice_desktop hc e.duet.desktop).2

lemma device_of_stepDesktop (h : e.stepDesktop = some f) : f.duet.device = e.duet.device := by
  rcases stepDesktop_eq_some.mp h with ⟨p, x, -, rfl⟩ | ⟨c, hc, rfl⟩
  · rfl
  · obtain ⟨p, x, -, rfl⟩ := Duet.stepDesktop_eq_some.mp hc
    rfl

lemma after_of_stepDevice (h : e.stepDevice = some f) : (∃ es, e.duet.device.talk.After es f.duet.device.talk) ∨
    ∃ d, e.duet.device.talk = .done (.again d) ∧ f.duet.device.talk = d.round := by
  rcases stepDevice_eq_some.mp h with ⟨p, x, hp, rfl⟩ | ⟨c, hc, rfl⟩
  · exact .inl (Voice.after_of_contact hp)
  · rcases Duet.stepDevice_eq_some.mp hc with ⟨d, ht, rfl⟩ | ⟨p, x, hp, rfl⟩
    · exact .inr ⟨d, ht, rfl⟩
    · exact .inl (Voice.after_of_step hp)

lemma reaches_of_leads (h : Leads Moves e f) (he : Device.Reaches e.duet.device.talk) :
    Device.Reaches f.duet.device.talk := by
  obtain ⟨n, h⟩ := h
  induction h with
  | stay => exact he
  | step hs _ ih =>
    refine ih ?_
    rcases hs with hs | hs
    · rwa [device_of_stepDesktop hs]
    · rcases after_of_stepDevice hs with ⟨es, hes⟩ | ⟨d, -, ht⟩
      · exact he.after hes
      · rw [ht]
        exact .round (.here _)

lemma leads_of_stepDesktop (h : e.stepDesktop = some f) (hg : Leads Moves e g)
    (ha : g.duet.desktop.talk = .done a) : Leads Moves f g := by
  obtain ⟨n, hg⟩ := hg
  -- the steps that the device takes first commute with it, and the desktop takes it before it is through
  induction hg generalizing f with
  | stay => exact absurd h (by simp [stepDesktop_of_done ha])
  | step hs hrest ih =>
    rcases hs with hs | hs
    · cases h.symm.trans hs
      exact ⟨_, hrest⟩
    · obtain ⟨x, hx, hx'⟩ := commutes h hs
      exact (Leads.of_step (.inr hx)).trans (ih hx' ha)

lemma leads_of_stepDevice (h : e.stepDevice = some f) (hg : Leads Moves e g) : Leads Moves f g ∨
    ∃ x, g.stepDevice = some x ∧ Leads Moves f x ∧ g.duet.device = e.duet.device ∧
      x.duet.device = f.duet.device := by
  obtain ⟨n, hg⟩ := hg
  induction hg generalizing f with
  | stay e => exact .inr ⟨f, h, .refl f, rfl, rfl⟩
  | step hs hrest ih =>
    rcases hs with hs | hs
    · obtain ⟨y, hy, hy'⟩ := commutes hs h
      have hfirst : Leads Moves f y := .of_step (.inl hy')
      rcases ih hy with hg | ⟨x, hx, hfx, he, hf⟩
      · exact .inl (hfirst.trans hg)
      · exact .inr ⟨x, hx, hfirst.trans hfx, he.trans (device_of_stepDesktop hs),
          hf.trans (device_of_stepDesktop hy')⟩
    · cases h.symm.trans hs
      exact .inl ⟨_, hrest⟩

lemma through_of_stepDesktop (h : e.stepDesktop = some f) : Through e f :=
  fun _ _ hf g hg a ha => hf g (leads_of_stepDesktop h hg ha) a ha

lemma through_of_stepDevice (h : e.stepDevice = some f)
    (hq : ∀ Q : α → Talk Device.Served → Prop, Backed Q → ∀ a, Q a f.duet.device.talk → Q a e.duet.device.talk) :
    Through e f := by
  intro Q hQ hf g hg a ha
  rcases leads_of_stepDevice h hg with hg | ⟨x, hx, hfx, hge, hxf⟩
  · exact hf g hg a ha
  · rw [hge]
    apply hq Q hQ
    rw [← hxf]
    apply hf x hfx
    rw [desktop_of_stepDevice hx, ha]

lemma through_of_alone (hd : e.stepDesktop = none) (hn : ∀ a, e.duet.desktop.talk ≠ .done a)
    (h : e.stepDevice = some f) : Through e f := by
  rintro Q - hf g ⟨n, hg⟩ a ha
  cases hg with
  | stay => exact absurd ha (hn a)
  | step hs hrest =>
    rcases hs with hs | hs
    · simp [hd] at hs
    · cases h.symm.trans hs
      exact hf g ⟨_, hrest⟩ a ha

lemma ends_of_rest (hd : e.stepDesktop = none) (hv : e.stepDevice = none)
    (hq : ∀ a, e.duet.desktop.talk = .done a → Q a e.duet.device.talk) : e.Ends Q := by
  rintro f ⟨n, hf⟩ a ha
  cases hf with
  | stay => exact hq a ha
  | step hs _ => rcases hs with hs | hs <;> simp_all

lemma ends_of_done (hd : e.duet.desktop.talk = .done a) (hq : ∀ t, Q a t) : e.Ends Q := by
  rintro f ⟨n, hf⟩ b hb
  induction hf with
  | stay =>
    cases hd.symm.trans hb
    exact hq _
  | step hs _ ih =>
    rcases hs with hs | hs
    · simp [stepDesktop_of_done hd] at hs
    · exact ih (by rw [desktop_of_stepDevice hs, hd]) hb

section Links

variable {p q : Voice α} {v w : Voice Device.Served} {a b a' b' : Pipes} {x y : Calls} {host : Leg → String}
  {z z' : Talk Device.Served} {leg : Leg} {packet : Packet}

lemma through_of_desktop (h : p.Runs a b q a' b') :
    Through ⟨⟨p, v, a, b⟩, x, y, host⟩ ⟨⟨q, v, a', b'⟩, x, y, host⟩ := by
  induction h with
  | stay => exact .refl _
  | step hs _ ih =>
    exact (through_of_stepDesktop (stepDesktop_eq_some.mpr (.inr ⟨_, Duet.stepDesktop_of_step hs, rfl⟩))).trans ih

lemma through_of_bytes (h : v.Runs b a w b' a') (ht : w.talk = v.talk) :
    Through ⟨⟨p, v, a, b⟩, x, y, host⟩ ⟨⟨p, w, a', b'⟩, x, y, host⟩ := by
  induction h with
  | stay => exact .refl _
  | @step v u w _ b a _ _ hs hrest ih =>
    obtain ⟨es, hes⟩ := Voice.after_of_step hs
    obtain ⟨fs, hfs⟩ := hrest.after
    rw [ht] at hfs
    obtain ⟨rfl, rfl⟩ := List.append_eq_nil_iff.mp (Talk.not_after_self (hes.trans hfs))
    have hu : v.talk = u.talk := Talk.after_nil.mp hfs
    have hstep : Through (α := α) ⟨⟨p, v, a, b⟩, x, y, host⟩ _ :=
      through_of_stepDevice (stepDevice_eq_some.mpr (.inr ⟨_, Duet.stepDevice_of_step hs, rfl⟩)) fun Q _ a h => by
        rw [← hu] at h
        exact h
    exact hstep.trans (ih (ht.trans hu))

lemma through_of_silent {e : Event} {m : Move} (hs : v.step b a = some (w, m)) (h : v.talk.After [e] w.talk)
    (he : e.IsSilent) (hw : ∀ e, w.talk ≠ .done (.finished (.error e))) :
    Through ⟨⟨p, v, a, b⟩, x, y, host⟩ ⟨⟨p, w, m.onIncoming a, m.onOutgoing b⟩, x, y, host⟩ :=
  through_of_stepDevice (stepDevice_eq_some.mpr (.inr ⟨_, Duet.stepDevice_of_step hs, rfl⟩)) fun _ hQ _ =>
    hQ.silent h he hw

lemma through_sent (h : z.After [.sent leg packet] z') (hb : (b leg).ended = false)
    (hz : ∀ e, z' ≠ .done (.finished (.error e))) : Through ⟨⟨p, .start z, a, b⟩, x, y, host⟩
      ⟨⟨p, .start z', a, b.edit leg (·.append packet.bytes)⟩, x, y, host⟩ := by
  have hafter := h
  obtain ⟨next, rfl, rfl⟩ := Talk.after_singleton h
  exact (through_of_bytes (Voice.runs_write_part packet.bytes [] (List.prefix_refl _) hb) rfl).trans
    (through_of_silent (Voice.step_written hb) hafter (Event.isSilent_sent _ _) hz)

lemma through_received {rest : Bytes} (h : z.After [.received leg packet] z')
    (he : Event.IsSilent (.received leg packet)) (hp : packet.Clear) (hb : (b leg).ended = false)
    (ha : (a leg).bytes = packet.bytes ++ rest) (hz : ∀ e, z' ≠ .done (.finished (.error e))) :
    Through ⟨⟨p, .start z, a, b⟩, x, y, host⟩ ⟨⟨p, .start z', a.edit leg (·.leave rest), b⟩, x, y, host⟩ := by
  have hafter := h
  obtain ⟨next, rfl, rfl⟩ := Talk.after_singleton h
  exact (through_of_bytes (Voice.runs_read_part packet.bytes [] hp.scan_take hb ha) rfl).trans
    (through_of_silent (Voice.step_read hp hb) hafter he hz)

lemma not_stepDesktop_of_waiting {next : Except WireError Packet → Talk α} (hv : Duet.hasHungUp ⟨p, v, a, b⟩ = false)
    (hp : p = .start (.ask (.receive leg) next)) (ha : (a leg).ended = false) (hb : b leg = .fresh) :
    stepDesktop ⟨⟨p, v, a, b⟩, x, y, host⟩ = none := by
  subst hp
  have hscan : Packet.scan [] = .needs 7 := rfl
  have hheard : Duet.heard ⟨⟨.ask (.receive leg) next, []⟩, v, a, b⟩ = b := Duet.heard_of_not_hungUp hv
  simp [stepDesktop, Voice.contact, Duet.stepDesktop, Voice.step, Voice.start, hheard, ha, hb, Pipe.fresh, hscan]

lemma not_stepDevice_of_waiting {next : Except WireError Packet → Talk Device.Served}
    (hv : v = .start (.ask (.receive leg) next)) (hb : (b leg).ended = false) (ha : a leg = .fresh) :
    stepDevice ⟨⟨p, v, a, b⟩, x, y, host⟩ = none := by
  subst hv
  have hscan : Packet.scan [] = .needs 7 := rfl
  simp [stepDevice, Voice.contact, Duet.stepDevice, Voice.step, Voice.start, ha, hb, Pipe.fresh, hscan]

lemma through_again {d : Device} :
    Through ⟨⟨p, .start (.done (.again d)), a, b⟩, x, y, host⟩ ⟨⟨p, .start d.round, a, b⟩, x, y, host⟩ :=
  through_of_stepDevice (stepDevice_eq_some.mpr (.inr ⟨_, Duet.stepDevice_eq_some.mpr (.inl ⟨d, rfl, rfl⟩), rfl⟩))
    fun _ hQ _ => hQ.again

lemma through_contact {c : Contact} (h : p.contact y host = some (q, c)) :
    Through ⟨⟨p, v, a, b⟩, x, y, host⟩ ⟨⟨q, v, a, b⟩, c.onOutgoing x, c.onIncoming y, host⟩ :=
  through_of_stepDesktop (stepDesktop_eq_some.mpr (.inl ⟨q, c, h, rfl⟩))

lemma through_contacted {e : Event} {c : Contact} (h : v.contact x host = some (w, c)) (hw : v.talk.After [e] w.talk)
    (he : e.IsSilent) (hz : ∀ e, w.talk ≠ .done (.finished (.error e))) :
    Through ⟨⟨p, v, a, b⟩, x, y, host⟩ ⟨⟨p, w, a, b⟩, c.onIncoming x, c.onOutgoing y, host⟩ :=
  through_of_stepDevice (stepDevice_eq_some.mpr (.inl ⟨w, c, h, rfl⟩)) fun _ hQ _ => hQ.silent hw he hz

end Links

section Crossings

variable {t u : Talk α} {z z' : Talk Device.Served} {x y : Calls} {host : Leg → String} {f : Frame}

abbrev meet (t : Talk α) (z : Talk Device.Served) (x y : Calls) (host : Leg → String) : Encounter α :=
  ⟨.meet t z, x, y, host⟩

lemma goes_on {es : List Event} (hz : z.After es z') (hf : ∀ e, z' ≠ .done (.finished (.error e))) :
    ∀ e, z ≠ .done (.finished (.error e)) := by
  rintro e rfl
  obtain ⟨-, rfl⟩ := Talk.after_done.mp hz
  exact hf e rfl

lemma through_crossing {c : Crossing} (hc : c.packet.Clear) (hs : c.atDevice.IsSilent) (ht : t.After [c.atDesktop] u)
    (hz : z.After [c.atDevice] z') (hf : ∀ e, z' ≠ .done (.finished (.error e))) :
    Through (meet t z x y host) (meet u z' x y host) := by
  obtain ⟨leg, packet, toDevice⟩ := c
  cases toDevice with
  | true =>
    have hsent : Through (meet t z x y host)
        ⟨⟨.start u, .start z, Pipes.idle.edit leg (·.append packet.bytes), .idle⟩, x, y, host⟩ :=
      through_of_desktop (Voice.runs_sent_idle ht)
    have hreceived : Through ⟨⟨.start u, .start z, Pipes.idle.edit leg (·.append packet.bytes), .idle⟩, x, y, host⟩
        ⟨⟨.start u, .start z', (Pipes.idle.edit leg (·.append packet.bytes)).edit leg (·.leave []), .idle⟩,
          x, y, host⟩ :=
      through_received hz hs hc rfl (Pipes.bytes_idle_append leg packet.bytes) hf
    rw [Pipes.idle_append_leave] at hreceived
    exact hsent.trans hreceived
  | false =>
    exact (through_sent hz rfl hf).trans (through_of_desktop (Voice.runs_received_idle ht hc))

lemma through_crossings {cs : List Crossing} (hc : ∀ c ∈ cs, c.packet.Clear) (hs : ∀ c ∈ cs, c.atDevice.IsSilent)
    (ht : t.After (cs.map (·.atDesktop)) u) (hz : z.After (cs.map (·.atDevice)) z')
    (hf : ∀ e, z' ≠ .done (.finished (.error e))) : Through (meet t z x y host) (meet u z' x y host) := by
  induction cs generalizing t z with
  | nil =>
    obtain rfl := Talk.after_nil.mp ht
    obtain rfl := Talk.after_nil.mp hz
    exact .refl _
  | cons c cs ih =>
    obtain ⟨t', ht', ht⟩ := Talk.after_cons ht
    obtain ⟨w, hw, hz⟩ := Talk.after_cons hz
    obtain ⟨hclear, hclears⟩ := List.forall_mem_cons.mp hc
    obtain ⟨hsilent, hsilents⟩ := List.forall_mem_cons.mp hs
    exact (through_crossing hclear hsilent ht' hw (goes_on hz hf)).trans (ih hclears hsilents ht hz)

lemma through_posted {leg leg' : Leg} {packet : Packet} {next : Except WireError Packet → Talk α} (hp : packet.Clear)
    (ht : t.After [.sent leg packet] (.ask (.receive leg') next)) (hz : z.After [.received leg packet] z') :
    Through (meet t z x y host) (meet (.ask (.receive leg') next) z' x y host) := by
  obtain ⟨next', rfl, rfl⟩ := Talk.after_singleton hz
  have hsent : Through (meet t (.ask (.receive leg) next') x y host)
      ⟨⟨.start (.ask (.receive leg') next), .start (.ask (.receive leg) next'),
        Pipes.idle.edit leg (·.append packet.bytes), .idle⟩, x, y, host⟩ := through_of_desktop (Voice.runs_sent_idle ht)
  have hread : Voice.Runs (.start (.ask (.receive leg) next')) .idle _ _ .idle _ :=
    Voice.runs_read_part packet.bytes [] hp.scan_take rfl (Pipes.bytes_idle_append leg packet.bytes)
  rw [Pipes.idle_append_leave] at hread
  have hstep : Voice.step ⟨.ask (.receive leg) next', packet.bytes⟩ Pipes.idle Pipes.idle =
      some (.start (next' (.ok packet)), .within) := Voice.step_read hp rfl
  -- what the device does with the packet need not be silent, since the desktop is not through until it has
  exact hsent.trans ((through_of_bytes hread rfl).trans (through_of_alone (not_stepDesktop_of_waiting rfl rfl rfl rfl)
    nofun (stepDevice_eq_some.mpr (.inr ⟨_, Duet.stepDevice_of_step hstep, rfl⟩))))

lemma through_delivery {leg : Leg} (hf : (Packet.message f).Clear) (ht : t.After (Exchange.delivery leg f) u)
    (hz : z.After (Exchange.collection leg f) z') (hg : ∀ e, z' ≠ .done (.finished (.error e))) :
    Through (meet t z x y host) (meet u z' x y host) := by
  obtain ⟨t₁, ht₁, ht⟩ := Talk.after_cons ht
  obtain ⟨t₂, ht₂, ht⟩ := Talk.after_cons ht
  obtain ⟨z₁, hz₁, hz⟩ := Talk.after_cons hz
  obtain ⟨z₂, hz₂, hz⟩ := Talk.after_cons hz
  have hrequest : Through (meet t z x y host) (meet t₁ z₁ x y host) :=
    through_crossing (c := ⟨leg, .control .request, false⟩) (Packet.clear_control _) (Event.isSilent_sent _ _)
      ht₁ hz₁ (goes_on hz₂ (goes_on hz hg))
  -- the desktop waits for the acknowledgement, so that the device takes the request
  have htaken : Through (meet t₁ z₁ x y host) (meet t₂ z₂ x y host) := by
    obtain ⟨next, rfl, -⟩ := Talk.after_singleton ht
    exact through_posted hf ht₂ hz₂
  have hacknowledged : Through (meet t₂ z₂ x y host) (meet u z' x y host) :=
    through_crossing (c := ⟨leg, .control .acknowledge, false⟩) (Packet.clear_control _) (Event.isSilent_sent _ _)
      ht hz hg
  exact hrequest.trans (htaken.trans hacknowledged)

lemma through_of_converses (h : Duet.Converses t u z z') (hg : ∀ e, z' ≠ .done (.finished (.error e))) :
    Through (meet t z x y host) (meet u z' x y host) := by
  obtain ⟨f, cs, hf, hc, hs, ht, hz⟩ := h
  obtain ⟨t', ht', ht⟩ := Talk.exists_after_append ht
  obtain ⟨w, hw, hz⟩ := Talk.exists_after_append hz
  exact (through_delivery hf ht' hw (goes_on hz hg)).trans (through_crossings hc hs ht hz hg)

lemma through_cut {leg : Leg} {next : Except WireError Packet → Talk α} {r : Except ExchangeError Device}
    {a b : Pipes} (ha : (a leg).ended = false) (hb : b leg = .fresh) :
    Through ⟨⟨.start (.ask (.receive leg) next), .start (.done (.finished r)), a, b⟩, x, y, host⟩
      ⟨⟨.start (next (.error (.link (Packet.ended 0 7)))), .start (.done (.finished r)), a, b⟩, x, y, host⟩ := by
  refine through_of_stepDesktop (stepDesktop_eq_some.mpr (.inr ⟨_, ?_, rfl⟩))
  have hscan : Packet.scan [] = .needs 7 := rfl
  simp [Duet.stepDesktop, Duet.heard, Duet.hasHungUp, Voice.step, Voice.start, ha, hb, Pipe.fresh, Pipe.finish, hscan,
    Move.onOutgoing, Move.onIncoming]

end Crossings

end Encounter

end Simulation

end PimSync
