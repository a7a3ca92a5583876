import PimSync.Proofs.Simulation.Endings

/-! What comes of an exchange for whatever the desktop goes on to say, and of one that can never come to its end. -/

namespace PimSync

open Wire Exchange

def Request.IsDial : Request → Prop
  | .dial .. => True
  | _ => False

abbrev Talk.Undialling {α : Type} (t : Talk α) : Prop := t.Only fun r => ¬ r.IsDial

namespace Exchange

variable {leg : Leg} {m : Message}

lemma not_isDial_of_bare {r : Request} (h : Bare leg r) : ¬ r.IsDial := by
  rcases h with rfl | ⟨c, rfl⟩ <;> exact id

lemma not_isDial_of_carries {r : Request} (h : Carries leg m r) : ¬ r.IsDial := by
  rcases h with h | ⟨f, -, rfl⟩
  · exact not_isDial_of_bare h
  · exact id

lemma collect_asks {α : Type} (leg : Leg) (k : Except ExchangeError Message → Talk α) : ∃ next,
    ((collect leg).run >>= k).After [.sent leg (.control .request)] (.ask (.receive leg) next) ∧
      ∀ e, next (.error (.link e)) = k (.error (.link e)) := by
  rw [collect_eq]
  exact ⟨_, .answered (r := .send leg (.control .request)) (.ok ()) (.here _), fun e => rfl⟩

lemma undialling_collect : (collect leg).run.Undialling := only_collect.mono fun _ => not_isDial_of_bare

lemma undialling_deliver : (deliver leg m).run.Undialling := only_deliver.mono fun _ => not_isDial_of_carries

lemma undialling_refuse : (refuse leg).run.Undialling := by
  refine (only_expectControl.mono fun _ => not_isDial_of_bare).bind_except fun _ => ?_
  refine (only_sendControl.mono fun _ => not_isDial_of_bare).bind_except fun _ => ?_
  refine (only_sendMessage.mono fun _ => not_isDial_of_carries).bind_except fun _ => ?_
  exact only_expectControl.mono fun _ => not_isDial_of_bare

end Exchange

namespace Device

lemma undialling_conclude (m : Message) (reply : Reply) : (conclude m reply).run.Undialling := by
  refine Talk.Only.bind_except ?_ fun _ => ?_
  · cases reply with
    | message r => exact undialling_deliver
    | deny => exact undialling_refuse
  · split
    · refine undialling_collect.bind_except fun r => ?_
      split <;> trivial
    · trivial

lemma undialling_round (d : Device) : d.round.Undialling := by
  refine undialling_collect.bind fun r => ?_
  rcases r with e | m
  · cases e <;> trivial
  · dsimp only
    split
    · trivial
    · refine (undialling_conclude _ _).bind fun r => ?_
      rcases r with e | ⟨⟩ <;> trivial

lemma round_breaks {d d' : Device} {m reply : Message} {f : Frame} {e : CodingError} (hm : Message.ofFrame f = .ok m)
    (hr : d.respond m = (.ok (.message reply), d')) (he : reply.frame = .error e) : ∃ z,
    d.round.After (Exchange.collection .inbound f) z ∧
      z.After [.received .inbound (.control .request)] (.done (.finished (.error (.coding e)))) := by
  have hcollect : (collect .inbound).run.Yields (Exchange.collection .inbound f) (.ok m) :=
    yields_collect.mpr ⟨f, hm, rfl⟩
  refine ⟨_, hcollect.bind _, ?_⟩
  simp only [Talk.bind_done, hr, conclude, give, deliver, sendMessage, he, coded]
  exact .answered (r := .receive .inbound) (.ok (.control .request)) (.here _)

end Device

namespace Simulation

open Encounter

structure Scene where
  device : Voice Device.Served
  toDevice : Pipes
  toDesktop : Pipes
  dialled : Calls
  called : Calls
  host : Leg → String

namespace Scene

variable {α β : Type}

def play (c : Scene) (t : Talk α) : Encounter α :=
  ⟨⟨.start t, c.device, c.toDevice, c.toDesktop⟩, c.dialled, c.called, c.host⟩

/-- Whatever the desktop goes on to say, if it gets to say it then the talk has come to this. -/
def Does (c : Scene) (t : Talk α) (P : α → Scene → Prop) : Prop :=
  ∀ (β : Type) (k : α → Talk β) (Q : β → Talk Device.Served → Prop), Backed Q →
    (∀ a c', P a c' → (c'.play (k a)).Ends Q) → (c.play (t >>= k)).Ends Q

def Becomes (c : Scene) (t : Talk α) (a : α) (c' : Scene) : Prop :=
  ∀ (β : Type) (k : α → Talk β), Through (c.play (t >>= k)) (c'.play (k a))

variable {c c' c'' : Scene} {t : Talk α} {f : α → Talk β} {P P' : α → Scene → Prop} {R : β → Scene → Prop} {a : α}
  {b : β}

namespace Becomes

lemma pure (a : α) (c : Scene) : c.Becomes (pure a) a c := fun _ _ => .refl _

lemma bind (h : c.Becomes t a c') (k : c'.Becomes (f a) b c'') : c.Becomes (t >>= f) b c'' := by
  intro γ g
  rw [bind_assoc]
  exact (h γ _).trans (k γ g)

lemma map (h : c.Becomes t a c') (f : α → β) : c.Becomes (f <$> t) (f a) c' := by
  rw [map_eq_pure_bind]
  exact h.bind (pure _ _)

lemma does_bind (h : c.Becomes t a c') (k : c'.Does (f a) R) : c.Does (t >>= f) R := by
  intro γ g Q hQ hg
  rw [bind_assoc]
  exact h γ _ Q hQ (k γ g Q hQ hg)

lemma does (h : c.Becomes t a c') (hp : P a c') : c.Does t P := fun β k Q hQ hk => h β k Q hQ (hk a c' hp)

end Becomes

namespace Does

lemma pure (h : P a c) : c.Does (pure a) P := (Becomes.pure a c).does h

lemma mono (h : c.Does t P) (hp : ∀ a c', P a c' → P' a c') : c.Does t P' :=
  fun β k Q hQ hk => h β k Q hQ fun a c' ha => hk a c' (hp a c' ha)

lemma bind (h : c.Does t P) (hf : ∀ a c', P a c' → c'.Does (f a) R) : c.Does (t >>= f) R := by
  intro γ k Q hQ hk
  rw [bind_assoc]
  exact h γ _ Q hQ fun a c' ha => hf a c' ha γ k Q hQ hk

lemma map {f : α → β} (h : c.Does t P) (hf : ∀ a c', P a c' → R (f a) c') : c.Does (f <$> t) R := by
  rw [map_eq_pure_bind]
  exact h.bind fun a c' ha => .pure (hf a c' ha)

lemma andThen {x : Exchange α} {f : α → Exchange β} {R : Scene → Prop}
    (h : c.Does x.run fun r c' => (∃ e, r = .error e) ∧ R c') :
    c.Does (x >>= f).run fun r c' => (∃ e, r = .error e) ∧ R c' := by
  rw [ExceptT.run_bind]
  refine h.bind fun r c' hr => ?_
  obtain ⟨⟨e, rfl⟩, hc⟩ := hr
  exact .pure ⟨⟨e, rfl⟩, hc⟩

end Does

def awaiting (d : Device) (x : Calls) (host : Leg → String) : Scene := ⟨.start d.round, .idle, .idle, x, .none, host⟩

/-- The device takes no more requests, since it waits for something else or has given up. If it stands at anything,
these are its flags. The message of a refusal may be unread. -/
structure Adrift (c : Scene) (flags : Flags) : Prop where
  toDevice : c.toDevice = .idle
  called : c.called = .none
  undialling : c.device.talk.Undialling
  device : (∃ (d : Device) (next : Except WireError Packet → Talk Device.Served),
      d.flags = flags ∧ d.StandsAt (.ask (.receive .inbound) next) ∧
      c.device = .start (.ask (.receive .inbound) next) ∧
      (c.toDesktop = .idle ∨ ∃ f, (Packet.message f).Clear ∧ c.toDesktop = .carrying .inbound (.message f))) ∨
    ∃ e, c.device = .start (.done (.finished (.error e))) ∧ c.toDesktop = .idle

section Exchanges

variable {flags : Flags} {m : Message}

lemma deliver_asks_first (leg : Leg) (m : Message) : ∃ next, (deliver leg m).run = .ask (.receive leg) next ∧
    ∀ answer, answer ≠ .ok (.control .request) → ∃ e, next answer = .done (.error e) := by
  refine ⟨_, rfl, fun answer ha => ?_⟩
  rcases answer with e | c | f
  · exact ⟨_, rfl⟩
  · cases c with
    | request => exact absurd rfl ha
    | _ => exact ⟨_, rfl⟩
  · exact ⟨_, rfl⟩

lemma Adrift.does_deliver (h : c.Adrift flags) (m : Message) :
    c.Does (deliver .inbound m).run fun r c' => (∃ e, r = .error e) ∧ c'.Adrift flags := by
  obtain ⟨device, toDevice, toDesktop, dialled, called, host⟩ := c
  obtain ⟨hto, hcalled, hu, hdevice⟩ := h
  dsimp only at hto hcalled hu hdevice
  obtain ⟨ask, hrun, hfails⟩ := deliver_asks_first .inbound m
  rw [hrun]
  rcases hdevice with ⟨d, next, hd, hstands, hv, hidle | ⟨f, hf, hcarrying⟩⟩ | ⟨e, hv, hidle⟩
  · -- each waits for the other
    intro β k Q _ _
    refine ends_of_rest (not_stepDesktop_of_waiting ?_ rfl ?_ ?_) (not_stepDevice_of_waiting hv ?_ ?_) nofun
    · rw [hv]
      rfl
    · rw [hto]
      rfl
    · rw [hidle]
      rfl
    · rw [hidle]
      rfl
    · rw [hto]
      rfl
  · obtain ⟨e, he⟩ := hfails (.ok (.message f)) nofun
    have hread : (Talk.ask (.receive .inbound) ask).After [.received .inbound (.message f)] (.done (.error e)) :=
      .answered (r := .receive .inbound) (.ok (.message f)) (he ▸ .here _)
    have hbecomes : Becomes ⟨device, toDevice, toDesktop, dialled, called, host⟩ (.ask (.receive .inbound) ask)
        (.error e) ⟨device, toDevice, .idle, dialled, called, host⟩ := by
      rw [hto, hcarrying]
      exact fun β k => through_of_desktop (Voice.runs_received_idle (hread.bind k) hf)
    exact hbecomes.does ⟨⟨e, rfl⟩, hto, hcalled, hu, .inl ⟨d, next, hd, hstands, hv, .inl rfl⟩⟩
  · obtain ⟨x, hx⟩ := hfails (.error (.link (Packet.ended 0 7))) nofun
    have hbecomes : Becomes ⟨device, toDevice, toDesktop, dialled, called, host⟩ (.ask (.receive .inbound) ask)
        (.error x) ⟨device, toDevice, toDesktop, dialled, called, host⟩ := by
      intro β k
      rw [hv, hto, hidle]
      have hcut : (Talk.done (.error x) >>= k) = ask (.error (.link (Packet.ended 0 7))) >>= k := by rw [hx]
      rw [Talk.bind_done] at hcut
      rw [hcut]
      exact through_cut rfl rfl
    exact hbecomes.does ⟨⟨x, rfl⟩, hto, hcalled, hu, .inr ⟨e, hv, hidle⟩⟩

lemma Adrift.does_ask (h : c.Adrift flags) (m : Message) :
    c.Does (ask m).run fun r c' => (∃ e, r = .error e) ∧ c'.Adrift flags :=
  (h.does_deliver m).andThen

lemma Adrift.does_authorize (h : c.Adrift flags) (password : Bytes) :
    c.Does (authorize password).run fun r c' => (∃ e, r = .error e) ∧ c'.Adrift flags :=
  (h.does_deliver _).andThen

variable {d d' : Device} {x : Calls} {host : Leg → String} {reply : Message} {cs : List Crossing} {f : Frame}

lemma becomes_answered {exchange : Exchange α} (hm : m.Fits) (hfit : reply.Fits)
    (hr : d.respond m = (.ok (.message reply), d')) (ht : m.type ≠ .terminate)
    (h : ∀ es, Answered m reply es → exchange.run.Yields es (.ok a)) :
    (awaiting d x host).Becomes exchange.run (.ok a) (awaiting d' x host) :=
  fun _ k => (through_of_converses (Duet.converses_answered hm hfit hr ht h k) nofun).trans through_again

lemma becomes_denied {password : Bytes} (hm : Message.Fits ⟨.authRequest, password⟩)
    (hr : d.respond ⟨.authRequest, password⟩ = (.ok .deny, d')) :
    (awaiting d x host).Becomes (authorize password).run (.ok .denied) (awaiting d' x host) :=
  fun _ k => (through_of_converses (Duet.converses_denied hm hr k) nofun).trans through_again

lemma does_jammed (hm : m.Fits) (hr : d.respond m = (.ok .deny, d')) (ht : m.type ≠ .terminate) :
    (awaiting d x host).Does (ask m).run fun r c => (∃ e, r = .error e) ∧ c.Adrift d'.flags := by
  obtain ⟨f, hf, hfc, hfo⟩ := exists_frame hm
  obtain ⟨g, hg, hgc, -⟩ := exists_frame fits_denied
  obtain ⟨z, next, haborts, hsends⟩ := Device.round_aborts hfo hr hg
  let cs : List Crossing := [⟨.inbound, .control .request, true⟩, ⟨.inbound, .control .abort, false⟩]
  have hround := Device.yields_round hfo hr (Device.yields_conclude ht (Device.yields_refuse.mpr ⟨g, hg, rfl⟩))
  have hall := haborts.trans hsends
  -- the device waits for the acknowledgement of its refusal, and would go on as it is now
  have hstands : d'.StandsAt (.ask (.receive .inbound) next) := by
    rw [if_neg ht] at hround
    refine ⟨[.received .inbound (.control .acknowledge)],
      List.forall_mem_singleton.mpr (Event.isSilent_control _ _), .inl (Talk.after_append hall ?_)⟩
    simpa using hround
  have hbecomes : (awaiting d x host).Becomes (ask m).run (.error (.message "message" Control.abort.name))
      ⟨.start (.ask (.receive .inbound) next), .idle, .carrying .inbound (.message g), x, .none, host⟩ := by
    intro β k
    have hconverses :
        Duet.Converses ((ask m).run >>= k) (k (.error (.message "message" Control.abort.name))) d.round z :=
      ⟨f, cs, hfc, by simp [cs, Packet.clear_control],
        by simp [cs, Crossing.atDevice, Event.isSilent_sent, Event.isSilent_control], (ask_aborted hf).bind k, haborts⟩
    exact (through_of_converses hconverses (goes_on hsends fun _ => Talk.ask_ne_done)).trans
      (through_sent hsends rfl fun _ => Talk.ask_ne_done)
  exact hbecomes.does ⟨⟨_, rfl⟩, rfl, rfl, (d.undialling_round.after hall).2,
    .inl ⟨d', next, rfl, hstands, rfl, .inr ⟨g, hgc, rfl⟩⟩⟩

lemma does_withheld (hm : ¬ m.Fits) :
    (awaiting d x host).Does (deliver .inbound m).run fun r c => (∃ e, r = .error e) ∧ c.Adrift d.flags := by
  obtain ⟨next, hn⟩ := d.round_asks
  obtain ⟨e, hframe⟩ : ∃ e, m.frame = .error e := by
    cases h : m.frame with
    | error e => exact ⟨e, rfl⟩
    | ok f => exact absurd (Message.fits_of_frame h) hm
  have hfails : (deliver .inbound m).run.Yields [.received .inbound (.control .request)] (.error (.coding e)) := by
    simp only [deliver, sendMessage, hframe, coded]
    exact .answered (r := .receive .inbound) (.ok (.control .request)) (.here _)
  have hbecomes : (awaiting d x host).Becomes (deliver .inbound m).run (.error (.coding e))
      ⟨.start (.ask (.receive .inbound) next), .idle, .idle, x, .none, host⟩ :=
    fun β k => through_crossing (c := ⟨.inbound, .control .request, false⟩) (Packet.clear_control _)
      (Event.isSilent_sent _ _) (hfails.bind k) hn fun _ => Talk.ask_ne_done
  exact hbecomes.does ⟨⟨_, rfl⟩, rfl, rfl, (d.undialling_round.after hn).2,
    .inl ⟨d, next, rfl, Device.standsAt_waiting hn, rfl, .inl rfl⟩⟩

lemma does_broken (hm : m.Fits) (hfit : ¬ reply.Fits) (hr : d.respond m = (.ok (.message reply), d')) :
    (awaiting d x host).Does (ask m).run fun r c => (∃ e, r = .error e) ∧ c.Adrift flags := by
  obtain ⟨f, hf, hfc, hfo⟩ := exists_frame hm
  obtain ⟨e, hframe⟩ : ∃ e, reply.frame = .error e := by
    cases h : reply.frame with
    | error e => exact ⟨e, rfl⟩
    | ok f => exact absurd (Message.fits_of_frame h) hfit
  obtain ⟨z, hz, hbreaks⟩ := Device.round_breaks hfo hr hframe
  have hbecomes : (awaiting d x host).Becomes (ask m).run (.error (.link (Packet.ended 0 7)))
      ⟨.start (.done (.finished (.error (.coding e)))), .idle, .idle, x, .none, host⟩ := by
    intro β k
    have hdelivered : ((ask m).run >>= k).After (delivery .inbound f) ((collect .inbound).run >>= k) := by
      have h : (deliver .inbound m).run.Yields (delivery .inbound f) (.ok ()) := yields_deliver.mpr ⟨f, hf, rfl⟩
      rw [ask, ExceptT.run_bind]
      exact (h.bind _).bind k
    obtain ⟨next, hrequest, hcut⟩ := collect_asks .inbound k
    have hdelivery : Through ((awaiting d x host).play ((ask m).run >>= k))
        (Encounter.meet ((collect .inbound).run >>= k) z x .none host) :=
      through_delivery hfc hdelivered hz (by rintro e rfl; cases hbreaks)
    refine hdelivery.trans ((through_posted (Packet.clear_control _) hrequest hbreaks).trans ?_)
    rw [← hcut]
    exact through_cut rfl rfl
  exact hbecomes.does ⟨⟨_, rfl⟩, rfl, rfl, trivial, .inr ⟨_, rfl, rfl⟩⟩

lemma does_ask (hm : ∀ d : Device, ∃ x, d.answer m = .ok x) (ht : m.type ≠ .terminate) :
    (awaiting d x host).Does (ask m).run fun r c =>
      (∃ reply, (d.respond m).1 = .ok (.message reply) ∧ r = .ok reply ∧ c = awaiting (d.respond m).2 x host) ∨
        (∃ e, r = .error e) ∧ c.Adrift d.flags := by
  by_cases hfits : m.Fits
  · obtain ⟨reply, hr⟩ := Device.respond_eq_ok hm d
    have hd : d.respond m = (.ok reply, (d.respond m).2) := Prod.ext hr rfl
    cases reply with
    | message reply =>
      by_cases hfit : reply.Fits
      · exact (becomes_answered hfits hfit hd ht fun _ => yields_answer.mpr).does (.inl ⟨reply, hr, rfl, rfl⟩)
      · exact (does_broken hfits hfit hd).mono fun _ _ h => .inr h
    | deny =>
      rw [← Device.flags_of_deny hr]
      exact (does_jammed hfits hd ht).mono fun _ _ h => .inr h
  · exact (does_withheld hfits).andThen.mono fun _ _ h => .inr h

lemma does_authorize (password : Bytes) : (awaiting d x host).Does (authorize password).run fun r c =>
    (∃ access, r = .ok access ∧ c = awaiting (d.respond ⟨.authRequest, password⟩).2 x host) ∨
      (∃ e, r = .error e) ∧ c.Adrift d.flags := by
  by_cases hfits : Message.Fits ⟨.authRequest, password⟩
  · have hr : d.respond ⟨.authRequest, password⟩ = (.ok ((d.record ⟨.authRequest, password⟩).authorize password).1,
        ((d.record ⟨.authRequest, password⟩).authorize password).2) := by
      simp [Device.respond, Device.isOpen, Device.answer]
    rw [hr]
    unfold Device.authorize at hr ⊢
    split at hr
    · rename_i h
      simp only [if_pos h]
      exact (becomes_answered hfits (by decide) hr (by simp) fun _ => yields_granted.mpr).does (.inl ⟨_, rfl, rfl⟩)
    · rename_i h
      simp only [if_neg h]
      exact (becomes_denied hfits hr).does (.inl ⟨_, rfl, rfl⟩)
  · exact (does_withheld hfits).andThen.mono fun _ _ h => .inr h

lemma becomes_close (c : Scene) (leg : Leg) :
    c.Becomes (Talk.request (.close leg)) () { c with toDevice := c.toDevice.edit leg .finish } :=
  fun _ _ => through_of_desktop (.step (x := .close leg) rfl (.stay _ _ _))

lemma becomes_left {next : Except ExchangeError Message → Talk α} {g : Except ExchangeError Unit → α}
    (hnext : next (.ok ⟨.complete, ()⟩) = g <$> Talk.farewell)
    (hr : d.respond ⟨.terminate, ()⟩ = (.ok Device.complete, d')) :
    (awaiting d x host).Becomes ((ask ⟨.terminate, ()⟩).run >>= next) (g (.ok ()))
      ⟨.start (.done (.finished (.ok d'))), Pipes.idle.edit .outbound .finish, .idle, x, .none, host⟩ := by
  intro β k
  rw [bind_assoc]
  refine (through_of_converses (Duet.converses_terminate (k := fun last => k (g last)) hr ?_) nofun).trans
    (becomes_close ⟨.start (.done (.finished (.ok d'))), .idle, .idle, x, .none, host⟩ .outbound β _)
  rw [hnext, map_eq_pure_bind, bind_assoc]
  rfl

end Exchanges

end Scene

end Simulation

end PimSync
