import PimSync.Proofs.Device.Standing
import PimSync.Proofs.Simulation.Crossing

/-! A desktop that asks and a device that answers come through each round together. -/

namespace PimSync.Simulation

open Wire

namespace Crossing

def message (toDevice : Bool) (leg : Leg) (f : Frame) : List Crossing :=
  [⟨leg, .control .request, !toDevice⟩, ⟨leg, .message f, toDevice⟩, ⟨leg, .control .acknowledge, !toDevice⟩]

def refusal (f : Frame) : List Crossing :=
  [⟨.inbound, .control .request, true⟩, ⟨.inbound, .control .abort, false⟩, ⟨.inbound, .message f, false⟩,
    ⟨.inbound, .control .acknowledge, true⟩]

lemma clear_message {f : Frame} (hf : (Packet.message f).Clear) (toDevice : Bool) (leg : Leg) :
    ∀ c ∈ message toDevice leg f, c.packet.Clear := by
  simp [message, hf, Packet.clear_control]

lemma silent_message (f : Frame) : ∀ c ∈ message false .inbound f, c.atDevice.IsSilent := by
  simp [message, atDevice, Event.isSilent_sent, Event.isSilent_control]

lemma silent_ready (f : Frame) : ∀ c ∈ message true .outbound f, c.atDevice.IsSilent := by
  simp [message, atDevice, Event.isSilent_sent, Event.isSilent_outbound]

lemma silent_refusal (f : Frame) : ∀ c ∈ refusal f, c.atDevice.IsSilent := by
  simp [refusal, atDevice, Event.isSilent_sent, Event.isSilent_control]

lemma clear_refusal {f : Frame} (hf : (Packet.message f).Clear) : ∀ c ∈ refusal f, c.packet.Clear := by
  simp [refusal, hf, Packet.clear_control]

end Crossing

lemma exists_frame {m : Message} (h : m.Fits) :
    ∃ f, m.frame = .ok f ∧ (Packet.message f).Clear ∧ Message.ofFrame f = .ok m := by
  obtain ⟨f, content, hf, hw, hl, ho⟩ := Message.frame_of_fits h
  exact ⟨f, hf, Packet.clear_message hw (hl ▸ h), ho⟩

lemma fits_ready : ready.Fits := by decide

lemma fits_denied : Message.Fits ⟨.authDenied, ()⟩ := by decide

namespace Duet

open Exchange

variable {α : Type} {d d' : Device} {m reply : Message} {cs : List Crossing} {t u : Talk α} {x : Talk Device.Served}

def meet (t : Talk α) (x : Talk Device.Served) : Duet α := ⟨.start t, .start x, .idle, .idle⟩

/-- A request crosses and whatever comes of it, so that the one party gets from `t` to `u` and the other from `x` to
`y`. The request is all that the device is asked. -/
def Converses (t u : Talk α) (x y : Talk Device.Served) : Prop :=
  ∃ (f : Frame) (cs : List Crossing), (Packet.message f).Clear ∧
    (∀ c ∈ cs, c.packet.Clear) ∧ (∀ c ∈ cs, c.atDevice.IsSilent) ∧
    t.After (delivery .inbound f ++ cs.map (·.atDesktop)) u ∧ x.After (collection .inbound f ++ cs.map (·.atDevice)) y

lemma leads_of_converses {y : Talk Device.Served} (h : Converses t u x y) : (meet t x).Leads (meet u y) := by
  obtain ⟨f, cs, hf, hcs, -, ht, hx⟩ := h
  have hclear : ∀ c ∈ Crossing.message true .inbound f ++ cs, c.packet.Clear :=
    List.forall_mem_append.mpr ⟨Crossing.clear_message hf _ _, hcs⟩
  exact leads_of_crossings hclear (by rwa [List.map_append]) (by rwa [List.map_append])

lemma converses_answered (hm : m.Fits) (hfit : reply.Fits) (hr : d.respond m = (.ok (.message reply), d'))
    (ht : m.type ≠ .terminate) {β : Type} {exchange : Exchange β} {b : β}
    (h : ∀ es, Answered m reply es → exchange.run.Yields es (.ok b)) (k : Except ExchangeError β → Talk α) :
    Converses (exchange.run >>= k) (k (.ok b)) d.round (.done (.again d')) := by
  obtain ⟨f, hf, hfc, hfo⟩ := exists_frame hm
  obtain ⟨g, hg, hgc, hgo⟩ := exists_frame hfit
  have hgive : (Device.give (.message reply)).run.Yields (delivery .inbound g) (.ok ()) :=
    yields_deliver.mpr ⟨g, hg, rfl⟩
  have hround := Device.yields_round hfo hr (Device.yields_conclude ht hgive)
  rw [if_neg ht] at hround
  exact ⟨f, Crossing.message false .inbound g, hfc, Crossing.clear_message hgc _ _, Crossing.silent_message g,
    (h _ ⟨f, g, hf, hgo, rfl⟩).bind k, hround⟩

lemma converses_denied {password : Bytes} (hm : Message.Fits ⟨.authRequest, password⟩)
    (hr : d.respond ⟨.authRequest, password⟩ = (.ok .deny, d')) (k : Except ExchangeError Access → Talk α) :
    Converses ((authorize password).run >>= k) (k (.ok .denied)) d.round (.done (.again d')) := by
  obtain ⟨f, hf, hfc, hfo⟩ := exists_frame hm
  obtain ⟨g, hg, hgc, hgo⟩ := exists_frame fits_denied
  exact ⟨f, Crossing.refusal g, hfc, Crossing.clear_refusal hgc, Crossing.silent_refusal g,
    (yields_denied.mpr ⟨f, g, hf, hgo, rfl⟩).bind k,
    Device.yields_round hfo hr (Device.yields_conclude nofun (Device.yields_refuse.mpr ⟨g, hg, rfl⟩))⟩

lemma leads_ask (hm : m.Fits) (hfit : reply.Fits) (hr : d.respond m = (.ok (.message reply), d'))
    (ht : m.type ≠ .terminate) {β : Type} {exchange : Exchange β} {b : β}
    (h : ∀ es, Answered m reply es → exchange.run.Yields es (.ok b)) (k : Except ExchangeError β → Talk α) :
    (meet (exchange.run >>= k) d.round).Leads (meet (k (.ok b)) d'.round) :=
  (leads_of_converses (converses_answered hm hfit hr ht h k)).trans leads_again

lemma leads_deny {password : Bytes} (hm : Message.Fits ⟨.authRequest, password⟩)
    (hr : d.respond ⟨.authRequest, password⟩ = (.ok .deny, d')) (k : Except ExchangeError Access → Talk α) :
    (meet ((authorize password).run >>= k) d.round).Leads (meet (k (.ok .denied)) d'.round) :=
  (leads_of_converses (converses_denied hm hr k)).trans leads_again

lemma farewell_asks {f : Frame} (hf : ready.frame = .ok f) (k : Except ExchangeError Unit → Talk α) :
    (Talk.farewell >>= k).After (delivery .outbound f) (.ask (.close .outbound) fun _ => k (.ok ())) := by
  have hsent : (deliver .outbound ready).run.Yields (delivery .outbound f) (.ok ()) :=
    yields_deliver.mpr ⟨f, hf, rfl⟩
  exact (hsent.bind _).bind k

lemma leads_close {next : Unit → Talk α} {v : Voice Device.Served} :
    Leads ⟨.start (.ask (.close .outbound) next), v, .idle, .idle⟩
      ⟨.start (next ()), v, Pipes.idle.edit .outbound .finish, .idle⟩ :=
  leads_of_desktop (.step (x := .close .outbound) rfl (.stay _ _ _))

lemma converses_terminate (hr : d.respond ⟨.terminate, ()⟩ = (.ok Device.complete, d'))
    {next : Except ExchangeError Message → Talk α} {k : Except ExchangeError Unit → Talk α}
    (hnext : next (.ok ⟨.complete, ()⟩) = Talk.farewell >>= k) :
    Converses ((ask ⟨.terminate, ()⟩).run >>= next) (.ask (.close .outbound) fun _ => k (.ok ())) d.round
      (.done (.finished (.ok d'))) := by
  obtain ⟨f, hf, hfc, hfo⟩ := exists_frame (m := ⟨.terminate, ()⟩) (by decide)
  obtain ⟨g, hg, hgc, hgo⟩ := exists_frame (m := ⟨.complete, ()⟩) (by decide)
  obtain ⟨r, hrf, hrc, hro⟩ := exists_frame fits_ready
  have hdesktop : ((ask ⟨.terminate, ()⟩).run >>= next).After
      (delivery .inbound f ++ collection .inbound g ++ delivery .outbound r)
      (.ask (.close .outbound) fun _ => k (.ok ())) := by
    have hasked : (ask ⟨.terminate, ()⟩).run.Yields _ (.ok ⟨.complete, ()⟩) :=
      yields_answer.mpr ⟨f, g, hf, hgo, rfl⟩
    exact hasked.then (hnext ▸ farewell_asks hrf k)
  have hdevice : d.round.Yields (collection .inbound f ++ (delivery .inbound g ++ collection .outbound r))
      (.finished (.ok d')) :=
    Device.yields_round hfo hr (Device.yields_conclude_terminate rfl (yields_deliver.mpr ⟨g, hg, rfl⟩) hro)
  exact ⟨f, Crossing.message false .inbound g ++ Crossing.message true .outbound r, hfc,
    List.forall_mem_append.mpr ⟨Crossing.clear_message hgc _ _, Crossing.clear_message hrc _ _⟩,
    List.forall_mem_append.mpr ⟨Crossing.silent_message g, Crossing.silent_ready r⟩,
    by rwa [List.append_assoc] at hdesktop, hdevice⟩

lemma leads_terminate (hr : d.respond ⟨.terminate, ()⟩ = (.ok Device.complete, d'))
    {next : Except ExchangeError Message → Talk α} {k : Except ExchangeError Unit → Talk α}
    (hnext : next (.ok ⟨.complete, ()⟩) = Talk.farewell >>= k) :
    (meet ((ask ⟨.terminate, ()⟩).run >>= next) d.round).Leads
      ⟨.start (k (.ok ())), .start (.done (.finished (.ok d'))), Pipes.idle.edit .outbound .finish, .idle⟩ :=
  (leads_of_converses (converses_terminate hr hnext)).trans leads_close

end Duet

end PimSync.Simulation
