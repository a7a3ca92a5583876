import PimSync.Proofs.Simulation.Conversation

/-! Where desktop and device come to a stop: before the next request, or in the middle of a refusal. -/

namespace PimSync

open Wire Talk

namespace Exchange

variable {leg : Leg} {m : Message} {f g : Frame}

lemma collect_aborted : (collect leg).run.Yields [.sent leg (.control .request), .received leg (.control .abort)]
    (.error (.message "message" Control.abort.name)) :=
  .answered _ (.answered _ (.here _))

lemma ask_aborted (hf : m.frame = .ok f) : (ask m).run.Yields
    (delivery .inbound f ++ [.sent .inbound (.control .request), .received .inbound (.control .abort)])
    (.error (.message "message" Control.abort.name)) := by
  have hdelivered : (deliver .inbound m).run.Yields (delivery .inbound f) (.ok ()) := yields_deliver.mpr ⟨f, hf, rfl⟩
  rw [ask, ExceptT.run_bind]
  exact hdelivered.then collect_aborted

lemma deliver_interrupted :
    (deliver leg m).run.Yields [.received leg (.message g)] (.error (.control .request g.tag.text)) :=
  .answered _ (.here _)

lemma refuse_aborts (hg : Message.frame ⟨.authDenied, ()⟩ = .ok g) : ∃ t next,
    (refuse leg).run.After [.received leg (.control .request), .sent leg (.control .abort)] t ∧
      t.After [.sent leg (.message g)] (.ask (.receive leg) next) := by
  simp only [refuse, sendMessage, hg, coded, pure_bind]
  exact ⟨_, _, .answered _ (.answered _ (.here _)), .answered _ (.here _)⟩

end Exchange

lemma Device.round_aborts {d d' : Device} {m : Message} {f g : Frame} (hm : Message.ofFrame f = .ok m)
    (hr : d.respond m = (.ok .deny, d')) (hg : Message.frame ⟨.authDenied, ()⟩ = .ok g) : ∃ t next,
    d.round.After (Exchange.collection .inbound f ++
      [.received .inbound (.control .request), .sent .inbound (.control .abort)]) t ∧
      t.After [.sent .inbound (.message g)] (.ask (.receive .inbound) next) := by
  obtain ⟨t, next, haborts, hsends⟩ := @Exchange.refuse_aborts .inbound g hg
  have hcollect : (Exchange.collect .inbound).run.Yields (Exchange.collection .inbound f) (.ok m) :=
    Exchange.yields_collect.mpr ⟨f, hm, rfl⟩
  obtain ⟨rest, hround, k, hk⟩ : ∃ rest, d.round = (Exchange.collect .inbound).run >>= rest ∧
      ∃ k, rest (.ok m) = (Exchange.refuse .inbound).run >>= k := by
    refine ⟨_, rfl, ?_⟩
    simp only [hr, conclude, give, ExceptT.run_bind, bind_assoc]
    exact ⟨_, rfl⟩
  rw [hround]
  exact ⟨_, _, hcollect.then (hk ▸ haborts.bind k), hsends.bind k⟩

end PimSync

namespace PimSync.Simulation

open Wire Exchange

def Pipes.carrying (leg : Leg) (p : Packet) : Pipes := idle.edit leg (·.append p.bytes)

lemma Pipes.not_ended_carrying (leg : Leg) (p : Packet) : ∀ l, (carrying leg p l).ended = false := by
  intro l
  unfold carrying edit
  split <;> rfl

lemma clear_of_frame {m : Message} {f : Frame} (h : m.frame = .ok f) : (Packet.message f).Clear := by
  obtain ⟨g, hg, hclear, -⟩ := exists_frame (Message.fits_of_frame h)
  obtain rfl : g = f := Except.ok.inj (hg.symm.trans h)
  exact hclear

namespace Duet

variable {α β : Type} {c d : Duet α} {device : Device} {m : Message}

def resume (c : Duet α) (t : Talk β) : Duet β := ⟨.start t, c.device, c.toDevice, c.toDesktop⟩

structure Waiting (c : Duet α) (device : Device) : Prop where
  device : ∃ next, device.round.After [.sent .inbound (.control .request)] (.ask (.receive .inbound) next) ∧
    c.device = .start (.ask (.receive .inbound) next)
  toDevice : c.toDevice = .idle
  toDesktop : c.toDesktop = .carrying .inbound (.control .request)

/-- The device has refused a request and waits for an acknowledgement. The refusal is on its way still, but for the
abort that it began with. -/
structure Jammed (c : Duet α) (device : Device) (m : Message) : Prop where
  device : ∃ f g next, m.frame = .ok f ∧ Message.frame ⟨.authDenied, ()⟩ = .ok g ∧
    device.round.After (collection .inbound f ++ [.received .inbound (.control .request),
      .sent .inbound (.control .abort), .sent .inbound (.message g)]) (.ask (.receive .inbound) next) ∧
    c.device = .start (.ask (.receive .inbound) next)
  toDevice : c.toDevice = .idle
  toDesktop : ∃ g, Message.frame ⟨.authDenied, ()⟩ = .ok g ∧ c.toDesktop = .carrying .inbound (.message g)

lemma settles_of_leads {final : Duet α} {a : α} {leg : Leg} {next : Except WireError Packet → Talk Device.Served}
    (h : c.Leads final) (ht : final.desktop.talk = .done a) (hv : final.device = .start (.ask (.receive leg) next))
    (hi : final.toDevice = .idle) (ho : ∀ leg, (final.toDesktop leg).ended = false) : c.Settles final := by
  obtain ⟨n, hn⟩ := h
  apply settles_of_steps hn
  · simp [stepDesktop, Voice.step, ht]
  · have hscan : Packet.scan [] = .needs 7 := rfl
    simp [stepDevice, Voice.step, hv, hi, ho, Voice.start, Pipes.idle, Pipe.fresh, hscan]

lemma Settles.of_leads {final : Duet α} (h : c.Settles final) (k : c.Leads d) : d.Settles final := by
  obtain ⟨he, hv, n, hn⟩ := h
  obtain ⟨m, hm⟩ := k
  obtain ⟨-, hrest⟩ := hn m d hm
  exact settles_of_steps hrest he hv

namespace Waiting

lemma leads_resume (h : c.Waiting device) (t : Talk β) : (meet t device.round).Leads (c.resume t) := by
  obtain ⟨next, hn, hv⟩ := h.device
  rw [resume, hv, h.toDevice, h.toDesktop]
  exact leads_of_device (Voice.runs_sent_idle hn)

lemma exists_of_meet (t : Talk α) (device : Device) :
    ∃ c : Duet α, (meet t device.round).Leads c ∧ c.desktop = .start t ∧ c.Waiting device := by
  obtain ⟨next, hn⟩ := device.round_asks
  let c : Duet α := ⟨.start t, .start (.ask (.receive .inbound) next), .idle, .carrying .inbound (.control .request)⟩
  have hw : c.Waiting device := ⟨⟨next, hn, rfl⟩, rfl, rfl⟩
  exact ⟨c, hw.leads_resume t, rfl, hw⟩

lemma settles (hw : c.Waiting device) {a : α} (hc : d.Leads c) (ht : c.desktop = .start (.done a)) : d.Settles c := by
  obtain ⟨next, -, hv⟩ := hw.device
  apply settles_of_leads hc (congrArg Voice.talk ht) hv hw.toDevice
  rw [hw.toDesktop]
  exact Pipes.not_ended_carrying _ _

end Waiting

namespace Jammed

lemma settles (hj : c.Jammed device m) {a : α} (hc : d.Leads c) (ht : c.desktop = .start (.done a)) :
    d.Settles c := by
  obtain ⟨f, g, next, -, -, -, hv⟩ := hj.device
  obtain ⟨g', -, hg⟩ := hj.toDesktop
  apply settles_of_leads hc (congrArg Voice.talk ht) hv hj.toDevice
  rw [hg]
  exact Pipes.not_ended_carrying _ _

lemma not_waiting (hj : c.Jammed device m) (device' : Device) : ¬ c.Waiting device' := by
  intro hw
  obtain ⟨g, hg, hc⟩ := hj.toDesktop
  have hbytes : (Packet.message g).bytes = (Packet.control .request).bytes :=
    congrArg (fun p : Pipes => (p .inbound).bytes) (hc.symm.trans hw.toDesktop)
  have hscan := (clear_of_frame hg).scan_bytes
  rw [hbytes, (Packet.clear_control .request).scan_bytes] at hscan
  cases hscan

lemma exists_of_meet {device' : Device} (hm : m.Fits) (hr : device.respond m = (.ok .deny, device'))
    (k : Except ExchangeError Message → Talk α) : ∃ c : Duet α, (meet ((ask m).run >>= k) device.round).Leads c ∧
      c.desktop = .start (k (.error (.message "message" Control.abort.name))) ∧ c.Jammed device m := by
  obtain ⟨f, hf, hfc, hfo⟩ := exists_frame hm
  obtain ⟨g, hg, -, -⟩ := exists_frame fits_denied
  obtain ⟨t, next, haborts, hsends⟩ := Device.round_aborts hfo hr hg
  let cs := Crossing.message true .inbound f ++
    [⟨.inbound, .control .request, true⟩, ⟨.inbound, .control .abort, false⟩]
  have hclear : ∀ c ∈ cs, c.packet.Clear := List.forall_mem_append.mpr ⟨Crossing.clear_message hfc _ _, by
    simp [Packet.clear_control]⟩
  have hdesktop : ((ask m).run >>= k).After (cs.map (·.atDesktop))
    (k (.error (.message "message" Control.abort.name))) := (ask_aborted hf).bind k
  have hcross := leads_of_crossings hclear hdesktop haborts
  refine ⟨_, hcross.trans (leads_of_device (Voice.runs_sent_idle hsends)), rfl, ⟨f, g, next, hf, hg, ?_, rfl⟩, rfl,
    g, hg, rfl⟩
  have hround := haborts.trans hsends
  rwa [List.append_assoc] at hround

lemma interrupts (hj : c.Jammed device m) (m' : Message) : ∃ final : Duet (Except ExchangeError Unit),
    (c.resume (deliver .inbound m').run).Settles final ∧
      final.desktop.talk = .done (.error (.control .request "ANG")) ∧ final.device = c.device := by
  obtain ⟨f, -, next, -, -, -, hv⟩ := hj.device
  obtain ⟨g, hg, hc⟩ := hj.toDesktop
  have htag : g.tag.text = "ANG" := by
    rw [Message.tag_of_frame hg]
    decide
  have hleads : (c.resume (deliver .inbound m').run).Leads
      ⟨.start (.done (.error (.control .request "ANG"))), c.device, .idle, .idle⟩ := by
    rw [resume, hj.toDevice, hc, ← htag]
    exact leads_of_desktop (Voice.runs_received_idle deliver_interrupted (clear_of_frame hg))
  exact ⟨_, settles_of_leads hleads rfl hv rfl fun _ => rfl, rfl, rfl⟩

end Jammed

end Duet

end PimSync.Simulation
