import PimSync.Proofs.Session.Posing
import PimSync.Proofs.Simulation.Conversation
import PimSync.Proofs.Simulation.Interleaving

namespace PimSync.Simulation

open Wire Exchange

variable {leg : Leg} {p : Post} {posts : List Post} {f : Frame}

namespace Post

lemma yields_own (hf : p.message.frame = .ok f) : (p.handle leg true).run.Yields (delivery leg f) (.ok none) :=
  Talk.yields_bind_ok.mpr ⟨_, [], (), (List.append_nil _).symm, yields_deliver.mpr ⟨f, hf, rfl⟩, .here _⟩

lemma yields_other (hf : Message.ofFrame f = .ok p.message) :
    (p.handle leg false).run.Yields (collection leg f) (.ok (some p.message)) :=
  Talk.yields_bind_ok.mpr ⟨_, [], _, (List.append_nil _).symm, yields_collect.mpr ⟨f, hf, rfl⟩, .here _⟩

lemma yields_converse_cons {own : Post → Bool} {es fs : List Event} {r : Except ExchangeError (Option Message)}
    {rs : List (Except ExchangeError (Option Message))} (hp : (p.handle leg (own p)).run.Yields es r)
    (hps : (converse leg own posts).Yields fs rs) : (converse leg own (p :: posts)).Yields (es ++ fs) (r :: rs) := by
  rw [converse, List.mapM_cons]
  refine hp.then ?_
  rw [← List.append_nil fs]
  exact hps.then (.here _)

lemma exists_crossings (leg : Leg) (h : ∀ p ∈ posts, p.message.Fits) :
    ∃ cs : List Crossing, (∀ c ∈ cs, c.packet.Clear) ∧
    (converse leg (·.toDevice) posts).Yields (cs.map (·.atDesktop))
      (posts.map fun p => .ok (if p.toDevice then none else some p.message)) ∧
    (converse leg (!·.toDevice) posts).Yields (cs.map (·.atDevice))
      (posts.map fun p => .ok (if p.toDevice then some p.message else none)) := by
  induction posts with
  | nil => exact ⟨[], by simp, .here _, .here _⟩
  | cons p posts ih =>
    obtain ⟨hp, hps⟩ := List.forall_mem_cons.mp h
    obtain ⟨f, hf, hclear, hof⟩ := exists_frame hp
    obtain ⟨cs, hcs, hdesktop, hdevice⟩ := ih hps
    obtain ⟨m, toDevice⟩ := p
    refine ⟨Crossing.message toDevice leg f ++ cs,
      List.forall_mem_append.mpr ⟨Crossing.clear_message hclear _ _, hcs⟩, ?_, ?_⟩
    · rw [List.map_append]
      cases toDevice with
      | true => exact yields_converse_cons (yields_own hf) hdesktop
      | false => exact yields_converse_cons (yields_other hof) hdesktop
    · rw [List.map_append]
      cases toDevice with
      | true => exact yields_converse_cons (yields_other hof) hdevice
      | false => exact yields_converse_cons (yields_own hf) hdevice

lemma yields_turnDown {m : Message} {g : Frame} (hm : Message.ofFrame f = .ok m)
    (hg : Message.frame ⟨.authDenied, ()⟩ = .ok g) : (turnDown .inbound).Yields
      (collection .inbound f ++ (Crossing.refusal g).map (·.atDevice)) (.ok m, .ok ()) := by
  have hcollect : (collect .inbound).run.Yields (collection .inbound f) (.ok m) := yields_collect.mpr ⟨f, hm, rfl⟩
  have hrefuse : (refuse .inbound).run.Yields ((Crossing.refusal g).map (·.atDevice)) (.ok ()) :=
    Device.yields_refuse.mpr ⟨g, hg, rfl⟩
  refine hcollect.then ?_
  rw [← List.append_nil ((Crossing.refusal g).map _)]
  exact hrefuse.then (.here _)

end Post

lemma run_authenticate_asks {s : Session} {password : Bytes} (hs : s.HasReached .infoKnown) (hi : s.inbound) :
    (Session.authenticate (b := Talk) password).run.run s = s.admission <$> (authorize password).run := by
  have hq : s.question "authenticate" .infoKnown (fun _ => .ok password) = .ok password :=
    Session.question_eq_ok.mpr ⟨hs, rfl, hi⟩
  rw [Session.run_authenticate, hq]
  rfl

/-- Exchanges come to their end, with each message received once and in order. -/
theorem exchanges_conclude :
    (∀ (leg : Leg) (posts : List Post), (∀ p ∈ posts, p.message.Fits) →
      (Dialogue.start (Post.converse leg (·.toDevice) posts) (Post.converse leg (!·.toDevice) posts)).Concludes
        (posts.map fun p => .ok (if p.toDevice then none else some p.message))
        (posts.map fun p => .ok (if p.toDevice then some p.message else none))) ∧
    ∀ (s : Session) (password : Bytes), s.HasReached .infoKnown → s.inbound →
      Message.Fits ⟨.authRequest, password⟩ →
      (Dialogue.start ((Session.authenticate (b := Talk) password).run.run s) (Post.turnDown .inbound)).Concludes
        (.ok .denied, { s with access? := some .denied }) (.ok ⟨.authRequest, password⟩, .ok ()) := by
  refine ⟨fun leg posts h => ?_, fun s password hs hi h => ?_⟩
  · obtain ⟨cs, hclear, hdesktop, hdevice⟩ := Post.exists_crossings leg h
    exact Dialogue.Leads.concludes (Dialogue.leads_of_crossings hclear hdesktop hdevice)
  · obtain ⟨f, hf, hfc, hfo⟩ := exists_frame h
    obtain ⟨g, hg, hgc, hgo⟩ := exists_frame fits_denied
    have hclear : ∀ c ∈ Crossing.message true .inbound f ++ Crossing.refusal g, c.packet.Clear :=
      List.forall_mem_append.mpr ⟨Crossing.clear_message hfc _ _, Crossing.clear_refusal hgc⟩
    have hdenied : (authorize password).run.Yields
        ((Crossing.message true .inbound f ++ Crossing.refusal g).map (·.atDesktop)) (.ok .denied) :=
      yields_denied.mpr ⟨f, g, hf, hgo, rfl⟩
    rw [run_authenticate_asks hs hi]
    apply Dialogue.Leads.concludes
    exact Dialogue.leads_of_crossings hclear (Talk.yields_map.mpr ⟨_, hdenied, rfl⟩) (Post.yields_turnDown hfo hg)

theorem exchanges_conclude_both_ways : ∃ s : Session, s.HasReached .infoKnown ∧ s.inbound ∧
    (Dialogue.start (Post.converse .inbound (·.toDevice) [⟨⟨.timeRequest, ()⟩, true⟩, ⟨⟨.complete, ()⟩, false⟩])
      (Post.converse .inbound (!·.toDevice) [⟨⟨.timeRequest, ()⟩, true⟩, ⟨⟨.complete, ()⟩, false⟩])).Concludes
        [.ok none, .ok (some ⟨.complete, ()⟩)] [.ok (some ⟨.timeRequest, ()⟩), .ok none] ∧
    (Dialogue.start ((Session.authenticate (b := Talk) [0x70]).run.run s) (Post.turnDown .inbound)).Concludes
      (.ok .denied, { s with access? := some .denied }) (.ok ⟨.authRequest, [0x70]⟩, .ok ()) := by
  let s : Session := { Session.new .standard with inbound := true, outbound := true, state := .infoKnown }
  have hs : s.HasReached .infoKnown := by decide
  exact ⟨s, hs, rfl, exchanges_conclude.1 .inbound _ (by decide), exchanges_conclude.2 s [0x70] hs rfl (by decide)⟩

end PimSync.Simulation
