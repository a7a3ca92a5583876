import PimSync.Proofs.Session.Refinement

namespace PimSync.Session

open Simulation Procedure

variable {s s₁ s₂ : Session} {d : Device} {desk desk' : Desk} {e : Errand} {err : SessionError}
  {errands : List Errand} {outcomes : List Outcome}

lemma tracks_of_error (hl : s.Linked) (h : runAt e.perform.run s desk = ((.error err, s₁), desk')) :
    Tracks e.perform e.perform s := by
  by_cases he : e = .terminate
  · subst he
    have hx := run_terminate (b := Talk) s
    have hy := run_terminate (b := Direct) s
    cases hq : s.question "terminate" .connected fun _ => .ok () with
    | error e =>
      simp only [hq] at hx hy
      exact .still hx hy (.refl s)
    | ok payload =>
      obtain ⟨hreach, -, -⟩ := question_eq_ok.mp hq
      obtain ⟨-, hout⟩ := hl hreach.1
      cases h.symm.trans (runAt_terminate hq hout desk)
  · exact tracks_perform e he

lemma run_performAll_concat (errands : List Errand) (e : Errand) (s : Session) :
    (performAll (b := Talk) (errands ++ [e])).run s = (performAll errands).run s >>= fun (outcomes, s) =>
      e.perform.run.run s >>= fun (r, s) => pure (outcomes ++ [⟨e, r⟩], s) := by
  induction errands generalizing s with
  | nil => simp [performAll]
  | cons e' es ih => simp [performAll, ih]

lemma leads_performAll (hs : s.Joined) (hrun : s.atHand errands d = ((outcomes, s₁), desk))
    (hp : ∀ t ∈ desk.turns, t.Passes) : s₁.Linked ∧ ∀ (β : Type) (k : List Outcome × Session → Talk β),
      (Duet.meet ((performAll errands).run s >>= k) d.round).Leads (s₁.boundary desk.device (k (outcomes, s₁))) := by
  obtain ⟨outcomes', s', turns, hy, hx⟩ := mirrors_performAll errands s ⟨d, []⟩
  cases hy.symm.trans hrun
  obtain ⟨hl, hleads⟩ := hx (fun _ => hs.2) hp
  refine ⟨hl, fun β k => ?_⟩
  have h := hleads β k
  rwa [boundary, if_pos hs.1] at h

lemma unlocked_atHand (hrun : s.atHand errands d = ((outcomes, s₁), desk)) (hd : d.unlocked) :
    desk.device.unlocked := by
  obtain ⟨outcomes', s', turns, hy, -⟩ := mirrors_performAll errands s ⟨d, []⟩
  cases hy.symm.trans hrun
  exact Desk.unlocked_after turns hd

lemma settles_of_boundary {α : Type} {c : Duet α} {a : α} (h : c.Leads (s.boundary d (.done a))) :
    ∃ final, c.Settles final ∧ final.desktop.talk = .done a ∧ (s.state.isConnected → final.Waiting d) := by
  by_cases hc : s.state.isConnected
  · obtain ⟨final, hfinal, hd, hw⟩ := Duet.Waiting.exists_of_meet (.done a) d
    rw [boundary, if_pos hc] at h
    exact ⟨final, hw.settles (h.trans hfinal) hd, congrArg Voice.talk hd, fun _ => hw⟩
  · obtain ⟨final, hfinal, he, hv, ht, -⟩ := boundary_ends s d a
    obtain ⟨n, hn⟩ := h.trans hfinal
    exact ⟨final, Duet.settles_of_steps hn he hv, ht, fun h => absurd h hc⟩

def GoesOn {α : Type} (c : Duet α) (d : Device) (s : Session) : Prop :=
  ∀ errands outcomes s' desk, s.atHand errands d = ((outcomes, s'), desk) → (∀ t ∈ desk.turns, t.Passes) →
    ∃ final, (c.resume ((performAll errands).run s)).Settles final ∧ final.desktop.talk = .done (outcomes, s') ∧
      (s'.state.isConnected → final.Waiting desk.device)

lemma goesOn_of_waiting {α : Type} {c : Duet α} (hw : c.Waiting d) (hs : s.Joined) : GoesOn c d s := by
  intro errands outcomes s' desk hrun hp
  obtain ⟨-, hleads⟩ := leads_performAll hs hrun hp
  have hmeet := hleads _ pure
  rw [bind_pure] at hmeet
  obtain ⟨final, hsettles, ht, hfinal⟩ := settles_of_boundary hmeet
  exact ⟨final, hsettles.of_leads (hw.leads_resume _), ht, hfinal⟩

section Failure

variable (hs : s.Joined) (hrun : s.atHand errands d = ((outcomes, s₁), desk)) (hp : ∀ t ∈ desk.turns, t.Passes)
  (hc : s₁.state.isConnected) (he : runAt e.perform.run s₁ ⟨desk.device, []⟩ = ((.error err, s₂), desk'))
  (hf : ∀ t ∈ desk'.turns, t.Fits)

include hs hrun hp hc he in
lemma joined_of_error : s₂.Joined := by
  obtain ⟨hl, -⟩ := leads_performAll hs hrun hp
  obtain ⟨r, s', turns, hy, -, hk, -⟩ := tracks_of_error hl he ⟨desk.device, []⟩
  cases he.symm.trans hy
  have hc' : s₂.state.isConnected := hk.isConnected.trans hc
  exact ⟨hc', hk.linked hl hc'⟩

include hs hrun hp he hf in
lemma course_of_error : Course e.perform s₁ ⟨desk.device, []⟩ desk'.turns (.error err) s₂ ∧
    desk.device.Takes desk'.turns ∧ desk' = Desk.after ⟨desk.device, []⟩ desk'.turns := by
  obtain ⟨hl, -⟩ := leads_performAll hs hrun hp
  obtain ⟨r, s', turns, hy, htakes, -, hx⟩ := tracks_of_error hl he ⟨desk.device, []⟩
  cases he.symm.trans hy
  exact ⟨hx hl hf, htakes, rfl⟩

include hs hrun hp in
lemma leads_concat (e : Errand) : (Duet.start ((performAll (errands ++ [e])).run s) d).Leads
    (s₁.boundary desk.device (e.perform.run.run s₁ >>= fun (r, s) => pure (outcomes ++ [⟨e, r⟩], s))) := by
  obtain ⟨-, hleads⟩ := leads_performAll hs hrun hp
  rw [run_performAll_concat]
  exact hleads _ _

include hs hrun hp he hf in
lemma waits_after_error (hc' : s₂.state.isConnected) (hr : ∀ t ∈ desk'.turns, ¬ t.Refused) :
    ∃ final, (Duet.start ((performAll (errands ++ [e])).run s) d).Settles final ∧
      final.desktop.talk = .done (outcomes ++ [⟨e, .error err⟩], s₂) ∧ final.Waiting desk'.device := by
  obtain ⟨hcourse, -, hdesk⟩ := course_of_error hs hrun hp he hf
  have hlast := hcourse.through hr _ fun (r, s) => pure (outcomes ++ [⟨e, r⟩], s)
  rw [← hdesk] at hlast
  obtain ⟨final, hsettles, ht, hw⟩ := settles_of_boundary ((leads_concat hs hrun hp e).trans hlast)
  exact ⟨final, hsettles, ht, hw hc'⟩

/-- No message is delivered any more, since the refusal of an earlier one is in the way. -/
def Stalls {α : Type} (c : Duet α) : Prop :=
  ∀ m, ∃ final, (c.resume (Exchange.deliver .inbound m).run).Settles final ∧
    final.desktop.talk = .done (.error (.control .request "ANG")) ∧ final.device = c.device

include hs hrun hp he hf in
lemma jams_after_refusal (h : ∃ t ∈ desk'.turns, t.Refused) : ¬ desk.device.unlocked ∧ err = aborted ∧
    ∃ final, (Duet.start ((performAll (errands ++ [e])).run s) d).Settles final ∧
      final.desktop.talk = .done (outcomes ++ [⟨e, .error err⟩], s₂) ∧
      ∃ ts t, desk'.turns = ts ++ [t] ∧ final.Jammed (Desk.after ⟨desk.device, []⟩ ts).device t.request := by
  obtain ⟨t, ht, hr⟩ := h
  obtain ⟨hcourse, htakes, -⟩ := course_of_error hs hrun hp he hf
  obtain ⟨ts, hts, herr, hjam⟩ := hcourse.jammed t ht hr
  obtain ⟨final, hlast, hd, hj⟩ := hjam _ fun (r, s) => pure (outcomes ++ [⟨e, r⟩], s)
  have hall := (leads_concat hs hrun hp e).trans hlast
  exact ⟨htakes.locked ht hr, Except.error.inj herr, final, hj.settles hall hd, congrArg Voice.talk hd, ts, t, hts,
    hj⟩

end Failure

/-- After an error the session goes on with its device, unless what it asked for was refused. -/
theorem recovers_unless_refused {s s₁ s₂ : Session} {d : Device} {desk desk' : Desk} {errands : List Errand}
    {outcomes : List Outcome} {e : Errand} {err : SessionError} (hs : s.Joined)
    (hrun : s.atHand errands d = ((outcomes, s₁), desk)) (hp : ∀ t ∈ desk.turns, t.Passes)
    (hc : s₁.state.isConnected) (he : runAt e.perform.run s₁ ⟨desk.device, []⟩ = ((.error err, s₂), desk'))
    (hf : ∀ t ∈ desk'.turns, t.Fits) :
    s₂.Joined ∧ ∃ final, (Duet.start ((performAll (errands ++ [e])).run s) d).Settles final ∧
      final.desktop.talk = .done (outcomes ++ [⟨e, .error err⟩], s₂) ∧
      ((∀ t ∈ desk'.turns, ¬ t.Refused) → final.Waiting desk'.device ∧ GoesOn final desk'.device s₂) ∧
      ((∃ t ∈ desk'.turns, t.Refused) → ¬ d.unlocked ∧ ¬ desk.device.unlocked ∧ err = aborted ∧
        (∃ ts t, desk'.turns = ts ++ [t] ∧ final.Jammed (Desk.after ⟨desk.device, []⟩ ts).device t.request) ∧
        Stalls final) := by
  have hjoined : s₂.Joined := joined_of_error hs hrun hp hc he
  refine ⟨hjoined, ?_⟩
  by_cases hrefused : ∃ t ∈ desk'.turns, t.Refused
  · obtain ⟨hlocked, herr, final, hsettles, htalk, ts, t, hts, hj⟩ := jams_after_refusal hs hrun hp he hf hrefused
    have hlocked' : ¬ d.unlocked := fun hd => hlocked (unlocked_atHand hrun hd)
    obtain ⟨u, hu, hur⟩ := hrefused
    exact ⟨final, hsettles, htalk, fun hnone => absurd hur (hnone u hu),
      fun _ => ⟨hlocked', hlocked, herr, ⟨ts, t, hts, hj⟩, hj.interrupts⟩⟩
  · have hnone : ∀ t ∈ desk'.turns, ¬ t.Refused := fun t ht hr => hrefused ⟨t, ht, hr⟩
    obtain ⟨final, hsettles, htalk, hw⟩ := waits_after_error hs hrun hp he hf hjoined.1 hnone
    exact ⟨final, hsettles, htalk, fun _ => ⟨hw, goesOn_of_waiting hw hjoined⟩, fun h => absurd h hrefused⟩

theorem recovers_unless_refused_locked :
    let s := (Session.new .standard).joined
    let d := (Device.new ⟨[0x5a], ⟨[0x65, 0x6e], rfl⟩, 0⟩ Device.Sample.time).lock [1]
    let s₁ := (s.atHand [.requestInfo] d).1.2
    let desk := (s.atHand [.requestInfo] d).2
    (∃ final, (Duet.start ((performAll [.requestInfo, .requestState]).run s) d).Settles final ∧
      final.desktop.talk = .done ([⟨.requestInfo, .ok d.info⟩,
        ⟨.requestState, .error (.invalidState "request_sync_state" .infoKnown)⟩], s₁) ∧
      final.Waiting desk.device ∧ GoesOn final desk.device s₁) ∧
    ∃ final, (Duet.start ((performAll [.requestInfo, .requestTime]).run s) d).Settles final ∧
      final.desktop.talk = .done ([⟨.requestInfo, .ok d.info⟩, ⟨.requestTime, .error aborted⟩], s₁) ∧
      (∃ device, final.Jammed device ⟨.timeRequest, ()⟩) ∧ Stalls final := by
  intro s d s₁ desk
  have hs : s.Joined := by decide
  have hrun : s.atHand [.requestInfo] d = (([⟨.requestInfo, .ok d.info⟩], s₁), desk) := rfl
  have hp : ∀ t ∈ desk.turns, t.Passes := by decide
  constructor
  · obtain ⟨-, final, hsettles, htalk, hwaits, -⟩ :=
      recovers_unless_refused (e := .requestState) hs hrun hp rfl rfl (by decide)
    exact ⟨final, hsettles, htalk, hwaits (by decide)⟩
  · obtain ⟨-, final, hsettles, htalk, -, hjams⟩ :=
      recovers_unless_refused (e := .requestTime) hs hrun hp rfl rfl (by decide)
    obtain ⟨-, -, -, ⟨ts, t, hts, hj⟩, hstalls⟩ := hjams (by decide)
    obtain ⟨-, ht⟩ := List.append_inj' (show [] ++ [_] = ts ++ [t] from hts) rfl
    cases ht
    exact ⟨final, hsettles, htalk, ⟨_, hj⟩, hstalls⟩

theorem not_always_recovered : ¬ ∀ (s s' : Session) (d : Device) (errands : List Errand) (e : Errand)
    (outcomes : List Outcome) (err : SessionError) (final : Duet (List Outcome × Session)), s.Joined →
    (∀ t ∈ (s.atHand (errands ++ [e]) d).2.turns, t.Fits) →
    (Duet.start ((performAll (errands ++ [e])).run s) d).Settles final →
    final.desktop.talk = .done (outcomes ++ [⟨e, .error err⟩], s') →
    (∀ o ∈ outcomes, ∀ err, o.result = .error err → ¬ err.isFatal) → ¬ err.isFatal →
      ∃ device, final.Waiting device := by
  intro hall
  let s := (Session.new .standard).joined
  let d := (Device.new ⟨[0x5a], ⟨[0x65, 0x6e], rfl⟩, 0⟩ Device.Sample.time).lock [1]
  have hs : s.Joined := by decide
  have hrun : s.atHand [] d = (([], s), ⟨d, []⟩) := rfl
  have hnone : ∀ t ∈ ([] : List Turn), t.Passes := fun t ht => absurd ht List.not_mem_nil
  obtain ⟨-, -, final, hsettles, htalk, ts, t, -, hj⟩ :=
    jams_after_refusal (e := .requestTime) hs hrun hnone rfl (by decide) (by decide)
  obtain ⟨device, hw⟩ := hall s s d [] .requestTime [] aborted final hs (by decide) hsettles htalk
    (fun o ho => absurd ho List.not_mem_nil) (by decide)
  exact hj.not_waiting device hw

end PimSync.Session
