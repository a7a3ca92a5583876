import PimSync.Proofs.Session.Concord

namespace PimSync.Session

open Wire Procedure Simulation Scene

variable {α β : Type} {s s' : Session} {d : Device} {c c' : Scene}

section Links

variable {x : Operation α} {f : α → Operation β} {r : Except SessionError β × Session} {a : α}
  {P : Except SessionError β × Session → Scene → Prop}

lemma Becomes.andThen {c₁ c₂ : Scene} {s₁ : Session} (h : c.Becomes (x.run.run s) (.ok a, s₁) c₁)
    (k : c₁.Becomes ((f a).run.run s₁) r c₂) : c.Becomes ((x >>= f).run.run s) r c₂ := by
  rw [run_bind]
  exact h.bind k

lemma Becomes.does_andThen {c₁ : Scene} {s₁ : Session} (h : c.Becomes (x.run.run s) (.ok a, s₁) c₁)
    (k : c₁.Does ((f a).run.run s₁) P) : c.Does ((x >>= f).run.run s) P := by
  rw [run_bind]
  exact h.does_bind k

lemma becomes_of_run {r : Except SessionError α × Session} (h : x.run.run s = pure r) (c : Scene) :
    c.Becomes (x.run.run s) r c := by
  rw [h]
  exact .pure r c

lemma becomes_request {q : Request} {answer : q.Answer} (h : c.Becomes (Talk.request q) answer c') (s : Session) :
    c.Becomes ((Operation.request q).run.run s) (.ok answer, s) c' := by
  rw [Operation.request, run_converse]
  exact h.map _

lemma becomes_exchange {y : Exchange α} (h : c.Becomes y.run (.ok a) c') (s : Session) :
    c.Becomes ((Operation.exchange y).run.run s) (.ok a, s) c' := by
  rw [Operation.exchange, run_bind, run_converse]
  exact (h.map _).bind (becomes_of_run (run_ofExcept _ s) c')

lemma maintains_listen : Maintains listen := by
  intro s c h
  rw [run_listen]
  split
  · rename_i hs
    refine fun β k Q hQ hk => becomes_listen c s.config.listener β _ Q hQ (hk (.ok (), s.attending) c ?_)
    have hn : ¬ s.attending.state.isConnected := State.not_isConnected_listening
    cases h with
    | apart initiating d desktop host ha =>
      exact .apart initiating d desktop host ⟨hn, ha.inbound, ha.outbound, fun _ => ⟨rfl, rfl⟩⟩
    | joined x host hj _ => exact absurd hj.1 (State.not_isConnected_of_canListen hs)
    | adrift hj _ _ => exact absurd hj.1 (State.not_isConnected_of_canListen hs)
    | parted _ hp => exact .parted hn hp
  · exact .pure h

lemma run_requireLink_listening (hl : s.listening) :
    (requireLink listening : Operation Unit).run.run s = pure (.ok (), s) := by
  rw [run_requireLink, if_pos hl]

lemma becomes_requireListening (hs : s.state = .listening) (operation : String) (c : Scene) :
    c.Becomes ((Operation.requireListening operation).run.run s) (.ok (), s) c := by
  refine becomes_of_run ?_ c
  rw [run_requireListening, if_pos hs]

lemma becomes_dialled (hl : s.listening) (d : Device) (desktop : Endpoint) (host : Leg → String) :
    (before false d desktop host).Becomes (dial.run.run s) (.ok (), s.joined) (awaiting d .none host) := by
  obtain ⟨f, hf, -, hready⟩ := exists_frame fits_ready
  obtain ⟨next, hmeet, next', hcollect, hagain⟩ := d.meet_asks hready desktop (host .outbound)
  have hcalled : Becomes ⟨.start (.ask (.dial .inbound desktop) next'), .idle, .idle, .none, .none, host⟩
      (Talk.request (.accept .inbound)) (.ok (host .inbound)) (awaiting d .none host) := by
    refine Becomes.again ?_
    rw [← hagain]
    exact becomes_called (by rw [hagain]; rintro _ ⟨⟩)
  rw [before, hmeet]
  refine Becomes.andThen (becomes_of_run (run_get s) _) ?_
  refine Becomes.andThen (becomes_request (becomes_dial _ .outbound _) _) ?_
  refine Becomes.andThen (becomes_of_run (run_pure () _) _) ?_
  refine Becomes.andThen (becomes_of_run (run_modifyGet _ _) _) ?_
  refine Becomes.andThen (becomes_exchange (becomes_greeted hf hcollect fun _ => Talk.ask_ne_done) _) ?_
  refine Becomes.andThen (becomes_of_run (run_requireLink_listening (s := { s with outbound := true }) hl) _) ?_
  refine Becomes.andThen (becomes_request hcalled _) ?_
  refine Becomes.andThen (becomes_of_run (run_pure _ _) _) ?_
  exact becomes_of_run (run_modifyGet _ _) _

lemma becomes_accepted (hs : s.state = .listening) (hl : s.listening) (d : Device) (desktop : Endpoint)
    (host : Leg → String) :
    (before true d desktop host).Becomes (acceptDevice.run.run s) (.ok (), s.joined) (awaiting d .none host) := by
  obtain ⟨f, hf, -, -⟩ := exists_frame (m := ⟨.deviceReady, ()⟩) (by decide)
  obtain ⟨g, hg, -, hready⟩ := exists_frame fits_ready
  obtain ⟨next, hmeet, ⟨ask, hnext⟩, next', hdelivered, hagain⟩ := d.call_asks hf hready desktop (host .outbound)
  rw [before, hmeet]
  refine Becomes.andThen (becomes_requireListening hs _ _) ?_
  refine Becomes.andThen (becomes_of_run (run_requireLink_listening hl) _) ?_
  refine Becomes.andThen (becomes_request (becomes_called fun _ => hnext ▸ Talk.ask_ne_done) _) ?_
  refine Becomes.andThen (becomes_of_run (run_pure _ _) _) ?_
  refine Becomes.andThen (becomes_of_run (run_modifyGet _ _) _) ?_
  refine Becomes.andThen (becomes_exchange (becomes_announced hf (by decide) hdelivered fun _ => Talk.ask_ne_done) _) ?_
  refine Becomes.andThen (becomes_of_run (run_get _) _) ?_
  refine Becomes.andThen (becomes_request (becomes_dial _ .outbound _) _) ?_
  refine Becomes.andThen (becomes_of_run (run_pure () _) _) ?_
  refine Becomes.andThen (becomes_of_run (run_modifyGet _ _) _) ?_
  refine Becomes.andThen (becomes_exchange (becomes_greeted hg hagain (by rintro _ ⟨⟩)).again _) ?_
  exact becomes_of_run (run_modifyGet _ _) _

lemma does_exchange_error {y : Exchange α} {R : Scene → Prop}
    (h : c.Does y.run fun r c' => (∃ e, r = .error e) ∧ R c') (f : α → Operation β) (s : Session) :
    c.Does ((Operation.exchange y >>= f).run.run s) fun r c' => r.2 = s ∧ R c' := by
  rw [Operation.exchange, bind_assoc, run_bind, run_converse]
  refine Does.bind (P := fun r c' => (∃ e, r = (.ok (.error e), s)) ∧ R c') (h.map ?_) ?_
  · rintro r c' ⟨⟨e, rfl⟩, hc⟩
    exact ⟨⟨e, rfl⟩, hc⟩
  · rintro r c' ⟨⟨e, rfl⟩, hc⟩
    exact .pure ⟨rfl, hc⟩

lemma does_never {q : Request} (h : c.Does (Talk.request q) fun _ _ => False) (f : q.Answer → Operation β)
    (s : Session) : c.Does ((Operation.request q >>= f).run.run s) P := by
  rw [run_bind, Operation.request, run_converse]
  exact Does.bind (P := fun _ _ => False) (h.map fun _ _ => id) fun _ _ => False.elim

lemma not_connected_of_listening (hs : s.state = .listening) : ¬ s.state.isConnected := by
  rw [hs]
  exact State.not_isConnected_listening

lemma maintains_connect : Maintains connect := by
  intro s c h
  by_cases hs : s.state = .listening
  · have hn := not_connected_of_listening hs
    refine Becomes.does_andThen (becomes_requireListening hs _ c) ?_
    cases h with
    | apart initiating d desktop host ha =>
      obtain ⟨hl, hflags⟩ := ha.listening hs
      cases initiating with
      | false =>
        refine (becomes_dialled hl d desktop host).does (.joined _ host ⟨rfl, rfl, rfl⟩ fun f hf => ?_)
        cases hflags.symm.trans hf
      | true =>
        -- a device that initiates has dialled as well, and takes no call before it is asked for what it has to say
        refine Becomes.does_andThen (becomes_of_run (run_get s) _) ?_
        refine Becomes.does_andThen (becomes_request (becomes_dial _ .outbound _) _) ?_
        refine Becomes.does_andThen (becomes_of_run (run_pure () _) _) ?_
        refine Becomes.does_andThen (becomes_of_run (run_modifyGet _ _) _) ?_
        have hcollide : Does { before true d desktop host with dialled := Calls.none.add .outbound }
            (Exchange.deliver .outbound ready).run fun r _ => (∃ e, r = .error e) ∧ False :=
          (does_collide d desktop host ready).mono fun _ _ => False.elim
        exact (does_exchange_error hcollide _ _).mono fun _ _ h => h.2.elim
    | joined x host hj _ => exact absurd hj.1 hn
    | adrift hj _ _ => exact absurd hj.1 hn
    | parted _ hp =>
      refine Becomes.does_andThen (becomes_of_run (run_get s) _) ?_
      refine Becomes.does_andThen (becomes_request (becomes_dial _ .outbound _) _) ?_
      refine Becomes.does_andThen (becomes_of_run (run_pure () _) _) ?_
      refine Becomes.does_andThen (becomes_of_run (run_modifyGet _ _) _) ?_
      have hended := does_deliver_ended (c := { c with dialled := c.dialled.add .outbound }) hp.ended ready
      refine (does_exchange_error hended _ _).mono fun r c' hr => ?_
      obtain ⟨hs', rfl⟩ := hr
      rw [hs']
      exact .parted hn ⟨hp.ended, hp.called, hp.undialling⟩
  · rw [show connect.run.run s = _ from run_not_listening hs]
    exact .pure h

lemma maintains_acceptDevice : Maintains acceptDevice := by
  intro s c h
  by_cases hs : s.state = .listening
  · have hn := not_connected_of_listening hs
    have hwait (hl : s.listening) (hnever : c.Does (Talk.request (.accept .inbound)) fun _ _ => False) :
        c.Does (acceptDevice.run.run s) fun r c' => Concord r.2 c' :=
      Becomes.does_andThen (becomes_requireListening hs _ c)
        (Becomes.does_andThen (becomes_of_run (run_requireLink_listening hl) c) (does_never hnever _ s))
    cases h with
    | apart initiating d desktop host ha =>
      obtain ⟨hl, hflags⟩ := ha.listening hs
      cases initiating with
      | false => exact hwait hl (does_await d desktop host)
      | true =>
        refine (becomes_accepted hs hl d desktop host).does (.joined _ host ⟨rfl, rfl, rfl⟩ fun f hf => ?_)
        cases hflags.symm.trans hf
    | joined x host hj _ => exact absurd hj.1 hn
    | adrift hj _ _ => exact absurd hj.1 hn
    | parted _ hp =>
      by_cases hl : s.listening
      · exact hwait hl (hp.does_accept .inbound)
      · refine Becomes.does_andThen (becomes_requireListening hs _ c) ?_
        rw [run_bind, run_requireLink, if_neg hl]
        exact .pure (.parted hn hp)
  · rw [show acceptDevice.run.run s = _ from run_not_listening hs]
    exact .pure h

lemma becomes_when {p : Prop} [Decidable p] {y : Operation Unit} {f : Unit → Operation β} {c₁ c₂ : Scene}
    (hy : p → c.Becomes (y.run.run s) (.ok (), s) c₁) (hn : ¬ p → c₁ = c)
    (k : c₁.Becomes ((f ()).run.run s) r c₂) : c.Becomes ((if p then y >>= f else f ()).run.run s) r c₂ := by
  split
  · rename_i h
    exact Becomes.andThen (hy h) k
  · rename_i h
    rwa [← hn h]

lemma becomes_finalized (c : Scene) (s : Session) : c.Becomes (finalize.run.run s) (.ok (), s.finalized)
    ((c.hangUp s.inbound .inbound).hangUp s.outbound .outbound) := by
  have hclose (c : Scene) (p : Bool) (leg : Leg) (hp : p = true) :
      c.Becomes ((Operation.request (.close leg)).run.run s) (.ok (), s) (c.hangUp p leg) := by
    rw [hangUp, if_pos hp]
    exact becomes_request (becomes_close c leg) s
  refine Becomes.andThen (becomes_of_run (run_get s) c) ?_
  refine becomes_when (hclose c _ .inbound) (fun hn => if_neg hn) ?_
  refine becomes_when (hclose _ _ .outbound) (fun hn => if_neg hn) ?_
  refine becomes_when (fun _ => becomes_request (becomes_unlisten _) s) (fun _ => rfl) ?_
  exact becomes_of_run (run_modifyGet (fun _ => ((), s.finalized)) s) _

lemma maintains_finalize : Maintains finalize := by
  intro s c h
  refine (becomes_finalized c s).does ?_
  have hn : ¬ s.finalized.state.isConnected := State.not_isConnected_finalized s.state
  have hparted (hi : s.Joined) (hc : c.called = .none) (hu : c.device.talk.Undialling) :
      Concord s.finalized ((c.hangUp s.inbound .inbound).hangUp s.outbound .outbound) := by
    rw [hi.2.1, hi.2.2]
    exact .parted hn ⟨rfl, hc, hu⟩
  cases h with
  | apart initiating d desktop host ha =>
    rw [ha.inbound, ha.outbound]
    refine .apart initiating d desktop host ⟨hn, rfl, rfl, fun hs => ?_⟩
    change (if s.state = .idle then State.idle else .disconnected) = .listening at hs
    split at hs <;> cases hs
  | @joined d x host hj _ => exact hparted hj rfl d.undialling_round
  | adrift hj ha _ => exact hparted hj ha.called ha.undialling
  | parted _ hp => exact .parted hn ((hp.hangUp _ _).hangUp _ _)

lemma maintains_initiate : Maintains initiate :=
  composes_maintains.initiate maintains_listen maintains_connect maintains_requestInfo maintains_authenticate
    maintains_requestState

lemma maintains_perform (a : Action) : Maintains a.perform := by
  cases a with
  | listen => exact maintains_listen
  | connect => exact maintains_connect
  | acceptDevice => exact maintains_acceptDevice
  | finalize => exact maintains_finalize
  | initiate => exact maintains_initiate
  | errand e => exact maintains_errand e

lemma Concord.does_performAll (actions : List Action) (h : Concord s c) :
    c.Does ((Action.performAll actions).run s) fun r c' => Concord r.2 c' := by
  induction actions generalizing s c with
  | nil => exact .pure h
  | cons a as ih =>
    refine (maintains_perform a s c h).bind fun (r, s') c' h' => ?_
    refine (ih h').bind fun (rs, s'') c'' h'' => ?_
    exact .pure h''

end Links

section Boundaries

open Encounter

variable {γ : Type}

def Tallies (r : γ × Session) (t : Talk Device.Served) : Prop :=
  r.2.state.isConnected → (∃ e, t = .done (.finished (.error e))) ∨
    ∃ d : Device, d.StandsAt t ∧ ∀ f, r.2.flags? = some f → d.flags = f

lemma backed_tallies : Backed (Tallies (γ := γ)) where
  silent ht he hu hq hc := by
    rcases hq hc with ⟨x, hx⟩ | ⟨d, hd, hf⟩
    · exact absurd hx (hu x)
    · exact .inr ⟨d, hd.of_silent he ht, hf⟩
  again {_ d} hq hc := by
    obtain ⟨next, hn⟩ := d.round_asks
    have hround : d.StandsAt d.round := (Device.standsAt_waiting hn).of_silent (Event.isSilent_sent _ _) hn
    rcases hq hc with ⟨x, hx⟩ | ⟨d', hd, hf⟩
    · rw [hx] at hn
      cases hn
    · obtain rfl := Device.StandsAt.unique (.round (.here _)) hd hround
      exact .inr ⟨d', ⟨[], by simp, .inl (.here _)⟩, hf⟩

lemma Concord.ends (h : Concord s c) (a : γ) : (c.play (.done (a, s))).Ends Tallies := by
  cases h with
  | apart _ _ _ _ ha => exact ends_of_done rfl fun _ hc => absurd hc ha.connected
  | parted hn _ => exact ends_of_done rfl fun _ hc => absurd hc hn
  | @joined d x host hj hd =>
    obtain ⟨next, hn⟩ := d.round_asks
    refine through_sent hn rfl nofun Tallies backed_tallies (ends_of_rest (stepDesktop_of_done rfl)
      (not_stepDevice_of_waiting rfl rfl rfl) ?_)
    rintro _ ⟨⟩ -
    exact .inr ⟨d, Device.standsAt_waiting hn, fun f hf => (hd f hf).2⟩
  | adrift hj ha hflags =>
    obtain ⟨hto, -, -, hdevice⟩ := ha
    rcases hdevice with ⟨d, next, hd, hstands, hv, hcarries⟩ | ⟨e, hv, -⟩
    · have hopen : (c.toDesktop .inbound).ended = false := by
        rcases hcarries with hidle | ⟨f, -, hf⟩
        · rw [hidle]
          rfl
        · rw [hf]
          rfl
      refine ends_of_rest (stepDesktop_of_done rfl) (not_stepDevice_of_waiting hv hopen (by rw [hto]; rfl)) ?_
      rintro _ ⟨⟩ -
      refine .inr ⟨d, ?_, fun f hf => hd.trans (hflags f hf).symm⟩
      change d.StandsAt c.device.talk
      rwa [hv]
    · refine ends_of_rest (stepDesktop_of_done rfl) ?_ ?_
      · simp [play, stepDevice, hv, Voice.contact, Voice.start, Duet.stepDevice, Voice.step]
      · rintro _ ⟨⟩ -
        exact .inl ⟨e, congrArg Voice.talk hv⟩

end Boundaries

section Runs

variable {γ : Type}

lemma performAll_cons_bind (a : Action) (actions : List Action) (s : Session)
    (k : List Action.Outcome × Session → Talk γ) : (Action.performAll (a :: actions)).run s >>= k =
      a.perform.run.run s >>= fun r => (Action.performAll actions).run r.2 >>= fun rs =>
        k (⟨a, r.1⟩ :: rs.1, rs.2) := by
  have hrun : (Action.performAll (a :: actions)).run s = a.perform.run.run s >>= fun r =>
      (Action.performAll actions).run r.2 >>= fun rs => pure (⟨a, r.1⟩ :: rs.1, rs.2) := rfl
  simp only [hrun, bind_assoc, pure_bind]

lemma leads_pose {request reply : MessageType} {operation : String} {least : State}
    {content : Session → Except SessionError request.Payload} {conclude : reply.Payload → Session → α × Session}
    {payload : request.Payload} {answer : reply.Payload} {d' : Device}
    (hr : d.respond ⟨request, payload⟩ = (.ok (.message ⟨reply, answer⟩), d'))
    (hq : s.question operation least content = .ok payload) (ht : request ≠ .terminate)
    (hm : Message.Fits ⟨request, payload⟩) (hfit : Message.Fits ⟨reply, answer⟩)
    (k : Except SessionError α × Session → Talk γ) :
    (Duet.meet ((pose request reply operation least content conclude).run.run s >>= k) d.round).Leads
      (Duet.meet (k (.ok (conclude answer s).1, (conclude answer s).2)) d'.round) := by
  have hc : s.conclusion reply conclude (.ok ⟨reply, answer⟩) = (.ok (conclude answer s).1, (conclude answer s).2) := by
    simp [conclusion, Message.payload?_eq_some.mpr]
  simp only [run_pose, hq, map_eq_pure_bind, bind_assoc, ← hc]
  exact Duet.leads_ask hm hfit hr ht (fun _ => Exchange.yields_answer.mpr) _

variable {k : Except SessionError Flags × Session → Talk γ}

lemma leads_requestInfo (hs : s.state = .connected) (hi : s.inbound) (hd : Message.Fits ⟨.info, d.info⟩)
    (k : Except SessionError DeviceInfo × Session → Talk γ) : (Duet.meet (requestInfo.run.run s >>= k) d.round).Leads
      (Duet.meet (k (.ok d.info, s.informed d.info)) (d.record ⟨.infoRequest, ()⟩).round) := by
  have hadvance : { s with device? := some d.info }.advance .infoKnown = s.informed d.info :=
    advance_of_lt hs (by decide)
  rw [← hadvance]
  exact leads_pose d.respond_info (question_eq_ok.mpr ⟨hasReached_of_le hs (by decide), rfl, hi⟩) nofun (by decide) hd k

lemma leads_requestState (hs : s.state = .infoKnown) (hi : s.inbound) (hm : s.mayProceed) (hu : d.unlocked) :
    (Duet.meet (requestState.run.run s >>= k) d.round).Leads
      (Duet.meet (k (.ok d.flags, { s with flags? := some d.flags, state := .stateKnown }))
        (d.record ⟨.stateRequest, s.category⟩).round) := by
  have hadvance : { s with flags? := some d.flags }.advance .stateKnown =
      { s with flags? := some d.flags, state := .stateKnown } := advance_of_lt hs (by decide)
  rw [← hadvance]
  exact leads_pose (d.respond_state hu _) (question_eq_ok.mpr ⟨hasReached_of_le hs (by decide), if_pos hm, hi⟩) nofun
    (by cases s.category <;> decide) (Nat.le_of_ble_eq_true rfl) k

lemma leads_resetState (hs : s.state = .stateKnown) (hi : s.inbound) (hu : d.unlocked) (c : Category) :
    (Duet.meet ((resetState c).run.run s >>= k) d.round).Leads
      (Duet.meet (k (.ok (s.flagsReset c), { s with flags? := some (s.flagsReset c) }))
        { d.record ⟨.setState, s.flagsReset c⟩ with flags := s.flagsReset c }.round) := by
  have hr : d.respond ⟨.setState, s.flagsReset c⟩ =
      (.ok Device.complete, { d.record ⟨.setState, s.flagsReset c⟩ with flags := s.flagsReset c }) := by
    simp [Device.respond, Device.answer, Device.record, hu]
  exact leads_pose hr (question_eq_ok.mpr ⟨hasReached_of_le hs (by decide), rfl, hi⟩) (by decide)
    (Nat.le_of_ble_eq_true rfl) (by decide) k

lemma leads_reset (config : Config) (hu : d.unlocked) (ha : d.info.requiresAuth = false)
    (hd : Message.Fits ⟨.info, d.info⟩) (c : Category) (desktop : Endpoint) (host : Leg → String) :
    ∃ (outcomes : List Action.Outcome) (s : Session) (d' : Device),
      Leads Encounter.Moves (.between false ((Action.performAll [.listen, .connect, .errand .requestInfo,
        .errand .requestState, .errand (.resetState c)]).run (new config)) d desktop host)
          ⟨Duet.meet (.done (outcomes, s)) d'.round, .none, .none, host⟩ ∧
        s.state.isConnected ∧ s.flags? = some (d.flags.reset c) := by
  have hm (s : Session) : (s.informed d.info).mayProceed := .inl (by simp [informed, ha])
  rw [← bind_pure (StateT.run _ _)]
  simp only [performAll_cons_bind]
  let d₁ := d.record ⟨.infoRequest, ()⟩
  let d₂ := d₁.record ⟨.stateRequest, config.category⟩
  refine ⟨_, _, _, (leads_listen rfl d _).trans ((leads_connect rfl rfl d _).trans
    ((Encounter.leads_of_duet (leads_requestInfo rfl rfl hd _)).trans
      ((Encounter.leads_of_duet (leads_requestState (d := d₁) rfl rfl (hm _) hu)).trans
        ((Encounter.leads_of_duet (leads_resetState (d := d₂) rfl rfl hu c)).trans (.refl _))))), ?_, ?_⟩
  · rfl
  · rfl

end Runs

/-- The flags that a connected session knows are those of its device, unless the device has given up. -/
theorem flags_agree {config : Config} {initiating : Bool} {actions : List Action} {d : Device} {desktop : Endpoint}
    {host : Leg → String} {e : Encounter (List Action.Outcome × Session)} {outcomes : List Action.Outcome}
    (he : Leads Encounter.Moves (.between initiating ((Action.performAll actions).run (new config)) d desktop host) e)
    (hdone : e.duet.desktop.talk = .done (outcomes, s)) (hc : s.state.isConnected) :
    (∃ x, e.duet.device.talk = .done (.finished (.error x))) ∨
      ∃ d' : Device, (∀ d'' : Device, d''.StandsAt e.duet.device.talk ↔ d'' = d') ∧
        ∀ f, s.flags? = some f → d'.flags = f := by
  have hstart : Concord (new config) (.before initiating d desktop host) :=
    .apart initiating d desktop host (.new config)
  have hends := hstart.does_performAll actions _ pure Tallies backed_tallies fun r c h => h.ends r.1
  rw [bind_pure] at hends
  have hreaches : Device.Reaches e.duet.device.talk := Encounter.reaches_of_leads he (.meet (.here _))
  rcases hends e he _ hdone hc with hx | ⟨d', hd, hf⟩
  · exact .inl hx
  · refine .inr ⟨d', fun d'' => ⟨fun h => Device.StandsAt.unique hreaches h hd, ?_⟩, hf⟩
    rintro rfl
    exact hd

theorem flags_agree_reset :
    let d := { Device.new ⟨[0x5a], ⟨[0x65, 0x6e], rfl⟩, 0⟩ Device.Sample.time with flags := ⟨0xfa⟩ }
    let actions : List Action := [.listen, .connect, .errand .requestInfo, .errand .requestState,
      .errand (.resetState .calendar)]
    let desktop : Endpoint := ⟨"127.0.0.1", 4245⟩
    let host : Leg → String := fun _ => "127.0.0.1"
    ∃ (e : Encounter (List Action.Outcome × Session)) (outcomes : List Action.Outcome) (s : Session) (d' : Device),
      Leads Encounter.Moves (.between false ((Action.performAll actions).run (new .standard)) d desktop host) e ∧
      e.duet.desktop.talk = .done (outcomes, s) ∧ s.state.isConnected ∧ s.flags? = some ⟨0xf8⟩ ∧
      d'.StandsAt e.duet.device.talk ∧ d'.flags = ⟨0xf8⟩ := by
  intro d actions desktop host
  obtain ⟨outcomes, s, d', hleads, hc, hflags⟩ :=
    leads_reset (d := d) .standard rfl rfl (by decide) .calendar desktop host
  have hreset : d.flags.reset .calendar = ⟨0xf8⟩ := by decide
  rw [hreset] at hflags
  rcases flags_agree hleads rfl hc with ⟨x, hx⟩ | ⟨d'', hd, hf⟩
  · cases hx
  · exact ⟨_, outcomes, s, d'', hleads, rfl, hc, hflags, (hd d'').mpr rfl, hf _ hflags⟩

end PimSync.Session
