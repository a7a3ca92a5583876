import PimSync.Device.Sample
import PimSync.Proofs.Session.Agreement
import PimSync.Proofs.Session.Joining

namespace PimSync.Session

open Simulation Procedure

variable {α : Type} {s : Session}

lemma keeps_conclusion {reply : MessageType} {conclude : reply.Payload → Session → α × Session}
    (h : ∀ payload, Keeps s (conclude payload s).2) (answer : Except ExchangeError Message) :
    Keeps s (s.conclusion reply conclude answer).2 := by
  unfold conclusion
  split
  · exact .refl s
  · split
    · exact h _
    · exact .refl s

lemma follows_ask {m : Message} (hm : ∀ d : Device, ∃ x, d.answer m = .ok x) (ht : m.type ≠ .terminate)
    (ha : m.type ≠ .authRequest) : Follows m (Exchange.ask m) Direct.answer := by
  intro d hp β k
  obtain ⟨r, hr⟩ := Device.respond_eq_ok hm d
  rw [hr] at hp ⊢
  cases r with
  | message reply =>
    have hd : d.respond m = (.ok (.message reply), (d.respond m).2) := Prod.ext hr rfl
    exact Duet.leads_ask hp.1 hp.2 hd ht (fun _ => Exchange.yields_answer.mpr) k
  | deny => exact absurd hp.2 ha

lemma follows_authorize {password : Bytes} :
    Follows ⟨.authRequest, password⟩ (Exchange.authorize password) Direct.verdict := by
  intro d hp β k
  have hr : d.respond ⟨.authRequest, password⟩ = (.ok ((d.record ⟨.authRequest, password⟩).authorize password).1,
      ((d.record ⟨.authRequest, password⟩).authorize password).2) := by
    simp [Device.respond, Device.isOpen, Device.answer]
  rw [hr] at hp ⊢
  unfold Device.authorize at hr hp ⊢
  split at hr
  · rename_i h
    simp only [if_pos h] at hp ⊢
    exact Duet.leads_ask hp.1 hp.2 hr (by simp) (fun _ => Exchange.yields_granted.mpr) k
  · rename_i h
    simp only [if_neg h] at hp ⊢
    exact Duet.leads_deny hp.1 hr k

lemma jams_ask {m : Message} : Jams m (Exchange.ask m) Direct.answer := by
  intro d hr hm
  exact ⟨rfl, fun β k => Duet.Jammed.exists_of_meet hm (Prod.ext hr.1 rfl) k⟩

lemma jams_authorize {password : Bytes} :
    Jams ⟨.authRequest, password⟩ (Exchange.authorize password) Direct.verdict :=
  fun _ hr => absurd rfl hr.2

namespace Tracks

lemma pose {request reply : MessageType} {operation : String} {least : State}
    {content : Session → Except SessionError request.Payload} {conclude : reply.Payload → Session → α × Session}
    (hm : ∀ payload (d : Device), ∃ x, d.answer ⟨request, payload⟩ = .ok x) (ht : request ≠ .terminate)
    (ha : request ≠ .authRequest) (hc : s.HasReached least → ∀ payload, Keeps s (conclude payload s).2) :
    Tracks (pose request reply operation least content conclude)
      (pose request reply operation least content conclude) s := by
  have hx := run_pose (b := Talk) request reply operation least content conclude s
  have hy := run_pose (b := Direct) request reply operation least content conclude s
  cases hq : s.question operation least content with
  | error e =>
    simp only [hq] at hx hy
    exact .still hx hy (.refl s)
  | ok payload =>
    simp only [hq] at hx hy
    obtain ⟨hreach, -, -⟩ := question_eq_ok.mp hq
    exact .ask (follows_ask (hm payload) ht ha) jams_ask hreach.1 hx hy (keeps_conclusion (hc hreach)) fun _ => rfl

end Tracks

lemma keeps_admission (h : s.HasReached .infoKnown) (verdict : Except ExchangeError Access) :
    Keeps s (s.admission verdict).2 := by
  rcases verdict with e | _ | _
  · exact .refl s
  · have hk : Keeps s { s with access? := some .granted } := ⟨rfl, rfl, rfl⟩
    exact hk.advance h.1 rfl
  · exact ⟨rfl, rfl, rfl⟩

lemma keeps_select (s : Session) (c : Category) : Keeps s (s.select c) := by
  unfold select
  split
  · exact .refl s
  · dsimp only
    split
    · rename_i h
      exact .of_connected h.2 rfl rfl rfl
    · exact ⟨rfl, rfl, rfl⟩

lemma keeps_dropFormat (s : Session) : Keeps s s.dropFormat := by
  unfold dropFormat
  dsimp only
  split
  · rename_i h
    refine .of_connected ?_ rfl rfl rfl
    rcases h with h | h | h <;> rw [h] <;> decide
  · exact ⟨rfl, rfl, rfl⟩

section Requests

lemma tracks_requestInfo : Tracks requestInfo requestInfo s := by
  refine .pose (fun _ _ => ⟨_, rfl⟩) nofun nofun fun h info => ?_
  have hk : Keeps s { s with device? := some info } := ⟨rfl, rfl, rfl⟩
  exact hk.advance h.1 rfl

lemma tracks_authenticate {password : Bytes} : Tracks (authenticate password) (authenticate password) s := by
  have hx := run_authenticate (b := Talk) password s
  have hy := run_authenticate (b := Direct) password s
  cases hq : s.question "authenticate" .infoKnown fun _ => .ok password with
  | error e =>
    simp only [hq] at hx hy
    exact .still hx hy (.refl s)
  | ok payload =>
    obtain ⟨hreach, hpw, -⟩ := question_eq_ok.mp hq
    obtain rfl := Except.ok.inj hpw
    simp only [hq] at hx hy
    exact .ask follows_authorize jams_authorize hreach.1 hx hy (keeps_admission hreach) fun _ => rfl

lemma tracks_requestState : Tracks requestState requestState s := by
  refine .pose (fun _ _ => ⟨_, rfl⟩) nofun nofun fun h flags => ?_
  have hk : Keeps s { s with flags? := some flags } := ⟨rfl, rfl, rfl⟩
  exact hk.advance h.1 rfl

lemma tracks_resetState {c : Category} : Tracks (resetState c) (resetState c) s :=
  .pose (fun _ _ => ⟨_, rfl⟩) nofun nofun fun _ _ => ⟨rfl, rfl, rfl⟩

lemma tracks_obtainFormat : Tracks obtainFormat obtainFormat s := by
  refine .pose (fun _ _ => ⟨_, rfl⟩) nofun nofun fun h _ => ?_
  have hk : Keeps s (s.advance .formatKnown) := (Keeps.refl s).advance h.1 rfl
  exact ⟨hk.isConnected, hk.inbound, hk.outbound⟩

lemma tracks_requestIds : Tracks requestIds requestIds s :=
  .pose (fun _ _ => ⟨_, rfl⟩) nofun nofun fun h _ => (Keeps.refl s).advance h.1 rfl

lemma tracks_fetchValues {id : UInt32} : Tracks (fetchValues id) (fetchValues id) s :=
  .pose (fun _ _ => ⟨_, rfl⟩) nofun nofun fun h _ => (Keeps.refl s).advance h.1 rfl

lemma tracks_writeItem {w : ItemWrite} : Tracks (writeItem w) (writeItem w) s :=
  .pose (fun _ _ => ⟨_, rfl⟩) nofun nofun fun _ _ => .refl s

lemma tracks_deleteItems {ids : List UInt32} : Tracks (deleteItems ids) (deleteItems ids) s :=
  .pose (fun _ _ => ⟨_, rfl⟩) nofun nofun fun _ _ => .refl s

lemma tracks_markDone : Tracks markDone markDone s :=
  .pose (fun _ _ => ⟨_, rfl⟩) nofun nofun fun h _ => .of_connected h.1 rfl rfl rfl

lemma tracks_requestTime : Tracks requestTime requestTime s :=
  .pose (fun _ _ => ⟨_, rfl⟩) nofun nofun fun _ _ => .refl s

lemma tracks_setTime {time : ClockTime} : Tracks (setTime time) (setTime time) s :=
  .pose (fun _ _ => ⟨_, rfl⟩) nofun nofun fun _ _ => .refl s

lemma tracks_requestPath : Tracks requestPath requestPath s :=
  .pose (fun _ _ => ⟨_, rfl⟩) nofun nofun fun _ _ => .refl s

end Requests

section Compounds

lemma tracks_cachedFormat {c : Category} : Tracks (cachedFormat c) (cachedFormat c) s :=
  .still (run_cachedFormat c s) (run_cachedFormat c s) (.refl s)

lemma tracks_fetchItem {id : UInt32} : Tracks (fetchItem id) (fetchItem id) s :=
  Tracks.get.bind fun _ _ => tracks_cachedFormat.bind fun _ _ => tracks_fetchValues.bind fun _ _ =>
    Tracks.get.bind fun _ _ => tracks_cachedFormat.bind fun _ _ => .ofExcept _

lemma tracks_insertItem {item : Item} : Tracks (insertItem item) (insertItem item) s :=
  (Tracks.require _ _).bind fun _ _ => tracks_cachedFormat.bind fun _ _ => tracks_writeItem

lemma tracks_updateItem {id : UInt32} {item : Item} : Tracks (updateItem id item) (updateItem id item) s :=
  (Tracks.require _ _).bind fun _ _ => tracks_cachedFormat.bind fun _ _ => tracks_writeItem

lemma tracks_pullChanges : Tracks pullChanges pullChanges s := by
  refine (Tracks.require _ _).bind fun _ _ => Tracks.get.bind fun s₀ _ => ?_
  have hrest (s) : Tracks (requestIds >>= fun ids => ids.changed.mapM fetchItem >>= fun items =>
      get >>= fun s => pure (⟨s.category, s.flags?.all (·.needsSlowSync s.category), ids, items⟩ : Changes))
      (requestIds >>= fun ids => ids.changed.mapM fetchItem >>= fun items =>
      get >>= fun s => pure (⟨s.category, s.flags?.all (·.needsSlowSync s.category), ids, items⟩ : Changes)) s :=
    tracks_requestIds.bind fun ids s => (Tracks.mapM (fun _ _ => tracks_fetchItem) _ s).bind fun _ _ =>
      Tracks.get.bind fun _ _ => .pure _
  cases s₀.format?.isNone with
  | true => exact tracks_obtainFormat.bind fun _ s => hrest s
  | false => exact hrest _

lemma run_ask (m : Message) (desk : Desk) : (Correspondent.ask m : Direct _).run desk =
    ((desk.device.respond m).1.bind Direct.answer, desk.after [⟨m, (desk.device.respond m).1⟩]) := rfl

def lastTurn : Turn := ⟨⟨.terminate, ()⟩, .ok Device.complete⟩

lemma respond_terminate (desk : Desk) :
    desk.device.respond ⟨.terminate, ()⟩ = (.ok Device.complete, (desk.after [lastTurn]).device) := by
  simp [Desk.after, lastTurn, Device.respond, Device.isOpen, Device.answer]

lemma run_ask_terminate (desk : Desk) : (Correspondent.ask (b := Direct) ⟨.terminate, ()⟩).run desk =
    (.ok ⟨.complete, ()⟩, desk.after [lastTurn]) := by
  rw [run_ask, respond_terminate]
  rfl

lemma runAt_terminate {payload : Unit} (hq : s.question "terminate" .connected (fun _ => .ok ()) = .ok payload)
    (ho : s.outbound) (desk : Desk) :
    runAt terminate.run s desk = (s.parting (.ok ()), desk.after [lastTurn]) := by
  have hy := run_terminate (b := Direct) s
  simp only [hq] at hy
  rw [runAt, hy, StateT.run_bind, run_ask_terminate]
  exact congrArg (fun z => StateT.run z _) (if_pos ho)

lemma agrees_terminate : Agrees terminate terminate s := by
  have hx := run_terminate (b := Talk) s
  have hy := run_terminate (b := Direct) s
  cases hq : s.question "terminate" .connected fun _ => .ok () with
  | error e =>
    simp only [hq] at hx hy
    exact .still hx hy (.refl s)
  | ok payload =>
    obtain ⟨hreach, -, -⟩ := question_eq_ok.mp hq
    simp only [hq] at hx hy
    intro desk
    cases ho : s.outbound with
    | false =>
      -- the device is left without a last word, which cannot happen to a session that is linked
      refine ⟨.error .notConnected, s, [lastTurn], ?_, fun hl _ => ?_⟩
      · rw [hy, StateT.run_bind, run_ask_terminate]
        exact congrArg (fun z => StateT.run z _) (if_neg (by simp [ho]))
      · obtain ⟨-, hout⟩ := hl hreach.1
        cases ho.symm.trans hout
    | true =>
      refine ⟨(s.parting (.ok ())).1, (s.parting (.ok ())).2, [lastTurn], runAt_terminate hq ho desk,
        fun hl _ => ⟨nofun, fun β k => ?_⟩⟩
      rw [hx, boundary, if_pos hreach.1, bind_assoc]
      refine Duet.leads_terminate (k := fun last => k (s.parting last)) (respond_terminate desk) ?_
      change (if s.outbound = true then s.parting <$> Talk.farewell
        else pure (.error .notConnected, s)) >>= k = _
      rw [if_pos ho, map_eq_pure_bind, bind_assoc]
      rfl

end Compounds

lemma tracks_perform (e : Errand) (he : e ≠ .terminate) : Tracks e.perform e.perform s := by
  cases e with
  | requestInfo => exact tracks_requestInfo
  | authenticate _ => exact tracks_authenticate
  | requestState => exact tracks_requestState
  | resetState _ => exact tracks_resetState
  | selectCategory c => exact .modifyGet (keeps_select s c)
  | obtainFormat => exact tracks_obtainFormat
  | resetFormat => exact .modifyGet (keeps_dropFormat s)
  | requestIds => exact tracks_requestIds
  | fetchValues _ => exact tracks_fetchValues
  | fetchItem _ => exact tracks_fetchItem
  | writeItem _ => exact tracks_writeItem
  | insertItem _ => exact tracks_insertItem
  | updateItem _ _ => exact tracks_updateItem
  | deleteItems _ => exact tracks_deleteItems
  | markDone => exact tracks_markDone
  | requestTime => exact tracks_requestTime
  | setTime _ => exact tracks_setTime
  | requestPath => exact tracks_requestPath
  | terminate => exact absurd rfl he
  | pullChanges => exact tracks_pullChanges

lemma agrees_perform (e : Errand) : Agrees e.perform e.perform s := by
  by_cases he : e = .terminate
  · subst he
    exact agrees_terminate
  · exact (tracks_perform e he).agrees

lemma mirrors_performAll (errands : List Errand) (s : Session) :
    Mirrors (performAll errands) (performAll errands) s := by
  induction errands generalizing s with
  | nil => exact .still rfl rfl (.refl s)
  | cons e es ih =>
    apply Mirrors.bind (agrees_perform e)
    intro r s
    apply (ih s).bind
    intro rs s
    exact .still rfl rfl (.refl s)

lemma requests_after (desk : Desk) (turns : List Turn) :
    (desk.after turns).device.requests = desk.device.requests ++ turns.map (·.request) := by
  induction turns generalizing desk with
  | nil => simp [Desk.after]
  | cons t ts ih =>
    have h := ih (desk.after [t])
    rw [← Desk.after_append] at h
    simpa [Desk.after, Device.requests_respond] using h

lemma boundary_ends (s : Session) (d : Device) (a : α) : ∃ final : Duet α,
    (s.boundary d (.done a)).Leads final ∧ final.stepDesktop = none ∧ final.stepDevice = none ∧
      final.desktop.talk = .done a ∧
      if s.state.isConnected then d.round.After [.sent .inbound (.control .request)] final.device.talk
      else final.device.talk = .done (.finished (.ok d)) := by
  by_cases hc : s.state.isConnected
  · obtain ⟨next, hn⟩ := Device.round_asks d
    have hr : (Duet.meet (.done a) d.round).Leads
        ⟨.start (.done a), .start (.ask (.receive .inbound) next), .idle, _⟩ :=
      Duet.leads_of_device (Voice.runs_sent_idle hn)
    refine ⟨_, by simpa only [boundary, if_pos hc] using hr, rfl, rfl, rfl, ?_⟩
    rw [if_pos hc]
    exact hn
  · refine ⟨_, .refl _, ?_⟩
    simp only [boundary, if_neg hc]
    exact ⟨rfl, rfl, rfl, rfl⟩

lemma disconnected_of_terminate {s s' : Session} {desk desk' : Desk}
    (h : runAt terminate.run s desk = ((.ok (), s'), desk')) : s'.state = .disconnected := by
  rw [runAt, run_terminate] at h
  split at h
  · cases h
  · rw [StateT.run_bind, run_ask] at h
    dsimp only [Id.run, bind, pure] at h
    split at h
    · cases h
    · split at h
      · cases h
        rfl
      · cases h

lemma runAt_performAll_cons {e : Errand} {es : List Errand} {s s₁ s' : Session} {desk desk₁ desk' : Desk}
    {r : Except SessionError e.Result} {rs : List Outcome} (he : runAt e.perform.run s desk = ((r, s₁), desk₁))
    (hes : runAt (performAll es) s₁ desk₁ = ((rs, s'), desk')) :
    runAt (performAll (e :: es)) s desk = ((⟨e, r⟩ :: rs, s'), desk') := by
  have h (x : (Except SessionError e.Result × Session) × Desk) (hx : runAt e.perform.run s desk = x) :
      runAt (performAll (e :: es)) s desk =
        ((⟨e, x.1.1⟩ :: (runAt (performAll es) x.1.2 x.2).1.1, (runAt (performAll es) x.1.2 x.2).1.2),
          (runAt (performAll es) x.1.2 x.2).2) := by
    subst hx
    rfl
  rw [h _ he, hes]

lemma not_isConnected_of_terminate {s s' : Session} {desk desk' : Desk} {errands : List Errand}
    {outcomes : List Outcome} (h : runAt (performAll errands) s desk = ((outcomes, s'), desk'))
    (hl : outcomes.getLast? = some ⟨.terminate, .ok ()⟩) : ¬ s'.state.isConnected := by
  induction errands generalizing s desk outcomes with
  | nil =>
    cases h
    cases hl
  | cons e es ih =>
    rcases he : runAt e.perform.run s desk with ⟨⟨r, s₁⟩, desk₁⟩
    rcases hes : runAt (performAll es) s₁ desk₁ with ⟨⟨rs, s₂⟩, desk₂⟩
    cases h.symm.trans (runAt_performAll_cons he hes)
    -- the last outcome is that of this errand only if none is left
    cases rs with
    | cons o rs => exact ih hes (by rwa [List.getLast?_cons_cons] at hl)
    | nil =>
      cases es with
      | cons e' es => cases hes.symm.trans (runAt_performAll_cons rfl rfl)
      | nil =>
        cases hes
        cases hl
        rw [disconnected_of_terminate he]
        decide

/-- In whatever order bytes move, a session over links does what it would do with the device at hand. -/
theorem refines_device {s s' : Session} {d : Device} {errands : List Errand} {outcomes : List Outcome} {desk : Desk}
    (hs : s.Joined) (hrun : s.atHand errands d = ((outcomes, s'), desk)) (hp : ∀ t ∈ desk.turns, t.Passes) :
    desk.device = (desk.turns.map (·.request)).foldl (fun d m => (d.respond m).2) d ∧
    desk.device.requests = d.requests ++ desk.turns.map (·.request) ∧
    ∃ final, (Duet.start ((performAll errands).run s) d).Settles final ∧
      final.desktop.talk = .done (outcomes, s') ∧
      (if s'.state.isConnected then desk.device.round.After [.sent .inbound (.control .request)] final.device.talk
        else final.device.talk = .done (.finished (.ok desk.device))) ∧
      (outcomes.getLast? = some ⟨.terminate, .ok ()⟩ → final.device.talk = .done (.finished (.ok desk.device))) := by
  obtain ⟨outcomes', s'', turns, hy, hx⟩ := mirrors_performAll errands s ⟨d, []⟩
  cases hy.symm.trans hrun
  have hturns : ((Desk.mk d []).after turns).turns = turns := rfl
  rw [hturns] at hp ⊢
  obtain ⟨-, hx⟩ := hx (fun _ => hs.2) hp
  have hleads := hx _ pure
  rw [bind_pure] at hleads
  obtain ⟨final, hfinal, he, hv, hdone, hdevice⟩ :=
    boundary_ends s' ((Desk.mk d []).after turns).device (outcomes, s')
  obtain ⟨n, hn⟩ := hleads.trans hfinal
  simp only [boundary, if_pos hs.1] at hn
  have hfold : ((Desk.mk d []).after turns).device = (turns.map (·.request)).foldl (fun d m => (d.respond m).2) d := by
    rw [List.foldl_map]
    rfl
  refine ⟨hfold, requests_after _ turns, final, Duet.settles_of_steps hn he hv, hdone, hdevice, fun hl => ?_⟩
  rwa [if_neg (not_isConnected_of_terminate hrun hl)] at hdevice

theorem refines_device_locked :
    let s := { Session.new .standard with listening := true, inbound := true, outbound := true, state := .connected }
    let d := (Device.new ⟨[0x5a], ⟨[0x65, 0x6e], rfl⟩, 0⟩ Device.Sample.time).lock [1]
    let errands : List Errand := [.requestInfo, .authenticate [2], .terminate]
    s.Joined ∧ (∀ t ∈ (s.atHand errands d).2.turns, t.Passes) ∧
      ∃ final, (Duet.start ((performAll errands).run s) d).Settles final ∧
        final.desktop.talk =
          .done ([⟨.requestInfo, .ok d.info⟩, ⟨.authenticate [2], .ok .denied⟩, ⟨.terminate, .ok ()⟩],
            (s.atHand errands d).1.2) ∧
        final.device.talk = .done (.finished (.ok (s.atHand errands d).2.device)) ∧
        (s.atHand errands d).2.device.requests = [⟨.infoRequest, ()⟩, ⟨.authRequest, [2]⟩, ⟨.terminate, ()⟩] := by
  intro s d errands
  have hs : s.Joined := by decide
  have hp : ∀ t ∈ (s.atHand errands d).2.turns, t.Passes := by decide
  obtain ⟨-, hrequests, final, hsettles, htalk, -, hdevice⟩ := refines_device hs rfl hp
  exact ⟨hs, hp, final, hsettles, htalk, hdevice rfl, hrequests⟩

end PimSync.Session
