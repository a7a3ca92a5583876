import PimSync.Proofs.Session.Recovery

/-! What an operation comes to with the device at hand, and so over links. -/

namespace PimSync

open Simulation

lemma PerCategory.get_set {α : Type} (p : PerCategory α) (c : Category) (a : α) : (p.set c a).get c = a := by
  cases c <;> rfl

namespace Device

/-- In whatever order bytes move, a talk with this device comes to this end. -/
def SeesThrough {α : Type} (d : Device) (t : Talk α) (final : Duet α) : Prop :=
  (Duet.start t d).Settles final ∧ ∀ {β : Type} (c : Duet β), c.Waiting d → (c.resume t).Settles final

structure Holds (d : Device) (c : Category) (x : Collection) : Prop where
  unlocked : d.unlocked
  collection : d.collection c = x

lemma Holds.respond {d : Device} {c : Category} {x : Collection} {m : Message} {view : Collection → Message}
    (h : d.Holds c x) (hm : ∀ d : Device, d.answer m = .ok (d.consult c view)) :
    ∃ d', d.respond m = (.ok (.message (view x)), d') ∧ d'.Holds c x := by
  obtain ⟨hu, rfl⟩ := h
  have hr : d.respond m = (.ok (.message (view (d.collection c))), ((d.record m).consult c view).2) :=
    respond_of_answer hu (hm _)
  refine ⟨_, hr, hu, ?_⟩
  simp only [consult, setCollection, Device.collection, PerCategory.get_set]
  rfl

end Device

namespace Session

open Procedure

lemma advance_of_lt {s : Session} {t u : State} (hs : s.state = t) (h : t < u) :
    s.advance u = { s with state := u } := if_pos (hs ▸ h)

lemma hasReached_of_le {s : Session} {least t : State} (hs : s.state = t) (h : t.isConnected ∧ least ≤ t) :
    s.HasReached least := by
  rwa [HasReached, hs]

variable {α β : Type} {s s₁ : Session} {desk desk₁ : Desk} {x : Procedure Direct α} {f : α → Procedure Direct β}

lemma runAt_of_run {r : Except SessionError α} (hx : x.run.run s = pure (r, s₁)) (desk : Desk) :
    runAt x.run s desk = ((r, s₁), desk) := by
  rw [runAt, hx]
  rfl

lemma runAt_bind_ok {a : α} (hx : runAt x.run s desk = ((.ok a, s₁), desk₁)) :
    runAt (x >>= f).run s desk = runAt (f a).run s₁ desk₁ := by
  rw [runAt] at hx
  rw [runAt, run_bind, StateT.run_bind, hx]
  rfl

lemma runAt_bind_error {e : SessionError} (hx : runAt x.run s desk = ((.error e, s₁), desk₁)) :
    runAt (x >>= f).run s desk = ((.error e, s₁), desk₁) := by
  rw [runAt] at hx
  rw [runAt, run_bind, StateT.run_bind, hx]
  rfl

lemma runAt_get_bind (f : Session → Procedure Direct β) (s : Session) (desk : Desk) :
    runAt (get >>= f).run s desk = runAt (f s).run s desk :=
  runAt_bind_ok (runAt_of_run (run_get s) desk)

lemma runAt_pose {request reply : MessageType} {operation : String} {least : State}
    {content : Session → Except SessionError request.Payload} {conclude : reply.Payload → Session → α × Session}
    {payload : request.Payload} {answer : reply.Payload} {d : Device}
    (hq : s.question operation least content = .ok payload)
    (hr : desk.device.respond ⟨request, payload⟩ = (.ok (.message ⟨reply, answer⟩), d)) :
    runAt (pose request reply operation least content conclude).run s desk =
      ((.ok (conclude answer s).1, (conclude answer s).2),
        ⟨d, desk.turns ++ [⟨⟨request, payload⟩, .ok (.message ⟨reply, answer⟩)⟩]⟩) := by
  have hask : (Correspondent.ask ⟨request, payload⟩ : Direct _).run desk = (.ok ⟨reply, answer⟩,
      ⟨d, desk.turns ++ [⟨⟨request, payload⟩, .ok (.message ⟨reply, answer⟩)⟩]⟩) := by
    rw [run_ask, Desk.after, hr]
    simp [hr, Except.bind, Direct.answer]
  have hm : s.conclusion reply conclude (.ok ⟨reply, answer⟩) =
      (.ok (conclude answer s).1, (conclude answer s).2) := by
    simp [conclusion, Message.payload?_eq_some.mpr]
  rw [runAt, run_pose, hq, StateT.run_map, hask]
  exact congrArg (·, _) hm

lemma runAt_authenticate {password : Bytes} {reply : Device.Reply} {d : Device} (hs : s.HasReached .infoKnown)
    (hi : s.inbound) (hr : desk.device.respond ⟨.authRequest, password⟩ = (.ok reply, d)) :
    runAt (authenticate password).run s desk = (s.admission (Direct.verdict reply),
      ⟨d, desk.turns ++ [⟨⟨.authRequest, password⟩, .ok reply⟩]⟩) := by
  have hauthorize : (Correspondent.authorize password : Direct _).run desk = (Direct.verdict reply,
      ⟨d, desk.turns ++ [⟨⟨.authRequest, password⟩, .ok reply⟩]⟩) := by
    have h : (Correspondent.authorize password : Direct _).run desk =
        ((desk.device.respond ⟨.authRequest, password⟩).1.bind Direct.verdict,
          desk.after [⟨⟨.authRequest, password⟩, (desk.device.respond ⟨.authRequest, password⟩).1⟩]) := rfl
    rw [h, Desk.after, hr]
    simp [hr, Except.bind]
  have hq : s.question "authenticate" .infoKnown (fun _ => .ok password) = .ok password :=
    question_eq_ok.mpr ⟨hs, rfl, hi⟩
  rw [runAt, run_authenticate, hq, StateT.run_map, hauthorize]
  rfl

section Links

variable {s' : Session} {d d' : Device} {o : Operation α} {x : Procedure Direct α} {r : Except SessionError α}
  {turns : List Turn}

lemma seesThrough_of_tracks (h : Tracks o x s) (hs : s.Joined)
    (hx : runAt x.run s ⟨d, []⟩ = ((r, s'), ⟨d', turns⟩)) (hp : ∀ t ∈ turns, t.Passes) :
    ∃ final, d.SeesThrough (o.run.run s) final ∧
      final.desktop.talk = .done (r, s') ∧ final.Waiting d' ∧
      d'.requests = d.requests ++ turns.map (·.request) := by
  obtain ⟨r₁, s₁, ts, hrun, -, hk, ho⟩ := h ⟨d, []⟩
  cases hx.symm.trans hrun
  have hc : s'.state.isConnected := hk.isConnected.trans hs.1
  have hcourse := ho (fun _ => hs.2) fun t ht => (Turn.passes_iff.mp (hp t ht)).1
  have hleads := hcourse.through (fun t ht => (Turn.passes_iff.mp (hp t ht)).2) _ pure
  rw [bind_pure, boundary, if_pos hs.1] at hleads
  obtain ⟨final, hsettles, ht, hw⟩ := settles_of_boundary hleads
  have hsees : d.SeesThrough (o.run.run s) final :=
    ⟨hsettles, fun _ hwait => hsettles.of_leads (hwait.leads_resume _)⟩
  exact ⟨final, hsees, ht, hw hc, requests_after ⟨d, []⟩ ts⟩

end Links

end Session

end PimSync
