import PimSync.Proofs.Session.Composing
import PimSync.Proofs.Session.Failures
import PimSync.Proofs.Session.Gates
import PimSync.Proofs.Session.Links
import PimSync.Proofs.Talk.Journals

namespace PimSync.Session

open Wire Procedure Channel

variable {α β : Type} {s s' : Session} {es : List Event}

def closings (s : Session) : List Event :=
  (if s.inbound then [⟨.close .inbound, ()⟩] else []) ++ (if s.outbound then [⟨.close .outbound, ()⟩] else []) ++
    if s.listening then [⟨.unlisten, ()⟩] else []

lemma yields_releases {u : Unit} : s.releases.Yields es u ↔ es = s.closings := by
  have hclose (p : Bool) (leg : Leg) {es : List Event} {u : Unit} :
      (Talk.requestIf p (.close leg)).Yields es u ↔ es = if p then [⟨.close leg, ()⟩] else [] :=
    Talk.yields_requestIf (e := ⟨.close leg, ()⟩) inferInstance
  have hunlisten {es : List Event} {u : Unit} :
      (Talk.requestIf s.listening .unlisten).Yields es u ↔ es = if s.listening then [⟨.unlisten, ()⟩] else [] :=
    Talk.yields_requestIf (e := ⟨.unlisten, ()⟩) inferInstance
  simp only [releases, Talk.yields_bind, hclose, hunlisten, closings]
  constructor
  · rintro ⟨_, _, _, rfl, rfl, _, _, _, rfl, rfl, rfl⟩
    rw [List.append_assoc]
  · rintro rfl
    exact ⟨_, _, (), List.append_assoc .., rfl, _, _, (), rfl, rfl, rfl⟩

lemma yields_finalize {r : Except SessionError Unit} :
    finalize.Yields s es r s' ↔ es = s.closings ∧ r = .ok () ∧ s' = s.finalized := by
  rw [Operation.Yields, run_finalize, Talk.yields_map]
  simp [yields_releases]

lemma finalized_finalized (s : Session) : s.finalized.finalized = s.finalized := by
  have hstate (st : State) : (if (if st = .idle then State.idle else .disconnected) = .idle then State.idle
      else .disconnected) = if st = .idle then .idle else .disconnected := by
    cases st <;> rfl
  rw [finalized, finalized, hstate]

lemma run_finalize_finalized (s : Session) : finalize.run.run s.finalized = pure (.ok (), s.finalized) := by
  rw [run_finalize, finalized_finalized]
  rfl

structure Holdings where
  listening : Bool
  inbound : Bool
  outbound : Bool
deriving DecidableEq

namespace Holdings

def none : Holdings := ⟨false, false, false⟩

def setLeg (k : Holdings) (p : Bool) : Leg → Holdings
  | .inbound => { k with inbound := p }
  | .outbound => { k with outbound := p }

def after (k : Holdings) : Mark → Holdings
  | .event ⟨.listen _, .ok _⟩ => { k with listening := true }
  | .event ⟨.unlisten, _⟩ => { k with listening := false }
  | .event ⟨.accept leg, .ok _⟩ | .event ⟨.dial leg _, .ok _⟩ => k.setLeg true leg
  | .event ⟨.close leg, _⟩ => k.setLeg false leg
  | _ => k

lemma after_crosses {e : Event} (he : Crosses e.request) (k : Holdings) : k.after (.event e) = k := by
  obtain ⟨r, answer⟩ := e
  cases r <;> first | rfl | exact absurd he id

lemma foldl_crosses (he : ∀ e ∈ es, Crosses e.request) (k : Holdings) : (es.map Mark.event).foldl after k = k := by
  induction es with
  | nil => rfl
  | cons e es ih =>
    obtain ⟨he, hes⟩ := List.forall_mem_cons.mp he
    rw [List.map_cons, List.foldl_cons, after_crosses he, ih hes]

end Holdings

def held (h : History) : Holdings := h.foldl Holdings.after .none

def holdings (s : Session) : Holdings := ⟨s.listening, s.inbound, s.outbound⟩

/-- If this is held when the operation begins, then what is held when it ends is what the session says. -/
def Balances (x : Operation α) (k : Holdings) (s : Session) : Prop :=
  ∀ es r s', x.Yields s es r s' → (es.map Mark.event).foldl Holdings.after k = s'.holdings

abbrev Balanced (x : Operation α) : Prop := ∀ s, Balances x s.holdings s

section Rules

variable {x : Operation α} {f : α → Operation β} {k : Holdings}

namespace Balances

lemma of_run {r : Except SessionError α} (hx : x.run.run s = pure (r, s')) (hk : k = s'.holdings) :
    Balances x k s := by
  intro es r' s'' hy
  rw [Operation.Yields, hx] at hy
  obtain ⟨rfl, he⟩ := Talk.yields_pure.mp hy
  cases he
  exact hk

lemma of_map {A : Type} {t : Talk A} {g : A → Except SessionError α × Session} (hx : x.run.run s = g <$> t)
    (ht : t.Only Crosses) (hg : ∀ a, k = (g a).2.holdings) : Balances x k s := by
  intro es r s' hy
  rw [Operation.Yields, hx] at hy
  obtain ⟨a, ha, he⟩ := Talk.yields_map.mp hy
  rw [Holdings.foldl_crosses (ht.after ha).1, hg a, ← he]

lemma bind (hx : Balances x k s) (hf : ∀ a, Balanced (f a)) : Balances (x >>= f) k s := by
  intro es r s' hy
  rw [Operation.Yields, run_bind] at hy
  obtain ⟨fs, gs, ⟨e | a, s₁⟩, rfl, hfirst, hrest⟩ := Talk.yields_bind.mp hy
  · obtain ⟨rfl, he⟩ := Talk.yields_pure.mp hrest
    cases he
    rw [List.append_nil]
    exact hx _ _ _ hfirst
  · rw [List.map_append, List.foldl_append, hx _ _ _ hfirst]
    exact hf a s₁ _ _ _ hrest

lemma change {g : Session → Session} (hk : k = (g s).holdings) : Balances (modify g) k s :=
  of_run (run_modifyGet (fun s => ((), g s)) s) hk

lemma changes {g : Session → Session} {f : Unit → Operation β} (hf : Balances (f ()) k (g s)) :
    Balances (modify g >>= f) k s := by
  intro es r s' hy
  rw [Operation.Yields, run_bind, modify, run_modifyGet, pure_bind] at hy
  exact hf es r s' hy

lemma request {r : Request} {f : r.Answer → Operation β}
    (hf : ∀ answer, Balances (f answer) (k.after (.event ⟨r, answer⟩)) s) :
    Balances (Operation.request r >>= f) k s := by
  intro es r' s' hy
  obtain ⟨answer, rest, rfl, hrest⟩ := Talk.yields_ask.mp hy
  exact hf answer rest r' s' hrest

lemma linked {r : Except LinkError α} (he : ∀ e, r = .error e → k = s.holdings)
    (hf : ∀ a, r = .ok a → Balances (f a) k s) : Balances (Operation.linked r >>= f) k s := by
  cases r with
  | error e => exact of_run (run_bind _ _ s) (he e rfl)
  | ok a => exact hf a rfl

end Balances

lemma composes_balanced : Composes Balanced where
  bind hx hf s := (hx s).bind hf
  looks hx _ s := .of_run (hx s) rfl

namespace Balanced

lemma bind (hx : Balanced x) (hf : ∀ a, Balanced (f a)) : Balanced (x >>= f) := composes_balanced.bind hx hf

lemma looks {r : Session → Except SessionError α} (hx : ∀ s, x.run.run s = pure (r s, s)) : Balanced x :=
  fun s => .of_run (hx s) rfl

lemma change {g : Session → Session} (hg : ∀ s, (g s).holdings = s.holdings) : Balanced (modify g) :=
  fun s => Balances.change (hg s).symm

lemma exchange {y : Exchange α} (hy : y.run.Only Crosses) : Balanced (Operation.exchange y) :=
  bind (fun s => Balances.of_map (run_converse y.run s) hy fun _ => rfl) fun _ => looks (run_ofExcept _)

lemma pose {request reply : MessageType} {operation : String} {least : State}
    {content : Session → Except SessionError request.Payload} {conclude : reply.Payload → Session → α × Session}
    (hc : ∀ answer s, (conclude answer s).2.holdings = s.holdings) :
    Balanced (Procedure.pose request reply operation least content conclude) := by
  intro s
  have hrun := run_pose (b := Talk) request reply operation least content conclude s
  cases hq : s.question operation least content with
  | error e =>
    rw [hq] at hrun
    exact .of_run hrun rfl
  | ok payload =>
    rw [hq] at hrun
    refine .of_map hrun (Exchange.only_ask.mono fun _ => crosses_of_carries) fun answer => ?_
    rcases answer with e | m
    · rfl
    · rw [conclusion]
      cases m.payload? reply with
      | none => rfl
      | some payload => exact (hc payload s).symm

end Balanced

end Rules

lemma only_ready_crosses : (Exchange.deliver .outbound ready).run.Only Crosses :=
  Exchange.only_deliver.mono fun _ => crosses_of_carries

lemma balanced_dial (address : Endpoint) {f : Unit → Operation β} (hf : Balanced (f ())) :
    Balanced (Operation.request (.dial .outbound address) >>= fun answer => Operation.linked answer >>= fun _ =>
      modify ({ · with outbound := true }) >>= f) := by
  refine fun s => .request fun answer => .linked (fun e he => ?_) fun _ ha => .changes ?_
  · rw [he]
    rfl
  · rw [ha]
    exact hf { s with outbound := true }

lemma balanced_accept {g : Session → Session} {f : String → Unit → Operation β}
    (hg : ∀ s, (g s).holdings = s.holdings.setLeg true .inbound) (hf : ∀ host, Balanced (f host ())) :
    Balanced (Operation.request (.accept .inbound) >>= fun answer => Operation.linked answer >>= fun host =>
      modify g >>= f host) := by
  refine fun s => .request fun answer => .linked (fun e he => ?_) fun host ha => .changes ?_
  · rw [he]
    rfl
  · rw [ha]
    have hopen : s.holdings.after (.event ⟨.accept .inbound, .ok host⟩) = (g s).holdings := (hg s).symm
    rw [hopen]
    exact hf host (g s)

lemma balanced_listen : Balanced listen := by
  intro s es r s' hy
  rw [Operation.Yields, run_listen] at hy
  split at hy
  · obtain ⟨e | ⟨⟩, rest, rfl, hd⟩ := Talk.yields_ask.mp hy <;> obtain ⟨rfl, he⟩ := Talk.yields_done.mp hd <;> cases he
    · rfl
    · rfl
  · obtain ⟨rfl, he⟩ := Talk.yields_done.mp hy
    cases he
    rfl

lemma balanced_connect : Balanced connect := by
  refine (Balanced.looks (run_requireListening _)).bind fun _ => (Balanced.looks run_get).bind fun s =>
    balanced_dial _ ?_
  refine (Balanced.exchange only_ready_crosses).bind fun _ => (Balanced.looks (run_requireLink _)).bind fun _ => ?_
  have haccept := balanced_accept (g := ({ · with inbound := true, state := .connected })) (fun _ => by rfl)
    fun _ => composes_balanced.pure ()
  simpa only [bind_pure] using haccept

lemma balanced_callBack (host : String) : Balanced (callBack host) := by
  refine (Balanced.looks run_get).bind fun _ => balanced_dial _ ?_
  exact .bind (.exchange only_ready_crosses) fun _ => .change fun _ => by rfl

lemma balanced_acceptDevice : Balanced acceptDevice := by
  refine (Balanced.looks (run_requireListening _)).bind fun _ => (Balanced.looks (run_requireLink _)).bind fun _ =>
    balanced_accept (fun _ => by rfl) fun host => ?_
  refine .bind (.exchange (Exchange.only_collect.mono fun _ => crosses_of_bare)) fun m => ?_
  split
  · exact balanced_callBack host
  · exact (Balanced.looks (run_throw _)).bind fun _ => balanced_callBack host

lemma holdings_advance (s : Session) (t : State) : (s.advance t).holdings = s.holdings := by
  rw [advance_eq]
  rfl

lemma balanced_authenticate (password : Bytes) : Balanced (authenticate password) := by
  intro s
  have hrun := run_authenticate (b := Talk) password s
  cases hq : s.question "authenticate" .infoKnown fun _ => .ok password with
  | error e =>
    rw [hq] at hrun
    exact .of_run hrun rfl
  | ok password =>
    rw [hq] at hrun
    refine .of_map hrun (Exchange.only_authorize.mono fun _ => crosses_of_carries) fun answer => ?_
    rcases answer with e | _ | _
    · rfl
    · exact (holdings_advance { s with access? := some .granted } _).symm
    · rfl

lemma foldl_farewell {r : Except ExchangeError Unit} (hy : Talk.farewell.Yields es r) (k : Holdings) :
    (es.map Mark.event).foldl Holdings.after k = k.setLeg false .outbound := by
  obtain ⟨fs, gs, answer, rfl, hlast, hclose⟩ := Talk.yields_bind.mp hy
  obtain ⟨⟨⟩, rest, rfl, hdone⟩ := Talk.yields_ask.mp hclose
  obtain ⟨rfl, -⟩ := Talk.yields_pure.mp hdone
  rw [List.map_append, List.foldl_append, Holdings.foldl_crosses (only_ready_crosses.after hlast).1]
  rfl

lemma balanced_terminate : Balanced terminate := by
  intro s es r s' hy
  rw [Operation.Yields, run_terminate] at hy
  cases hq : s.question "terminate" .connected fun _ => .ok () with
  | error e =>
    rw [hq] at hy
    obtain ⟨rfl, he⟩ := Talk.yields_pure.mp hy
    cases he
    rfl
  | ok _ =>
    rw [hq] at hy
    obtain ⟨fs, gs, answer, rfl, hask, hrest⟩ := Talk.yields_bind.mp hy
    have hfs : ∀ e ∈ fs, Crosses e.request :=
      ((Exchange.only_ask.mono fun _ => crosses_of_carries : Talk.Only Crosses _).after hask).1
    rw [List.map_append, List.foldl_append, Holdings.foldl_crosses hfs]
    rcases ha : s.conclusion .complete Prod.mk answer with ⟨e | payload, s₁⟩ <;> simp only [ha] at hrest
    · obtain ⟨rfl, he⟩ := Talk.yields_pure.mp hrest
      cases he
      rw [(conclusion_eq_error ha).1]
      rfl
    · obtain ⟨-, rfl⟩ := conclusion_eq_ok ha
      split at hrest
      · obtain ⟨last, hf, he⟩ := Talk.yields_map.mp hrest
        rw [foldl_farewell hf]
        rcases last with e | ⟨⟩ <;> cases he <;> rfl
      · obtain ⟨rfl, he⟩ := Talk.yields_pure.mp hrest
        cases he
        rfl

lemma balanced_advance {request reply : MessageType} {operation : String} {least t : State}
    {content : Session → Except SessionError request.Payload} :
    Balanced (pose request reply operation least content fun payload s => (payload, s.advance t)) :=
  .pose fun _ s => holdings_advance s t

lemma balanced_obtainFormat : Balanced obtainFormat := .pose fun _ s => holdings_advance s .formatKnown

lemma balanced_errand (e : Errand) : Balanced e.perform := by
  refine composes_balanced.errand (fun e he => ?_) e
  cases e with
  | requestInfo => exact .pose fun info s => holdings_advance { s with device? := some info } _
  | authenticate password => exact balanced_authenticate password
  | requestState => exact .pose fun flags s => holdings_advance { s with flags? := some flags } _
  | selectCategory c =>
    refine .change fun s => ?_
    unfold select
    split <;> rfl
  | resetFormat => exact .change fun _ => by rfl
  | obtainFormat => exact balanced_obtainFormat
  | requestIds => exact balanced_advance
  | fetchValues id => exact balanced_advance
  | terminate => exact balanced_terminate
  | fetchItem _ | insertItem _ | updateItem _ _ | pullChanges => exact absurd trivial he
  | _ => exact .pose fun _ _ => rfl

lemma balanced_finalize : Balanced finalize := by
  intro s es r s' hy
  obtain ⟨rfl, -, rfl⟩ := yields_finalize.mp hy
  obtain ⟨_, _, listening, inbound, outbound, _, _, _, _, _⟩ := s
  cases listening <;> cases inbound <;> cases outbound <;> rfl

lemma balanced_perform (a : Action) : Balanced a.perform := by
  cases a with
  | listen => exact balanced_listen
  | connect => exact balanced_connect
  | acceptDevice => exact balanced_acceptDevice
  | finalize => exact balanced_finalize
  | initiate =>
    exact composes_balanced.initiate balanced_listen balanced_connect (balanced_errand .requestInfo)
      (fun password => balanced_errand (.authenticate password)) (balanced_errand .requestState)
  | errand e => exact balanced_errand e

lemma held_of_reaches {config : Config} {h : History} (k : Reaches config h s) : held h = s.holdings := by
  induction k with
  | new => rfl
  | act a _ hy ih =>
    rw [held, List.foldl_append, List.foldl_cons]
    rw [held] at ih
    rw [ih]
    exact balanced_perform a _ _ _ _ hy

lemma canListen_finalized (s : Session) : s.finalized.state.canListen := by
  have hstate (st : State) : (if st = .idle then State.idle else .disconnected).canListen := by
    cases st <;> rfl
  exact hstate s.state

lemma attending_finalized (s : Session) : s.finalized.attending = ((new s.config).select s.category).attending := by
  rw [select_new]
  rfl

lemma run_closed_finalized {e : Errand} {g : Gate} (hg : e.gate? = some g) :
    (e.perform (b := Talk)).run.run s.finalized =
      pure (.error (.invalidState g.operation s.finalized.state), s.finalized) :=
  run_closed hg fun hr => State.not_isConnected_finalized s.state hr.1

/-- A finalized session holds nothing, and is as good as new once it listens. -/
theorem finalize_gives_up {config : Config} {h : History} (k : Reaches config h s) :
    (finalize >>= fun _ => finalize).run.run s = finalize.run.run s ∧
    finalize.Yields s s.closings (.ok ()) s.finalized ∧
    ∀ es r s', finalize.Yields s es r s' →
      r = .ok () ∧ held (h ++ .call .finalize :: es.map .event) = .none ∧
      s'.holdings = .none ∧ s'.cached? = none ∧
      s'.state = (if s.state = .idle then .idle else .disconnected) ∧
      (∀ e g, Errand.gate? e = some g →
        (e.perform (b := Talk)).run.run s' = pure (.error (.invalidState g.operation s'.state), s')) ∧
      (∀ id, (fetchItem (b := Talk) id).run.run s' = pure (.error (.schema (.formatMissing s'.category)), s')) ∧
      connect.run.run s' = pure (.error (.invalidState "connect" s'.state), s') ∧
      acceptDevice.run.run s' = pure (.error (.invalidState "accept_device" s'.state), s') ∧
      ∀ fs s₁, listen.Yields s' fs (.ok ()) s₁ ↔ listen.Yields ((new s.config).select s.category) fs (.ok ()) s₁ := by
  refine ⟨?_, yields_finalize.mpr ⟨rfl, rfl, rfl⟩, fun es r s' hy => ?_⟩
  · rw [run_bind, run_finalize s, map_eq_pure_bind, bind_assoc]
    simp only [pure_bind, run_finalize_finalized]
  obtain ⟨-, rfl, rfl⟩ := yields_finalize.mp hy
  have hheld : held (h ++ .call .finalize :: es.map .event) = .none := held_of_reaches (k.act .finalize hy)
  have hn : s.finalized.state ≠ .listening := fun hl => by
    have hc := canListen_finalized s
    rw [hl] at hc
    cases hc
  refine ⟨rfl, hheld, rfl, rfl, rfl, fun e g hg => run_closed_finalized hg, fun id => ?_, run_not_listening hn,
    run_not_listening hn, fun fs s₁ => ?_⟩
  · rw [run_fetchItem]
    rfl
  · have hc : ((new s.config).select s.category).state.canListen := by
      rw [select_new]
      rfl
    have hlistener : ((new s.config).select s.category).config = s.config := by rw [select_new]; rfl
    simp only [yields_listen, canListen_finalized, hc, true_and, attending_finalized]
    rw [hlistener]
    rfl

theorem finalize_gives_up_half_open : ∃ h s, Reaches .standard h s ∧ held h = ⟨true, false, true⟩ ∧
    finalize.Yields s [⟨.close .outbound, ()⟩, ⟨.unlisten, ()⟩] (.ok ()) s.finalized ∧
    held (h ++ .call .finalize :: [⟨.close .outbound, ()⟩, ⟨.unlisten, ()⟩].map .event) = .none := by
  have hl : Action.listen.perform.Yields (new .standard) [⟨.listen Config.standard.listener, .ok ()⟩] (.ok ())
      (new .standard).attending := yields_listen.mpr ⟨rfl, rfl, rfl⟩
  have hr := (Reaches.new.act _ hl).act .connect (yields_connect_hungUp (new .standard))
  obtain ⟨-, hf, hrest⟩ := finalize_gives_up hr
  obtain ⟨-, hheld, -⟩ := hrest _ _ _ hf
  exact ⟨_, _, hr, rfl, hf, hheld⟩

end PimSync.Session
