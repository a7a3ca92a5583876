import PimSync.Proofs.Session.Blindness
import PimSync.Proofs.Session.Composing
import PimSync.Proofs.Session.Joining

/-! How a session gets to know its device. None of it depends on what is left of a connection before: not the inbound
link, and not the format. -/

namespace PimSync.Session

open Schema Procedure

def withFormat (cached? : Option CachedFormat) (s : Session) : Session := { s with cached? }

section Introduction

variable {b : Type → Type} [Monad b] [LawfulMonad b] [Correspondent b] (cached? : Option CachedFormat)

lemma blind_requestInfo : Blind (withFormat cached?) (requestInfo : Procedure b DeviceInfo) := by
  refine .pose (fun s => rfl) fun info s => ?_
  simp only [advance_eq]
  rfl

lemma blind_authenticate (password : Bytes) :
    Blind (withFormat cached?) (authenticate password : Procedure b Access) := by
  have hadmission (s : Session) (answer : Except ExchangeError Access) :
      (withFormat cached? s).admission answer = Prod.map id (withFormat cached?) (s.admission answer) := by
    rcases answer with e | _ | _ <;> simp only [admission, advance_eq] <;> rfl
  intro s
  have hq : (withFormat cached? s).question "authenticate" .infoKnown (fun _ => .ok password) =
      s.question "authenticate" .infoKnown fun _ => .ok password := rfl
  rw [run_authenticate, run_authenticate, hq]
  cases s.question "authenticate" .infoKnown fun _ => .ok password with
  | error e =>
    simp only [map_pure]
    rfl
  | ok password =>
    simp only [Functor.map_map]
    exact congrArg (· <$> _) (funext fun answer => hadmission s answer)

lemma blind_requestState : Blind (withFormat cached?) (requestState : Procedure b Flags) := by
  refine .pose (fun s => rfl) fun flags s => ?_
  simp only [advance_eq]
  rfl

def Errand.Introduces : Errand → Prop
  | .requestInfo | .authenticate _ | .requestState => True
  | _ => False

lemma blind_introduction {e : Errand} (he : e.Introduces) :
    Blind (withFormat cached?) (e.perform : Procedure b e.Result) := by
  cases e with
  | requestInfo => exact blind_requestInfo cached?
  | authenticate password => exact blind_authenticate cached? password
  | requestState => exact blind_requestState cached?
  | _ => exact absurd he id

structure Spares (s s' : Session) : Prop where
  inbound : s'.inbound = s.inbound
  category : s'.category = s.category
  cached? : s'.cached? = s.cached?

namespace Ensures

variable {α β : Type} {x : Operation α} {k : α → Operation β} {s : Session}

lemma spares_pure (a : α) : Ensures (Pure.pure a) s s.Spares := pure ⟨rfl, rfl, rfl⟩

lemma spares_bind (hx : Ensures x s s.Spares) (hk : ∀ a s', Ensures (k a) s' s'.Spares) :
    Ensures (x >>= k) s s.Spares := by
  refine hx.bind fun a s₁ h₁ es b s₂ hy => ?_
  have h₂ := hk a s₁ es b s₂ hy
  exact ⟨h₂.inbound.trans h₁.inbound, h₂.category.trans h₁.category, h₂.cached?.trans h₁.cached?⟩

lemma spares_forM {k : β → Operation Unit} {bs : List β} (hk : ∀ b ∈ bs, ∀ s, Ensures (k b) s s.Spares) :
    Ensures (bs.forM k) s s.Spares := by
  induction bs generalizing s with
  | nil => exact spares_pure ()
  | cons b bs ih =>
    obtain ⟨hb, hbs⟩ := List.forall_mem_cons.mp hk
    exact (hb s).spares_bind fun _ _ => ih hbs

end Ensures

lemma spares_requestInfo (s : Session) : Ensures requestInfo s s.Spares := by
  refine .pose fun info => ?_
  simp only [advance_eq]
  exact ⟨rfl, rfl, rfl⟩

lemma spares_requestState (s : Session) : Ensures requestState s s.Spares := by
  refine .pose fun flags => ?_
  simp only [advance_eq]
  exact ⟨rfl, rfl, rfl⟩

lemma spares_authenticate (password : Bytes) (s : Session) : Ensures (authenticate password) s s.Spares := by
  intro es a s' hy
  rw [Operation.Yields, run_authenticate] at hy
  split at hy
  · obtain ⟨-, he⟩ := Talk.yields_pure.mp hy
    cases he
  · obtain ⟨answer, -, he⟩ := Talk.yields_map.mp hy
    rcases answer with e | _ | _ <;> simp only [admission, advance_eq] at he <;> cases he <;> exact ⟨rfl, rfl, rfl⟩

lemma spares_introduction {e : Errand} (he : e.Introduces) (s : Session) : Ensures e.perform s s.Spares := by
  cases e with
  | requestInfo => exact spares_requestInfo s
  | authenticate password => exact spares_authenticate password s
  | requestState => exact spares_requestState s
  | _ => exact absurd he id

end Introduction

section Meeting

open Operation

def withRemains (cached? : Option CachedFormat) (s : Session) : Session := { s with inbound := true, cached? }

variable (cached? : Option CachedFormat)

lemma blind_linked {α : Type} (r : Except Wire.LinkError α) : Blind (withRemains cached?) (linked r) := by
  cases r with
  | ok a => exact .pure a
  | error e => exact .throw _

lemma blind_requireListening (operation : String) :
    Blind (withRemains cached?) (requireListening operation) := by
  refine .get (fun s => rfl) fun s => ?_
  split
  · exact .pure ()
  · exact .throw _

lemma blind_exchange {α : Type} (x : Exchange α) : Blind (withRemains cached?) (exchange x) :=
  (Blind.converse x.run).bind fun _ => .ofExcept _

lemma blind_connect : Blind (withRemains cached?) connect := by
  refine (blind_requireListening cached? _).bind fun _ => .get (fun s => rfl) fun s => (Blind.converse _).bind
    fun _ => (blind_linked cached? _).bind fun _ => (Blind.changes _ fun s => by rfl).bind fun _ => ?_
  exact (blind_exchange cached? _).bind fun _ => (Blind.requireLink fun s => by rfl).bind fun _ =>
    (Blind.converse _).bind fun _ => (blind_linked cached? _).bind fun _ => .changes _ fun s => by rfl

lemma blind_callBack (host : String) : Blind (withRemains cached?) (callBack host) := by
  refine .get (fun s => rfl) fun s => (Blind.converse _).bind fun _ => (blind_linked cached? _).bind fun _ =>
    (Blind.changes _ fun s => by rfl).bind fun _ => ?_
  exact (blind_exchange cached? _).bind fun _ => .changes _ fun s => by rfl

lemma blind_acceptDevice : Blind (withRemains cached?) acceptDevice := by
  refine (blind_requireListening cached? _).bind fun _ => (Blind.requireLink fun s => by rfl).bind fun _ =>
    (Blind.converse _).bind fun _ => (blind_linked cached? _).bind fun host => (Blind.changes _ fun s => by rfl).bind
    fun _ => (blind_exchange cached? _).bind fun m => ?_
  split
  · exact blind_callBack cached? host
  · exact (Blind.throw _).bind fun _ => blind_callBack cached? host

end Meeting

variable {α β : Type} {s s₂ t : Session} {es : List Event}

lemma yields_bind_ok {x : Operation α} {k : α → Operation β} {b : β} : (x >>= k).Yields s es (.ok b) s₂ ↔
    ∃ fs gs a s₁, es = fs ++ gs ∧ x.Yields s fs (.ok a) s₁ ∧ (k a).Yields s₁ gs (.ok b) s₂ := by
  rw [Operation.Yields, run_bind, Talk.yields_bind]
  constructor
  · rintro ⟨fs, gs, ⟨e | a, s₁⟩, rfl, hx, hk⟩
    · cases hk
    · exact ⟨fs, gs, a, s₁, rfl, hx, hk⟩
  · rintro ⟨fs, gs, a, s₁, rfl, hx, hk⟩
    exact ⟨fs, gs, (.ok a, s₁), rfl, hx, hk⟩

def attending (s : Session) : Session :=
  { s with listening := true, device? := none, access? := none, flags? := none, state := .listening }

lemma run_listen (s : Session) : listen.run.run s =
    if s.state.canListen then
      .ask (.listen s.config.listener) fun answer => match answer with
        | .ok () => .done (.ok (), s.attending)
        | .error e => .done (.error (.link e), s)
    else .done (.error (.invalidState "listen" s.state), s) := by
  rw [listen, run_get_bind]
  by_cases hs : s.state.canListen
  · simp only [hs, if_true, not_true_eq_false, if_false]
    refine congrArg (Talk.ask _) (funext fun answer => ?_)
    rcases answer with e | ⟨⟩ <;> rfl
  · simp only [hs, not_false_eq_true, if_true, Bool.false_eq_true, if_false]
    rfl

lemma yields_listen : listen.Yields s es (.ok ()) s₂ ↔
    s.state.canListen ∧ es = [⟨.listen s.config.listener, .ok ()⟩] ∧ s₂ = s.attending := by
  rw [Operation.Yields, run_listen]
  by_cases hs : s.state.canListen
  · simp only [hs, if_true, Talk.yields_ask, true_and]
    constructor
    · rintro ⟨e | ⟨⟩, rest, rfl, h⟩ <;> obtain ⟨rfl, he⟩ := Talk.yields_done.mp h <;> cases he
      exact ⟨rfl, rfl⟩
    · rintro ⟨rfl, rfl⟩
      exact ⟨.ok (), [], rfl, .here _⟩
  · simp [hs, Talk.yields_done]

def finalized (s : Session) : Session :=
  { s with
    inbound := false, outbound := false, listening := false, cached? := none
    state := if s.state = State.idle then State.idle else State.disconnected }

def releases (s : Session) : Talk Unit := do
  Talk.requestIf s.inbound (.close .inbound)
  Talk.requestIf s.outbound (.close .outbound)
  Talk.requestIf s.listening .unlisten

lemma only_releases {P : Request → Prop} (hc : ∀ leg, P (.close leg)) (hu : P .unlisten) : s.releases.Only P :=
  (Talk.only_requestIf (hc _)).bind fun _ => (Talk.only_requestIf (hc _)).bind fun _ => Talk.only_requestIf hu

lemma run_finalize (s : Session) : finalize.run.run s = (fun _ => (.ok (), s.finalized)) <$> s.releases := by
  rw [finalize, run_get_bind]
  obtain ⟨_, _, listening, inbound, outbound, _, _, _, _, _⟩ := s
  cases listening <;> cases inbound <;> cases outbound <;> rfl

lemma exists_connects (s : Session) : ∃ es, Operation.Yields connect s.attending es (.ok ()) s.attending.joined := by
  apply Talk.exists_yields_ask (r := .dial .outbound s.config.device) (.ok ())
  apply Talk.exists_yields_ask (r := .receive .outbound) (.ok (.control .request))
  apply Talk.exists_yields_ask (r := .send .outbound (.message _)) (.ok ())
  apply Talk.exists_yields_ask (r := .receive .outbound) (.ok (.control .acknowledge))
  apply Talk.exists_yields_ask (r := .accept .inbound) (.ok "")
  exact ⟨_, .here _⟩

section Acquaintance

variable {b : Type → Type} [Monad b] [Correspondent b] [LawfulMonad b] (cached? : Option CachedFormat)

lemma blind_proceed (access : Access) : Blind (withFormat cached?) (proceed access : Procedure b Access) := by
  unfold proceed
  split
  · exact .pure _
  · exact (blind_requestState cached?).bind fun _ => .pure _

lemma blind_introduce : Blind (withFormat cached?) (introduce : Procedure b Access) := by
  refine (blind_requestInfo cached?).bind fun info => .get (fun s => rfl) fun s => ?_
  cases s.config.password? with
  | some password => exact (blind_authenticate cached? password).bind (blind_proceed cached?)
  | none =>
    dsimp only
    split
    · exact (blind_authenticate cached? []).bind (blind_proceed cached?)
    · exact (Blind.pure _).bind (blind_proceed cached?)

end Acquaintance

lemma run_initiate (hs : s.state.canListen) : initiate.run.run s =
    (listen >>= fun _ => connect >>= fun _ => introduce).run.run s := by
  rw [initiate, run_get_bind]
  simp only [hs, if_true]
  rfl

lemma spares_proceed (access : Access) (s : Session) : Ensures (proceed access) s s.Spares := by
  unfold proceed
  split
  · exact .spares_pure _
  · exact (spares_requestState s).spares_bind fun _ _ => .spares_pure _

lemma spares_introduce (s : Session) : Ensures introduce s s.Spares := by
  refine (spares_requestInfo s).spares_bind fun info s₁ => .still (.of_run (run_get s₁)) fun s₂ => ?_
  cases s₂.config.password? with
  | some password => exact (spares_authenticate password s₁).spares_bind spares_proceed
  | none =>
    dsimp only
    split
    · exact (spares_authenticate [] s₁).spares_bind spares_proceed
    · exact (Ensures.spares_pure _).spares_bind spares_proceed

def handshake (meet : Operation Unit) (asks : List Errand) : Operation Unit := do
  listen
  meet
  asks.forM fun e => do
    let _ ← e.perform (b := Talk)
    return ()

inductive Handshake : {α : Type} → Operation α → Prop
  | steps {meet : Operation Unit} (hm : meet = connect ∨ meet = acceptDevice) {asks : List Errand}
      (ha : ∀ e ∈ asks, e.Introduces) : Handshake (handshake meet asks)
  | initiate : Handshake initiate

lemma yields_again {meet : Operation Unit} (hm : meet = connect ∨ meet = acceptDevice) {y : Operation α} {r : α}
    {cached? : Option CachedFormat} (hy : Blind (withFormat cached?) y) (hk : ∀ s, Ensures y s s.Spares)
    (ht : t.state.canListen) (hc : t.config = s.config) (hst : s.attending = withRemains cached? t.attending)
    (h : Operation.Yields (listen >>= fun _ => meet >>= fun _ => y) s es (.ok r) s₂) :
    ∃ fresh, Operation.Yields (listen >>= fun _ => meet >>= fun _ => y) t es (.ok r) fresh ∧
      s₂ = withFormat cached? fresh ∧ t.attending.joined.Spares fresh := by
  obtain ⟨fs, gs, _, s₁, rfl, hlisten, h⟩ := yields_bind_ok.mp h
  obtain ⟨gs, ks, _, s₃, rfl, hmeet, h⟩ := yields_bind_ok.mp h
  obtain ⟨-, rfl, rfl⟩ := yields_listen.mp hlisten
  rw [hst] at hmeet
  have hblind : Blind (withRemains cached?) meet := by
    rcases hm with rfl | rfl
    · exact blind_connect cached?
    · exact blind_acceptDevice cached?
  have hjoined : Ensures meet t.attending (· = t.attending.joined) := by
    rcases hm with rfl | rfl
    · exact ensures_connect
    · exact ensures_acceptDevice
  obtain ⟨t₁, ht₁, rfl⟩ := hblind.yields hmeet
  obtain rfl := hjoined _ _ _ ht₁
  obtain ⟨fresh, hfresh, rfl⟩ := hy.yields (s := t.attending.joined) h
  refine ⟨fresh, ?_, rfl, hk _ _ _ _ hfresh⟩
  refine yields_bind_ok.mpr ⟨_, _, (), t.attending, rfl, ?_, yields_bind_ok.mpr ⟨_, _, (), _, rfl, ht₁, hfresh⟩⟩
  exact yields_listen.mpr ⟨ht, by rw [hc], rfl⟩

lemma Handshake.again {x : Operation α} (hx : Handshake x) {r : α} {cached? : Option CachedFormat}
    (hs : s.state.canListen) (ht : t.state.canListen) (hc : t.config = s.config)
    (hst : s.attending = withRemains cached? t.attending) (h : x.Yields s es (.ok r) s₂) :
    ∃ fresh, x.Yields t es (.ok r) fresh ∧ s₂ = withFormat cached? fresh ∧ t.attending.joined.Spares fresh := by
  cases hx with
  | steps hm ha =>
    refine yields_again hm (.forM _ fun e he => ?_) (fun s => .spares_forM fun e he s => ?_) ht hc hst h
    · exact (blind_introduction cached? (ha e he)).bind fun _ => .pure ()
    · exact (spares_introduction (ha e he) s).spares_bind fun _ _ => .spares_pure ()
  | initiate =>
    rw [Operation.Yields, run_initiate hs] at h
    obtain ⟨fresh, h, he⟩ := yields_again (.inl rfl) (blind_introduce cached?) spares_introduce ht hc hst h
    exact ⟨fresh, by rwa [Operation.Yields, run_initiate ht], he⟩

end PimSync.Session
