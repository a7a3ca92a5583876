import PimSync.Proofs.Message.RoundTrip
import PimSync.Proofs.Talk.Runs
import PimSync.Session.Correspondent

/-! What has crossed the links when an exchange has succeeded, and what may have crossed them when it has not. -/

namespace PimSync

open Wire

namespace Event

def received (leg : Leg) (p : Packet) : Event := ⟨.receive leg, .ok p⟩

def sent (leg : Leg) (p : Packet) : Event := ⟨.send leg p, .ok ()⟩

end Event

namespace Talk

variable {ε α β : Type} {x : ExceptT ε Talk α} {f : α → ExceptT ε Talk β} {es : List Event}

lemma yields_bind_ok {b : β} : (x >>= f).run.Yields es (.ok b) ↔
    ∃ fs gs a, es = fs ++ gs ∧ x.run.Yields fs (.ok a) ∧ (f a).run.Yields gs (.ok b) := by
  rw [ExceptT.run_bind, yields_bind]
  constructor
  · rintro ⟨fs, gs, a | a, rfl, hx, hf⟩
    · simp [pure, yields_done] at hf
    · exact ⟨fs, gs, a, rfl, hx, hf⟩
  · rintro ⟨fs, gs, a, rfl, hx, hf⟩
    exact ⟨fs, gs, .ok a, rfl, hx, hf⟩

lemma asks_bind_except {r : Request} {next : r.Answer → Talk (Except ε β)}
    (h : (x >>= f).run.After es (ask r next)) :
    (∃ next', x.run.After es (ask r next') ∧
      ∀ answer e, next' answer = done (.error e) → next answer = done (.error e)) ∨
      ∃ fs gs a, es = fs ++ gs ∧ x.run.Yields fs (.ok a) ∧ (f a).run.After gs (ask r next) := by
  rw [ExceptT.run_bind] at h
  rcases asks_bind h with ⟨next', hx, rfl⟩ | ⟨fs, gs, a | a, rfl, hx, hf⟩
  · refine .inl ⟨next', hx, fun answer e he => ?_⟩
    simp only [he, bind_done]
    rfl
  · cases hf
  · exact .inr ⟨fs, gs, a, rfl, hx, hf⟩

lemma Only.bind_except {P : Request → Prop} (h : x.run.Only P) (k : ∀ a, (f a).run.Only P) :
    (x >>= f).run.Only P := by
  rw [ExceptT.run_bind]
  refine h.bind fun r => ?_
  cases r with
  | ok a => exact k a
  | error e => trivial

end Talk

namespace Exchange

open Talk

variable {leg : Leg} {es : List Event} {m reply : Message} {c : Control} {α : Type} {u : Unit}

lemma run_request_bind (r : Request) (f : r.Answer → Exchange α) :
    (request r >>= f).run = Talk.ask r fun answer => (f answer).run := rfl

lemma yields_coded {a : α} {x : Except CodingError α} : (coded x).run.Yields es (.ok a) ↔ es = [] ∧ x = .ok a := by
  cases x with
  | ok b => simp [coded, Talk.yields_pure, eq_comm]
  | error e => simp [coded, Talk.yields_pure]

lemma yields_send {p : Packet} : (send leg p).run.Yields es (.ok u) ↔ es = [.sent leg p] := by
  rw [send, run_request_bind, yields_ask]
  constructor
  · rintro ⟨e | _, rest, rfl, h⟩
    · simp [linked, Talk.yields_pure] at h
    · obtain ⟨rfl, -⟩ := yields_done.mp h
      rfl
  · rintro rfl
    exact ⟨.ok (), [], rfl, .here _⟩

lemma yields_receive {p : Packet} : (receive leg).run.Yields es (.ok p) ↔ es = [.received leg p] := by
  rw [receive, run_request_bind, yields_ask]
  constructor
  · rintro ⟨e | q, rest, rfl, h⟩
    · simp [Talk.yields_pure] at h
    · obtain ⟨rfl, hq⟩ := yields_done.mp h
      cases hq
      rfl
  · rintro rfl
    exact ⟨.ok p, [], rfl, .here _⟩

lemma yields_expectControl : (expectControl leg c).run.Yields es (.ok u) ↔ es = [.received leg (.control c)] := by
  simp only [expectControl, yields_bind_ok, yields_receive]
  constructor
  · rintro ⟨_, gs, p, rfl, rfl, h⟩
    split at h
    · simp_all [Talk.yields_pure]
    · simp [Talk.yields_pure] at h
  · rintro rfl
    exact ⟨_, [], _, rfl, rfl, by simp [Talk.yields_pure]⟩

lemma yields_sendMessage :
    (sendMessage leg m).run.Yields es (.ok u) ↔ ∃ f, m.frame = .ok f ∧ es = [.sent leg (.message f)] := by
  simp only [sendMessage, yields_bind_ok, yields_coded, yields_send]
  constructor
  · rintro ⟨_, _, f, rfl, ⟨rfl, hf⟩, rfl⟩
    exact ⟨f, hf, rfl⟩
  · rintro ⟨f, hf, rfl⟩
    exact ⟨[], _, f, rfl, ⟨rfl, hf⟩, rfl⟩

lemma yields_receiveMessage : (receiveMessage leg).run.Yields es (.ok m) ↔
    ∃ f, Message.ofFrame f = .ok m ∧ es = [.received leg (.message f)] := by
  simp only [receiveMessage, yields_bind_ok, yields_receive]
  constructor
  · rintro ⟨_, gs, p, rfl, rfl, h⟩
    cases p with
    | control c => simp [Talk.yields_pure] at h
    | message f =>
      obtain ⟨rfl, hf⟩ := yields_coded.mp h
      exact ⟨f, hf, rfl⟩
  · rintro ⟨f, hf, rfl⟩
    exact ⟨_, [], .message f, rfl, rfl, yields_coded.mpr ⟨rfl, hf⟩⟩

def delivery (leg : Leg) (f : Frame) : List Event :=
  [.received leg (.control .request), .sent leg (.message f), .received leg (.control .acknowledge)]

def collection (leg : Leg) (f : Frame) : List Event :=
  [.sent leg (.control .request), .received leg (.message f), .sent leg (.control .acknowledge)]

lemma yields_deliver :
    (deliver leg m).run.Yields es (.ok u) ↔ ∃ f, m.frame = .ok f ∧ es = delivery leg f := by
  simp only [deliver, yields_bind_ok, yields_expectControl, yields_sendMessage]
  constructor
  · rintro ⟨_, _, _, rfl, rfl, _, _, _, rfl, ⟨f, hf, rfl⟩, rfl⟩
    exact ⟨f, hf, rfl⟩
  · rintro ⟨f, hf, rfl⟩
    exact ⟨_, _, (), rfl, rfl, _, _, (), rfl, ⟨f, hf, rfl⟩, rfl⟩

lemma yields_collect :
    (collect leg).run.Yields es (.ok m) ↔ ∃ f, Message.ofFrame f = .ok m ∧ es = collection leg f := by
  simp only [collect, sendControl, yields_bind_ok, yields_send, yields_receiveMessage]
  constructor
  · rintro ⟨_, _, _, rfl, rfl, _, _, _, rfl, ⟨f, hf, rfl⟩, _, _, _, rfl, rfl, h⟩
    obtain ⟨rfl, ha⟩ := Talk.yields_pure.mp h
    cases ha
    exact ⟨f, hf, rfl⟩
  · rintro ⟨f, hf, rfl⟩
    exact ⟨_, _, (), rfl, rfl, _, _, m, rfl, ⟨f, hf, rfl⟩, _, [], (), rfl, rfl, Talk.yields_pure.mpr ⟨rfl, rfl⟩⟩

def Answered (m reply : Message) (es : List Event) : Prop :=
  ∃ f g, m.frame = .ok f ∧ Message.ofFrame g = .ok reply ∧ es = delivery .inbound f ++ collection .inbound g

lemma exists_answered (m reply : Message) (hm : m.Fits) (hr : reply.Fits) : ∃ es, Answered m reply es := by
  obtain ⟨f, _, hf, -⟩ := Message.frame_of_fits hm
  obtain ⟨g, _, -, -, -, hg⟩ := Message.frame_of_fits hr
  exact ⟨_, f, g, hf, hg, rfl⟩

lemma yields_answer : (ask m).run.Yields es (.ok reply) ↔ Answered m reply es := by
  simp only [ask, yields_bind_ok, yields_deliver, yields_collect]
  constructor
  · rintro ⟨_, _, _, rfl, ⟨f, hf, rfl⟩, g, hg, rfl⟩
    exact ⟨f, g, hf, hg, rfl⟩
  · rintro ⟨f, g, hf, hg, rfl⟩
    exact ⟨_, _, (), rfl, ⟨f, hf, rfl⟩, g, hg, rfl⟩

lemma yields_granted {password : Bytes} : (authorize password).run.Yields es (.ok .granted) ↔
    Answered ⟨.authRequest, password⟩ ⟨.authNotRequired, ()⟩ es := by
  simp only [authorize, readAccess, sendControl, yields_bind_ok, yields_deliver, yields_send, yields_receive]
  constructor
  · rintro ⟨_, _, _, rfl, ⟨f, hf, rfl⟩, _, _, _, rfl, rfl, _, _, p, rfl, rfl, h⟩
    cases p with
    | message g =>
      simp only [yields_bind_ok, yields_coded, yields_send] at h
      obtain ⟨_, _, reply, rfl, ⟨rfl, hg⟩, _, _, _, rfl, rfl, h⟩ := h
      split at h
      · obtain ⟨rfl, -⟩ := Talk.yields_pure.mp h
        exact ⟨f, g, hf, hg, rfl⟩
      · simp [Talk.yields_pure] at h
    | control c =>
      cases c with
      | abort =>
        simp only [yields_bind_ok, yields_receiveMessage, yields_send] at h
        obtain ⟨_, _, reply, rfl, _, _, _, _, rfl, rfl, h⟩ := h
        split at h <;> simp [Talk.yields_pure] at h
      | _ => simp [Talk.yields_pure] at h
  · rintro ⟨f, g, hf, hg, rfl⟩
    refine ⟨_, _, (), rfl, ⟨f, hf, rfl⟩, _, _, (), rfl, rfl, _, _, .message g, rfl, rfl, ?_⟩
    simp only [yields_bind_ok, yields_coded, yields_send]
    exact ⟨_, _, _, rfl, ⟨rfl, hg⟩, _, [], (), rfl, rfl, Talk.yields_pure.mpr ⟨rfl, rfl⟩⟩

def refusal (leg : Leg) (f : Frame) : List Event :=
  [.sent leg (.control .request), .received leg (.control .abort), .received leg (.message f),
    .sent leg (.control .acknowledge)]

lemma yields_denied {password : Bytes} : (authorize password).run.Yields es (.ok .denied) ↔
    ∃ f g, Message.frame ⟨.authRequest, password⟩ = .ok f ∧ Message.ofFrame g = .ok ⟨.authDenied, ()⟩ ∧
      es = delivery .inbound f ++ refusal .inbound g := by
  simp only [authorize, readAccess, sendControl, yields_bind_ok, yields_deliver, yields_send, yields_receive]
  constructor
  · rintro ⟨_, _, _, rfl, ⟨f, hf, rfl⟩, _, _, _, rfl, rfl, _, _, p, rfl, rfl, h⟩
    cases p with
    | message g =>
      simp only [yields_bind_ok, yields_coded, yields_send] at h
      obtain ⟨_, _, reply, rfl, _, _, _, _, rfl, rfl, h⟩ := h
      split at h <;> simp [Talk.yields_pure] at h
    | control c =>
      cases c with
      | abort =>
        simp only [yields_bind_ok, yields_receiveMessage, yields_send] at h
        obtain ⟨_, _, reply, rfl, ⟨g, hg, rfl⟩, _, _, _, rfl, rfl, h⟩ := h
        split at h
        · obtain ⟨rfl, -⟩ := Talk.yields_pure.mp h
          exact ⟨f, g, hf, hg, rfl⟩
        · simp [Talk.yields_pure] at h
      | _ => simp [Talk.yields_pure] at h
  · rintro ⟨f, g, hf, hg, rfl⟩
    refine ⟨_, _, (), rfl, ⟨f, hf, rfl⟩, _, _, (), rfl, rfl, _, _, .control .abort, rfl, rfl, ?_⟩
    simp only [yields_bind_ok, yields_receiveMessage, yields_send]
    exact ⟨_, _, _, rfl, ⟨g, hg, rfl⟩, _, [], (), rfl, rfl, Talk.yields_pure.mpr ⟨rfl, rfl⟩⟩

def Bare (leg : Leg) (r : Request) : Prop := r = .receive leg ∨ ∃ c, r = .send leg (.control c)

def Carries (leg : Leg) (m : Message) (r : Request) : Prop :=
  Bare leg r ∨ ∃ f, m.frame = .ok f ∧ r = .send leg (.message f)

lemma only_coded {P : Request → Prop} (x : Except CodingError α) : (coded x).run.Only P := by
  cases x <;> trivial

lemma only_send {P : Request → Prop} {p : Packet} (h : P (.send leg p)) : (send leg p).run.Only P :=
  ⟨h, fun answer => by cases answer <;> trivial⟩

lemma only_sendControl : (sendControl leg c).run.Only (Bare leg) := only_send (.inr ⟨c, rfl⟩)

lemma only_receive : (receive leg).run.Only (Bare leg) := ⟨.inl rfl, fun answer => by cases answer <;> trivial⟩

lemma only_expectControl : (expectControl leg c).run.Only (Bare leg) := by
  refine only_receive.bind_except fun p => ?_
  split <;> trivial

lemma only_receiveMessage : (receiveMessage leg).run.Only (Bare leg) := by
  refine only_receive.bind_except fun p => ?_
  cases p with
  | control c => trivial
  | message f => exact only_coded _

lemma only_collect : (collect leg).run.Only (Bare leg) :=
  only_sendControl.bind_except fun _ => only_receiveMessage.bind_except fun _ =>
    only_sendControl.bind_except fun _ => trivial

lemma only_sendMessage : (sendMessage leg m).run.Only (Carries leg m) := by
  cases h : m.frame with
  | error e => simp [sendMessage, h, coded, Only, pure]
  | ok f => simpa [sendMessage, h, coded] using only_send (.inr ⟨f, h, rfl⟩)

lemma only_deliver : (deliver leg m).run.Only (Carries leg m) :=
  (only_expectControl.mono fun _ => .inl).bind_except fun _ => only_sendMessage.bind_except fun _ =>
    only_expectControl.mono fun _ => .inl

lemma only_ask : (ask m).run.Only (Carries .inbound m) :=
  only_deliver.bind_except fun _ => only_collect.mono fun _ => .inl

lemma only_readAccess : readAccess.run.Only (Bare .inbound) := by
  refine only_sendControl.bind_except fun _ => only_receive.bind_except fun p => ?_
  cases p with
  | message f =>
    refine (only_coded _).bind_except fun reply => only_sendControl.bind_except fun _ => ?_
    split <;> trivial
  | control c =>
    cases c with
    | abort =>
      refine only_receiveMessage.bind_except fun reply => only_sendControl.bind_except fun _ => ?_
      split <;> trivial
    | _ => trivial

lemma only_authorize {password : Bytes} :
    (authorize password).run.Only (Carries .inbound ⟨.authRequest, password⟩) :=
  only_deliver.bind_except fun _ => only_readAccess.mono fun _ => .inl

lemma not_bare_message {f : Frame} : ¬ Bare leg (.send leg (.message f)) := by simp [Bare]

lemma writes_of_deliver {k : Unit → Exchange α} (hk : ∀ u, (k u).run.Only (Bare leg)) {f : Frame}
    {next : Except LinkError Unit → Talk (Except ExchangeError α)}
    (h : (deliver leg m >>= k).run.After es (Talk.ask (.send leg (.message f)) next)) :
    m.frame = .ok f ∧ es = [.received leg (.control .request)] ∧ ∀ e, next (.error e) = done (.error (.link e)) := by
  simp only [deliver, sendMessage, bind_assoc] at h
  rcases asks_bind_except h with ⟨_, hn, -⟩ | ⟨_, gs, _, rfl, hr, hc⟩
  · exact absurd (only_expectControl.asks hn) not_bare_message
  obtain rfl := yields_expectControl.mp hr
  rcases asks_bind_except hc with ⟨_, hn, -⟩ | ⟨_, hs, g, rfl, hg, hm⟩
  · exact absurd ((only_coded _).asks hn) not_bare_message
  obtain ⟨rfl, hf⟩ := yields_coded.mp hg
  rcases asks_bind_except hm with ⟨_, hn, he⟩ | ⟨_, _, _, rfl, -, ha⟩
  · rcases after_ask.mp hn with ⟨rfl, ht⟩ | ⟨answer, rest, rfl, ht⟩
    · cases ht
      exact ⟨hf, rfl, fun e => he _ _ rfl⟩
    · cases answer <;> cases ht
  · exact absurd ((only_expectControl.bind_except hk).asks ha) not_bare_message

lemma deliver_asks {f : Frame} (h : m.frame = .ok f) (k : Unit → Exchange α) : ∃ next,
    (deliver leg m >>= k).run.After [.received leg (.control .request)] (Talk.ask (.send leg (.message f)) next) := by
  simp only [deliver, sendMessage, bind_assoc, h, coded, pure_bind]
  rw [ExceptT.run_bind]
  have hr : (expectControl leg .request).run.Yields [.received leg (.control .request)] (.ok ()) :=
    yields_expectControl.mpr rfl
  exact ⟨_, hr.bind _⟩

structure About (x : Exchange α) (m : Message) : Prop where
  only : x.run.Only (Carries .inbound m)
  writes : ∀ {es f next}, x.run.After es (Talk.ask (.send .inbound (.message f)) next) →
    m.frame = .ok f ∧ es = [.received .inbound (.control .request)] ∧ ∀ e, next (.error e) = done (.error (.link e))
  asks : ∀ {f}, m.frame = .ok f →
    ∃ next, x.run.After [.received .inbound (.control .request)] (Talk.ask (.send .inbound (.message f)) next)

lemma about_ask : (ask m).About m := ⟨only_ask, writes_of_deliver fun _ => only_collect, fun h => deliver_asks h _⟩

lemma about_authorize {password : Bytes} : (authorize password).About ⟨.authRequest, password⟩ :=
  ⟨only_authorize, writes_of_deliver fun _ => only_readAccess, fun h => deliver_asks h _⟩

end Exchange

end PimSync
