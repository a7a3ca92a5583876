import PimSync.Proofs.Session.Composing
import PimSync.Proofs.Session.History

/-! What an operation does whatever its requests are answered, and that none but a few changes the links. -/

namespace PimSync.Session

open Wire Procedure

variable {α β : Type} {s s' : Session} {x : Operation α} {es : List Event}

def Brings (x : Operation α) (s : Session) (Q : Except SessionError α → Session → Prop) : Prop :=
  ∀ es r s', x.Yields s es r s' → (∀ e ∈ es, ¬ Mark.Listens (.event e)) ∧ Q r s'

lemma ok_ne_notConnected (a : α) : (.ok a : Except SessionError α) ≠ .error .notConnected := nofun

lemma error_ne_notConnected {e : SessionError} (h : e ≠ .notConnected) :
    (.error e : Except SessionError α) ≠ .error .notConnected :=
  fun he => h (Except.error.inj he)

structure Stays (s s' : Session) : Prop where
  state : s'.state = s.state ∨ s.state.isConnected ∧ s'.state.isConnected
  listening : s'.listening = s.listening
  inbound : s'.inbound = s.inbound
  outbound : s'.outbound = s.outbound

namespace Stays

lemma refl (s : Session) : Stays s s := ⟨.inl rfl, rfl, rfl, rfl⟩

lemma isConnected (h : Stays s s') : s'.state.isConnected = s.state.isConnected := by
  rcases h.state with he | ⟨hs, hs'⟩
  · rw [he]
  · rw [hs, hs']

lemma trans {s'' : Session} (h : Stays s s') (k : Stays s' s'') : Stays s s'' := by
  refine ⟨?_, k.listening.trans h.listening, k.inbound.trans h.inbound, k.outbound.trans h.outbound⟩
  rcases k.state with he | ⟨hs', hs''⟩
  · rw [he]
    exact h.state
  · exact .inr ⟨h.isConnected ▸ hs', hs''⟩

lemma advance (h : Stays s s') (hs : s.state.isConnected) {t : State} (ht : t.isConnected) :
    Stays s (s'.advance t) := by
  unfold Session.advance
  split
  · exact ⟨.inr ⟨hs, ht⟩, h.listening, h.inbound, h.outbound⟩
  · exact h

end Stays

lemma not_listens_of_only {t : Talk α} {a : α} (ht : t.Only fun r => ∀ address, r ≠ .listen address)
    (hy : t.Yields es a) : ∀ e ∈ es, ¬ Mark.Listens (.event e) := by
  rintro ⟨r, answer⟩ he hl
  have hr := (ht.after hy).1 _ he
  cases r with
  | listen address => exact hr address rfl
  | _ => exact hl

namespace Brings

variable {P Q : Except SessionError α → Session → Prop}

lemma mono (h : Brings x s P) (hq : ∀ r s', P r s' → Q r s') : Brings x s Q :=
  fun es r s' hy => ⟨(h es r s' hy).1, hq r s' (h es r s' hy).2⟩

lemma bind {f : α → Operation β} {R : Except SessionError β → Session → Prop} (h : Brings x s P)
    (he : ∀ e s', P (.error e) s' → R (.error e) s') (hk : ∀ a s', P (.ok a) s' → Brings (f a) s' R) :
    Brings (x >>= f) s R := by
  intro es r s' hy
  rw [Operation.Yields, run_bind] at hy
  obtain ⟨fs, gs, ⟨e | a, s₁⟩, rfl, hx, hf⟩ := Talk.yields_bind.mp hy
  · obtain ⟨rfl, hr⟩ := Talk.yields_pure.mp hf
    cases hr
    obtain ⟨hfs, hp⟩ := h _ _ _ hx
    exact ⟨by rwa [List.append_nil], he e _ hp⟩
  · obtain ⟨hfs, hp⟩ := h _ _ _ hx
    obtain ⟨hgs, hr⟩ := hk a s₁ hp _ _ _ hf
    exact ⟨List.forall_mem_append.mpr ⟨hfs, hgs⟩, hr⟩

lemma of_run {r : Except SessionError α} (hx : x.run.run s = pure (r, s')) (hq : Q r s') : Brings x s Q := by
  intro es r' s'' hy
  rw [Operation.Yields, hx] at hy
  obtain ⟨rfl, he⟩ := Talk.yields_pure.mp hy
  cases he
  exact ⟨fun e he => absurd he List.not_mem_nil, hq⟩

lemma of_map {A : Type} {t : Talk A} {f : A → Except SessionError α × Session} (hx : x.run.run s = f <$> t)
    (ht : t.Only fun r => ∀ address, r ≠ .listen address) (hq : ∀ a, Q (f a).1 (f a).2) : Brings x s Q := by
  intro es r s' hy
  rw [Operation.Yields, hx] at hy
  obtain ⟨a, ha, he⟩ := Talk.yields_map.mp hy
  obtain ⟨rfl, rfl⟩ := Prod.mk.inj he
  exact ⟨not_listens_of_only ht ha, hq a⟩

lemma still {f : α → Operation β} {R : Except SessionError β → Session → Prop}
    (h : Brings x s fun r s' => s' = s ∧ r ≠ .error .notConnected)
    (he : ∀ e, e ≠ .notConnected → R (.error e) s) (hk : ∀ a, Brings (f a) s R) : Brings (x >>= f) s R := by
  refine h.bind (fun e s' hs => ?_) fun a s' hs => ?_
  · obtain ⟨rfl, hn⟩ := hs
    exact he e fun k => hn (by rw [k])
  · obtain ⟨rfl, -⟩ := hs
    exact hk a

lemma linked (r : Except LinkError α) :
    Brings (Operation.linked r) s fun r s' => s' = s ∧ r ≠ .error .notConnected := by
  cases r with
  | ok a => exact of_run (run_pure a s) ⟨rfl, nofun⟩
  | error e => exact of_run (run_throw _ s) ⟨rfl, nofun⟩

lemma request {r : Request} {f : r.Answer → Operation β} {R : Except SessionError β → Session → Prop}
    (hr : ∀ address, r ≠ .listen address) (hk : ∀ a, Brings (f a) s R) :
    Brings (Operation.request r >>= f) s R := by
  refine (of_map (run_converse _ s) (.request hr) (Q := fun r s' => s' = s ∧ ∃ a, r = .ok a) fun a =>
    ⟨rfl, a, rfl⟩).bind (fun _ _ he => nomatch he.2) fun a s' hs => ?_
  obtain ⟨rfl, -⟩ := hs
  exact hk a

lemma exchange (y : Exchange α) (hy : y.run.Only fun r => ∀ address, r ≠ .listen address) :
    Brings (Operation.exchange y) s fun r s' => s' = s ∧ r ≠ .error .notConnected := by
  refine still (of_map (run_converse _ s) hy fun _ => ⟨rfl, nofun⟩) (fun _ he => ⟨rfl, error_ne_notConnected he⟩)
    fun answer => of_run (run_ofExcept _ s) ⟨rfl, ?_⟩
  cases answer <;> nofun

end Brings

lemma not_listen_of_carries {leg : Leg} {m : Message} {r : Request} (h : Exchange.Carries leg m r)
    (address : Endpoint) : r ≠ .listen address := by
  obtain (rfl | ⟨c, rfl⟩) | ⟨f, -, rfl⟩ := h <;> nofun

lemma question_ne_notConnected {P : Type} (operation : String) (least : State)
    {content : Session → Except SessionError P} (hi : s.state.isConnected → s.inbound)
    (hn : content s ≠ .error .notConnected) : s.question operation least content ≠ .error .notConnected := by
  unfold question
  split
  · rename_i hr
    cases hc : content s with
    | error e => exact fun he => hn (hc.trans he)
    | ok payload => simp [hi hr.1]
  · nofun

def Steady (x : Operation α) (s : Session) : Prop :=
  (s.state.isConnected → s.inbound) → Brings x s fun r s' => s.Stays s' ∧ r ≠ .error .notConnected

namespace Steady

lemma of_run {r : Except SessionError α} (hx : x.run.run s = pure (r, s)) (hr : r ≠ .error .notConnected) :
    Steady x s :=
  fun _ => .of_run hx ⟨.refl s, hr⟩

lemma bind {f : α → Operation β} (h : Steady x s) (k : ∀ a s', Steady (f a) s') : Steady (x >>= f) s := by
  refine fun hi => (h hi).bind (fun e s' hs => ⟨hs.1, fun he => hs.2 ?_⟩) fun a s' hs => ?_
  · rw [Except.error.inj he]
  · have hi' : s'.state.isConnected → s'.inbound := by
      rw [hs.1.isConnected, hs.1.inbound]
      exact hi
    exact (k a s' hi').mono fun r s'' hs' => ⟨hs.1.trans hs'.1, hs'.2⟩

lemma refused {P : Type} {operation : String} {least : State} {content : Session → Except SessionError P}
    {e : SessionError} (hq : s.question operation least content = .error e) (hn : content s ≠ .error .notConnected)
    (hx : x.run.run s = Pure.pure (.error e, s)) : Steady x s := by
  refine fun hi => .of_run hx ⟨.refl s, fun he => ?_⟩
  exact question_ne_notConnected operation least hi hn (hq.trans (by rw [Except.error.inj he]))

lemma pose {request reply : MessageType} {operation : String} {least : State}
    {content : Session → Except SessionError request.Payload} {conclude : reply.Payload → Session → α × Session}
    (hn : content s ≠ .error .notConnected) (hc : s.state.isConnected → ∀ answer, s.Stays (conclude answer s).2) :
    Steady (Procedure.pose request reply operation least content conclude) s := by
  have hrun := run_pose (b := Talk) request reply operation least content conclude s
  cases hq : s.question operation least content with
  | error e =>
    rw [hq] at hrun
    exact .refused hq hn hrun
  | ok payload =>
    rw [hq] at hrun
    have hs := (question_eq_ok.mp hq).1.1
    refine fun _ => .of_map hrun (Exchange.only_ask.mono fun r => not_listen_of_carries) fun answer => ?_
    rcases answer with e | m
    · exact ⟨.refl s, error_ne_notConnected (by simp)⟩
    · rw [conclusion]
      cases m.payload? reply with
      | none => exact ⟨.refl s, error_ne_notConnected (by simp [SessionError.unexpected])⟩
      | some payload => exact ⟨hc hs payload, ok_ne_notConnected _⟩

end Steady

lemma composes_steady : Composes fun x => ∀ s, Steady x s where
  bind hx hf s := (hx s).bind hf
  looks hx hr s := .of_run (hx s) (hr s)

lemma steady_requestInfo : Steady requestInfo s :=
  .pose nofun fun hs info => (Stays.mk (.inl rfl) rfl rfl rfl : s.Stays { s with device? := some info }).advance hs rfl

lemma steady_authenticate (password : Bytes) : Steady (authenticate password) s := by
  have hrun := run_authenticate (b := Talk) password s
  cases hq : s.question "authenticate" .infoKnown fun _ => .ok password with
  | error e =>
    rw [hq] at hrun
    exact .refused hq nofun hrun
  | ok password =>
    rw [hq] at hrun
    have hs := (question_eq_ok.mp hq).1.1
    refine fun _ => .of_map hrun (Exchange.only_authorize.mono fun r => not_listen_of_carries) fun answer => ?_
    rcases answer with e | _ | _
    · exact ⟨.refl s, nofun⟩
    · exact ⟨(Stays.mk (.inl rfl) rfl rfl rfl : s.Stays { s with access? := some .granted }).advance hs rfl, nofun⟩
    · exact ⟨⟨.inl rfl, rfl, rfl, rfl⟩, nofun⟩

lemma steady_requestState : Steady requestState s := by
  refine .pose ?_ fun hs flags => ?_
  · split <;> nofun
  · exact (Stays.mk (.inl rfl) rfl rfl rfl : s.Stays { s with flags? := some flags }).advance hs rfl

lemma steady_obtainFormat : Steady obtainFormat s := by
  refine .pose ?_ fun hs _ => ?_
  · cases s.cached? <;> nofun
  · have h := (Stays.refl s).advance hs (t := .formatKnown) rfl
    exact ⟨h.state, h.listening, h.inbound, h.outbound⟩

lemma steady_requestIds : Steady requestIds s := .pose nofun fun hs _ => (Stays.refl s).advance hs rfl

lemma steady_fetchValues (id : UInt32) : Steady (fetchValues id) s :=
  .pose nofun fun hs _ => (Stays.refl s).advance hs rfl

lemma steady_writeItem (w : ItemWrite) : Steady (writeItem w) s := .pose nofun fun _ _ => .refl s

lemma steady_pullChanges : Steady pullChanges s :=
  composes_steady.pullChanges (fun _ => steady_obtainFormat) (fun _ => steady_requestIds)
    (fun id _ => steady_fetchValues id) s

lemma stays_select (c : Category) : s.Stays (s.select c) := by
  unfold select
  split
  · exact .refl s
  · refine ⟨?_, rfl, rfl, rfl⟩
    dsimp only
    split
    · rename_i hc
      exact .inr ⟨hc.2, rfl⟩
    · exact .inl rfl

lemma stays_dropFormat : s.Stays s.dropFormat := by
  refine ⟨?_, rfl, rfl, rfl⟩
  unfold dropFormat
  dsimp only
  split
  · rename_i hs
    refine .inr ⟨?_, rfl⟩
    rcases hs with hs | hs | hs <;> rw [hs] <;> rfl
  · exact .inl rfl

lemma steady_errand {e : Errand} (he : e ≠ .terminate) : Steady e.perform s := by
  cases e with
  | requestInfo => exact steady_requestInfo
  | authenticate password => exact steady_authenticate password
  | requestState => exact steady_requestState
  | resetState c => exact .pose nofun fun _ _ => ⟨.inl rfl, rfl, rfl, rfl⟩
  | selectCategory c => exact fun _ => .of_run (run_modifyGet (fun s => ((), s.select c)) s) ⟨stays_select c, nofun⟩
  | obtainFormat => exact steady_obtainFormat
  | resetFormat => exact fun _ => .of_run (run_modifyGet (fun s => ((), s.dropFormat)) s) ⟨stays_dropFormat, nofun⟩
  | requestIds => exact steady_requestIds
  | fetchValues id => exact steady_fetchValues id
  | fetchItem id => exact composes_steady.fetchItem (fun id _ => steady_fetchValues id) id s
  | writeItem w => exact steady_writeItem w
  | insertItem item => exact composes_steady.insertItem (fun w _ => steady_writeItem w) item s
  | updateItem id item => exact composes_steady.updateItem (fun w _ => steady_writeItem w) id item s
  | deleteItems ids => exact .pose nofun fun _ _ => .refl s
  | markDone => exact .pose nofun fun hs _ => ⟨.inr ⟨hs, rfl⟩, rfl, rfl, rfl⟩
  | requestTime => exact .pose nofun fun _ _ => .refl s
  | setTime time => exact .pose nofun fun _ _ => .refl s
  | requestPath => exact .pose nofun fun _ _ => .refl s
  | terminate => exact absurd rfl he
  | pullChanges => exact steady_pullChanges

end PimSync.Session
