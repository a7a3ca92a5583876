import PimSync.Proofs.Session.Composing
import PimSync.Proofs.Session.Failures
import PimSync.Proofs.Session.Gates
import PimSync.Proofs.Session.Links

namespace PimSync.Session

open Procedure

variable {α β : Type} {s s' : Session} {es : List Event}

namespace State

def level (st : State) : State := if st < stateKnown then st else stateKnown

lemma level_eq {st t : State} (h : st.level = t.level) :
    (t < stateKnown → st = t) ∧ (stateKnown ≤ t → stateKnown ≤ st) := by
  revert h
  cases st <;> cases t <;> decide

lemma level_of_le {st : State} (h : stateKnown ≤ st) : st.level = stateKnown := by
  revert h
  cases st <;> decide

lemma infoKnown_le_level {st : State} (h : infoKnown ≤ st) : infoKnown ≤ st.level := by
  revert h
  cases st <;> decide

lemma level_advance {st t : State} (hi : infoKnown ≤ st.level) (h : stateKnown ≤ st ∨ t ≤ infoKnown) :
    (if st < t then t else st).level = st.level := by
  revert hi h
  cases st <;> cases t <;> decide

lemma level_select (st : State) :
    (if stateKnown < st ∧ st.isConnected then stateKnown else st).isConnected → st.isConnected ∧
      (if stateKnown < st ∧ st.isConnected then stateKnown else st).level = st.level := by
  cases st <;> decide

lemma level_dropFormat (st : State) :
    (if st = formatKnown ∨ st = iterating ∨ st = done then stateKnown else st).isConnected → st.isConnected ∧
      (if st = formatKnown ∨ st = iterating ∨ st = done then stateKnown else st).level = st.level := by
  cases st <;> decide

end State

def WantsPassword (s : Session) : Prop := s.device?.any DeviceInfo.requiresAuth

instance (s : Session) : Decidable s.WantsPassword := inferInstanceAs (Decidable (_ = true))

namespace Errand

def ConcernsData : Errand → Prop
  | requestState | resetState _ | obtainFormat | requestIds | fetchValues _ | writeItem _ | insertItem _
  | updateItem .. | deleteItems _ | markDone | pullChanges => True
  | _ => False

def HeedsAccess : Errand → Prop
  | authenticate _ | requestState => True
  | _ => False

def IsBarred (e : Errand) (s : Session) : Prop :=
  ∃ g, e.gate? = some g ∧ (e.perform (b := Talk)).run.run s = pure (.error (.invalidState g.operation s.state), s)

end Errand

def withAccess (access? : Option Access) (s : Session) : Session := { s with access? }

section Blindness

variable {b : Type → Type} [Monad b] [LawfulMonad b] {f : Session → Session}

namespace Blind

lemma require (operation : String) (least : State) (h : ∀ s, (f s).state = s.state) :
    Blind f (require operation least : Procedure b Unit) := by
  intro s
  rw [run_require, run_require, map_pure]
  simp only [HasReached, h]
  rfl

lemma cachedFormat (c : Category) (h : ∀ s, (f s).formatFor? c = s.formatFor? c) :
    Blind f (cachedFormat c : Procedure b Schema.Format) := by
  intro s
  rw [run_cachedFormat, run_cachedFormat, map_pure, h]
  rfl

lemma mapM {k : α → Procedure b β} (hk : ∀ a, Blind f (k a)) (as : List α) : Blind f (as.mapM k) := by
  induction as with
  | nil => exact .pure []
  | cons a as ih =>
    rw [List.mapM_cons]
    exact (hk a).bind fun _ => ih.bind fun _ => .pure _

end Blind

variable (access? : Option Access)

lemma withAccess_advance (s : Session) (t : State) :
    (withAccess access? s).advance t = withAccess access? (s.advance t) := by
  rw [advance_eq, advance_eq]
  rfl

lemma withAccess_select (s : Session) (c : Category) :
    (withAccess access? s).select c = withAccess access? (s.select c) := by
  unfold select
  by_cases h : c = s.category
  · simp only [withAccess, h, if_true]
  · simp only [withAccess, h, if_false]
    rfl

variable [Correspondent b]

lemma blind_advance {request reply : MessageType} {operation : String} {least t : State}
    {content : Session → Except SessionError request.Payload}
    (hq : ∀ s, (withAccess access? s).question operation least content = s.question operation least content) :
    Blind (withAccess access?) (pose request reply operation least content
      (fun payload s => (payload, s.advance t)) : Procedure b reply.Payload) :=
  .pose hq fun payload s => congrArg (Prod.mk payload) (withAccess_advance access? s t)

lemma blind_obtainFormat : Blind (withAccess access?) (obtainFormat : Procedure b Schema.Format) := by
  refine .pose (fun _ => by rfl) fun entries s => ?_
  rw [withAccess_advance]
  rfl

lemma blind_fetchValues (id : UInt32) : Blind (withAccess access?) (fetchValues id : Procedure b Schema.Values) :=
  blind_advance access? fun _ => by rfl

lemma blind_fetchItem (id : UInt32) : Blind (withAccess access?) (fetchItem id : Procedure b Item) := by
  refine .get (fun _ => by rfl) fun s => (Blind.cachedFormat _ fun _ => by rfl).bind fun _ =>
    (blind_fetchValues access? id).bind fun values => .get (fun _ => by rfl) fun s => ?_
  exact (Blind.cachedFormat _ fun _ => by rfl).bind fun _ => .ofExcept _

lemma blind_writeItem (w : ItemWrite) : Blind (withAccess access?) (writeItem w : Procedure b UInt32) :=
  .pose (fun _ => by rfl) fun _ _ => by rfl

lemma blind_cachedWrite (operation : String) (c : Category) (write : Schema.Format → ItemWrite) :
    Blind (withAccess access?) (Procedure.require operation .formatKnown >>= fun _ => Procedure.cachedFormat c >>=
      fun format => writeItem (write format) : Procedure b UInt32) :=
  (Blind.require _ _ fun _ => by rfl).bind fun _ => (Blind.cachedFormat c fun _ => by rfl).bind fun _ =>
    blind_writeItem access? _

lemma blind_pullChanges : Blind (withAccess access?) (pullChanges : Procedure b Changes) := by
  have hrest : Blind (withAccess access?) (do
      let ids ← requestIds
      let items ← ids.changed.mapM fetchItem
      let s ← get
      return (⟨s.category, s.flags?.all (·.needsSlowSync s.category), ids, items⟩ : Changes) : Procedure b Changes) :=
    (blind_advance access? fun _ => by rfl).bind fun ids => (Blind.mapM (blind_fetchItem access?) _).bind fun items =>
      .get (fun _ => by rfl) fun s => .pure _
  refine (Blind.require _ _ fun _ => by rfl).bind fun _ => .get (fun _ => by rfl) fun s => ?_
  split
  · exact (blind_obtainFormat access?).bind fun _ => hrest
  · exact hrest

lemma blind_terminate : Blind (withAccess access?) (terminate : Procedure b Unit) := by
  have hask : Blind (withAccess access?) (inquire ⟨.terminate, ()⟩ .complete : Procedure b Unit) := by
    refine (Blind.requireLink fun _ => by rfl).bind fun _ => (Blind.converse _).bind fun answer =>
      (Blind.ofExcept _).bind fun m => ?_
    split
    · exact .pure _
    · exact .throw _
  refine (Blind.require _ _ fun _ => by rfl).bind fun _ => hask.bind fun _ => (Blind.requireLink fun _ => by rfl).bind
    fun _ => (Blind.changes _ fun _ => by rfl).bind fun _ => ?_
  exact (Blind.converse _).bind fun _ => (Blind.ofExcept _).bind fun _ => .changes _ fun _ => by rfl

lemma blind_perform {e : Errand} (he : ¬ e.HeedsAccess) :
    Blind (withAccess access?) (e.perform : Procedure b e.Result) := by
  cases e with
  | requestInfo =>
    refine .pose (fun _ => by rfl) fun info s => ?_
    exact congrArg (Prod.mk info) (withAccess_advance access? { s with device? := info } _)
  | authenticate _ | requestState => exact absurd trivial he
  | selectCategory c => exact .changes (·.select c) fun s => withAccess_select access? s c
  | resetFormat => exact .changes dropFormat fun _ => by rfl
  | obtainFormat => exact blind_obtainFormat access?
  | requestIds => exact blind_advance access? fun _ => by rfl
  | fetchValues id => exact blind_fetchValues access? id
  | fetchItem id => exact blind_fetchItem access? id
  | insertItem item => exact blind_cachedWrite access? _ _ _
  | updateItem id item => exact blind_cachedWrite access? _ _ _
  | terminate => exact blind_terminate access?
  | pullChanges => exact blind_pullChanges access?
  | _ => exact .pose (fun _ => by rfl) fun _ _ => by rfl

end Blindness

def Upholds (P : Session → Prop) (x : Operation α) : Prop := ∀ s es r s', P s → x.Yields s es r s' → P s'

lemma composes_upholds {P : Session → Prop} : Composes (Upholds P) where
  bind {_ _ x f} hx hf s es r s' hs hy := by
    rw [Operation.Yields, run_bind] at hy
    obtain ⟨fs, gs, ⟨e | a, s₁⟩, rfl, hfirst, hrest⟩ := Talk.yields_bind.mp hy
    · obtain ⟨-, he⟩ := Talk.yields_pure.mp hrest
      cases he
      exact hx _ _ _ _ hs hfirst
    · exact hf a _ _ _ _ (hx _ _ _ _ hs hfirst) hrest
  looks hx _ s es r s' hs hy := by
    rw [Operation.Yields, hx] at hy
    obtain ⟨-, he⟩ := Talk.yields_pure.mp hy
    cases he
    exact hs

namespace Upholds

variable {P : Session → Prop}

lemma change {g : Session → Session} (hg : ∀ s, P s → P (g s)) : Upholds P (modify g) := by
  intro s es r s' hs hy
  rw [Operation.Yields, modify, run_modifyGet] at hy
  obtain ⟨-, he⟩ := Talk.yields_pure.mp hy
  cases he
  exact hg s hs

lemma pose {request reply : MessageType} {operation : String} {least : State}
    {content : Session → Except SessionError request.Payload} {conclude : reply.Payload → Session → α × Session}
    (hc : ∀ s, P s → s.HasReached least → ∀ answer, P (conclude answer s).2) :
    Upholds P (Procedure.pose request reply operation least content conclude) := by
  intro s es r s' hs hy
  cases r with
  | error e =>
    rw [Operation.Yields, run_pose] at hy
    split at hy
    · obtain ⟨-, he⟩ := Talk.yields_pure.mp hy
      cases he
      exact hs
    · obtain ⟨answer, -, he⟩ := Talk.yields_map.mp hy
      rw [(conclusion_eq_error he.symm).1]
      exact hs
  | ok a =>
    obtain ⟨hr, answer, he⟩ := concluded_of_pose hy
    have hp := hc s hs hr answer
    rwa [he] at hp

end Upholds

def IsAt (t : State) (s : Session) : Prop := s.state.isConnected → s.state.level = t

section Standing

variable {t u : State} (ht : .infoKnown ≤ t)

include ht

lemma IsAt.advance (h : s.IsAt t) (hc : s.state.isConnected) (hu : .stateKnown ≤ s.state ∨ u ≤ .infoKnown) :
    (s.advance u).IsAt t := by
  intro _
  rw [advance_eq]
  exact (State.level_advance (by rwa [h hc]) hu).trans (h hc)

lemma upholds_advance {request reply : MessageType} {operation : String} {least : State} (hl : .stateKnown ≤ least)
    {content : Session → Except SessionError request.Payload} :
    Upholds (IsAt t) (pose request reply operation least content fun payload s => (payload, s.advance u)) :=
  .pose fun _ h hr _ => h.advance ht hr.1 (.inl (State.le_trans hl hr.2))

lemma upholds_obtainFormat : Upholds (IsAt t) obtainFormat :=
  .pose fun _ h hr _ => IsAt.advance ht h hr.1 (u := .formatKnown) (.inl hr.2)

omit ht in
lemma upholds_terminate : Upholds (IsAt t) terminate := by
  intro s es r s' hs hy
  cases r with
  | error e =>
    have hk : s'.state = s.state := congrArg Knowledge.state (fruitless_terminate.keeps es e s' hy)
    rwa [IsAt, hk]
  | ok _ =>
    obtain ⟨_, _, -, -, -, -, -, -, rfl⟩ := yields_terminate.mp hy
    exact fun hc => absurd hc State.not_isConnected_disconnected

lemma upholds_errand {e : Errand} (he : ¬ e.HeedsAccess) : Upholds (IsAt t) e.perform := by
  cases e with
  | requestInfo => exact .pose fun _ h hr _ => IsAt.advance ht h hr.1 (u := .infoKnown) (.inr (Nat.le_refl _))
  | authenticate _ | requestState => exact absurd trivial he
  | selectCategory c =>
    refine .change fun s h hc => ?_
    unfold select at hc ⊢
    split at hc
    · rename_i hs
      rw [if_pos hs]
      exact h hc
    · rename_i hs
      rw [if_neg hs]
      obtain ⟨hs, hl⟩ := State.level_select s.state hc
      exact hl.trans (h hs)
  | resetFormat =>
    refine .change fun s h hc => ?_
    obtain ⟨hs, hl⟩ := State.level_dropFormat s.state hc
    exact hl.trans (h hs)
  | obtainFormat => exact upholds_obtainFormat ht
  | requestIds => exact upholds_advance ht (by decide)
  | fetchValues id => exact upholds_advance ht (by decide)
  | fetchItem id => exact composes_upholds.fetchItem (fun _ => upholds_advance ht (by decide)) id
  | insertItem item => exact composes_upholds.insertItem (fun _ => .pose fun _ h _ _ => h) item
  | updateItem id item => exact composes_upholds.updateItem (fun _ => .pose fun _ h _ _ => h) id item
  | markDone =>
    refine .pose fun s h hr _ _ => ?_
    rw [← h hr.1, State.level_of_le (State.le_trans (by decide) hr.2)]
    rfl
  | terminate => exact upholds_terminate
  | pullChanges =>
    exact composes_upholds.pullChanges (upholds_obtainFormat ht) (upholds_advance ht (by decide)) fun _ =>
      upholds_advance ht (by decide)
  | _ => exact .pose fun _ h _ _ => h

end Standing

structure Refused (t : State) (s : Session) : Prop where
  connected : s.state.isConnected
  level : s.state.level = t
  wants : s.WantsPassword
  denied : s.access? = some .denied

def Action.Outcome.Grants : Action.Outcome → Prop
  | ⟨.errand (.authenticate _), .ok .granted⟩ => True
  | _ => False

/-- The session goes on like this, with one action after another, and no password is taken on the way. -/
inductive Persists (P : Session → Prop) (s : Session) : Session → Prop
  | here : Persists P s s
  | act {s₁ s₂ : Session} (a : Action) {es : List Event} {r : Except SessionError a.Result} :
      Persists P s s₁ → a.perform.Yields s₁ es r s₂ → ¬ Action.Outcome.Grants ⟨a, r⟩ → P s₂ → Persists P s s₂

lemma run_requestState_refused (hw : s.WantsPassword) (hd : s.access? = some .denied) :
    (requestState (b := Talk)).run.run s = pure (.error (.invalidState "request_sync_state" s.state), s) := by
  have hm : ¬ s.mayProceed := by
    rintro (hn | hg)
    · exact hn hw
    · cases hd.symm.trans hg
  rw [requestState, run_pose, question, if_neg hm]
  by_cases hr : s.HasReached .infoKnown
  · simp only [if_pos hr]
  · simp only [if_neg hr]

namespace Refused

variable {t : State}

lemma not_canListen (h : Refused t s) : ¬ s.state.canListen := fun hc =>
  State.not_isConnected_of_canListen hc h.connected

lemma ne_listening (h : Refused t s) : s.state ≠ .listening := fun hl =>
  State.not_isConnected_listening (hl ▸ h.connected)

lemma run_listen (h : Refused t s) : listen.run.run s = pure (.error (.invalidState "listen" s.state), s) := by
  rw [Session.run_listen, if_neg h.not_canListen]
  rfl

lemma run_initiate (h : Refused t s) : initiate.run.run s = pure (.error (.invalidState "connect" s.state), s) := by
  rw [run_initiate_listening h.not_canListen, run_bind, connect, run_not_listening h.ne_listening, pure_bind]

lemma act (ht : .infoKnown ≤ t) (h : Refused t s) {a : Action} {r : Except SessionError a.Result}
    (hy : a.perform.Yields s es r s') (hg : ¬ Action.Outcome.Grants ⟨a, r⟩) (hc : s'.state.isConnected)
    (hw : s'.WantsPassword) : Refused t s' := by
  have hstill {x : Operation a.Result} {e : SessionError} (hx : x.run.run s = pure (.error e, s))
      (hy : x.Yields s es r s') : Refused t s' := by
    rw [Operation.Yields, hx] at hy
    obtain ⟨-, he⟩ := Talk.yields_pure.mp hy
    cases he
    exact h
  cases a with
  | listen => exact hstill (x := listen) h.run_listen hy
  | connect => exact hstill (run_not_listening h.ne_listening) hy
  | acceptDevice => exact hstill (run_not_listening h.ne_listening) hy
  | initiate => exact hstill h.run_initiate hy
  | finalize =>
    rw [Action.perform, Operation.Yields, run_finalize] at hy
    obtain ⟨_, -, he⟩ := Talk.yields_map.mp hy
    cases he
    exact absurd hc (State.not_isConnected_finalized s.state)
  | errand e =>
    by_cases he : e.HeedsAccess
    · cases e with
      | authenticate password =>
        rw [Action.perform, Errand.perform, Operation.Yields, run_authenticate] at hy
        split at hy
        · obtain ⟨-, he⟩ := Talk.yields_pure.mp hy
          cases he
          exact h
        · obtain ⟨answer, -, he⟩ := Talk.yields_map.mp hy
          rcases answer with x | _ | _ <;> cases he
          · exact h
          · exact absurd trivial hg
          · exact ⟨hc, h.level, hw, rfl⟩
      | requestState => exact hstill (run_requestState_refused h.wants h.denied) hy
      | _ => exact absurd he id
    · have hkept : s'.access? = s.access? := by
        obtain ⟨s₁, -, rfl⟩ := (blind_perform s.access? he).yields (s := s) hy
        rfl
      exact ⟨hc, upholds_errand ht he s es r s' (fun _ => h.level) hy hc, hw, hkept.trans h.denied⟩

lemma persists (ht : .infoKnown ≤ t) (h : Refused t s)
    (hg : Persists (fun s => s.state.isConnected ∧ s.WantsPassword) s s') : Refused t s' := by
  induction hg with
  | here => exact h
  | act a _ hy hn hs ih => exact ih.act ht hy hn hs.1 hs.2

end Refused

lemma denied_of_yields {password : Bytes} (hy : Operation.Yields (authenticate password) s es (.ok .denied) s') :
    s.HasReached .infoKnown ∧ s' = { s with access? := some .denied } := by
  rw [Operation.Yields, run_authenticate] at hy
  split at hy
  · obtain ⟨-, he⟩ := Talk.yields_pure.mp hy
    cases he
  · rename_i hq
    obtain ⟨answer, -, he⟩ := Talk.yields_map.mp hy
    rcases answer with x | _ | _ <;> cases he
    exact ⟨(question_eq_ok.mp hq).1, rfl⟩

lemma Errand.ConcernsData.gate {e : Errand} (he : e.ConcernsData) (hn : ¬ e.HeedsAccess) :
    ∃ g, e.gate? = some g ∧ .stateKnown ≤ g.least := by
  cases e with
  | requestState => exact absurd trivial hn
  | resetState _ | obtainFormat | requestIds | fetchValues _ | writeItem _ | insertItem _ | updateItem _ _
  | deleteItems _ | markDone | pullChanges => exact ⟨_, rfl, by decide⟩
  | _ => exact absurd he id

lemma run_fetchItem_closed (hr : ¬ s.HasReached .formatKnown) (id : UInt32) :
    ∃ e, (e = .schema (.formatMissing s.category) ∨ e = .invalidState "fetch_param_values" s.state) ∧
      (fetchItem (b := Talk) id).run.run s = pure (.error e, s) := by
  rw [run_fetchItem]
  split
  · have hv := run_closed (b := Talk) (e := .fetchValues id) rfl hr
    refine ⟨_, .inr rfl, ?_⟩
    rw [run_bind]
    exact (congrArg (· >>= _) hv).trans (pure_bind _ _)
  · exact ⟨_, .inl rfl, rfl⟩

namespace Refused

variable {t : State}

lemma isBarred_requestState (h : Refused t s) : Errand.requestState.IsBarred s :=
  ⟨_, rfl, run_requestState_refused h.wants h.denied⟩

lemma isBarred (h : Refused t s) (hs : s.state < .stateKnown) {e : Errand} (he : e.ConcernsData) : e.IsBarred s := by
  by_cases hn : e.HeedsAccess
  · cases e with
    | requestState => exact h.isBarred_requestState
    | authenticate _ => exact absurd he id
    | _ => exact absurd hn id
  · obtain ⟨g, hg, hl⟩ := he.gate hn
    exact ⟨g, hg, run_closed hg fun hr => Nat.not_le_of_lt hs (State.le_trans hl hr.2)⟩

end Refused

/-- A session whose password was refused asks for the state no more, and for no data if it had not been told the
state. -/
theorem denied_password_bars {s₀ s₁ : Session} {password : Bytes} (hw : s₀.WantsPassword)
    (hd : Operation.Yields (authenticate password) s₀ es (.ok .denied) s₁)
    (hg : Persists (fun s => s.state.isConnected ∧ s.WantsPassword) s₁ s) :
    s₁.state = s₀.state ∧ Errand.requestState.IsBarred s ∧
    (s₀.state < .stateKnown → s.state = s₀.state ∧ (∀ e : Errand, e.ConcernsData → e.IsBarred s) ∧
      ∀ id, ∃ e, (e = .schema (.formatMissing s.category) ∨ e = .invalidState "fetch_param_values" s.state) ∧
        (fetchItem (b := Talk) id).run.run s = pure (.error e, s)) ∧
    (.stateKnown ≤ s₀.state → .stateKnown ≤ s.state ∧ ∀ (e : Errand) (access? : Option Access), ¬ e.HeedsAccess →
      (e.perform (b := Talk)).run.run (withAccess access? s) =
        Prod.map id (withAccess access?) <$> (e.perform (b := Talk)).run.run s) := by
  obtain ⟨⟨hc, hle⟩, rfl⟩ := denied_of_yields hd
  have hs₁ : Refused s₀.state.level { s₀ with access? := some .denied } := ⟨hc, rfl, hw, rfl⟩
  have hs := hs₁.persists (State.infoKnown_le_level hle) hg
  obtain ⟨hbelow, habove⟩ := State.level_eq hs.level
  refine ⟨rfl, hs.isBarred_requestState, fun hlt => ?_, fun hle => ⟨habove hle, fun e access? he => ?_⟩⟩
  · have hstate := hbelow hlt
    have hlt' : s.state < .stateKnown := hstate ▸ hlt
    refine ⟨hstate, fun e he => hs.isBarred hlt' he, run_fetchItem_closed fun hr => ?_⟩
    exact Nat.not_le_of_lt hlt' (State.le_trans (by decide) hr.2)
  · exact blind_perform access? he s

section Locked

lemma yields_authenticate {password : Bytes} {access : Access} (hr : s.HasReached .infoKnown) (hi : s.inbound)
    (ha : (Exchange.authorize password).run.Yields es (.ok access)) :
    Operation.Yields (authenticate password) s es (.ok access) (s.admission (.ok access)).2 := by
  have hq : s.question "authenticate" .infoKnown (fun _ => .ok password) = .ok password :=
    question_eq_ok.mpr ⟨hr, rfl, hi⟩
  rw [Operation.Yields, run_authenticate, hq]
  refine Talk.yields_map.mpr ⟨_, ha, ?_⟩
  cases access <;> rfl

lemma exists_denied (password : Bytes) (hp : (⟨.authRequest, password⟩ : Message).Fits) :
    ∃ es, (Exchange.authorize password).run.Yields es (.ok .denied) := by
  obtain ⟨f, _, hf, -⟩ := Message.frame_of_fits hp
  obtain ⟨g, _, -, -, -, hg⟩ := Message.frame_of_fits (m := ⟨.authDenied, ()⟩) (by decide)
  exact ⟨_, Exchange.yields_denied.mpr ⟨f, g, hf, hg, rfl⟩⟩

def locked : Session := { met .standard with state := .infoKnown, device? := some ⟨[0x5a], ⟨[0x6a, 0x61], rfl⟩, 1⟩ }

lemma reaches_locked : ∃ h, Reaches .standard h locked := by
  obtain ⟨h, r⟩ := reaches_met .standard
  obtain ⟨es, ha⟩ := Exchange.exists_answered ⟨.infoRequest, ()⟩ ⟨.info, ⟨[0x5a], ⟨[0x6a, 0x61], rfl⟩, 1⟩⟩ (by decide)
    (by decide)
  exact ⟨_, r.act (.errand .requestInfo) (yields_pose rfl ha)⟩

lemma not_isBarred_obtainFormat (hr : s.HasReached .stateKnown) (hi : s.inbound) (hn : s.cached? = none) :
    ¬ Errand.obtainFormat.IsBarred s := by
  rintro ⟨g, -, hg⟩
  obtain ⟨next, hasks⟩ := asks_obtainFormat hr hi hn
  cases (show (obtainFormat (b := Talk)).run.run s = _ from hg).symm.trans hasks

end Locked

theorem denied_password_bars_twice : ∃ h es fs s₁ s, Reaches .standard h locked ∧ locked.WantsPassword ∧
    Operation.Yields (authenticate [0x61]) locked es (.ok .denied) s₁ ∧
    Operation.Yields (authenticate [0x62]) s₁ fs (.ok .denied) s₁ ∧ s = s₁.select .calendar ∧
    Persists (fun s => s.state.isConnected ∧ s.WantsPassword) s₁ s ∧ s.state = .infoKnown ∧
    ∀ e : Errand, e.ConcernsData → e.IsBarred s := by
  obtain ⟨h, hr⟩ := reaches_locked
  obtain ⟨es, ha⟩ := exists_denied [0x61] (by decide)
  obtain ⟨fs, hb⟩ := exists_denied [0x62] (by decide)
  have h₁ := yields_authenticate (s := locked) (by decide) rfl ha
  let s₁ : Session := { locked with access? := some .denied }
  have h₂ := yields_authenticate (s := s₁) (by decide) rfl hb
  have h₃ : Action.perform (.errand (.selectCategory .calendar)) |>.Yields s₁ [] (.ok ()) (s₁.select .calendar) :=
    Talk.yields_pure.mpr ⟨rfl, rfl⟩
  have hg : Persists (fun s => s.state.isConnected ∧ s.WantsPassword) s₁ (s₁.select .calendar) :=
    (Persists.here.act (.errand (.authenticate [0x62])) h₂ id (by decide)).act _ h₃ id (by decide)
  obtain ⟨-, -, hbelow, -⟩ := denied_password_bars (by decide) h₁ hg
  obtain ⟨hstate, hbarred, -⟩ := hbelow (by decide)
  exact ⟨h, es, fs, s₁, _, hr, by decide, h₁, h₂, rfl, hg, hstate, hbarred⟩

theorem not_always_barred :
    (¬ ∀ (config : Config) (h : History) (s₀ s₁ s : Session) (password : Bytes) (es : List Event),
      Reaches config h s₀ → s₀.WantsPassword → Operation.Yields (authenticate password) s₀ es (.ok .denied) s₁ →
      Persists (fun s => s.state.isConnected ∧ s.WantsPassword) s₁ s →
        s.state < .authenticated ∨ ∀ e : Errand, e.ConcernsData → e.IsBarred s) ∧
    ¬ ∀ (config : Config) (h : History) (s₀ s₁ s : Session) (password : Bytes) (es : List Event),
      Reaches config h s₀ → s₀.WantsPassword → Operation.Yields (authenticate password) s₀ es (.ok .denied) s₁ →
      s₀.state < .authenticated → Persists (fun s => s.state.isConnected) s₁ s →
        s.state < .authenticated ∨ ∀ e : Errand, e.ConcernsData → e.IsBarred s := by
  obtain ⟨h, hr⟩ := reaches_locked
  obtain ⟨es, hdenied⟩ := exists_denied [0x61] (by decide)
  obtain ⟨fs, hstate⟩ := Exchange.exists_answered ⟨.stateRequest, .todo⟩ ⟨.state, .none⟩ (by decide) (by decide)
  refine ⟨fun hall => ?_, fun hall => ?_⟩
  · obtain ⟨gs, hgranted⟩ := Exchange.exists_answered ⟨.authRequest, [0x62]⟩ ⟨.authNotRequired, ()⟩ (by decide)
      (by decide)
    let s₁ : Session := { locked with access? := some .granted, state := .authenticated }
    let s₂ : Session := { s₁ with flags? := some .none, state := .stateKnown }
    have h₁ := yields_authenticate (s := locked) (by decide) rfl (Exchange.yields_granted.mpr hgranted)
    have h₂ : Operation.Yields requestState s₁ fs (.ok .none) s₂ := yields_pose rfl hstate
    have h₃ := yields_authenticate (s := s₂) (by decide) rfl hdenied
    have hr₂ := (hr.act (.errand (.authenticate [0x62])) h₁).act (.errand .requestState) h₂
    rcases hall _ _ _ _ _ _ _ hr₂ (by decide) h₃ .here with hlt | hbarred
    · exact absurd hlt (by decide)
    · exact not_isBarred_obtainFormat (by decide) rfl rfl (hbarred .obtainFormat trivial)
  · obtain ⟨gs, hinfo⟩ := Exchange.exists_answered ⟨.infoRequest, ()⟩ ⟨.info, ⟨[0x5a], ⟨[0x6a, 0x61], rfl⟩, 0⟩⟩
      (by decide) (by decide)
    let s₁ : Session := { locked with access? := some .denied }
    let s₂ : Session := { s₁ with device? := some ⟨[0x5a], ⟨[0x6a, 0x61], rfl⟩, 0⟩ }
    let s₃ : Session := { s₂ with flags? := some .none, state := .stateKnown }
    have h₁ := yields_authenticate (s := locked) (by decide) rfl hdenied
    have h₂ : Operation.Yields requestInfo s₁ gs _ s₂ := yields_pose rfl hinfo
    have h₃ : Operation.Yields requestState s₂ fs (.ok .none) s₃ := yields_pose rfl hstate
    have hg : Persists (fun s => s.state.isConnected) s₁ s₃ :=
      .act (.errand .requestState) (.act (.errand .requestInfo) .here h₂ id (by decide)) h₃ id (by decide)
    rcases hall _ _ _ _ _ _ _ hr (by decide) h₁ (by decide) hg with hlt | hbarred
    · exact absurd hlt (by decide)
    · exact not_isBarred_obtainFormat (by decide) rfl rfl (hbarred .obtainFormat trivial)

end PimSync.Session
