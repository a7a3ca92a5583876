import Mathlib.Algebra.Ring.Nat
import PimSync.Session.Operation

/-! What a session asks and what it makes of the answer, whoever the correspondent is. -/

namespace PimSync

lemma Message.payload?_eq_some {m : Message} {t : MessageType} {payload : t.Payload} :
    m.payload? t = some payload ↔ m = ⟨t, payload⟩ := by
  obtain ⟨t', payload'⟩ := m
  rw [payload?]
  by_cases h : t' = t
  · subst h
    simp
  · simp [h]

namespace Session

variable {b : Type → Type} [Monad b] {α β : Type} {s : Session}

abbrev HasReached (s : Session) (least : State) : Prop := s.state.isConnected ∧ least ≤ s.state

lemma advance_eq (s : Session) (t : State) :
    s.advance t = { s with state := if s.state < t then t else s.state } := by
  rw [Session.advance]
  split <;> rfl

namespace Procedure

lemma run_bind (x : Procedure b α) (f : α → Procedure b β) (s : Session) : (x >>= f).run.run s =
    x.run.run s >>= fun (r, s) => match r with
      | .ok a => (f a).run.run s
      | .error e => pure (.error e, s) := by
  simp only [ExceptT.run_bind, StateT.run_bind]
  refine congrArg _ (funext fun (r, s) => ?_)
  cases r <;> rfl

lemma run_pure (a : α) (s : Session) : (pure a : Procedure b α).run.run s = pure (.ok a, s) := rfl

lemma run_throw (e : SessionError) (s : Session) : (throw e : Procedure b α).run.run s = pure (.error e, s) := rfl

lemma run_ofExcept (x : Except SessionError α) (s : Session) :
    (ofExcept x : Procedure b α).run.run s = pure (x, s) := by
  cases x <;> rfl

omit [Monad b] in
lemma run_ite (c : Prop) [Decidable c] (x y : Procedure b α) (s : Session) :
    (if c then x else y).run.run s = if c then x.run.run s else y.run.run s := by
  split <;> rfl

variable [LawfulMonad b]

lemma run_modifyGet (f : Session → α × Session) (s : Session) :
    (modifyGet f : Procedure b α).run.run s = pure (.ok (f s).1, (f s).2) := pure_bind _ _

lemma run_get (s : Session) : (get : Procedure b Session).run.run s = pure (.ok s, s) := pure_bind _ _

lemma run_get_bind (f : Session → Procedure b α) (s : Session) : (get >>= f).run.run s = (f s).run.run s := by
  rw [run_bind, run_get, pure_bind]

lemma run_converse (x : b α) (s : Session) : (converse x).run.run s = (fun a => (.ok a, s)) <$> x := by
  simp [converse]

lemma run_require (operation : String) (least : State) (s : Session) :
    (require operation least : Procedure b Unit).run.run s =
      pure (if s.HasReached least then .ok () else .error (.invalidState operation s.state), s) := by
  simp only [require, run_bind, run_get, pure_bind, run_ite, run_pure, run_throw]
  split <;> rfl

lemma run_requireLink (present : Session → Bool) (s : Session) :
    (requireLink present : Procedure b Unit).run.run s =
      pure (if present s then .ok () else .error .notConnected, s) := by
  simp only [requireLink, run_bind, run_get, pure_bind, run_ite, run_pure, run_throw]
  split <;> rfl

lemma run_cachedFormat (c : Category) (s : Session) : (cachedFormat c : Procedure b Schema.Format).run.run s =
    pure (match s.formatFor? c with
      | some format => .ok format
      | none => .error (.schema (.formatMissing c)), s) := by
  rw [cachedFormat, run_get_bind]
  cases s.formatFor? c <;> rfl

end Procedure

def question (s : Session) {P : Type} (operation : String) (least : State)
    (content : Session → Except SessionError P) : Except SessionError P :=
  if s.HasReached least then
    match content s with
    | .error e => .error e
    | .ok payload => if s.inbound then .ok payload else .error .notConnected
  else .error (.invalidState operation s.state)

def conclusion (s : Session) (reply : MessageType) (conclude : reply.Payload → Session → α × Session) :
    Except ExchangeError Message → Except SessionError α × Session
  | .error e => (.error (.exchange e), s)
  | .ok m => match m.payload? reply with
    | some payload => (.ok (conclude payload s).1, (conclude payload s).2)
    | none => (.error (.unexpected reply.name m.name), s)

lemma question_eq_ok {P : Type} {operation : String} {least : State} {content : Session → Except SessionError P}
    {payload : P} : s.question operation least content = .ok payload ↔
      s.HasReached least ∧ content s = .ok payload ∧ s.inbound := by
  unfold question
  by_cases h : s.HasReached least
  · rw [if_pos h]
    cases content s with
    | error e => simp
    | ok p =>
      cases s.inbound with
      | false => simp
      | true => simpa using fun _ => h
  · rw [if_neg h]
    simp only [reduceCtorEq, false_iff]
    exact fun k => h k.1

lemma question_eq_error {P : Type} {operation : String} {least : State}
    {content : Session → Except SessionError P} {e : SessionError}
    (h : s.question operation least content = .error e) :
    e = .invalidState operation s.state ∨ content s = .error e ∨ e = .notConnected := by
  unfold question at h
  split at h
  · split at h
    · rename_i hc
      exact .inr (.inl (hc.trans h))
    · split at h <;> cases h
      exact .inr (.inr rfl)
  · cases h
    exact .inl rfl

lemma conclusion_eq_error {reply : MessageType} {conclude : reply.Payload → Session → α × Session}
    {answer : Except ExchangeError Message} {e : SessionError} {s' : Session}
    (h : s.conclusion reply conclude answer = (.error e, s')) : s' = s ∧ ∃ x, e = .exchange x := by
  unfold conclusion at h
  split at h
  · cases h
    exact ⟨rfl, _, rfl⟩
  · split at h <;> cases h
    exact ⟨rfl, _, rfl⟩

variable [LawfulMonad b] [Correspondent b]

open Procedure

lemma run_inquire (m : Message) (reply : MessageType) (s : Session) :
    (inquire m reply : Procedure b reply.Payload).run.run s =
      if s.inbound then s.conclusion reply Prod.mk <$> Correspondent.ask m else pure (.error .notConnected, s) := by
  simp only [inquire, run_bind, run_requireLink, run_converse, pure_bind]
  by_cases hi : s.inbound
  · simp only [hi, if_true, map_eq_pure_bind, bind_assoc, pure_bind]
    refine congrArg _ (funext fun answer => ?_)
    cases answer with
    | error e => simp [settle, run_ofExcept, conclusion, Except.mapError]
    | ok m =>
      simp only [settle, run_ofExcept, conclusion, Except.mapError, pure_bind]
      cases m.payload? reply <;> rfl
  · simp [hi]

lemma run_pose (request reply : MessageType) (operation : String) (least : State)
    (content : Session → Except SessionError request.Payload) (conclude : reply.Payload → Session → α × Session)
    (s : Session) : (pose request reply operation least content conclude : Procedure b α).run.run s =
      match s.question operation least content with
      | .error e => pure (.error e, s)
      | .ok payload => s.conclusion reply conclude <$> Correspondent.ask ⟨request, payload⟩ := by
  simp only [pose, run_bind, run_require, run_get, run_ofExcept, run_inquire, run_modifyGet, pure_bind]
  unfold question
  by_cases h : s.HasReached least
  · simp only [if_pos h]
    cases content s with
    | error e => rfl
    | ok payload =>
      cases hi : s.inbound with
      | false => simp
      | true =>
        simp only [if_true, pure_bind, map_eq_pure_bind, bind_assoc]
        refine congrArg _ (funext fun answer => ?_)
        cases answer with
        | error e => simp [conclusion]
        | ok m =>
          simp only [conclusion]
          cases m.payload? reply <;> simp
  · simp only [if_neg h]

def admission (s : Session) : Except ExchangeError Access → Except SessionError Access × Session
  | .error e => (.error (.exchange e), s)
  | .ok .granted => (.ok .granted, { s with access? := some .granted }.advance .authenticated)
  | .ok .denied => (.ok .denied, { s with access? := some .denied })

lemma run_authenticate (password : Bytes) (s : Session) :
    (authenticate password : Procedure b Access).run.run s =
      match s.question "authenticate" .infoKnown fun _ => .ok password with
      | .error e => pure (.error e, s)
      | .ok password => s.admission <$> Correspondent.authorize password := by
  simp only [authenticate, run_bind, run_require, run_requireLink, run_converse, modify, run_modifyGet, run_pure,
    pure_bind]
  unfold question
  by_cases h : s.HasReached .infoKnown
  · simp only [if_pos h]
    cases s.inbound with
    | false => rfl
    | true =>
      simp only [if_true, map_eq_pure_bind, bind_assoc, pure_bind]
      refine congrArg _ (funext fun answer => ?_)
      rcases answer with e | _ | _ <;> simp [settle, run_ofExcept, Except.mapError, admission]
  · simp only [if_neg h]

def parting (s : Session) : Except ExchangeError Unit → Except SessionError Unit × Session
  | .error e => (.error (.exchange e), { s with outbound := false })
  | .ok () => (.ok (), { s with outbound := false, state := .disconnected })

lemma run_terminate (s : Session) : (terminate : Procedure b Unit).run.run s =
    match s.question "terminate" .connected fun _ => .ok () with
    | .error e => pure (.error e, s)
    | .ok _ => Correspondent.ask ⟨.terminate, ()⟩ >>= fun answer =>
      match s.conclusion .complete Prod.mk answer with
      | (.error e, s) => pure (.error e, s)
      | (.ok _, s) =>
        if s.outbound then s.parting <$> Correspondent.farewell else pure (.error .notConnected, s) := by
  rw [terminate, run_bind, run_require, pure_bind]
  unfold question
  by_cases h : s.HasReached .connected
  · simp only [if_pos h]
    rw [run_bind, run_inquire]
    cases s.inbound with
    | false => exact pure_bind _ _
    | true =>
      simp only [if_true, map_eq_pure_bind, bind_assoc, pure_bind]
      refine congrArg _ (funext fun answer => ?_)
      obtain ⟨r, s'⟩ := s.conclusion .complete Prod.mk answer
      cases r with
      | error e => rfl
      | ok _ =>
        simp only [run_bind, run_requireLink, run_converse, modify, run_modifyGet, pure_bind, map_eq_pure_bind]
        cases ho : s'.outbound with
        | false => rfl
        | true =>
          simp only [if_true, bind_assoc, pure_bind]
          refine congrArg _ (funext fun last => ?_)
          cases last <;> simp [settle, run_ofExcept, Except.mapError, parting]
  · simp only [if_neg h]

end Session

end PimSync
