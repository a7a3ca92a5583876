import PimSync.Proofs.Session.History

namespace PimSync.Session

open Procedure

def Joined (s : Session) : Prop := s.state.isConnected ∧ s.inbound ∧ s.outbound

instance (s : Session) : Decidable s.Joined := inferInstanceAs (Decidable (_ ∧ _))

def Ensures {α : Type} (x : Operation α) (s : Session) (P : Session → Prop) : Prop :=
  ∀ es a s', x.Yields s es (.ok a) s' → P s'

namespace Ensures

variable {α β : Type} {x : Operation α} {s : Session} {P : Session → Prop}

lemma bind {Q : Session → Prop} {f : α → Operation β} (h : Ensures x s Q) (k : ∀ a s, Q s → Ensures (f a) s P) :
    Ensures (x >>= f) s P := by
  intro es b s' hy
  rw [Operation.Yields, run_bind, Talk.yields_bind] at hy
  obtain ⟨fs, gs, ⟨r, s₁⟩, rfl, hx, hf⟩ := hy
  cases r with
  | ok a => exact k a s₁ (h _ _ _ hx) _ _ _ hf
  | error e => cases hf

lemma still {f : α → Operation β} (h : Ensures x s (· = s)) (k : ∀ a, Ensures (f a) s P) :
    Ensures (x >>= f) s P := by
  refine h.bind fun a s₁ hs => ?_
  subst hs
  exact k a

lemma converse (t : Talk α) : Ensures (converse t) s (· = s) := by
  intro es a s' hy
  rw [Operation.Yields, run_converse] at hy
  obtain ⟨b, -, hb⟩ := Talk.yields_map.mp hy
  cases hb
  rfl

lemma of_run {r : Except SessionError α} {s' : Session} (h : x.run.run s = pure (r, s')) :
    Ensures x s (· = s') := by
  intro es a s₁ hy
  rw [Operation.Yields, h] at hy
  obtain ⟨-, he⟩ := Talk.yields_pure.mp hy
  exact congrArg Prod.snd he

lemma linked (r : Except Wire.LinkError α) : Ensures (Operation.linked r) s (· = s) := by
  cases r with
  | ok a => exact of_run (run_pure a s)
  | error e => exact of_run (run_throw _ s)

lemma exchange (x : Exchange α) : Ensures (Operation.exchange x) s (· = s) :=
  still (converse x.run) fun _ => of_run (run_ofExcept _ s)

lemma requireLink (present : Session → Bool) : Ensures (requireLink present) s (· = s) :=
  of_run (run_requireLink present s)

lemma requireListening (operation : String) : Ensures (Operation.requireListening operation) s (· = s) := by
  refine still (of_run (run_get s)) fun s₀ => ?_
  split
  · exact of_run (run_pure () s)
  · exact of_run (run_throw _ s)

lemma throw (e : SessionError) : Ensures (throw e : Operation α) s P := by
  intro es a s' hy
  rw [Operation.Yields, run_throw] at hy
  obtain ⟨-, he⟩ := Talk.yields_pure.mp hy
  cases he

lemma modify (f : Session → Session) : Ensures (modify f) s (· = f s) :=
  of_run (run_modifyGet (fun s => ((), f s)) s)

lemma pure {a : α} (h : P s) : Ensures (Pure.pure a) s P := by
  intro es b s' hy
  obtain rfl := of_run (run_pure a s) _ _ _ hy
  exact h

lemma pose {request reply : MessageType} {operation : String} {least : State}
    {content : Session → Except SessionError request.Payload} {conclude : reply.Payload → Session → α × Session}
    (h : ∀ answer, P (conclude answer s).2) : Ensures (Procedure.pose request reply operation least content conclude) s P := by
  intro es a s' hy
  rw [Operation.Yields, run_pose] at hy
  split at hy
  · obtain ⟨-, he⟩ := Talk.yields_pure.mp hy
    cases he
  · obtain ⟨answer, -, he⟩ := Talk.yields_map.mp hy
    unfold conclusion at he
    split at he
    · cases he
    · split at he <;> cases he
      exact h _

end Ensures

open Ensures

variable {s : Session}

def joined (s : Session) : Session := { s with inbound := true, outbound := true, state := .connected }

lemma ensures_connect : Ensures connect s (· = s.joined) := by
  refine still (requireListening _) fun _ => still (of_run (run_get s)) fun _ => still (converse _) fun _ =>
    still (linked _) fun _ => bind (modify _) fun _ s₁ h₁ => ?_
  refine still (exchange _) fun _ => still (requireLink _) fun _ => still (converse _) fun _ =>
    still (linked _) fun _ => ?_
  subst h₁
  exact modify _

def callBack (host : String) : Operation Unit := do
  Operation.linked (← Operation.request (.dial .outbound ⟨host, (← get).config.device.port⟩))
  modify ({ · with outbound := true })
  Operation.exchange (Exchange.deliver .outbound ready)
  modify ({ · with state := .connected })

lemma ensures_callBack (host : String) : Ensures (callBack host) { s with inbound := true } (· = s.joined) := by
  refine still (of_run (run_get _)) fun _ => still (converse _) fun _ => still (linked _) fun _ =>
    bind (modify _) fun _ s₁ h₁ => still (exchange _) fun _ => ?_
  subst h₁
  exact modify _

lemma ensures_acceptDevice : Ensures acceptDevice s (· = s.joined) := by
  refine still (requireListening _) fun _ => still (requireLink _) fun _ => still (converse _) fun _ =>
    still (linked _) fun host => bind (modify _) fun _ s₁ h₁ => still (exchange _) fun m => ?_
  subst h₁
  split
  · exact ensures_callBack host
  · exact bind (throw _) fun _ _ => False.elim

theorem joined_of_connect : Ensures connect s Joined := by
  intro es a s' hy
  obtain rfl := ensures_connect es a s' hy
  exact ⟨rfl, rfl, rfl⟩

theorem joined_of_acceptDevice : Ensures acceptDevice s Joined := by
  intro es a s' hy
  obtain rfl := ensures_acceptDevice es a s' hy
  exact ⟨rfl, rfl, rfl⟩

end PimSync.Session
