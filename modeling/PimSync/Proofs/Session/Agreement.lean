import PimSync.Proofs.Session.Posing
import PimSync.Proofs.Session.Turns
import PimSync.Proofs.Simulation.Standstill

/-! Over links a session does what it does with the device at hand. -/

namespace PimSync

open Simulation

namespace Session

variable {α β : Type} {s s' : Session} {d : Device}

def Linked (s : Session) : Prop := s.state.isConnected → s.inbound ∧ s.outbound

structure Keeps (s s' : Session) : Prop where
  isConnected : s'.state.isConnected = s.state.isConnected
  inbound : s'.inbound = s.inbound
  outbound : s'.outbound = s.outbound

/-- Between two requests the links are idle and the device is at the start of a round. After the last one the device
is finished, and the outbound link is closed. -/
def boundary (s : Session) (d : Device) (t : Talk α) : Duet α :=
  if s.state.isConnected then .meet t d.round
  else ⟨.start t, .start (.done (.finished (.ok d))), Pipes.idle.edit .outbound .finish, .idle⟩

namespace Keeps

lemma refl (s : Session) : Keeps s s := ⟨rfl, rfl, rfl⟩

lemma trans {s'' : Session} (h : Keeps s s') (k : Keeps s' s'') : Keeps s s'' :=
  ⟨k.isConnected.trans h.isConnected, k.inbound.trans h.inbound, k.outbound.trans h.outbound⟩

lemma of_connected (hs : s.state.isConnected) (hs' : s'.state.isConnected) (hi : s'.inbound = s.inbound)
    (ho : s'.outbound = s.outbound) : Keeps s s' := ⟨by rw [hs, hs'], hi, ho⟩

lemma advance (h : Keeps s s') (hs : s.state.isConnected) {t : State} (ht : t.isConnected) :
    Keeps s (s'.advance t) := by
  unfold Session.advance
  split
  · exact of_connected hs ht h.inbound h.outbound
  · exact h

lemma linked (h : Keeps s s') (hl : s.Linked) : s'.Linked := by
  intro hc
  rw [h.isConnected] at hc
  rw [h.inbound, h.outbound]
  exact hl hc

lemma boundary_eq (h : Keeps s s') (d : Device) (t : Talk α) : s'.boundary d t = s.boundary d t := by
  rw [boundary, boundary, h.isConnected]

end Keeps

def Follows (m : Message) (exchange : Exchange α) (read : Device.Reply → Except ExchangeError α) : Prop :=
  ∀ d : Device, Turn.Passes ⟨m, (d.respond m).1⟩ → ∀ (β : Type) (k : Except ExchangeError α → Talk β),
    (Duet.meet (exchange.run >>= k) d.round).Leads
      (Duet.meet (k ((d.respond m).1.bind read)) (d.respond m).2.round)

/-- At hand the one leads to these turns and this result; over links the other leads there too, if all of the turns
can pass. -/
def Mirrors (x : StateT Session Talk α) (y : StateT Session Direct α) (s : Session) : Prop :=
  ∀ desk : Desk, ∃ a s' turns, (y.run s).run desk = ((a, s'), desk.after turns) ∧
    (s.Linked → (∀ t ∈ turns, t.Passes) → s'.Linked ∧ ∀ (β : Type) (k : α × Session → Talk β),
      (s.boundary desk.device (x.run s >>= k)).Leads (s'.boundary (desk.after turns).device (k (a, s'))))

namespace Mirrors

variable {x : StateT Session Talk α} {y : StateT Session Direct α}

lemma still {a : α} (hx : x.run s = pure (a, s')) (hy : y.run s = pure (a, s')) (hk : Keeps s s') :
    Mirrors x y s := by
  intro desk
  refine ⟨a, s', [], ?_, fun hl _ => ⟨hk.linked hl, fun β k => ?_⟩⟩
  · rw [hy, Desk.after_nil]
    rfl
  · rw [hx, pure_bind, hk.boundary_eq, Desk.after_nil]
    exact .refl _

lemma bind {f : α → StateT Session Talk β} {g : α → StateT Session Direct β} (h : Mirrors x y s)
    (k : ∀ a s, Mirrors (f a) (g a) s) : Mirrors (x >>= f) (y >>= g) s := by
  intro desk
  obtain ⟨a, s', ts, hy, hx⟩ := h desk
  obtain ⟨b, s'', us, hg, hf⟩ := k a s' (desk.after ts)
  refine ⟨b, s'', ts ++ us, ?_, fun hl hp => ?_⟩
  · rw [StateT.run_bind, StateT.run_bind, hy, Desk.after_append]
    exact hg
  · obtain ⟨hts, hus⟩ := List.forall_mem_append.mp hp
    obtain ⟨hl', hx⟩ := hx hl hts
    obtain ⟨hl'', hf⟩ := hf hl' hus
    refine ⟨hl'', fun γ c => ?_⟩
    rw [StateT.run_bind, bind_assoc, Desk.after_append]
    exact (hx γ _).trans (hf γ c)

end Mirrors

abbrev Agrees (x : Operation α) (y : Procedure Direct α) (s : Session) : Prop :=
  Mirrors x.run y.run s

def aborted : SessionError := .unexpected "message" Wire.Control.abort.name

/-- How an operation goes over links that would go through these turns with the device at hand. A refused turn jams
the links. -/
structure Course (x : Operation α) (s : Session) (desk : Desk) (turns : List Turn) (r : Except SessionError α)
    (s' : Session) : Prop where
  through : (∀ t ∈ turns, ¬ t.Refused) → ∀ (β : Type) (k : Except SessionError α × Session → Talk β),
    (s.boundary desk.device (x.run.run s >>= k)).Leads (s'.boundary (desk.after turns).device (k (r, s')))
  jammed : ∀ t ∈ turns, t.Refused → ∃ ts, turns = ts ++ [t] ∧ r = .error aborted ∧
    ∀ (β : Type) (k : Except SessionError α × Session → Talk β), ∃ c : Duet β,
      (s.boundary desk.device (x.run.run s >>= k)).Leads c ∧ c.desktop = .start (k (r, s')) ∧
        c.Jammed (desk.after ts).device t.request

def Tracks (x : Operation α) (y : Procedure Direct α) (s : Session) : Prop :=
  ∀ desk : Desk, ∃ r s' turns, (y.run.run s).run desk = ((r, s'), desk.after turns) ∧ desk.device.Takes turns ∧
    Keeps s s' ∧ (s.Linked → (∀ t ∈ turns, t.Fits) → Course x s desk turns r s')

def Jams (m : Message) (exchange : Exchange α) (read : Device.Reply → Except ExchangeError α) : Prop :=
  ∀ d : Device, Turn.Refused ⟨m, (d.respond m).1⟩ → m.Fits →
    read .deny = .error (.message "message" Wire.Control.abort.name) ∧
    ∀ (β : Type) (k : Except ExchangeError α → Talk β), ∃ c : Duet β,
      (Duet.meet (exchange.run >>= k) d.round).Leads c ∧ c.desktop = .start (k (read .deny)) ∧ c.Jammed d m

namespace Tracks

open Procedure

variable {x : Operation α} {y : Procedure Direct α}

lemma agrees (h : Tracks x y s) : Agrees x y s := by
  intro desk
  obtain ⟨r, s', turns, hy, -, hk, hx⟩ := h desk
  refine ⟨r, s', turns, hy, fun hl hp => ⟨hk.linked hl, ?_⟩⟩
  have hcourse := hx hl fun t ht => (Turn.passes_iff.mp (hp t ht)).1
  exact hcourse.through fun t ht => (Turn.passes_iff.mp (hp t ht)).2

lemma still {r : Except SessionError α} (hx : x.run.run s = Pure.pure (r, s'))
    (hy : y.run.run s = Pure.pure (r, s')) (hk : Keeps s s') : Tracks x y s := by
  intro desk
  refine ⟨r, s', [], ?_, .nil _, hk, fun _ _ => ⟨fun _ β k => ?_, fun _ ht => absurd ht List.not_mem_nil⟩⟩
  · rw [hy, Desk.after_nil]
    rfl
  · rw [hx, pure_bind, hk.boundary_eq, Desk.after_nil]
    exact .refl _

lemma ask {γ : Type} {m : Message} {exchange : Exchange γ} {read : Device.Reply → Except ExchangeError γ}
    {conclude : Except ExchangeError γ → Except SessionError α × Session} (h : Follows m exchange read)
    (hj : Jams m exchange read) (hs : s.state.isConnected) (hx : x.run.run s = conclude <$> exchange.run)
    (hy : y.run.run s = conclude <$> (return (← Direct.respond m).bind read))
    (hk : ∀ answer, Keeps s (conclude answer).2) (hc : ∀ e, (conclude (.error e)).1 = .error (.exchange e)) :
    Tracks x y s := by
  intro desk
  let answer := (desk.device.respond m).1.bind read
  refine ⟨(conclude answer).1, (conclude answer).2, [⟨m, (desk.device.respond m).1⟩], ?_, .cons (.nil _), hk _,
    fun hl hf => ?_⟩
  · rw [hy]
    rfl
  have hfit := hf _ List.mem_cons_self
  constructor
  · intro hr β k
    have hp := Turn.passes_iff.mpr ⟨hfit, hr _ List.mem_cons_self⟩
    rw [hx, (hk _).boundary_eq, map_eq_pure_bind, bind_assoc]
    simp only [boundary, hs, if_true]
    exact h _ hp β _
  · intro t ht hr
    obtain rfl := List.mem_singleton.mp ht
    have hdeny : (desk.device.respond m).1 = .ok .deny := hr.1
    have hanswer : answer = read .deny := by simp only [answer, hdeny, Except.bind]
    rw [hdeny] at hfit
    obtain ⟨hread, hleads⟩ := hj desk.device hr hfit
    refine ⟨[], (List.nil_append _).symm, ?_, fun β k => ?_⟩
    · rw [hanswer, hread, hc]
      rfl
    · rw [hx, map_eq_pure_bind, bind_assoc, hanswer, Desk.after_nil]
      simp only [boundary, hs, if_true]
      exact hleads β _

lemma bind {f : α → Operation β} {g : α → Procedure Direct β} (h : Tracks x y s)
    (k : ∀ a s, Tracks (f a) (g a) s) : Tracks (x >>= f) (y >>= g) s := by
  intro desk
  obtain ⟨r, s₁, ts, hy, htakes, hkeep, hx⟩ := h desk
  cases r with
  | error e =>
    refine ⟨.error e, s₁, ts, ?_, htakes, hkeep, fun hl hf => ⟨fun hr γ c => ?_, fun t ht hr => ?_⟩⟩
    · rw [run_bind, StateT.run_bind, hy]
      rfl
    · rw [run_bind, bind_assoc]
      exact (hx hl hf).through hr γ _
    · obtain ⟨us, hts, he, hleads⟩ := (hx hl hf).jammed t ht hr
      cases he
      refine ⟨us, hts, rfl, fun γ c => ?_⟩
      rw [run_bind, bind_assoc]
      exact hleads γ _
  | ok a =>
    obtain ⟨r₂, s₂, us, hg, htakes', hkeep', hf⟩ := k a s₁ (desk.after ts)
    refine ⟨r₂, s₂, ts ++ us, ?_, htakes.append htakes', hkeep.trans hkeep', fun hl hfit => ?_⟩
    · rw [run_bind, StateT.run_bind, hy, Desk.after_append]
      exact hg
    obtain ⟨hts, hus⟩ := List.forall_mem_append.mp hfit
    have hfirst := hx hl hts
    have hsecond := hf (hkeep.linked hl) hus
    -- had the first operation been refused, it would have failed
    have hpassed : ∀ t ∈ ts, ¬ t.Refused := by
      intro t ht hr
      obtain ⟨-, -, he, -⟩ := hfirst.jammed t ht hr
      cases he
    constructor
    · intro hr γ c
      rw [run_bind, bind_assoc, Desk.after_append]
      exact (hfirst.through hpassed γ _).trans
        (hsecond.through (fun t ht => hr t (List.mem_append_right ts ht)) γ c)
    · intro t ht hr
      rcases List.mem_append.mp ht with ht | ht
      · exact absurd hr (hpassed t ht)
      obtain ⟨vs, rfl, he, hleads⟩ := hsecond.jammed t ht hr
      refine ⟨ts ++ vs, (List.append_assoc ts vs [t]).symm, he, fun γ c => ?_⟩
      obtain ⟨jam, hjam, hc, hj⟩ := hleads γ c
      rw [run_bind, bind_assoc, Desk.after_append]
      exact ⟨jam, (hfirst.through hpassed γ _).trans hjam, hc, hj⟩

lemma pure (a : α) : Tracks (pure a) (pure a) s := .still rfl rfl (.refl s)

lemma ofExcept (r : Except SessionError α) : Tracks (Procedure.ofExcept r) (Procedure.ofExcept r) s :=
  .still (run_ofExcept r s) (run_ofExcept r s) (.refl s)

lemma get : Tracks get get s := .still (run_get s) (run_get s) (.refl s)

lemma modifyGet {f : Session → α × Session} (hf : Keeps s (f s).2) : Tracks (modifyGet f) (modifyGet f) s :=
  .still (run_modifyGet f s) (run_modifyGet f s) hf

lemma require (operation : String) (least : State) : Tracks (require operation least) (require operation least) s :=
  .still (run_require operation least s) (run_require operation least s) (.refl s)

lemma mapM {f : β → Operation α} {g : β → Procedure Direct α} (h : ∀ b s, Tracks (f b) (g b) s) (bs : List β)
    (s : Session) : Tracks (bs.mapM f) (bs.mapM g) s := by
  induction bs generalizing s with
  | nil => exact pure []
  | cons b bs ih =>
    simp only [List.mapM_cons]
    exact (h b s).bind fun a s => (ih s).bind fun as s => pure (a :: as)

end Tracks

end Session

end PimSync
