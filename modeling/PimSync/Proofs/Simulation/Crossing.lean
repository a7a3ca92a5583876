import PimSync.Proofs.Simulation.Confluence
import PimSync.Proofs.Simulation.Walks
import PimSync.Proofs.Talk.Exchanges
import PimSync.Proofs.Wire.Packets
import PimSync.Simulation.Dialogue

/-! How a packet crosses from one party to the other, byte by byte. -/

namespace PimSync.Simulation

open Wire

namespace Pipe

def append (p : Pipe) (bytes : Bytes) : Pipe := { p with bytes := p.bytes ++ bytes }

def leave (p : Pipe) (rest : Bytes) : Pipe := { p with bytes := rest }

end Pipe

namespace Pipes

lemma edit_edit (p : Pipes) (leg : Leg) (f g : Pipe → Pipe) :
    (p.edit leg f).edit leg g = p.edit leg fun x => g (f x) := by
  funext l
  unfold edit
  split <;> rfl

lemma edit_congr {p : Pipes} {leg : Leg} {f g : Pipe → Pipe} (h : f (p leg) = g (p leg)) :
    p.edit leg f = p.edit leg g := by
  funext l
  unfold edit
  split
  · rename_i hl
    rw [hl, h]
  · rfl

lemma edit_eq_self {p : Pipes} {leg : Leg} {f : Pipe → Pipe} (h : f (p leg) = p leg) : p.edit leg f = p := by
  funext l
  unfold edit
  split
  · rename_i hl
    rw [hl, h]
  · rfl

end Pipes

namespace Voice

variable {α : Type}

inductive Runs : Voice α → Pipes → Pipes → Voice α → Pipes → Pipes → Prop
  | stay (p : Voice α) (outgoing incoming : Pipes) : Runs p outgoing incoming p outgoing incoming
  | step {p q r : Voice α} {x : Move} {outgoing incoming outgoing' incoming' : Pipes} :
      p.step outgoing incoming = some (q, x) →
      Runs q (x.onOutgoing outgoing) (x.onIncoming incoming) r outgoing' incoming' →
      Runs p outgoing incoming r outgoing' incoming'

lemma Runs.trans {p q r : Voice α} {a b a' b' a'' b'' : Pipes} (h : Runs p a b q a' b')
    (k : Runs q a' b' r a'' b'') : Runs p a b r a'' b'' := by
  induction h with
  | stay => exact k
  | step hs _ ih => exact .step hs (ih k)

variable {leg : Leg} {packet : Packet} {outgoing incoming : Pipes}

lemma runs_write_part {next : Except LinkError Unit → Talk α} (part moved : Bytes)
    (hb : moved ++ part <+: packet.bytes) (ho : (outgoing leg).ended = false) :
    Runs ⟨.ask (.send leg packet) next, moved⟩ outgoing incoming ⟨.ask (.send leg packet) next, moved ++ part⟩
      (outgoing.edit leg (·.append part)) incoming := by
  -- on the bytes that are still to be written
  induction part generalizing moved outgoing with
  | nil =>
    rw [List.append_nil, Pipes.edit_eq_self (by simp [Pipe.append])]
    exact .stay _ _ _
  | cons b part ih =>
    have hget : packet.bytes[moved.length]? = some b := by
      obtain ⟨tail, ht⟩ := hb
      simp [← ht]
    have hpush : ((outgoing.edit leg (·.push b)) leg).ended = false := by
      simp [Pipes.edit_self, Pipe.push, ho]
    have hedit : (outgoing.edit leg (·.push b)).edit leg (·.append part) =
        outgoing.edit leg (·.append (b :: part)) := by
      rw [Pipes.edit_edit]
      apply Pipes.edit_congr
      simp [Pipe.push, Pipe.append, ho]
    have hrest := ih (moved ++ [b]) (by simpa using hb) hpush
    rw [hedit, List.append_assoc, List.singleton_append] at hrest
    refine .step (x := .write leg b) ?_ hrest
    simp [step, ho, hget]

lemma step_written {next : Except LinkError Unit → Talk α} (ho : (outgoing leg).ended = false) :
    step ⟨.ask (.send leg packet) next, packet.bytes⟩ (outgoing.edit leg (·.append packet.bytes)) incoming =
      some (start (next (.ok ())), .within) := by
  simp [step, ho, Pipes.edit_self, Pipe.append]

lemma runs_write {next : Except LinkError Unit → Talk α} (ho : (outgoing leg).ended = false) :
    Runs ⟨.ask (.send leg packet) next, []⟩ outgoing incoming
      (start (next (.ok ()))) (outgoing.edit leg (·.append packet.bytes)) incoming :=
  (runs_write_part packet.bytes [] (List.prefix_refl _) ho).trans (.step (step_written ho) (.stay _ _ _))

lemma runs_read_part {next : Except WireError Packet → Talk α} {rest : Bytes} (part moved : Bytes)
    (hscan : ∀ k < part.length, ∃ total, Packet.scan (moved ++ part.take k) = .needs total)
    (ho : (outgoing leg).ended = false) (hi : (incoming leg).bytes = part ++ rest) :
    Runs ⟨.ask (.receive leg) next, moved⟩ outgoing incoming ⟨.ask (.receive leg) next, moved ++ part⟩
      outgoing (incoming.edit leg (·.leave rest)) := by
  -- on the bytes that are still to be read
  induction part generalizing moved incoming with
  | nil =>
    rw [List.nil_append] at hi
    rw [List.append_nil, Pipes.edit_eq_self (by simp [Pipe.leave, ← hi])]
    exact .stay _ _ _
  | cons b part ih =>
    obtain ⟨total, ht⟩ := hscan 0 (Nat.succ_pos _)
    rw [List.take_zero, List.append_nil] at ht
    have hpop : ((incoming.edit leg .pop) leg).bytes = part ++ rest := by simp [Pipes.edit_self, Pipe.pop, hi]
    have hrest := ih (moved ++ [b]) (fun k hk => by simpa using hscan (k + 1) (Nat.succ_lt_succ hk)) hpop
    rw [Pipes.edit_edit, List.append_assoc, List.singleton_append] at hrest
    refine .step (x := .read leg) ?_ hrest
    simp [step, ho, ht, hi]

lemma step_read {next : Except WireError Packet → Talk α} (hp : packet.Clear) (ho : (outgoing leg).ended = false) :
    step ⟨.ask (.receive leg) next, packet.bytes⟩ outgoing incoming = some (start (next (.ok packet)), .within) := by
  simp [step, ho, hp.scan_bytes]

lemma runs_read {next : Except WireError Packet → Talk α} {rest : Bytes} (hp : packet.Clear)
    (ho : (outgoing leg).ended = false) (hi : (incoming leg).bytes = packet.bytes ++ rest) :
    Runs ⟨.ask (.receive leg) next, []⟩ outgoing incoming (start (next (.ok packet))) outgoing
      (incoming.edit leg (·.leave rest)) :=
  (runs_read_part packet.bytes [] hp.scan_take ho hi).trans (.step (step_read hp ho) (.stay _ _ _))

end Voice

namespace Dialogue

variable {α β : Type} {c d e : Dialogue α β} {p q : Voice α} {v w : Voice β} {a b a' b' : Pipes}

inductive Moves : Dialogue α β → Dialogue α β → Prop
  | desktop {p q : Voice α} {v : Voice β} {a b : Pipes} {x : Move} :
      p.step a b = some (q, x) → Moves ⟨p, v, a, b⟩ ⟨q, v, x.onOutgoing a, x.onIncoming b⟩
  | device {p : Voice α} {v w : Voice β} {a b : Pipes} {x : Move} :
      v.step b a = some (w, x) → Moves ⟨p, v, a, b⟩ ⟨p, w, x.onIncoming a, x.onOutgoing b⟩

abbrev Leads (c d : Dialogue α β) : Prop := Simulation.Leads Moves c d

lemma leads_of_desktop (h : p.Runs a b q a' b') : Leads ⟨p, v, a, b⟩ ⟨q, v, a', b'⟩ := by
  induction h with
  | stay => exact .refl _
  | step hs _ ih => exact (Simulation.Leads.of_step (.desktop hs)).trans ih

lemma leads_of_device (h : v.Runs b a w b' a') : Leads ⟨p, v, a, b⟩ ⟨p, w, a', b'⟩ := by
  induction h with
  | stay => exact .refl _
  | step hs _ ih => exact (Simulation.Leads.of_step (.device hs)).trans ih

end Dialogue

namespace Duet

variable {α : Type} {d e f : Duet α} {p q : Voice α} {v w : Voice Device.Served} {a b a' b' : Pipes}

def Leads (d e : Duet α) : Prop := ∃ n, Steps n d e

lemma Leads.refl (d : Duet α) : d.Leads d := ⟨0, .stay d⟩

lemma Leads.trans (h : d.Leads e) (k : e.Leads f) : d.Leads f := by
  obtain ⟨n, h⟩ := h
  obtain ⟨m, k⟩ := k
  induction h with
  | stay => exact ⟨m, k⟩
  | desktop hs _ ih =>
    obtain ⟨l, hl⟩ := ih k
    exact ⟨l + 1, .desktop hs hl⟩
  | device hs _ ih =>
    obtain ⟨l, hl⟩ := ih k
    exact ⟨l + 1, .device hs hl⟩

lemma stepDesktop_of_step {x : Move} (hs : p.step a b = some (q, x)) :
    stepDesktop ⟨p, v, a, b⟩ = some ⟨q, v, x.onOutgoing a, x.onIncoming b⟩ := by
  refine stepDesktop_eq_some.mpr ⟨q, x, ?_, rfl⟩
  apply Voice.step_mono hs (fun _ => rfl)
  intro leg
  apply le_heard
  rfl

lemma stepDevice_of_step {x : Move} (hs : v.step b a = some (w, x)) :
    stepDevice ⟨p, v, a, b⟩ = some ⟨p, w, x.onIncoming a, x.onOutgoing b⟩ :=
  stepDevice_eq_some.mpr (.inr ⟨w, x, hs, rfl⟩)

lemma leads_of_dialogue {c d : Dialogue α Device.Served} (h : c.Leads d) :
    Leads ⟨c.desktop, c.device, c.toDevice, c.toDesktop⟩ ⟨d.desktop, d.device, d.toDevice, d.toDesktop⟩ := by
  obtain ⟨n, h⟩ := h
  induction h with
  | stay => exact .refl _
  | step hs _ ih =>
    cases hs with
    | desktop hs => exact Leads.trans ⟨1, .desktop (stepDesktop_of_step hs) (.stay _)⟩ ih
    | device hs => exact Leads.trans ⟨1, .device (stepDevice_of_step hs) (.stay _)⟩ ih

lemma leads_of_desktop (h : p.Runs a b q a' b') : Leads ⟨p, v, a, b⟩ ⟨q, v, a', b'⟩ :=
  leads_of_dialogue (Dialogue.leads_of_desktop h)

lemma leads_of_device (h : v.Runs b a w b' a') : Leads ⟨p, v, a, b⟩ ⟨p, w, a', b'⟩ :=
  leads_of_dialogue (Dialogue.leads_of_device h)

lemma leads_again {device : Device} :
    Leads ⟨p, .start (.done (.again device)), a, b⟩ ⟨p, .start device.round, a, b⟩ :=
  ⟨1, .device (stepDevice_eq_some.mpr (.inl ⟨device, rfl, rfl⟩)) (.stay _)⟩

end Duet

structure Crossing where
  leg : Leg
  packet : Packet
  toDevice : Bool

namespace Crossing

def atDesktop (c : Crossing) : Event :=
  if c.toDevice then .sent c.leg c.packet else .received c.leg c.packet

def atDevice (c : Crossing) : Event :=
  if c.toDevice then .received c.leg c.packet else .sent c.leg c.packet

end Crossing

def Pipes.idle : Pipes := fun _ => .fresh

lemma Pipes.idle_append_leave (leg : Leg) (bytes : Bytes) :
    ((idle.edit leg (·.append bytes)).edit leg (·.leave [])) = idle := by
  rw [edit_edit]
  exact edit_eq_self rfl

lemma Pipes.bytes_idle_append (leg : Leg) (bytes : Bytes) :
    ((Pipes.idle.edit leg (·.append bytes)) leg).bytes = bytes ++ [] := by
  simp [Pipes.edit_self, Pipes.idle, Pipe.fresh, Pipe.append]

namespace Voice

variable {α : Type} {t u : Talk α} {leg : Leg} {packet : Packet} {outgoing incoming : Pipes}

lemma runs_sent (h : t.After [.sent leg packet] u) (ho : (outgoing leg).ended = false) :
    (start t).Runs outgoing incoming (start u) (outgoing.edit leg (·.append packet.bytes)) incoming := by
  obtain ⟨next, rfl, rfl⟩ := Talk.after_singleton h
  exact runs_write ho

lemma runs_received (h : t.After [.received leg packet] u) (hp : packet.Clear) (ho : (outgoing leg).ended = false)
    {rest : Bytes} (hi : (incoming leg).bytes = packet.bytes ++ rest) :
    (start t).Runs outgoing incoming (start u) outgoing (incoming.edit leg (·.leave rest)) := by
  obtain ⟨next, rfl, rfl⟩ := Talk.after_singleton h
  exact runs_read hp ho hi

lemma runs_sent_idle (h : t.After [.sent leg packet] u) :
    (start t).Runs .idle .idle (start u) (Pipes.idle.edit leg (·.append packet.bytes)) .idle :=
  runs_sent h rfl

lemma runs_received_idle (h : t.After [.received leg packet] u) (hp : packet.Clear) :
    (start t).Runs .idle (Pipes.idle.edit leg (·.append packet.bytes)) (start u) .idle .idle := by
  have hr : (start t).Runs .idle _ (start u) .idle _ :=
    runs_received h hp rfl (Pipes.bytes_idle_append leg packet.bytes)
  rwa [Pipes.idle_append_leave] at hr

end Voice

namespace Dialogue

variable {α β : Type} {t u : Talk α} {x y : Talk β}

lemma leads_of_crossing {c : Crossing} (hc : c.packet.Clear) (ht : t.After [c.atDesktop] u)
    (hx : x.After [c.atDevice] y) :
    Leads ⟨.start t, .start x, .idle, .idle⟩ ⟨.start u, .start y, .idle, .idle⟩ := by
  obtain ⟨leg, packet, toDevice⟩ := c
  cases toDevice with
  | true =>
    apply (leads_of_desktop (Voice.runs_sent_idle ht)).trans
    exact leads_of_device (Voice.runs_received_idle hx hc)
  | false =>
    apply (leads_of_device (Voice.runs_sent_idle hx)).trans
    exact leads_of_desktop (Voice.runs_received_idle ht hc)

lemma leads_of_crossings {cs : List Crossing} (hc : ∀ c ∈ cs, c.packet.Clear)
    (ht : t.After (cs.map (·.atDesktop)) u) (hx : x.After (cs.map (·.atDevice)) y) :
    Leads ⟨.start t, .start x, .idle, .idle⟩ ⟨.start u, .start y, .idle, .idle⟩ := by
  induction cs generalizing t x with
  | nil =>
    obtain rfl := Talk.after_nil.mp ht
    obtain rfl := Talk.after_nil.mp hx
    exact .refl _
  | cons c cs ih =>
    obtain ⟨t', ht', ht⟩ := Talk.after_cons ht
    obtain ⟨x', hx', hx⟩ := Talk.after_cons hx
    have hfirst := leads_of_crossing (hc c List.mem_cons_self) ht' hx'
    exact hfirst.trans (ih (fun c hm => hc c (List.mem_cons_of_mem _ hm)) ht hx)

end Dialogue

lemma Duet.leads_of_crossings {α : Type} {t u : Talk α} {x y : Talk Device.Served} {cs : List Crossing}
    (hc : ∀ c ∈ cs, c.packet.Clear) (ht : t.After (cs.map (·.atDesktop)) u) (hx : x.After (cs.map (·.atDevice)) y) :
    Leads ⟨.start t, .start x, .idle, .idle⟩ ⟨.start u, .start y, .idle, .idle⟩ :=
  leads_of_dialogue (Dialogue.leads_of_crossings hc ht hx)

end PimSync.Simulation
