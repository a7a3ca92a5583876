import PimSync.Proofs.Talk.Exchanges
import PimSync.Proofs.Wire.Streams
import PimSync.Talk.Channel
import PimSync.Talk.Journal

namespace PimSync

open Wire Log

namespace Wire

namespace Source

def units (source : Source) : Nat → Bytes
  | 0 => []
  | n + 1 =>
    (match source.read.result with
      | .ok _ => source.bytes.take source.read.consumed
      | .error _ => []) ++ units source.read.rest n

def after (source : Source) : Nat → Source
  | 0 => source
  | n + 1 => after source.read.rest n

lemma after_add (source : Source) (m n : Nat) : source.after (m + n) = (source.after m).after n := by
  induction m generalizing source with
  | zero => rw [Nat.zero_add, after]
  | succ m ih => rw [Nat.succ_add, after, after, ih]

lemma units_add (source : Source) (m n : Nat) : source.units (m + n) = source.units m ++ (source.after m).units n := by
  induction m generalizing source with
  | zero => rw [Nat.zero_add, units, after, List.nil_append]
  | succ m ih => rw [Nat.succ_add, units, units, after, ih, List.append_assoc]

lemma gather_go_bytes (source : Source) (pieces : List Bytes) (wanted : Nat) :
    (gather.go pieces wanted source).bytes ++ (gather.go pieces wanted source).rest.bytes =
        pieces.reverse.flatten ++ source.bytes ∧
      ((gather.go pieces wanted source).stop? = none →
        (gather.go pieces wanted source).bytes.length = pieces.reverse.flatten.length + wanted) := by
  induction source generalizing pieces wanted with
  | nil => cases wanted <;> simp [gather.go]
  | cons d source ih =>
    cases wanted with
    | zero => simp [gather.go]
    | succ wanted =>
      cases d with
      | ended => simp [gather.go, bytes, Delivery.bytes]
      | failed cause => simp [gather.go, bytes, Delivery.bytes]
      | interrupted =>
        obtain ⟨hb, hl⟩ := ih pieces (wanted + 1)
        exact ⟨hb, hl⟩
      | data part =>
        have hbytes : bytes (.data part :: source) = part ++ bytes source := rfl
        rw [hbytes]
        by_cases hpart : (part.take (wanted + 1)).length = wanted + 1
        · have hrest : bytes (.data (part.drop (wanted + 1)) :: source) = part.drop (wanted + 1) ++ bytes source := rfl
          simp only [gather.go, hpart, if_true, hrest, List.reverse_cons, List.flatten_append, List.flatten_singleton]
          refine ⟨?_, fun _ => by rw [List.length_append, hpart]⟩
          rw [List.append_assoc, ← List.append_assoc (part.take _), List.take_append_drop]
        · have htake : part.take (wanted + 1) = part := List.take_of_length_le (by simp at hpart; omega)
          simp only [gather.go, hpart, if_false]
          rw [htake] at hpart ⊢
          obtain ⟨hb, hl⟩ := ih (part :: pieces) (wanted + 1 - part.length)
          have hlt : part.length ≤ wanted + 1 := htake ▸ List.length_take_le _ _
          simp only [List.reverse_cons, List.flatten_append, List.flatten_singleton, List.length_append] at hb hl
          exact ⟨by rw [hb, List.append_assoc], fun hn => by rw [hl hn]; omega⟩

lemma readFrom_ok {n : Nat} {got : Bytes} {source : Source} {p : Packet} (hw : Packet.Within n got)
    (h : (readFrom n got source).result = .ok p) :
    got ++ source.bytes = p.bytes ++ (readFrom n got source).rest.bytes ∧
      (readFrom n got source).consumed = p.bytes.length := by
  induction hw generalizing source with
  | @packet n got q hscan =>
    obtain ⟨-, hgot⟩ := Packet.scan_eq_packet.mp hscan
    rw [List.append_nil] at hgot
    simp only [readFrom, hscan] at h ⊢
    obtain rfl := Except.ok.inj h
    rw [hgot]
    exact ⟨rfl, rfl⟩
  | @short n got size hscan =>
    simp only [readFrom, hscan] at h
    cases h
  | @needs n got total hl hpart hall ih =>
    have hscan := hpart [] (by simpa using hl)
    rw [List.append_nil] at hscan
    obtain ⟨hb, hlen⟩ := gather_go_bytes source [] (total - got.length)
    simp only [readFrom, hscan, gather] at h ⊢
    cases hstop : (gather.go [] (total - got.length) source).stop? with
    | some stop => cases stop <;> simp only [hstop] at h <;> cases h
    | none =>
      simp only [hstop] at h ⊢
      have htotal : got.length + (gather.go [] (total - got.length) source).bytes.length = total := by
        have := hlen hstop
        simp at this
        omega
      obtain ⟨hbytes, hc⟩ := ih _ htotal h
      refine ⟨?_, hc⟩
      rw [← hbytes, List.append_assoc, hb]
      rfl

lemma read_ok {source : Source} {p : Packet} (h : source.read.result = .ok p) :
    source.bytes = p.bytes ++ source.read.rest.bytes ∧ source.read.consumed = p.bytes.length :=
  readFrom_ok Packet.within_start h

lemma take_consumed {source : Source} {p : Packet} (h : source.read.result = .ok p) :
    source.bytes.take source.read.consumed = p.bytes := by
  obtain ⟨hb, hc⟩ := read_ok h
  rw [hb, hc, List.take_left]

end Source

namespace Sink

lemma piece_ok {sink : Sink} {offered taken : Bytes} (h : sink.piece offered = .ok taken) : taken <+: offered := by
  unfold piece at h
  split at h <;> cases h
  · exact List.take_prefix _ _
  · exact List.prefix_refl _

lemma writeAll_go_ok {calls : List Acceptance} {sink sink' : Sink} {offered : Bytes}
    (h : writeAll.go calls sink offered = (.ok (), sink')) : sink'.bytes = sink.bytes ++ offered := by
  have hdone {calls : List Acceptance} {sink : Sink} : ({ sink with calls } : Sink).bytes = sink.bytes := rfl
  induction calls generalizing sink offered with
  | nil =>
    cases offered with
    | nil =>
      simp only [writeAll.go] at h
      cases h
      exact (List.append_nil _).symm
    | cons b bs =>
      simp only [writeAll.go] at h
      cases hp : sink.piece (b :: bs) with
      | error cause =>
        simp only [hp] at h
        cases h
      | ok taken =>
        simp only [hp] at h
        split at h <;> cases h
        rename_i hl
        rw [hdone, bytes_take, (piece_ok hp).eq_of_length hl]
  | cons call calls ih =>
    cases offered with
    | nil =>
      simp only [writeAll.go] at h
      cases h
      exact (List.append_nil _).symm
    | cons b bs =>
      cases call with
      | interrupted => exact ih h
      | takes most =>
        simp only [writeAll.go] at h
        cases hp : sink.piece ((b :: bs).take most) with
        | error cause =>
          simp only [hp] at h
          cases h
        | ok taken =>
          have htaken : taken <+: b :: bs := (piece_ok hp).trans (List.take_prefix _ _)
          simp only [hp] at h
          split at h
          · cases h
          · cases h
          · rename_i piece he
            obtain rfl := Except.ok.inj he
            rw [ih h, bytes_take, List.append_assoc, List.prefix_iff_eq_append.mp htaken]

lemma write_ok {sink sink' : Sink} {p : Packet} (h : sink.write p = (.ok (), sink')) :
    sink'.bytes = sink.bytes ++ p.bytes := by
  have hflush (sink : Sink) : sink.flush.2.bytes = sink.bytes := rfl
  unfold write at h
  split at h
  · cases h
  · rename_i s hw
    have hs : s.bytes = sink.bytes ++ p.bytes := writeAll_go_ok hw
    split at h
    · cases h
    · rename_i s' hf
      cases h
      rw [← hs, ← hflush s, hf]

end Sink

end Wire

namespace Log

def crossed (direction : Direction) (entries : List Entry) : Bytes :=
  (entries.filter (·.direction = direction)).flatMap Entry.bytes

lemma crossed_append (direction : Direction) (entries entries' : List Entry) :
    crossed direction (entries ++ entries') = crossed direction entries ++ crossed direction entries' := by
  simp only [crossed, List.filter_append, List.flatMap_append]

lemma ofEvents_append (es fs : List Event) : ofEvents (es ++ fs) = ofEvents es ++ ofEvents fs :=
  List.filterMap_append

end Log

namespace Journal

variable {σ τ : Type} {network : Network σ}

lemma note_eq (journal : Journal τ) (direction : Direction) (p : Packet) (t : τ) :
    journal.note direction p t = journal.record [.ofPacket direction p] t := by
  cases p <;> rfl

lemma record_append (journal : Journal τ) (entries entries' : List Entry) (t : τ) :
    journal.record (entries ++ entries') t = journal.record entries' (journal.record entries t) :=
  List.foldl_append

lemma record_file (entries : List Entry) (t : String) : file.record entries t = t ++ Log.text entries := by
  induction entries generalizing t with
  | nil => exact String.append_empty.symm
  | cons e entries ih =>
    have hstep : file.record (e :: entries) t = file.record entries (t ++ e.text) := rfl
    rw [hstep, ih, Log.text, Log.text, List.map_cons, String.join_cons, String.append_assoc]

lemma noting_eq (network : Network σ) (journal : Journal τ) (r : Request) (s : σ) (t : τ) :
    network.noting journal r (s, t) =
      (network r s).map fun (answer, s) => (answer, s, journal.record (Log.ofEvents [⟨r, answer⟩]) t) := by
  cases r with
  | send leg p =>
    simp only [Network.noting, note_eq]
    rfl
  | receive leg =>
    simp only [Network.noting]
    refine congrArg (Option.map · _) (funext fun (answer, s) => ?_)
    cases answer with
    | ok p => simp only [note_eq]; rfl
    | error e => rfl
  | _ => rfl

lemma run_noting {α : Type} (network : Network σ) (journal : Journal τ) (talk : Talk α) (s : σ) (t : τ) :
    talk.run (network.noting journal) (s, t) =
      (talk.run network s).map fun (a, s, es) => (a, (s, journal.record (Log.ofEvents es) t), es) := by
  induction talk generalizing s t with
  | done a => rfl
  | ask r next ih =>
    simp only [Talk.run, noting_eq]
    cases network r s with
    | none => rfl
    | some answered =>
      obtain ⟨answer, s⟩ := answered
      simp only [Option.map_some, ih, Option.map_map]
      refine congrArg (Option.map · _) (funext fun out => ?_)
      obtain ⟨a, s, es⟩ := out
      simp only [Function.comp, ← record_append, ← ofEvents_append, List.singleton_append]

end Journal

namespace Event

def Refused : Event → Prop
  | ⟨.send .., .error _⟩ => True
  | _ => False

def isReceive (e : Event) : Bool :=
  match e.request with
  | .receive _ => true
  | _ => false

end Event

namespace Duplex

variable {α : Type} {talk : Talk α} {d d₁ d' : Duplex} {a : α} {es fs : List Event}

/-- Between two states of a connection there have been these events, and just the bytes of their log have crossed it. -/
structure Logs (d d' : Duplex) (es : List Event) : Prop where
  sent : (∀ e ∈ es, ¬ e.Refused) → d'.sink.bytes = d.sink.bytes ++ crossed .sent (Log.ofEvents es)
  received : d'.source = d.source.after (es.countP Event.isReceive) ∧
    crossed .received (Log.ofEvents es) = d.source.units (es.countP Event.isReceive)

lemma Logs.nil (d : Duplex) : Logs d d [] := ⟨fun _ => (List.append_nil _).symm, rfl, rfl⟩

lemma Logs.append (h : Logs d d₁ es) (k : Logs d₁ d' fs) : Logs d d' (es ++ fs) := by
  constructor
  · intro hn
    obtain ⟨hes, hfs⟩ := List.forall_mem_append.mp hn
    rw [k.sent hfs, h.sent hes, ofEvents_append, crossed_append, List.append_assoc]
  · obtain ⟨hafter, hunits⟩ := h.received
    obtain ⟨hafter', hunits'⟩ := k.received
    rw [hafter] at hafter' hunits'
    rw [List.countP_append, ofEvents_append, crossed_append]
    exact ⟨by rw [hafter', Source.after_add], by rw [hunits, hunits', Source.units_add]⟩

lemma logs_send {leg : Leg} {p : Packet} {answer : Except LinkError Unit}
    (h : network (.send leg p) d = some (answer, d')) : Logs d d' [⟨.send leg p, answer⟩] := by
  simp only [network, Option.some.injEq, Prod.mk.injEq] at h
  obtain ⟨hanswer, rfl⟩ := h
  refine ⟨fun hn => ?_, rfl, rfl⟩
  cases answer with
  | error e => exact absurd trivial (hn _ List.mem_cons_self)
  | ok u =>
    have hlog : crossed .sent (Log.ofEvents [⟨.send leg p, .ok u⟩]) = p.bytes := List.append_nil _
    rw [hlog]
    exact Sink.write_ok (Prod.ext hanswer rfl)

lemma logs_receive {leg : Leg} {answer : Except WireError Packet}
    (h : network (.receive leg) d = some (answer, d')) : Logs d d' [⟨.receive leg, answer⟩] := by
  simp only [network, Option.some.injEq, Prod.mk.injEq] at h
  obtain ⟨rfl, rfl⟩ := h
  have hcount : [(⟨.receive leg, d.source.read.result⟩ : Event)].countP Event.isReceive = 1 := rfl
  have hunits : d.source.units 1 = crossed .received (Log.ofEvents [⟨.receive leg, d.source.read.result⟩]) := by
    rw [Source.units, Source.units, List.append_nil]
    cases hr : d.source.read.result with
    | error e => rfl
    | ok p =>
      rw [Source.take_consumed hr]
      exact (List.append_nil _).symm
  refine ⟨fun _ => ?_, ?_⟩
  · have hlog : crossed .sent (Log.ofEvents [⟨.receive leg, d.source.read.result⟩]) = [] := by
      cases d.source.read.result <;> rfl
    rw [hlog]
    exact (List.append_nil _).symm
  · rw [hcount]
    exact ⟨rfl, hunits.symm⟩

lemma logs_run (h : talk.run network d = some (a, d', es)) : Logs d d' es := by
  induction talk generalizing d es with
  | done b =>
    obtain ⟨-, rfl, rfl⟩ := Talk.run_done.mp h
    exact .nil d'
  | ask r next ih =>
    obtain ⟨answer, d₁, fs, hr, hb, rfl⟩ := Talk.run_ask.mp h
    have hhead : Logs d d₁ [⟨r, answer⟩] := by
      cases r with
      | send leg p => exact logs_send hr
      | receive leg => exact logs_receive hr
      | _ => cases hr
    exact hhead.append (ih answer hb)

lemma not_refused_of_willing (hw : d.sink.Willing) (h : talk.run network d = some (a, d', es)) :
    ∀ e ∈ es, ¬ e.Refused := by
  induction talk generalizing d es with
  | done b =>
    obtain ⟨-, -, rfl⟩ := Talk.run_done.mp h
    exact nofun
  | ask r next ih =>
    obtain ⟨answer, d₁, fs, hr, hb, rfl⟩ := Talk.run_ask.mp h
    obtain ⟨hhead, hw₁⟩ : ¬ Event.Refused ⟨r, answer⟩ ∧ d₁.sink.Willing := by
      cases r with
      | send leg p =>
        obtain ⟨sink, hwrite, hw', -⟩ := Sink.write_willing hw p
        simp only [network, hwrite, Option.some.injEq, Prod.mk.injEq] at hr
        obtain ⟨rfl, rfl⟩ := hr
        exact ⟨id, hw'⟩
      | receive leg =>
        simp only [network, Option.some.injEq, Prod.mk.injEq] at hr
        obtain ⟨-, rfl⟩ := hr
        exact ⟨id, hw⟩
      | _ => cases hr
    exact List.forall_mem_cons.mpr ⟨hhead, ih answer hw₁ hb⟩

end Duplex

namespace Channel

open Exchange

def Crosses : Request → Prop
  | .send .. | .receive _ => True
  | _ => False

lemma crosses_of_carries {leg : Leg} {m : Message} {r : Request} (h : Carries leg m r) : Crosses r := by
  obtain (rfl | ⟨c, rfl⟩) | ⟨f, -, rfl⟩ := h <;> trivial

lemma crosses_of_bare {leg : Leg} {r : Request} (h : Bare leg r) : Crosses r := by
  obtain rfl | ⟨c, rfl⟩ := h <;> trivial

lemma only_perform (leg : Leg) (op : Operation) : (op.perform leg).run.Only Crosses := by
  cases op with
  | sendControl c => exact only_sendControl.mono fun _ => crosses_of_bare
  | sendMessage m => exact only_sendMessage.mono fun _ => crosses_of_carries
  | receive => exact only_receive.mono fun _ => crosses_of_bare
  | expectControl c => exact only_expectControl.mono fun _ => crosses_of_bare
  | receiveMessage => exact only_receiveMessage.mono fun _ => crosses_of_bare
  | deliver m => exact only_deliver.mono fun _ => crosses_of_carries
  | collect => exact only_collect.mono fun _ => crosses_of_bare

lemma only_performAll (leg : Leg) (ops : List Operation) : (performAll leg ops).Only Crosses := by
  induction ops with
  | nil => trivial
  | cons op ops ih => exact (only_perform leg op).bind fun _ => ih.bind fun _ => trivial

lemma exists_run {α : Type} {talk : Talk α} (h : talk.Only Crosses) (d : Duplex) :
    ∃ a d' es, talk.run Duplex.network d = some (a, d', es) := by
  induction talk generalizing d with
  | done a => exact ⟨a, d, [], rfl⟩
  | ask r next ih =>
    obtain ⟨hr, hnext⟩ := h
    obtain ⟨answer, d₁, hanswer⟩ : ∃ answer d₁, Duplex.network r d = some (answer, d₁) := by
      cases r with
      | send leg p => exact ⟨_, _, rfl⟩
      | receive leg => exact ⟨_, _, rfl⟩
      | _ => exact hr.elim
    obtain ⟨a, d', es, hrun⟩ := ih answer (hnext answer) d₁
    exact ⟨a, d', _, Talk.run_ask.mpr ⟨answer, d₁, es, hanswer, hrun, rfl⟩⟩

/-- A journal gets just the bytes that cross a channel, and nothing that crosses it depends on the journal. -/
theorem log_faithful {τ : Type} (journal : Journal τ) (t : τ) (leg : Leg) (ops : List Operation) (d : Duplex) :
    ∃ outcomes d' es,
      (performAll leg ops).run (Duplex.network.noting journal) (d, t) =
        some (outcomes, (d', journal.record (Log.ofEvents es) t), es) ∧
      (performAll leg ops).run (Duplex.network.noting .null) (d, ()) = some (outcomes, (d', ()), es) ∧
      ((∀ e ∈ es, ¬ e.Refused) → d'.sink.bytes = d.sink.bytes ++ crossed .sent (Log.ofEvents es)) ∧
      (d.sink.Willing → ∀ e ∈ es, ¬ e.Refused) ∧
      d'.source = d.source.after (es.countP Event.isReceive) ∧
      crossed .received (Log.ofEvents es) = d.source.units (es.countP Event.isReceive) := by
  obtain ⟨outcomes, d', es, hrun⟩ := exists_run (only_performAll leg ops) d
  have hlogs := Duplex.logs_run hrun
  refine ⟨outcomes, d', es, ?_, ?_, hlogs.sent, fun hw => Duplex.not_refused_of_willing hw hrun, hlogs.received⟩
  · rw [Journal.run_noting, hrun]
    rfl
  · rw [Journal.run_noting, hrun]
    rfl

lemma record_failing (entries t : List Entry) : Journal.failing.record entries t = t ++ entries := by
  induction entries generalizing t with
  | nil => exact (List.append_nil t).symm
  | cons e entries ih =>
    have hstep : Journal.failing.record (e :: entries) t = Journal.failing.record entries (t ++ [e]) := rfl
    rw [hstep, ih, List.append_assoc, List.singleton_append]

theorem log_faithful_failing : ∃ outcomes d' es,
    (performAll .inbound [.expectControl .request, .sendControl .acknowledge]).run
      (Duplex.network.noting .failing) (⟨[.data Control.request.frame], ⟨[.takes 3], none, none, none, [], 0⟩⟩, []) =
        some (outcomes, (d', Log.ofEvents es), es) ∧
      crossed .received (Log.ofEvents es) = Control.request.frame ∧
      d'.sink.bytes = crossed .sent (Log.ofEvents es) ∧ d'.sink.bytes = Control.acknowledge.frame := by
  let d : Duplex := ⟨[.data Control.request.frame], ⟨[.takes 3], none, none, none, [], 0⟩⟩
  obtain ⟨outcomes, d', es, hrun, -, hsent, hw, -, hreceived⟩ := log_faithful Journal.failing [] .inbound
    [.expectControl .request, .sendControl .acknowledge] d
  let events : List Event := [.received .inbound (.control .request), .sent .inbound (.control .acknowledge)]
  have hevents : (performAll .inbound [.expectControl .request, .sendControl .acknowledge]).run
      (Duplex.network.noting .failing) (d, []) = some (_, (_, _), events) := rfl
  have hes : es = events := by
    have heq := Option.some.inj (hrun.symm.trans hevents)
    exact congrArg (fun run => run.2.2) heq
  subst hes
  have hwilling : d.sink.Willing := ⟨by decide, rfl, rfl⟩
  have hwritten := hsent (hw hwilling)
  rw [record_failing] at hrun
  refine ⟨outcomes, d', events, hrun, rfl, hwritten, ?_⟩
  rw [hwritten]
  rfl

end Channel

end PimSync
