import PimSync.Proofs.Talk.Exchanges
import PimSync.Proofs.Wire.Streams
import PimSync.Talk.Channel

/-! Exchanges byte for byte. Each understands certain sentences, and those of a whole are made of those of its parts. -/

namespace PimSync

open Wire

structure Duplex.Holds (d : Duplex) (input : Bytes) : Prop where
  steady : d.source.Steady
  bytes : d.source.bytes = input
  willing : d.sink.Willing

def Duplex.ofInput (input : Bytes) : Duplex := ⟨[.data input], ⟨[], none, none, none, [], 0⟩⟩

lemma Duplex.holds_ofInput (input : Bytes) : (ofInput input).Holds input :=
  ⟨List.forall_mem_singleton.mpr (.inl ⟨_, rfl⟩), List.append_nil _, ⟨List.not_mem_nil, rfl, rfl⟩⟩

def Message.SpeltBy (m : Message) (said : Bytes) : Prop :=
  ∃ g, (Packet.message g).Readable ∧ ofFrame g = .ok m ∧ said = g.bytes

lemma Message.speltBy_of_frame {m : Message} {f : Frame} (h : m.frame = .ok f) : m.SpeltBy f.bytes := by
  obtain ⟨content, hfilled, hlength, hback⟩ := of_frame h
  have hfits : content.length ≤ Frame.contentLimit := by
    rw [hlength]
    exact fits_of_frame h
  exact ⟨f, ⟨Packet.absent_of_filledWith hfilled, hfilled.complete hfits⟩, hback, rfl⟩

namespace Talk

variable {α β : Type} {t : Talk α} {f : α → Talk β} {input mid rest rest' written written' : Bytes} {a b : α}

/-- Over any connection with this input, the talk comes to this, leaves the rest unread and writes these bytes. -/
def Makes (t : Talk α) (input : Bytes) (a : α) (rest written : Bytes) : Prop :=
  ∀ d : Duplex, d.Holds input → ∃ d' es, t.run Duplex.network d = some (a, d', es) ∧ d'.Holds rest ∧
    d'.sink.bytes = d.sink.bytes ++ written

lemma makes_done (a : α) (input : Bytes) : (done a).Makes input a input [] :=
  fun d hd => ⟨d, [], rfl, hd, (List.append_nil _).symm⟩

lemma makes_send {leg : Leg} {p : Packet} {next : Except LinkError Unit → Talk α}
    (h : (next (.ok ())).Makes input a rest written) :
    (ask (.send leg p) next).Makes input a rest (p.bytes ++ written) := by
  intro d hd
  obtain ⟨sink, hwrite, hwilling, hbytes⟩ := Sink.write_willing hd.willing p
  obtain ⟨d', es, hrun, hd', hwritten⟩ := h { d with sink } ⟨hd.steady, hd.bytes, hwilling⟩
  have hsend : Duplex.network (.send leg p) d = some (.ok (), { d with sink }) := by rw [Duplex.network, hwrite]
  exact ⟨d', _, run_ask.mpr ⟨.ok (), _, es, hsend, hrun, rfl⟩, hd', by rw [hwritten, hbytes, List.append_assoc]⟩

lemma makes_receive {leg : Leg} {next : Except WireError Packet → Talk α}
    (h : (next (Packet.next input).1).Makes (Packet.next input).2 a rest written) :
    (ask (.receive leg) next).Makes input a rest written := by
  intro d hd
  have hread := Source.of_read hd.steady
  rw [hd.bytes] at hread
  obtain ⟨d', es, hrun, hd', hwritten⟩ := h { d with source := d.source.read.rest }
    ⟨hread.steady_rest, hread.bytes_rest, hd.willing⟩
  rw [← hread.result] at hrun
  exact ⟨d', _, run_ask.mpr ⟨d.source.read.result, _, es, rfl, hrun, rfl⟩, hd', hwritten⟩

lemma Makes.bind {b : β} (ht : t.Makes input a mid written) (hf : (f a).Makes mid b rest written') :
    (t >>= f).Makes input b rest (written ++ written') := by
  intro d hd
  obtain ⟨d₁, es, hrun, hd₁, hw⟩ := ht d hd
  obtain ⟨d', fs, hrun', hd', hw'⟩ := hf d₁ hd₁
  exact ⟨d', _, run_bind hrun hrun', hd', by rw [hw', hw, List.append_assoc]⟩

lemma Makes.map (ht : t.Makes input a rest written) (g : α → β) : (g <$> t).Makes input (g a) rest written := by
  rw [map_eq_pure_bind, ← List.append_nil written]
  exact ht.bind (makes_done (g a) rest)

lemma Makes.unique (h : t.Makes input a rest written) (h' : t.Makes input b rest' written') : a = b := by
  obtain ⟨_, _, hrun, -, -⟩ := h _ (Duplex.holds_ofInput input)
  obtain ⟨_, _, hrun', -, -⟩ := h' _ (Duplex.holds_ofInput input)
  exact congrArg Prod.fst (Option.some.inj (hrun.symm.trans hrun'))

end Talk

namespace Exchange

open Talk

variable {α β : Type} {x : Exchange α} {f : α → Exchange β} {leg : Leg} {c : Control} {m : Message}
variable {input rest said whole whole' : Bytes} {parts parts' : List Bytes}

/-- Once it has read one of these sentences the exchange has written the whole; of any other input it makes an error. -/
structure Understands (x : Exchange α) (sentence : Except ExchangeError α → Bytes → Prop) (whole : Bytes)
    (parts : List Bytes) : Prop where
  heard : ∀ {r said} rest, sentence r said → x.run.Makes (said ++ rest) r rest whole
  unheard : ∀ input, (∀ r said, sentence r said → ¬ said <+: input) →
    ∃ e rest, ∃ written ∈ parts, x.run.Makes input (.error e) rest written

def Valued (sentence : α → Bytes → Prop) : Except ExchangeError α → Bytes → Prop
  | .ok a, said => sentence a said
  | .error _, _ => False

lemma makes_bind_ok {a : α} {r : Except ExchangeError β} {mid written written' : Bytes}
    (hx : x.run.Makes input (.ok a) mid written) (hf : (f a).run.Makes mid r rest written') :
    (x >>= f).run.Makes input r rest (written ++ written') := by
  rw [ExceptT.run_bind]
  exact hx.bind hf

lemma makes_bind_error {e : ExchangeError} {written : Bytes} (hx : x.run.Makes input (.error e) rest written) :
    (x >>= f).run.Makes input (.error e) rest written := by
  rw [ExceptT.run_bind, ← List.append_nil written]
  exact hx.bind (makes_done _ rest)

namespace Understands

variable {sentence sentence' : Except ExchangeError α → Bytes → Prop}

lemma congr (h : x.Understands sentence whole parts) (hs : ∀ r said, sentence' r said ↔ sentence r said)
    (hw : whole' = whole) (hp : parts ⊆ parts') : x.Understands sentence' whole' parts' where
  heard rest hsaid := by
    rw [hw]
    exact h.heard rest ((hs _ _).mp hsaid)
  unheard input hnone := by
    obtain ⟨e, rest, written, hpart, hmakes⟩ := h.unheard input fun r said hsaid => hnone r said ((hs r said).mpr hsaid)
    exact ⟨e, rest, written, hp hpart, hmakes⟩

lemma bind {s : α → Bytes → Prop} {s' : α → Except ExchangeError β → Bytes → Prop}
    (hx : x.Understands (Valued s) whole parts) (hf : ∀ a, (f a).Understands (s' a) whole' parts') :
    (x >>= f).Understands (fun r said => ∃ a u v, s a u ∧ s' a r v ∧ said = u ++ v) (whole ++ whole')
      (parts ++ parts'.map (whole ++ ·)) where
  heard rest := by
    rintro ⟨a, u, v, ha, hv, rfl⟩
    rw [List.append_assoc]
    exact makes_bind_ok (hx.heard (r := .ok a) (v ++ rest) ha) ((hf a).heard rest hv)
  unheard input hnone := by
    -- the first may have understood what it read, and then it is the second that has not
    by_cases hfirst : ∃ a u, s a u ∧ u <+: input
    · obtain ⟨a, u, ha, mid, rfl⟩ := hfirst
      have hsecond : ∀ r v, s' a r v → ¬ v <+: mid := fun r v hv hpre =>
        hnone r (u ++ v) ⟨a, u, v, ha, hv, rfl⟩ ((List.prefix_append_right_inj u).mpr hpre)
      obtain ⟨e, rest, written, hpart, hmakes⟩ := (hf a).unheard mid hsecond
      refine ⟨e, rest, whole ++ written, List.mem_append_right _ (List.mem_map_of_mem hpart), ?_⟩
      exact makes_bind_ok (hx.heard (r := .ok a) mid ha) hmakes
    · have hnothing : ∀ r u, Valued s r u → ¬ u <+: input := by
        rintro (e | a) u hu hpre
        · exact hu
        · exact hfirst ⟨a, u, hu, hpre⟩
      obtain ⟨e, rest, written, hpart, hmakes⟩ := hx.unheard input hnothing
      exact ⟨e, rest, written, List.mem_append_left _ hpart, makes_bind_error hmakes⟩

lemma outcome (h : x.Understands sentence whole parts) (input : Bytes) : ∃ r rest written,
    x.run.Makes input r rest written ∧ (∀ a, r = .ok a ↔ ∃ said, sentence (.ok a) said ∧ said <+: input) ∧
      ((∃ said, sentence r said ∧ input = said ++ rest ∧ written = whole) ∨
        (∃ e, r = .error e) ∧ written ∈ parts) := by
  by_cases hheard : ∃ r said, sentence r said ∧ said <+: input
  · obtain ⟨r, said, hsaid, rest, rfl⟩ := hheard
    have hmakes := h.heard rest hsaid
    refine ⟨r, rest, whole, hmakes, fun a => ⟨?_, ?_⟩, .inl ⟨said, hsaid, rfl, rfl⟩⟩
    · rintro rfl
      exact ⟨said, hsaid, List.prefix_append said rest⟩
    · rintro ⟨said', hsaid', rest', hsame⟩
      have hmakes' := h.heard rest' hsaid'
      rw [hsame] at hmakes'
      exact hmakes.unique hmakes'
  · have hnone : ∀ r said, sentence r said → ¬ said <+: input := fun r said hsaid hpre =>
      hheard ⟨r, said, hsaid, hpre⟩
    obtain ⟨e, rest, written, hpart, hmakes⟩ := h.unheard input hnone
    refine ⟨.error e, rest, written, hmakes, fun a => ⟨nofun, ?_⟩, .inr ⟨⟨e, rfl⟩, hpart⟩⟩
    rintro ⟨said, hsaid, hpre⟩
    exact absurd hpre (hnone _ said hsaid)

end Understands

lemma understands_done {r : Except ExchangeError α} (h : x.run = done r) :
    x.Understands (fun r' said => r' = r ∧ said = []) [] [] where
  heard rest := by
    rintro ⟨rfl, rfl⟩
    rw [h]
    exact makes_done _ rest
  unheard _ hnone := absurd (List.nil_prefix) (hnone r [] ⟨rfl, rfl⟩)

lemma understands_throw (e : ExchangeError) (whole : Bytes) :
    (throw e : Exchange α).Understands (fun _ _ => False) whole [[]] where
  heard _ hsaid := hsaid.elim
  unheard input _ := ⟨e, input, [], List.mem_singleton_self _, makes_done _ input⟩

lemma understands_send (p : Packet) : (send leg p).Understands (Valued fun _ said => said = []) p.bytes [] where
  heard {r said} rest hsaid := by
    obtain e | u := r
    · exact hsaid.elim
    · obtain rfl : said = [] := hsaid
      rw [← List.append_nil p.bytes]
      exact makes_send (makes_done _ rest)
  unheard _ hnone := absurd List.nil_prefix (hnone (.ok ()) [] rfl)

lemma understands_receive :
    (receive leg).Understands (Valued fun p said => p.Readable ∧ said = p.bytes) [] [[]] where
  heard {r said} rest hsaid := by
    obtain e | p := r
    · exact hsaid.elim
    · obtain ⟨hp, rfl⟩ : p.Readable ∧ said = p.bytes := hsaid
      apply makes_receive
      rw [Packet.next_append hp]
      exact makes_done _ rest
  unheard input hnone := by
    cases hr : (Packet.next input).1 with
    | ok p =>
      obtain ⟨hp, hpre⟩ := Packet.next_eq_ok.mp hr
      exact absurd hpre (hnone (.ok p) p.bytes ⟨hp, rfl⟩)
    | error e =>
      refine ⟨.ofWire e, (Packet.next input).2, [], List.mem_singleton_self _, makes_receive ?_⟩
      rw [hr]
      exact makes_done _ _

lemma understands_coded (content : Except CodingError α) :
    (coded content).Understands (Valued fun a said => content = .ok a ∧ said = []) [] [[]] := by
  cases content with
  | ok a =>
    refine (understands_done (x := pure a) rfl).congr ?_ rfl (List.nil_subset _)
    rintro (e | b) said <;> simp [Valued, eq_comm]
  | error e =>
    refine (understands_throw (.coding e) []).congr ?_ rfl (List.Subset.refl _)
    rintro (e | b) said <;> simp [Valued]

lemma understands_expectControl :
    (expectControl leg c).Understands (Valued fun _ said => said = c.frame) [] [[]] := by
  have hcheck (p : Packet) : Understands (if p = .control c then return () else throw (.control c p.name))
      (fun r said => p = .control c ∧ r = .ok () ∧ said = []) [] [[]] := by
    split
    · rename_i hp
      exact (understands_done rfl).congr (by simp [hp]) rfl (List.nil_subset _)
    · rename_i hp
      exact (understands_throw _ _).congr (by simp [hp]) rfl (List.Subset.refl _)
  refine (understands_receive.bind hcheck).congr ?_ rfl (by simp)
  rintro (e | u) said
  · simp [Valued]
  · constructor
    · rintro rfl
      exact ⟨.control c, _, [], ⟨trivial, rfl⟩, ⟨rfl, rfl, rfl⟩, (List.append_nil _).symm⟩
    · rintro ⟨_, _, _, ⟨-, rfl⟩, ⟨rfl, -, rfl⟩, rfl⟩
      exact List.append_nil _

lemma understands_sendMessage {f : Frame} (h : m.frame = .ok f) :
    (sendMessage leg m).Understands (Valued fun _ said => said = []) f.bytes [] := by
  rw [sendMessage, h]
  exact understands_send (.message f)

lemma understands_receiveMessage : (receiveMessage leg).Understands (Valued Message.SpeltBy) [] [[]] := by
  rw [receiveMessage]
  refine (understands_receive.bind fun p => (?_ : Understands _
    (Valued fun reply said => ∃ g, p = .message g ∧ Message.ofFrame g = .ok reply ∧ said = []) [] [[]])).congr
      ?_ rfl (by simp)
  · cases p with
    | control c =>
      refine (understands_throw _ _).congr ?_ rfl (List.Subset.refl _)
      rintro (e | reply) said <;> simp [Valued]
    | message g =>
      refine (understands_coded _).congr ?_ rfl (List.Subset.refl _)
      rintro (e | reply) said <;> simp [Valued]
  · rintro (e | reply) said
    · simp [Valued]
    · constructor
      · rintro ⟨g, hg, hreply, rfl⟩
        exact ⟨.message g, _, [], ⟨hg, rfl⟩, ⟨g, rfl, hreply, rfl⟩, (List.append_nil _).symm⟩
      · rintro ⟨_, _, _, ⟨hg, rfl⟩, ⟨g, rfl, hreply, rfl⟩, rfl⟩
        exact ⟨g, hg, hreply, List.append_nil _⟩

lemma understands_deliver {f : Frame} (h : m.frame = .ok f) :
    (deliver leg m).Understands (Valued fun _ said => said = Control.request.frame ++ Control.acknowledge.frame)
      f.bytes [[], f.bytes] := by
  refine (understands_expectControl.bind fun _ => (understands_sendMessage h).bind fun _ =>
    understands_expectControl).congr ?_ (by simp) (by simp)
  rintro (e | u) said <;> simp [Valued]

lemma understands_acknowledged {x : Exchange Message} {s : Message → Bytes → Prop} {k : Message → Exchange α}
    {r : Message → Except ExchangeError α} (hx : x.Understands (Valued s) [] [[]])
    (hk : ∀ reply, (k reply).run = done (r reply)) :
    (x >>= fun reply => sendControl leg .acknowledge >>= fun _ => k reply).Understands
      (fun r' said => ∃ reply, s reply said ∧ r' = r reply) Control.acknowledge.frame [[]] := by
  refine (hx.bind fun reply => (understands_send _).bind fun _ => understands_done (hk reply)).congr ?_
    (List.append_nil _).symm (by simp)
  intro r' said
  constructor
  · rintro ⟨reply, hreply, rfl⟩
    exact ⟨reply, said, [], hreply, ⟨(), [], [], rfl, ⟨rfl, rfl⟩, rfl⟩, (List.append_nil _).symm⟩
  · rintro ⟨reply, said, _, hreply, ⟨_, _, _, rfl, ⟨rfl, rfl⟩, rfl⟩, rfl⟩
    rw [List.append_nil, List.append_nil]
    exact ⟨reply, hreply, rfl⟩

lemma understands_collect : (collect leg).Understands (Valued Message.SpeltBy)
    (Control.request.frame ++ Control.acknowledge.frame) [Control.request.frame] := by
  refine ((understands_send _).bind fun _ => understands_acknowledged understands_receiveMessage
    fun _ => rfl).congr ?_ rfl (by simp [Packet.bytes])
  rintro (e | reply) said <;> simp [Valued]

variable {k : Unit → Exchange α}

lemma understands_deliver_bind {sentence : Except ExchangeError α → Bytes → Prop} {f : Frame} (h : m.frame = .ok f)
    (hk : ∀ u, (k u).Understands sentence whole parts) : (deliver leg m >>= k).Understands
      (fun r said => ∃ reply, sentence r reply ∧
        said = Control.request.frame ++ (Control.acknowledge.frame ++ reply))
      (f.bytes ++ whole) ([[], f.bytes] ++ parts.map (f.bytes ++ ·)) := by
  refine ((understands_deliver h).bind hk).congr ?_ rfl (List.Subset.refl _)
  intro r said
  simp

lemma makes_undeliverable {e : CodingError} (h : m.frame = .error e) (input : Bytes) :
    ∃ e rest, (deliver leg m >>= k).run.Makes input (.error e) rest [] := by
  have hthrow : sendMessage leg m = throw (.coding e) := by
    rw [sendMessage, h]
    rfl
  -- whatever is read, there is nothing that can be delivered
  have hdeaf : (deliver leg m).Understands (fun _ _ => False) [] [[]] := by
    rw [deliver, hthrow]
    refine (understands_expectControl.bind fun _ => understands_throw _ []).congr ?_ rfl (by simp)
    simp
  obtain ⟨e', rest, written, hwritten, hmakes⟩ := hdeaf.unheard input fun _ _ hsaid => hsaid.elim
  obtain rfl := List.mem_singleton.mp hwritten
  exact ⟨e', rest, makes_bind_error hmakes⟩

/-- An exchange reads and writes just the bytes of its frames, and acknowledges nothing that it has not received. -/
theorem exchange_byte_for_byte (leg : Leg) (m : Message) (input : Bytes) : ∃ result rest written,
    (deliver leg m >>= fun _ => collect leg).run.Makes input result rest written ∧
      (∀ reply, result = .ok reply ↔ m.Fits ∧ ∃ said, reply.SpeltBy said ∧
        Control.request.frame ++ (Control.acknowledge.frame ++ said) <+: input) ∧
      (∀ reply, result = .ok reply → ∃ f said, m.frame = .ok f ∧ reply.SpeltBy said ∧
        input = Control.request.frame ++ (Control.acknowledge.frame ++ said) ++ rest ∧
        written = f.bytes ++ (Control.request.frame ++ Control.acknowledge.frame)) ∧
      ∀ e, result = .error e → written = [] ∨ ∃ f, m.frame = .ok f ∧
        (written = f.bytes ∨ written = f.bytes ++ Control.request.frame) := by
  cases h : m.frame with
  | error e =>
    obtain ⟨e', rest, hmakes⟩ := makes_undeliverable (k := fun _ => collect leg) h input
    have hfits : ¬ m.Fits := fun hm => by
      obtain ⟨f, _, hf, -⟩ := Message.frame_of_fits hm
      cases h.symm.trans hf
    exact ⟨.error e', rest, [], hmakes, fun reply => ⟨nofun, fun hr => absurd hr.1 hfits⟩, nofun, fun _ _ => .inl rfl⟩
  | ok f =>
    have hx : (deliver leg m >>= fun _ => collect leg).Understands _ _ _ :=
      understands_deliver_bind h fun _ => understands_collect
    obtain ⟨r, rest, written, hmakes, hvalue, houtcome⟩ := hx.outcome input
    refine ⟨r, rest, written, hmakes, fun reply => (hvalue reply).trans ⟨?_, ?_⟩, fun reply hr => ?_, fun e he => ?_⟩
    · rintro ⟨_, ⟨said, hreply, rfl⟩, hpre⟩
      exact ⟨Message.fits_of_frame h, said, hreply, hpre⟩
    · rintro ⟨-, said, hreply, hpre⟩
      exact ⟨_, ⟨said, hreply, rfl⟩, hpre⟩
    · subst hr
      rcases houtcome with ⟨_, ⟨said, hreply, rfl⟩, hinput, hwhole⟩ | ⟨⟨e, he⟩, -⟩
      · exact ⟨f, said, rfl, hreply, hinput, hwhole⟩
      · cases he
    · subst he
      rcases houtcome with ⟨_, ⟨_, hnone, -⟩, -⟩ | ⟨-, hpart⟩
      · exact hnone.elim
      · simpa [h] using hpart

example (m : Message) : ask m = (deliver .inbound m >>= fun _ => collect .inbound) := rfl

end Exchange

end PimSync
