import PimSync.Proofs.Log.Dumps
import PimSync.Proofs.Session.Posing
import PimSync.Proofs.Talk.Journals

namespace PimSync

open Wire Log

namespace Wire.Sink

def having (sink : Sink) (written : List Bytes) : Sink := { sink with written }

lemma piece_having (sink : Sink) (written : List Bytes) {as bs : Bytes} (hl : as.length = bs.length) :
    (sink.having written).piece bs = (sink.piece as).map fun piece => bs.take piece.length := by
  simp only [piece, having]
  split
  · rfl
  · simp only [Except.map, List.length_take, hl, ← List.take_take, List.take_length]
  · simp only [Except.map, hl, List.take_length]

lemma length_take_piece {sink : Sink} {as bs piece : Bytes} (hl : as.length = bs.length)
    (hp : sink.piece as = .ok piece) : piece.length = (bs.take piece.length).length := by
  rw [List.length_take, Nat.min_eq_left (hl ▸ (piece_ok hp).length_le)]

lemma take_having (sink : Sink) (written : List Bytes) {as bs : Bytes} (hl : as.length = bs.length) :
    (sink.having written).take bs = (sink.take as).having (bs :: written) := by
  rw [take, take, having, having, hl]

lemma writeAll_go_having (calls : List Acceptance) (sink : Sink) (written : List Bytes) {as bs : Bytes}
    (hl : as.length = bs.length) : ∃ written',
      writeAll.go calls (sink.having written) bs =
        ((writeAll.go calls sink as).1, (writeAll.go calls sink as).2.having written') := by
  induction calls generalizing sink written as bs with
  | nil =>
    cases as with
    | nil =>
      rw [List.eq_nil_of_length_eq_zero hl.symm]
      exact ⟨written, rfl⟩
    | cons a as =>
      obtain ⟨b, bs, rfl⟩ := List.exists_cons_of_length_eq_add_one hl.symm
      simp only [writeAll.go, piece_having sink written hl]
      cases hp : sink.piece (a :: as) with
      | error cause => exact ⟨written, rfl⟩
      | ok piece =>
        have hpiece := length_take_piece hl hp
        refine ⟨(b :: bs).take piece.length :: written, ?_⟩
        simp only [Except.map, take_having sink written hpiece, ← hpiece, hl]
        split <;> rfl
  | cons call calls ih =>
    cases as with
    | nil =>
      rw [List.eq_nil_of_length_eq_zero hl.symm]
      exact ⟨written, rfl⟩
    | cons a as =>
      obtain ⟨b, bs, rfl⟩ := List.exists_cons_of_length_eq_add_one hl.symm
      cases call with
      | interrupted => exact ih sink written hl
      | takes most =>
        have hoffered : ((a :: as).take most).length = ((b :: bs).take most).length := by
          rw [List.length_take, List.length_take, hl]
        simp only [writeAll.go, piece_having sink written hoffered]
        cases hp : sink.piece ((a :: as).take most) with
        | error cause => exact ⟨written, rfl⟩
        | ok piece =>
          have hpiece := length_take_piece hoffered hp
          simp only [Except.map]
          cases piece with
          | nil => exact ⟨written, rfl⟩
          | cons c piece =>
            obtain ⟨c', piece', hpiece'⟩ := List.exists_cons_of_length_eq_add_one hpiece.symm
            rw [hpiece'] at hpiece ⊢
            have hdrop : ((a :: as).drop (c :: piece).length).length =
                ((b :: bs).drop (c' :: piece').length).length := by
              rw [List.length_drop, List.length_drop, hl, hpiece]
            obtain ⟨written', hgo⟩ := ih (sink.take (c :: piece)) ((c' :: piece') :: written) hdrop
            rw [← take_having sink written hpiece] at hgo
            exact ⟨written', hgo⟩

lemma write_having (sink : Sink) (written : List Bytes) {p q : Packet} (hl : p.bytes.length = q.bytes.length) :
    ∃ written', (sink.having written).write q = ((sink.write p).1, (sink.write p).2.having written') := by
  obtain ⟨written', hgo⟩ := writeAll_go_having sink.calls sink written hl
  refine ⟨written', ?_⟩
  simp only [write, writeAll]
  rw [show (sink.having written).calls = sink.calls from rfl, hgo]
  rcases writeAll.go sink.calls sink p.bytes with ⟨e | u, sink'⟩
  · rfl
  · simp only [flush, having]
    cases sink'.flushFault? <;> rfl

end Wire.Sink

namespace Talk

variable {α β σ : Type}

lemma run_map (network : Network σ) (f : α → β) (t : Talk α) (s : σ) :
    (f <$> t).run network s = (t.run network s).map fun (a, s, es) => (f a, s, es) := by
  induction t generalizing s with
  | done a => rfl
  | ask r next ih =>
    change (ask r fun answer => f <$> next answer).run network s = _
    simp only [run, ih, Option.map_map]
    split
    · rfl
    · rw [Option.map_map]
      rfl

end Talk

namespace Duplex

variable {α : Type} {d d' : Duplex} {a : α} {es : List Event}

def having (d : Duplex) (written : List Bytes) : Duplex := { d with sink := d.sink.having written }

lemma network_having {r : Request} {answer : r.Answer} (written : List Bytes)
    (h : network r d = some (answer, d')) :
    ∃ written', network r (d.having written) = some (answer, d'.having written') := by
  cases r with
  | send leg p =>
    obtain ⟨written', hwrite⟩ := d.sink.write_having written (p := p) (q := p) rfl
    obtain ⟨rfl, rfl⟩ : (d.sink.write p).1 = answer ∧ { d with sink := (d.sink.write p).2 } = d' := by
      simpa [network] using h
    exact ⟨written', by simp only [network, having, hwrite]⟩
  | receive leg =>
    obtain ⟨rfl, rfl⟩ : d.source.read.result = answer ∧ { d with source := d.source.read.rest } = d' := by
      simpa [network] using h
    exact ⟨written, rfl⟩
  | _ => cases h

lemma run_having {talk : Talk α} (written : List Bytes) (h : talk.run network d = some (a, d', es)) :
    ∃ written', talk.run network (d.having written) = some (a, d'.having written', es) := by
  induction talk generalizing d es written with
  | done b =>
    obtain ⟨rfl, rfl, rfl⟩ := Talk.run_done.mp h
    exact ⟨written, rfl⟩
  | ask r next ih =>
    obtain ⟨answer, d₁, fs, hr, hb, rfl⟩ := Talk.run_ask.mp h
    obtain ⟨written₁, hr'⟩ := network_having written hr
    obtain ⟨written', hb'⟩ := ih answer written₁ hb
    exact ⟨written', Talk.run_ask.mpr ⟨answer, _, fs, hr', hb', rfl⟩⟩

end Duplex

namespace Exchange

open Talk

def afterPassword (answer : Except LinkError Unit) : Talk (Except ExchangeError Access) :=
  (linked answer >>= fun _ => expectControl .inbound .acknowledge >>= fun _ => readAccess).run

lemma authorize_eq {password : Bytes} {f : Frame} (hf : Message.frame ⟨.authRequest, password⟩ = .ok f) :
    (authorize password).run = .ask (.receive .inbound) fun
      | .error e => .done (.error (.ofWire e))
      | .ok p =>
        if p = .control .request then .ask (.send .inbound (.message f)) afterPassword
        else .done (.error (.control .request p.name)) := by
  have hauthorize : authorize password = expectControl .inbound .request >>= fun _ =>
      send .inbound (.message f) >>= fun _ => expectControl .inbound .acknowledge >>= fun _ => readAccess := by
    simp only [authorize, deliver, sendMessage, hf, coded, bind_assoc, pure_bind]
  rw [hauthorize]
  refine congrArg (Talk.ask _) (funext fun received => ?_)
  rcases received with e | p
  · rfl
  change ((if p = .control .request then pure () else throw (.control .request p.name) : Exchange Unit) >>= fun _ =>
    send .inbound (.message f) >>= fun _ => expectControl .inbound .acknowledge >>= fun _ => readAccess).run = _
  dsimp only
  split
  · rfl
  · rfl

variable {p q : Bytes} {f g : Frame} {d : Duplex}

lemma run_authorize_unasked (hf : Message.frame ⟨.authRequest, p⟩ = .ok f)
    (hg : Message.frame ⟨.authRequest, q⟩ = .ok g) (h : d.source.read.result ≠ .ok (.control .request)) :
    ∃ r d' e, (authorize p).run.run Duplex.network d = some (r, d', [e]) ∧
      (authorize q).run.run Duplex.network d = some (r, d', [e]) := by
  rw [authorize_eq hf, authorize_eq hg]
  cases hr : d.source.read.result with
  | error e =>
    refine ⟨.error (.ofWire e), { d with source := d.source.read.rest }, ⟨.receive .inbound, .error e⟩, ?_, ?_⟩ <;>
      exact Talk.run_ask.mpr ⟨_, _, [], by rw [Duplex.network, hr], rfl, rfl⟩
  | ok packet =>
    have hp : packet ≠ .control .request := fun heq => h (hr.trans (by rw [heq]))
    refine ⟨.error (.control .request packet.name), { d with source := d.source.read.rest },
      .received .inbound packet, ?_, ?_⟩ <;>
      exact Talk.run_ask.mpr ⟨_, _, [], by rw [Duplex.network, hr], by dsimp only; rw [if_neg hp]; rfl, rfl⟩

lemma run_authorize_asked (hf : Message.frame ⟨.authRequest, p⟩ = .ok f)
    (hg : Message.frame ⟨.authRequest, q⟩ = .ok g) (hl : f.bytes.length = g.bytes.length)
    (h : d.source.read.result = .ok (.control .request)) :
    ∃ r answer d' written es,
      (authorize p).run.run Duplex.network d = some (r, d',
        .received .inbound (.control .request) :: ⟨.send .inbound (.message f), answer⟩ :: es) ∧
      (authorize q).run.run Duplex.network d = some (r, d'.having written,
        .received .inbound (.control .request) :: ⟨.send .inbound (.message g), answer⟩ :: es) := by
  have hcrosses : (authorize p).run.Only Channel.Crosses := only_authorize.mono fun _ => Channel.crosses_of_carries
  obtain ⟨r, d', events, hrun⟩ := Channel.exists_run hcrosses d
  have hreceive : Duplex.network (.receive .inbound) d =
      some (.ok (.control .request), { d with source := d.source.read.rest }) := by rw [Duplex.network, h]
  rw [authorize_eq hf] at hrun ⊢
  obtain ⟨answer, d₁, events, hr, hnext, rfl⟩ := Talk.run_ask.mp hrun
  obtain ⟨rfl, rfl⟩ := Prod.mk.inj (Option.some.inj (hreceive.symm.trans hr))
  obtain ⟨answer, d₂, es, hsend, hafter, rfl⟩ := Talk.run_ask.mp hnext
  obtain ⟨rfl, rfl⟩ := Prod.mk.inj (Option.some.inj hsend)
  obtain ⟨written, hwrite⟩ := d.sink.write_having d.sink.written (p := .message f) (q := .message g) hl
  obtain ⟨written', hafter'⟩ := Duplex.run_having written hafter
  refine ⟨r, _, d', written', es, hrun, ?_⟩
  rw [authorize_eq hg]
  refine Talk.run_ask.mpr ⟨_, _, _, hreceive, Talk.run_ask.mpr ⟨_, _, es, ?_, hafter', rfl⟩, rfl⟩
  have hsink : d.sink.having d.sink.written = d.sink := rfl
  rw [hsink] at hwrite
  rw [Duplex.network]
  dsimp only
  rw [hwrite]
  rfl

end Exchange

namespace Message

lemma frame_authRequest {p : Bytes} {f : Frame} (h : frame ⟨.authRequest, p⟩ = .ok f) :
    f = ⟨Origin.desktop.header.setLength (2 + UInt16.ofNat p.length), MessageType.authRequest.tag,
      some (Bytes.ofWord (UInt16.ofNat p.length) ++ p),
      checksum MessageType.authRequest.tag (Bytes.ofWord (UInt16.ofNat p.length) ++ p)⟩ := by
  have hfits : 2 + p.length ≤ Frame.contentLimit := fits_of_frame h
  have hcount : p.length ≤ Output.countLimit := by
    simp only [Frame.contentLimit, Output.countLimit] at hfits ⊢
    omega
  have hreserve : 2 + p.length < memoryLimit := by
    simp only [Frame.contentLimit, memoryLimit] at hfits ⊢
    omega
  have hlimit : ¬ Frame.contentLimit < 2 + p.length := Nat.not_lt.mpr hfits
  have hlength : encodedLength ⟨.authRequest, p⟩ = 2 + p.length := rfl
  have hencode : encode ⟨.authRequest, p⟩ = .ok (Bytes.ofWord (UInt16.ofNat p.length) ++ p) := by
    simp only [encode, write, MessageType.layout, Layout.blob, Output.blob, Output.count, if_pos hcount]
    rfl
  simp [frame, fillFrame, Frame.new, Frame.isFilled, reserve, hlength, hreserve, hencode, Frame.fill, hlimit, tag,
    Message.origin, MessageType.origin, Frame.origin, bind, Except.bind] at h
  exact h.symm

lemma bytes_authRequest {p q : Bytes} {f g : Frame} (hl : p.length = q.length)
    (hf : frame ⟨.authRequest, p⟩ = .ok f) (hg : frame ⟨.authRequest, q⟩ = .ok g) :
    ∃ lead, f.bytes = lead ++ (p ++ Bytes.ofWord f.checksum) ∧ g.bytes = lead ++ (q ++ Bytes.ofWord g.checksum) := by
  have hheader : g.header = f.header := by rw [frame_authRequest hf, frame_authRequest hg, hl]
  have htag : g.tag = f.tag := by rw [frame_authRequest hf, frame_authRequest hg]
  have hf' : f.content = Bytes.ofWord (UInt16.ofNat p.length) ++ p := by rw [frame_authRequest hf]; rfl
  have hg' : g.content = Bytes.ofWord (UInt16.ofNat p.length) ++ q := by rw [frame_authRequest hg, hl]; rfl
  have hsize : g.bodySize = f.bodySize := by
    rw [Frame.bodySize, Frame.bodySize, hf', hg', List.length_append, List.length_append, hl]
  refine ⟨f.header.val ++ (Bytes.ofWord f.bodySize ++ (f.tag.bytes.val ++ Bytes.ofWord (UInt16.ofNat p.length))),
    ?_, ?_⟩
  · simp only [Frame.bytes, hf', List.append_assoc]
  · simp only [Frame.bytes, hheader, htag, hsize, hg', List.append_assoc]

end Message

namespace Session

variable {s : Session} {d : Duplex} {p q : Bytes} {f g : Frame}

abbrev Tells (s : Session) (d : Duplex) : Prop :=
  s.HasReached .infoKnown ∧ s.inbound ∧ d.source.read.result = .ok (.control .request)

def tries (s : Session) (d : Duplex) (password : Bytes) (t : String) :
    Option ((Except SessionError Access × Session) × String) :=
  (((authenticate (b := Talk) password).run.run s).run (Duplex.network.noting .file) (d, t)).map
    fun (outcome, (_, t), _) => (outcome, t)

lemma tries_eq (s : Session) (d : Duplex) (password : Bytes) (t : String) : s.tries d password t =
    (((authenticate (b := Talk) password).run.run s).run Duplex.network d).map
      fun (outcome, _, es) => (outcome, t ++ Log.text (Log.ofEvents es)) := by
  rw [tries, Journal.run_noting, Option.map_map]
  refine congrArg (Option.map · _) (funext fun (outcome, d, es) => ?_)
  simp only [Function.comp, Journal.record_file]

lemma tries_of_run {r : Except ExchangeError Access} {d' : Duplex} {es : List Event} (t : String)
    (hs : s.HasReached .infoKnown ∧ s.inbound)
    (h : (Exchange.authorize p).run.run Duplex.network d = some (r, d', es)) :
    s.tries d p t = some (s.admission r, t ++ Log.text (Log.ofEvents es)) := by
  have hq : s.question "authenticate" .infoKnown (fun _ => .ok p) = .ok p := question_eq_ok.mpr ⟨hs.1, rfl, hs.2⟩
  rw [tries_eq, run_authenticate, hq]
  change ((s.admission <$> (Exchange.authorize p).run).run Duplex.network d).map _ = _
  rw [Talk.run_map, h]
  rfl

lemma tries_refused (d : Duplex) (t : String) (hs : ¬ (s.HasReached .infoKnown ∧ s.inbound)) :
    ∃ e, ∀ password, s.tries d password t = some ((.error e, s), t) := by
  obtain ⟨e, he⟩ : ∃ e, ∀ password : Bytes,
      s.question "authenticate" .infoKnown (fun _ => .ok password) = .error e := by
    unfold question
    by_cases hr : s.HasReached .infoKnown
    · have hi : ¬ s.inbound := fun hi => hs ⟨hr, hi⟩
      exact ⟨.notConnected, fun password => by simp [hr, hi]⟩
    · exact ⟨.invalidState "authenticate" s.state, fun password => if_neg hr⟩
  refine ⟨e, fun password => ?_⟩
  rw [tries_eq, run_authenticate, he]
  exact congrArg (some <| Prod.mk _ ·) String.append_empty

def mention (s : Session) (d : Duplex) (f : Frame) : String :=
  if s.Tells d then (Entry.ofPacket .sent (.message f)).text else ""

lemma exists_tries (d : Duplex) (t : String) (hl : p.length = q.length)
    (hf : Message.frame ⟨.authRequest, p⟩ = .ok f) (hg : Message.frame ⟨.authRequest, q⟩ = .ok g) :
    ∃ outcome before after,
      s.tries d p t = some (outcome, t ++ (before ++ (s.mention d f ++ after))) ∧
      s.tries d q t = some (outcome, t ++ (before ++ (s.mention d g ++ after))) := by
  by_cases hs : s.HasReached .infoKnown ∧ s.inbound
  · by_cases hasked : d.source.read.result = .ok (.control .request)
    · have hlength : f.bytes.length = g.bytes.length := by
        obtain ⟨lead, hfb, hgb⟩ := Message.bytes_authRequest hl hf hg
        simp only [hfb, hgb, List.length_append, hl, Bytes.length_ofWord]
      have htells : s.Tells d := ⟨hs.1, hs.2, hasked⟩
      obtain ⟨r, answer, d', written, es, hp, hq⟩ := Exchange.run_authorize_asked hf hg hlength hasked
      refine ⟨s.admission r, (Entry.ofPacket .received (.control .request)).text, Log.text (Log.ofEvents es), ?_, ?_⟩
      · rw [tries_of_run t hs hp, mention, if_pos htells]
        simp [Log.ofEvents, Log.text, Entry.ofEvent?, Event.received]
      · rw [tries_of_run t hs hq, mention, if_pos htells]
        simp [Log.ofEvents, Log.text, Entry.ofEvent?, Event.received]
    · have hmute : ¬ s.Tells d := fun h => hasked h.2.2
      obtain ⟨r, d', e, hp, hq⟩ := Exchange.run_authorize_unasked hf hg hasked
      refine ⟨s.admission r, Log.text (Log.ofEvents [e]), "", ?_, ?_⟩
      · rw [tries_of_run t hs hp, mention, if_neg hmute, String.append_empty, String.append_empty]
      · rw [tries_of_run t hs hq, mention, if_neg hmute, String.append_empty, String.append_empty]
  · have hmute : ¬ s.Tells d := fun h => hs ⟨h.1, h.2.1⟩
    obtain ⟨e, he⟩ := tries_refused d t hs
    refine ⟨(.error e, s), "", "", ?_, ?_⟩ <;>
      rw [he, mention, if_neg hmute, String.append_empty, String.append_empty, String.append_empty]

lemma text_request_inj (hl : p.length = q.length) (hf : Message.frame ⟨.authRequest, p⟩ = .ok f)
    (hg : Message.frame ⟨.authRequest, q⟩ = .ok g)
    (h : (Entry.ofPacket .sent (.message f)).text = (Entry.ofPacket .sent (.message g)).text) : p = q := by
  obtain ⟨lead, hfb, hgb⟩ := Message.bytes_authRequest hl hf hg
  have hlength : f.bytes.length = g.bytes.length := by
    simp only [hfb, hgb, List.length_append, hl, Bytes.length_ofWord]
  have hbytes : f.bytes = g.bytes := Entry.bytes_eq_of_text_eq hlength h
  rw [hfb, hgb] at hbytes
  exact (List.append_inj ((List.append_right_inj lead).mp hbytes) hl).1

lemma log_eq_iff (s : Session) (d : Duplex) (t : String) (hl : p.length = q.length)
    (hf : Message.frame ⟨.authRequest, p⟩ = .ok f) (hg : Message.frame ⟨.authRequest, q⟩ = .ok g) :
    (s.tries d p t).map Prod.snd = (s.tries d q t).map Prod.snd ↔ (s.Tells d → p = q) := by
  obtain ⟨outcome, before, after, hp, hq⟩ := exists_tries (s := s) d t hl hf hg
  have hmention : (s.tries d p t).map Prod.snd = (s.tries d q t).map Prod.snd ↔ s.mention d f = s.mention d g := by
    rw [hp, hq]
    simp [String.append_right_inj, String.append_left_inj]
  rw [hmention]
  constructor
  · intro h htells
    rw [mention, mention, if_pos htells, if_pos htells] at h
    exact text_request_inj hl hf hg h
  · intro h
    by_cases htells : s.Tells d
    · obtain rfl := h htells
      rw [Except.ok.inj (hf.symm.trans hg)]
    · rw [mention, mention, if_neg htells, if_neg htells]

/-- A log tells a password in the entry of the request that carries it, and nowhere else. -/
theorem password_in_one_entry (s : Session) (d : Duplex) (t : String) (hl : p.length = q.length)
    (hf : Message.frame ⟨.authRequest, p⟩ = .ok f) (hg : Message.frame ⟨.authRequest, q⟩ = .ok g) :
    (∃ outcome before after,
      s.tries d p t = some (outcome, t ++ (before ++ (s.mention d f ++ after))) ∧
      s.tries d q t = some (outcome, t ++ (before ++ (s.mention d g ++ after)))) ∧
    (∃ lead, f.bytes = lead ++ (p ++ Bytes.ofWord f.checksum) ∧ g.bytes = lead ++ (q ++ Bytes.ofWord g.checksum)) ∧
    ((s.tries d p t).map Prod.snd = (s.tries d q t).map Prod.snd ↔ (s.Tells d → p = q)) :=
  ⟨exists_tries d t hl hf hg, Message.bytes_authRequest hl hf hg, log_eq_iff s d t hl hf hg⟩

theorem password_in_one_entry_asked : ∃ (s : Session) (asking silent : Duplex) (f g : Frame),
    Message.frame ⟨.authRequest, [0x61]⟩ = .ok f ∧ Message.frame ⟨.authRequest, [0x62]⟩ = .ok g ∧
    (s.tries asking [0x61] "").map Prod.snd ≠ (s.tries asking [0x62] "").map Prod.snd ∧
    (s.tries silent [0x61] "").map Prod.snd = (s.tries silent [0x62] "").map Prod.snd := by
  let s : Session := { Session.new .standard with inbound := true, outbound := true, state := .infoKnown }
  let sink : Sink := ⟨[], none, none, none, [], 0⟩
  obtain ⟨f, _, hf, -⟩ := Message.frame_of_fits (m := ⟨.authRequest, [0x61]⟩) (by decide)
  obtain ⟨g, _, hg, -⟩ := Message.frame_of_fits (m := ⟨.authRequest, [0x62]⟩) (by decide)
  have hl : ([0x61] : Bytes).length = ([0x62] : Bytes).length := rfl
  have hasking := (password_in_one_entry s ⟨[.data Control.request.frame], sink⟩ "" hl hf hg).2.2
  have hsilent := (password_in_one_entry s ⟨[], sink⟩ "" hl hf hg).2.2
  refine ⟨s, ⟨[.data Control.request.frame], sink⟩, ⟨[], sink⟩, f, g, hf, hg, fun h => ?_, hsilent.mpr fun h => ?_⟩
  · exact absurd (hasking.mp h (by decide)) (by decide)
  · exact absurd h (by decide)

theorem not_always_concealed : ¬ ∀ (s : Session) (d : Duplex) (t : String) (p q : Bytes),
    s.HasReached .infoKnown → s.inbound → p.length = q.length →
      Message.Fits ⟨.authRequest, p⟩ → Message.Fits ⟨.authRequest, q⟩ →
      (s.tries d p t).map Prod.snd = (s.tries d q t).map Prod.snd := by
  intro h
  let s : Session := { Session.new .standard with inbound := true, outbound := true, state := .infoKnown }
  let d : Duplex := ⟨[.data Control.request.frame], ⟨[], none, none, none, [], 0⟩⟩
  have hp : Message.Fits ⟨.authRequest, [0x61]⟩ := by decide
  have hq : Message.Fits ⟨.authRequest, [0x62]⟩ := by decide
  obtain ⟨f, _, hf, -⟩ := Message.frame_of_fits hp
  obtain ⟨g, _, hg, -⟩ := Message.frame_of_fits hq
  have hl : ([0x61] : Bytes).length = ([0x62] : Bytes).length := rfl
  have hsame := h s d "" [0x61] [0x62] (by decide) rfl hl hp hq
  exact absurd ((log_eq_iff s d "" hl hf hg).mp hsame (by decide)) (by decide)

end Session

end PimSync
