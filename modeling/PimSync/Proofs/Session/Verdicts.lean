import PimSync.Proofs.Simulation.Delivery
import PimSync.Proofs.Talk.Sentences

namespace PimSync

open Wire

def Access.BroughtBy : Access → Bytes → Prop
  | .granted, answer => Message.SpeltBy ⟨.authNotRequired, ()⟩ answer
  | .denied, answer => ∃ reply, Message.SpeltBy ⟨.authDenied, ()⟩ reply ∧ answer = Control.abort.frame ++ reply

namespace Exchange

open Talk

def judged (expected : MessageType) (what : String) (access : Access) (reply : Message) : Except ExchangeError Access :=
  if reply.type = expected then .ok access else .error (.message what reply.name)

inductive Answers : Packet → Except ExchangeError Access → Bytes → Prop
  | plain {g reply} (h : Message.ofFrame g = .ok reply) :
      Answers (.message g) (judged .authNotRequired "auth not required" .granted reply) []
  | aborted {reply said} (h : reply.SpeltBy said) :
      Answers (.control .abort) (judged .authDenied "auth denied" .denied reply) said

def Brings (r : Except ExchangeError Access) (answer : Bytes) : Prop :=
  ∃ p said, p.Readable ∧ Answers p r said ∧ answer = p.bytes ++ said

variable {said answer : Bytes} {access access' : Access} {r : Except ExchangeError Access} {reply : Message}
variable {g : Frame} {expected : MessageType} {what : String}

lemma judged_eq_ok : judged expected what access reply = .ok access' ↔ reply.type = expected ∧ access = access' := by
  rw [judged]
  split <;> simp_all

lemma answers_message : Answers (.message g) r said ↔ ∃ reply, (Message.ofFrame g = .ok reply ∧ said = []) ∧
    r = judged .authNotRequired "auth not required" .granted reply := by
  constructor
  · rintro ⟨⟩
    exact ⟨_, ⟨‹_›, rfl⟩, rfl⟩
  · rintro ⟨reply, ⟨hg, rfl⟩, rfl⟩
    exact .plain hg

lemma answers_abort : Answers (.control .abort) r said ↔ ∃ reply : Message, reply.SpeltBy said ∧
    r = judged .authDenied "auth denied" .denied reply := by
  constructor
  · rintro ⟨⟩
    exact ⟨_, ‹_›, rfl⟩
  · rintro ⟨reply, hreply, rfl⟩
    exact .aborted hreply

lemma understands_readAccess : readAccess.Understands Brings
    (Control.request.frame ++ Control.acknowledge.frame) [Control.request.frame] := by
  rw [readAccess]
  refine ((understands_send _).bind fun _ => understands_receive.bind fun p =>
    (?_ : Understands _ (Answers p) Control.acknowledge.frame [[]])).congr ?_ rfl ?_
  · cases p with
    | message g =>
      refine (understands_acknowledged (understands_coded _)
        (r := judged .authNotRequired "auth not required" .granted) ?_).congr
          (fun _ _ => answers_message) rfl (List.Subset.refl _)
      rintro ⟨t, payload⟩
      cases t <;> rfl
    | control c =>
      cases c with
      | abort =>
        refine (understands_acknowledged understands_receiveMessage
          (r := judged .authDenied "auth denied" .denied) ?_).congr
            (fun _ _ => answers_abort) rfl (List.Subset.refl _)
        rintro ⟨t, payload⟩
        cases t <;> rfl
      | _ =>
        refine (understands_throw _ _).congr (fun r said => iff_false_intro ?_) rfl (List.Subset.refl _)
        rintro ⟨⟩
  · intro r answer
    simp [Brings, and_assoc]
  · simp [Packet.bytes]

lemma understands_authorize {password : Bytes} {f : Frame} (h : Message.frame ⟨.authRequest, password⟩ = .ok f) :
    (authorize password).Understands
      (fun r said => ∃ answer, Brings r answer ∧
        said = Control.request.frame ++ (Control.acknowledge.frame ++ answer))
      (f.bytes ++ (Control.request.frame ++ Control.acknowledge.frame))
      ([[], f.bytes] ++ [f.bytes ++ Control.request.frame]) :=
  understands_deliver_bind h fun _ => understands_readAccess

lemma brings_ok : Brings (.ok access) answer ↔ access.BroughtBy answer := by
  constructor
  · rintro ⟨p, said, hp, hanswers, rfl⟩
    cases p with
    | message g =>
      obtain ⟨⟨t, payload⟩, ⟨hg, rfl⟩, hr⟩ := answers_message.mp hanswers
      obtain ⟨rfl, rfl⟩ := judged_eq_ok.mp hr.symm
      exact ⟨g, hp, hg, List.append_nil _⟩
    | control c =>
      cases c with
      | abort =>
        obtain ⟨⟨t, payload⟩, hreply, hr⟩ := answers_abort.mp hanswers
        obtain ⟨rfl, rfl⟩ := judged_eq_ok.mp hr.symm
        exact ⟨said, hreply, rfl⟩
      | _ => nomatch hanswers
  · intro h
    cases access with
    | granted =>
      obtain ⟨g, hg, hreply, rfl⟩ := h
      exact ⟨.message g, [], hg, .plain hreply, (List.append_nil _).symm⟩
    | denied =>
      obtain ⟨reply, hreply, rfl⟩ := h
      exact ⟨.control .abort, reply, trivial, .aborted hreply, rfl⟩

lemma Brings.exists_spelt (h : Brings r answer) : ∃ reply : Message, ∃ said, reply.SpeltBy said ∧
    (answer = said ∨ answer = Control.abort.frame ++ said) := by
  obtain ⟨p, said, hp, hanswers, rfl⟩ := h
  cases hanswers with
  | @plain g reply hg => exact ⟨reply, g.bytes, ⟨g, hp, hg, rfl⟩, .inl (List.append_nil _)⟩
  | @aborted reply said hreply => exact ⟨reply, said, hreply, .inr rfl⟩

end Exchange

namespace Session

open Exchange

lemma admission_eq_ok {s : Session} {r : Except ExchangeError Access} {access : Access} :
    (s.admission r).1 = .ok access ↔ r = .ok access := by
  rcases r with e | _ | _ <;> simp [admission]

lemma admission_eq_error {s : Session} {r : Except ExchangeError Access} {e : SessionError}
    (h : (s.admission r).1 = .error e) : (s.admission r).2 = s := by
  rcases r with x | _ | _
  · rfl
  · cases h
  · cases h

/-- Two conversations bring a verdict, and anything else is an error that leaves the session as it was. -/
theorem authenticate_byte_for_byte (s : Session) (password input : Bytes) (hs : s.HasReached .infoKnown)
    (hi : s.inbound) (hf : Message.Fits ⟨.authRequest, password⟩) : ∃ f result s' rest written,
    Message.frame ⟨.authRequest, password⟩ = .ok f ∧
    ((authenticate (b := Talk) password).run.run s).Makes input (result, s') rest written ∧
      (∀ access, result = .ok access ↔ ∃ answer, access.BroughtBy answer ∧
        Control.request.frame ++ (Control.acknowledge.frame ++ answer) <+: input) ∧
      (∀ access, result = .ok access → ∃ answer, access.BroughtBy answer ∧
        input = Control.request.frame ++ (Control.acknowledge.frame ++ answer) ++ rest ∧
        written = f.bytes ++ (Control.request.frame ++ Control.acknowledge.frame) ∧
        s' = (s.admission (.ok access)).2) ∧
      ∀ e, result = .error e → s' = s ∧
        (written ∈ [[], f.bytes, f.bytes ++ Control.request.frame] ∨
          written = f.bytes ++ (Control.request.frame ++ Control.acknowledge.frame) ∧
            ∃ reply : Message, ∃ said, reply.SpeltBy said ∧
              (Control.request.frame ++ (Control.acknowledge.frame ++ said) <+: input ∨
                Control.request.frame ++ (Control.acknowledge.frame ++ (Control.abort.frame ++ said)) <+: input)) := by
  obtain ⟨f, _, hframe, -⟩ := Message.frame_of_fits hf
  have hx := understands_authorize hframe
  obtain ⟨r, rest, written, hmakes, hvalue, houtcome⟩ := hx.outcome input
  refine ⟨f, (s.admission r).1, (s.admission r).2, rest, written, hframe, ?_, fun access => ?_, fun access hr => ?_,
    fun e he => ?_⟩
  · rw [Simulation.run_authenticate_asks hs hi]
    exact hmakes.map s.admission
  · rw [admission_eq_ok, hvalue]
    constructor
    · rintro ⟨_, ⟨answer, hbrings, rfl⟩, hpre⟩
      exact ⟨answer, brings_ok.mp hbrings, hpre⟩
    · rintro ⟨answer, hanswer, hpre⟩
      exact ⟨_, ⟨answer, brings_ok.mpr hanswer, rfl⟩, hpre⟩
  · obtain rfl := admission_eq_ok.mp hr
    rcases houtcome with ⟨_, ⟨answer, hbrings, rfl⟩, hinput, hwhole⟩ | ⟨⟨e, he⟩, -⟩
    · exact ⟨answer, brings_ok.mp hbrings, hinput, hwhole, rfl⟩
    · cases he
  · refine ⟨admission_eq_error he, ?_⟩
    rcases houtcome with ⟨_, ⟨answer, hbrings, rfl⟩, rfl, rfl⟩ | ⟨-, hpart⟩
    · obtain ⟨reply, said, hreply, hanswer⟩ := hbrings.exists_spelt
      refine .inr ⟨rfl, reply, said, hreply, ?_⟩
      rcases hanswer with rfl | rfl
      · exact .inl (List.prefix_append _ rest)
      · exact .inr (List.prefix_append _ rest)
    · exact .inl hpart

theorem authenticate_byte_for_byte_denied : ∃ s f g s' rest written,
    s.HasReached .infoKnown ∧ s.inbound ∧ Message.frame ⟨.authRequest, [0x61]⟩ = .ok f ∧
    Message.frame ⟨.authDenied, ()⟩ = .ok g ∧
    ((authenticate (b := Talk) [0x61]).run.run s).Makes (Control.request.frame ++
      (Control.acknowledge.frame ++ (Control.abort.frame ++ g.bytes))) (.ok .denied, s') rest written ∧
    written = f.bytes ++ (Control.request.frame ++ Control.acknowledge.frame) ∧
    s' = { s with access? := some .denied } := by
  let s : Session := { Session.new .standard with inbound := true, outbound := true, state := .infoKnown }
  have hs : s.HasReached .infoKnown := by decide
  obtain ⟨g, _, hg, -⟩ := Message.frame_of_fits (show Message.Fits ⟨.authDenied, ()⟩ by decide)
  obtain ⟨f, result, s', rest, written, hf, hmakes, hvalue, hverdict, -⟩ :=
    authenticate_byte_for_byte s [0x61] (Control.request.frame ++
      (Control.acknowledge.frame ++ (Control.abort.frame ++ g.bytes))) hs rfl (by decide)
  have hanswer : Access.BroughtBy .denied (Control.abort.frame ++ g.bytes) :=
    ⟨g.bytes, Message.speltBy_of_frame hg, rfl⟩
  obtain rfl := (hvalue .denied).mpr ⟨_, hanswer, List.prefix_refl _⟩
  obtain ⟨_, _, _, hwritten, hs'⟩ := hverdict .denied rfl
  exact ⟨s, f, g, s', rest, written, hs, rfl, hf, hg, hmakes, hwritten, hs'⟩

end Session

end PimSync
