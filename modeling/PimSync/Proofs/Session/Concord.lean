import PimSync.Proofs.Session.Admission
import PimSync.Proofs.Session.Composing
import PimSync.Proofs.Session.Failures
import PimSync.Proofs.Simulation.Greetings

/-! What a session takes for the flags of its device. -/

namespace PimSync

open Simulation

lemma Device.answer_of_message {d : Device} {m reply : Message} (h : (d.respond m).1 = .ok (.message reply))
    (ho : ¬ isOpen m.type) :
    d.unlocked ∧ ∃ d', (d.respond m).2 = d' ∧ (d.record m).answer m = .ok (.message reply, d') := by
  have hd := unlocked_of_message h ho
  refine ⟨hd, _, rfl, ?_⟩
  have hopen : ¬ (¬ (d.record m).unlocked ∧ ¬ isOpen m.type) := fun hl => hl.1 hd
  simp only [respond, if_neg hopen] at h ⊢
  rcases ha : (d.record m).answer m with e | ⟨r, d'⟩ <;> rw [ha] at h <;> cases h
  rfl

namespace Session

open Wire Procedure Scene

variable {α β : Type} {s s' : Session} {d : Device} {c c' : Scene}

structure Apart (s : Session) : Prop where
  connected : ¬ s.state.isConnected
  inbound : s.inbound = false
  outbound : s.outbound = false
  listening : s.state = .listening → s.listening ∧ s.flags? = none

def Shares (s : Session) (d : Device) : Prop := ∀ f, s.flags? = some f → d.unlocked ∧ d.flags = f

inductive Concord : Session → Scene → Prop
  | apart {s : Session} (initiating : Bool) (d : Device) (desktop : Endpoint) (host : Leg → String) :
      s.Apart → Concord s (.before initiating d desktop host)
  | joined {s : Session} {d : Device} (x : Calls) (host : Leg → String) :
      s.Joined → s.Shares d → Concord s (.awaiting d x host)
  | adrift {s : Session} {c : Scene} {flags : Flags} :
      s.Joined → c.Adrift flags → (∀ f, s.flags? = some f → f = flags) → Concord s c
  | parted {s : Session} {c : Scene} : ¬ s.state.isConnected → c.Parted → Concord s c

lemma Apart.new (config : Config) : (new config).Apart := ⟨State.not_isConnected_idle, rfl, rfl, nofun⟩

namespace Stays

lemma joined (h : s.Stays s') (hj : s.Joined) : s'.Joined :=
  ⟨h.isConnected ▸ hj.1, h.inbound ▸ hj.2.1, h.outbound ▸ hj.2.2⟩

lemma apart (h : s.Stays s') (hf : s'.flags? = s.flags?) (ha : s.Apart) : s'.Apart := by
  refine ⟨h.isConnected ▸ ha.connected, h.inbound.trans ha.inbound, h.outbound.trans ha.outbound, fun hs => ?_⟩
  rw [h.listening, hf]
  refine ha.listening ?_
  rcases h.state with he | ⟨hc, -⟩
  · rw [← he, hs]
  · exact absurd hc ha.connected

end Stays

lemma Concord.stays (h : Concord s c) (hs : s.Stays s') (hf : s'.flags? = s.flags?) : Concord s' c := by
  cases h with
  | apart initiating d desktop host ha => exact .apart initiating d desktop host (hs.apart hf ha)
  | joined x host hj hd => exact .joined x host (hs.joined hj) (by rwa [Shares, hf])
  | adrift hj ha hflags => exact .adrift (hs.joined hj) ha (by rwa [hf])
  | parted hc hp => exact .parted (hs.isConnected ▸ hc) hp

def Maintains (x : Operation α) : Prop :=
  ∀ s c, Concord s c → c.Does (x.run.run s) fun r c' => Concord r.2 c'

namespace Maintains

variable {x : Operation α} {f : α → Operation β}

lemma bind (hx : Maintains x) (hf : ∀ a, Maintains (f a)) : Maintains (x >>= f) := by
  intro s c h
  rw [run_bind]
  refine (hx s c h).bind fun (r, s') c' h' => ?_
  cases r with
  | error e => exact .pure h'
  | ok a => exact hf a s' c' h'

lemma of_run (hx : ∀ s, ∃ r, x.run.run s = pure (r, s)) : Maintains x := by
  intro s c h
  obtain ⟨r, hr⟩ := hx s
  rw [hr]
  exact .pure h

lemma change {f : Session → Session} (hs : ∀ s : Session, s.Stays (f s)) (hf : ∀ s, (f s).flags? = s.flags?) :
    Maintains (modify f : Operation Unit) := by
  intro s c h
  have hrun := run_modifyGet (b := Talk) (fun s => ((), f s)) s
  rw [modify, hrun]
  exact .pure (h.stays (hs s) (hf s))

end Maintains

lemma composes_maintains : Composes Maintains where
  bind := .bind
  looks hx _ := .of_run fun s => ⟨_, hx s⟩

section Requests

variable {request reply : MessageType} {operation : String} {least : State}
  {content : Session → Except SessionError request.Payload} {conclude : reply.Payload → Session → α × Session}

lemma stays_conclusion (hs : ∀ answer, s.Stays (conclude answer s).2) (answer : Except ExchangeError Message) :
    s.Stays (s.conclusion reply conclude answer).2 := by
  unfold conclusion
  split
  · exact .refl s
  · split
    · exact hs _
    · exact .refl s

lemma Concord.connected (h : Concord s c) (hs : s.state.isConnected) :
    (∃ d x host, c = .awaiting d x host ∧ s.Joined ∧ s.Shares d) ∨
      ∃ flags, s.Joined ∧ c.Adrift flags ∧ ∀ f, s.flags? = some f → f = flags := by
  cases h with
  | apart _ _ _ _ ha => exact absurd hs ha.connected
  | joined x host hj hd => exact .inl ⟨_, x, host, rfl, hj, hd⟩
  | adrift hj ha hflags => exact .inr ⟨_, hj, ha, hflags⟩
  | parted hn _ => exact absurd hs hn

lemma Shares.adrift (h : s.Shares d) (hj : s.Joined) (ha : c.Adrift d.flags) : Concord s c :=
  .adrift hj ha fun f hf => (h f hf).2.symm

lemma maintains_pose (hm : ∀ payload (d : Device), ∃ x, d.answer ⟨request, payload⟩ = .ok x)
    (ht : request ≠ .terminate)
    (hs : ∀ s : Session, s.state.isConnected → ∀ answer, s.Stays (conclude answer s).2)
    (hd : ∀ (s : Session) (d : Device) payload m, content s = .ok payload → s.Shares d →
      (d.respond ⟨request, payload⟩).1 = .ok (.message m) →
        (s.conclusion reply conclude (.ok m)).2.Shares (d.respond ⟨request, payload⟩).2) :
    Maintains (pose request reply operation least content conclude) := by
  intro s c h
  rw [run_pose]
  cases hq : s.question operation least content with
  | error e => exact .pure h
  | ok payload =>
    obtain ⟨hreach, hcontent, -⟩ := question_eq_ok.mp hq
    have hstays (answer : Except ExchangeError Message) : s.Stays (s.conclusion reply conclude answer).2 :=
      stays_conclusion (hs s hreach.1) answer
    rcases h.connected hreach.1 with ⟨d, x, host, rfl, hj, hshares⟩ | ⟨flags, hj, ha, hflags⟩
    · refine (does_ask (hm payload) ht).map fun r c' hr => ?_
      rcases hr with ⟨m, hr, rfl, rfl⟩ | ⟨⟨e, rfl⟩, ha⟩
      · exact .joined x host ((hstays _).joined hj) (hd s d payload m hcontent hshares hr)
      · exact hshares.adrift hj ha
    · refine (ha.does_ask _).map fun r c' hr => ?_
      obtain ⟨⟨e, rfl⟩, ha⟩ := hr
      exact .adrift hj ha hflags

lemma maintains_plain (hm : ∀ payload (d : Device), ∃ x, d.answer ⟨request, payload⟩ = .ok x)
    (ht : request ≠ .terminate ∧ request ≠ .setState ∧ request ≠ .syncDone)
    (hs : ∀ s : Session, s.state.isConnected → ∀ answer, s.Stays (conclude answer s).2)
    (hf : ∀ (s : Session) answer, (conclude answer s).2.flags? = s.flags?) :
    Maintains (pose request reply operation least content conclude) := by
  refine maintains_pose hm ht.1 hs fun s d payload m _ hshares _ f hflags => ?_
  have hkept : (s.conclusion reply conclude (.ok m)).2.flags? = s.flags? := by
    unfold conclusion
    dsimp only
    split
    · exact hf s _
    · rfl
  rw [hkept] at hflags
  obtain ⟨hu, hd⟩ := hshares f hflags
  exact ⟨Device.unlocked_respond _ hu, (Device.flags_respond ht.2.1 ht.2.2).trans hd⟩

lemma flags_advance (s : Session) (t : State) : (s.advance t).flags? = s.flags? := by
  rw [advance_eq]

lemma stays_advance {t : State} (hs : s.state.isConnected) (ht : t.isConnected) : s.Stays (s.advance t) :=
  (Stays.refl s).advance hs ht

lemma maintains_requestInfo : Maintains requestInfo := by
  refine maintains_plain (fun _ _ => ⟨_, rfl⟩) ⟨nofun, nofun, nofun⟩ (fun s hs info => ?_)
    fun s info => flags_advance _ _
  exact (⟨.inl rfl, rfl, rfl, rfl⟩ : s.Stays { s with device? := some info }).advance hs rfl

lemma maintains_authenticate (password : Bytes) : Maintains (authenticate password) := by
  intro s c h
  rw [run_authenticate]
  cases hq : s.question "authenticate" .infoKnown fun _ => .ok password with
  | error e => exact .pure h
  | ok password =>
    have hc := (question_eq_ok.mp hq).1.1
    have hstays (access : Access) : s.Stays (s.admission (.ok access)).2 ∧
        (s.admission (.ok access)).2.flags? = s.flags? := by
      cases access with
      | granted =>
        have hs : s.Stays { s with access? := some .granted } := ⟨.inl rfl, rfl, rfl, rfl⟩
        exact ⟨hs.advance hc rfl, flags_advance _ _⟩
      | denied => exact ⟨⟨.inl rfl, rfl, rfl, rfl⟩, rfl⟩
    rcases h.connected hc with ⟨d, x, host, rfl, hj, hshares⟩ | ⟨flags, hj, ha, hflags⟩
    · refine (does_authorize password).map fun r c' hr => ?_
      rcases hr with ⟨access, rfl, rfl⟩ | ⟨⟨e, rfl⟩, ha⟩
      · obtain ⟨hs, hf⟩ := hstays access
        refine .joined x host (hs.joined hj) fun f hflags => ?_
        obtain ⟨hu, hd⟩ := hshares f (hf ▸ hflags)
        exact ⟨Device.unlocked_respond _ hu,
          (Device.flags_respond (m := ⟨.authRequest, password⟩) nofun nofun).trans hd⟩
      · exact hshares.adrift hj ha
    · refine (ha.does_authorize _).map fun r c' hr => ?_
      obtain ⟨⟨e, rfl⟩, ha⟩ := hr
      exact .adrift hj ha hflags

lemma maintains_requestState : Maintains requestState := by
  refine maintains_pose (fun _ _ => ⟨_, rfl⟩) nofun (fun s hs flags => ?_) fun s d c m _ _ hr => ?_
  · exact (⟨.inl rfl, rfl, rfl, rfl⟩ : s.Stays { s with flags? := some flags }).advance hs rfl
  · obtain ⟨hu, d', hd', ha⟩ := Device.answer_of_message hr nofun
    rw [hd']
    cases ha
    intro f hf
    have hflags : ({ s with flags? := some d.flags }.advance .stateKnown).flags? = some f := hf
    rw [flags_advance] at hflags
    exact ⟨hu, Option.some.inj hflags⟩

lemma maintains_resetState (c : Category) : Maintains (resetState c) := by
  refine maintains_pose (fun _ _ => ⟨_, rfl⟩) nofun (fun s _ _ => ⟨.inl rfl, rfl, rfl, rfl⟩)
    fun s d flags m hc _ hr => ?_
  obtain ⟨hu, d', hd', ha⟩ := Device.answer_of_message hr nofun
  obtain rfl := Except.ok.inj hc
  rw [hd']
  cases ha
  exact fun f hf => ⟨hu, Option.some.inj hf⟩

lemma maintains_markDone : Maintains markDone := by
  refine maintains_pose (fun _ _ => ⟨_, rfl⟩) nofun (fun s hs _ => ⟨.inr ⟨hs, rfl⟩, rfl, rfl, rfl⟩)
    fun s d c m hc hshares hr => ?_
  obtain ⟨hu, d', hd', ha⟩ := Device.answer_of_message hr nofun
  obtain rfl := Except.ok.inj hc
  rw [hd']
  cases ha
  intro f hf
  obtain ⟨known, hknown, rfl⟩ := Option.map_eq_some_iff.mp hf
  exact ⟨hu, congrArg (·.mark s.category) (hshares known hknown).2⟩

lemma maintains_obtainFormat : Maintains obtainFormat := by
  refine maintains_plain (fun _ _ => ⟨_, rfl⟩) ⟨nofun, nofun, nofun⟩ (fun s hs entries => ?_)
    fun s entries => flags_advance _ _
  have h := stays_advance (t := .formatKnown) hs rfl
  exact ⟨h.state, h.listening, h.inbound, h.outbound⟩

lemma maintains_requestIds : Maintains requestIds :=
  maintains_plain (fun _ _ => ⟨_, rfl⟩) ⟨nofun, nofun, nofun⟩ (fun _ hs _ => stays_advance hs rfl)
    fun s _ => flags_advance s _

lemma maintains_fetchValues (id : UInt32) : Maintains (fetchValues id) :=
  maintains_plain (fun _ _ => ⟨_, rfl⟩) ⟨nofun, nofun, nofun⟩ (fun _ hs _ => stays_advance hs rfl)
    fun s _ => flags_advance s _

lemma maintains_writeItem (w : ItemWrite) : Maintains (writeItem w) :=
  maintains_plain (fun _ _ => ⟨_, rfl⟩) ⟨nofun, nofun, nofun⟩ (fun s _ _ => .refl s) fun _ _ => rfl

lemma maintains_terminate : Maintains terminate := by
  intro s c h
  rw [run_terminate]
  cases hq : s.question "terminate" .connected fun _ => .ok () with
  | error e => exact .pure h
  | ok _ =>
    rcases h.connected (question_eq_ok.mp hq).1.1 with ⟨d, x, host, rfl, hj, hshares⟩ | ⟨flags, hj, ha, hflags⟩
    · have hlast : s.conclusion .complete Prod.mk (.ok ⟨.complete, ()⟩) = (.ok (), s) := by
        simp [conclusion, Message.payload?_eq_some.mpr]
      refine (becomes_left (g := s.parting) ?_ (respond_terminate ⟨d, []⟩)).does ?_
      · simp only [hlast, hj.2.2, if_true]
        rfl
      · exact .parted State.not_isConnected_disconnected ⟨rfl, rfl, trivial⟩
    · refine (ha.does_ask _).bind fun r c' hr => ?_
      obtain ⟨⟨e, rfl⟩, ha⟩ := hr
      exact .pure (.adrift hj ha hflags)

lemma maintains_errand (e : Errand) : Maintains e.perform := by
  refine composes_maintains.errand (fun e he => ?_) e
  cases e with
  | requestInfo => exact maintains_requestInfo
  | authenticate password => exact maintains_authenticate password
  | requestState => exact maintains_requestState
  | resetState c => exact maintains_resetState c
  | selectCategory c =>
    refine .change (fun s => stays_select c) fun s => ?_
    unfold select
    split <;> rfl
  | obtainFormat => exact maintains_obtainFormat
  | resetFormat => exact .change (fun s => stays_dropFormat) fun s => rfl
  | requestIds => exact maintains_requestIds
  | fetchValues id => exact maintains_fetchValues id
  | writeItem w => exact maintains_writeItem w
  | deleteItems ids =>
    exact maintains_plain (fun _ _ => ⟨_, rfl⟩) ⟨nofun, nofun, nofun⟩ (fun s _ _ => .refl s) fun _ _ => rfl
  | markDone => exact maintains_markDone
  | requestTime =>
    exact maintains_plain (fun _ _ => ⟨_, rfl⟩) ⟨nofun, nofun, nofun⟩ (fun s _ _ => .refl s) fun _ _ => rfl
  | setTime time =>
    exact maintains_plain (fun _ _ => ⟨_, rfl⟩) ⟨nofun, nofun, nofun⟩ (fun s _ _ => .refl s) fun _ _ => rfl
  | requestPath =>
    exact maintains_plain (fun _ _ => ⟨_, rfl⟩) ⟨nofun, nofun, nofun⟩ (fun s _ _ => .refl s) fun _ _ => rfl
  | terminate => exact maintains_terminate
  | fetchItem _ | insertItem _ | updateItem _ _ | pullChanges => exact absurd trivial he

end Requests

end Session

end PimSync
