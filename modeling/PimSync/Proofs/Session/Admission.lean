import PimSync.Proofs.Session.AtHand
import PimSync.Proofs.Session.Handshakes
import PimSync.Proofs.Session.Links
import PimSync.Proofs.Simulation.Encounters

namespace PimSync

open Simulation

def Config.attempt? (config : Config) (info : DeviceInfo) : Option Bytes :=
  config.password?.or (if info.requiresAuth then some [] else none)

lemma attempt?_eq_none {config : Config} {info : DeviceInfo} (h : config.attempt? info = none) :
    config.password? = none ∧ info.requiresAuth = false := by
  unfold Config.attempt? at h
  cases hp : config.password? with
  | some password => simp [hp] at h
  | none =>
    cases hr : info.requiresAuth with
    | true => simp [hp, hr] at h
    | false => exact ⟨rfl, rfl⟩

namespace Device

variable {d : Device} {password : Bytes}

structure Fresh (d : Device) : Prop where
  requests : d.requests = []
  unlocked : d.password? = none → d.unlocked
  requiresAuth : d.password?.isSome → d.info.requiresAuth

lemma Built.fresh (h : d.Built) : d.Fresh := by
  induction h with
  | new info time => exact ⟨rfl, fun _ => rfl, nofun⟩
  | lock password _ ih => exact ⟨ih.requests, nofun, fun _ => rfl⟩
  | withFlags _ _ ih | withStoragePath _ _ ih | withFormat _ _ _ ih | addNew _ _ _ _ ih | addModified _ _ _ _ ih
  | addDeleted _ _ _ ih => exact ⟨ih.requests, ih.unlocked, ih.requiresAuth⟩

def Refuses (d : Device) (password : Bytes) : Prop := ∃ p, d.password? = some p ∧ password ≠ p

lemma respond_info (d : Device) : d.respond ⟨.infoRequest, ()⟩ =
    (.ok (.message ⟨.info, d.info⟩), d.record ⟨.infoRequest, ()⟩) := by
  simp [respond, isOpen, answer, record]

lemma respond_state (hd : d.unlocked) (c : Category) : d.respond ⟨.stateRequest, c⟩ =
    (.ok (.message ⟨.state, d.flags⟩), d.record ⟨.stateRequest, c⟩) := by
  simp [respond, answer, record, hd]

lemma respond_refused (h : d.Refuses password) : d.respond ⟨.authRequest, password⟩ =
    (.ok .deny, d.record ⟨.authRequest, password⟩) := by
  obtain ⟨p, hp, hne⟩ := h
  simp [respond, isOpen, answer, authorize, record, hp, Ne.symm hne]

lemma respond_accepted (h : ¬ d.Refuses password) : d.respond ⟨.authRequest, password⟩ =
    (.ok (.message ⟨.authNotRequired, ()⟩), { d.record ⟨.authRequest, password⟩ with unlocked := true }) := by
  have hall : d.password?.all (· = password) := by
    cases hp : d.password? with
    | none => rfl
    | some p =>
      by_contra hne
      exact h ⟨p, hp, fun he => hne (by simp [he])⟩
  simp [respond, isOpen, answer, authorize, record, hall]

end Device

namespace Session

open Wire Procedure

variable {s : Session} {d : Device} {a : Bytes}

lemma tracks_proceed (access : Access) : Tracks (proceed access) (proceed access) s := by
  unfold proceed
  split
  · exact .pure _
  · exact tracks_requestState.bind fun _ _ => .pure _

lemma tracks_introduce : Tracks introduce introduce s := by
  refine tracks_requestInfo.bind fun info s => Tracks.get.bind fun s₁ s => ?_
  cases s₁.config.password? with
  | some password => exact tracks_authenticate.bind fun access _ => tracks_proceed access
  | none =>
    dsimp only
    split
    · exact tracks_authenticate.bind fun access _ => tracks_proceed access
    · exact (Tracks.pure _).bind fun access _ => tracks_proceed access

def informed (s : Session) (info : DeviceInfo) : Session := { s with device? := some info, state := .infoKnown }

def admitted (s : Session) (info : DeviceInfo) : Session :=
  { s.informed info with access? := some .granted, state := .authenticated }

def infoTurn (d : Device) : Turn := ⟨⟨.infoRequest, ()⟩, .ok (.message ⟨.info, d.info⟩)⟩

def acceptTurn (password : Bytes) : Turn := ⟨⟨.authRequest, password⟩, .ok (.message ⟨.authNotRequired, ()⟩)⟩

def denyTurn (password : Bytes) : Turn := ⟨⟨.authRequest, password⟩, .ok .deny⟩

def stateTurn (c : Category) (flags : Flags) : Turn := ⟨⟨.stateRequest, c⟩, .ok (.message ⟨.state, flags⟩)⟩

lemma reached_informed {info : DeviceInfo} : (s.informed info).HasReached .infoKnown :=
  hasReached_of_le (t := .infoKnown) rfl (by decide)

def present : Option Bytes → Procedure Direct Access
  | some password => authenticate password >>= proceed
  | none => proceed .granted

section AtHand

lemma runAt_proceed {desk : Desk} (hs : s.state = .infoKnown ∨ s.state = .authenticated) (hi : s.inbound)
    (hm : s.mayProceed) (hu : desk.device.unlocked) : runAt (proceed .granted).run s desk =
    ((.ok .granted, { s with flags? := some desk.device.flags, state := .stateKnown }),
      ⟨desk.device.record ⟨.stateRequest, s.category⟩,
        desk.turns ++ [stateTurn s.category desk.device.flags]⟩) := by
  have hadvance : { s with flags? := some desk.device.flags }.advance .stateKnown =
      { s with flags? := some desk.device.flags, state := .stateKnown } := by
    rcases hs with hs | hs <;> exact advance_of_lt hs (by decide)
  have hreach : s.HasReached .infoKnown := by
    rcases hs with hs | hs <;> exact hasReached_of_le hs (by decide)
  have hpose : runAt requestState.run s desk =
      ((.ok desk.device.flags, { s with flags? := some desk.device.flags }.advance .stateKnown),
        ⟨desk.device.record ⟨.stateRequest, s.category⟩, desk.turns ++ [stateTurn s.category desk.device.flags]⟩) :=
    runAt_pose (question_eq_ok.mpr ⟨hreach, if_pos hm, hi⟩) (Device.respond_state hu _)
  rw [hadvance] at hpose
  have hproceed : (proceed .granted : Procedure Direct Access) = requestState >>= fun _ => pure .granted := rfl
  rw [hproceed, runAt_bind_ok hpose]
  exact runAt_of_run (run_pure _ _) _

variable (hs : s.state = .connected) (hi : s.inbound)

include hi in
lemma runAt_accepted (hr : ¬ d.Refuses a) :
    runAt (authenticate a).run (s.informed d.info) ⟨d.record ⟨.infoRequest, ()⟩, [infoTurn d]⟩ =
      ((.ok .granted, s.admitted d.info),
        ⟨{ (d.record ⟨.infoRequest, ()⟩).record ⟨.authRequest, a⟩ with unlocked := true },
          [infoTurn d, acceptTurn a]⟩) := by
  have hr' : ¬ (d.record ⟨.infoRequest, ()⟩).Refuses a := hr
  have hadvance : { s.informed d.info with access? := some .granted }.advance .authenticated = s.admitted d.info :=
    advance_of_lt (t := .infoKnown) rfl (by decide)
  rw [← hadvance]
  exact runAt_authenticate reached_informed hi (Device.respond_accepted hr')

include hs hi

lemma runAt_requestInfo (d : Device) : runAt requestInfo.run s ⟨d, []⟩ =
    ((.ok d.info, s.informed d.info), ⟨d.record ⟨.infoRequest, ()⟩, [infoTurn d]⟩) := by
  have hreach : s.HasReached .connected := hasReached_of_le hs (by decide)
  have hadvance : { s with device? := some d.info }.advance .infoKnown = s.informed d.info :=
    advance_of_lt hs (by decide)
  have hpose : runAt requestInfo.run s ⟨d, []⟩ = ((.ok d.info, { s with device? := some d.info }.advance .infoKnown),
      ⟨d.record ⟨.infoRequest, ()⟩, [infoTurn d]⟩) :=
    runAt_pose (question_eq_ok.mpr ⟨hreach, rfl, hi⟩) d.respond_info
  rwa [hadvance] at hpose

lemma runAt_introduce (d : Device) : runAt introduce.run s ⟨d, []⟩ =
    runAt (present (s.config.attempt? d.info)).run (s.informed d.info)
      ⟨d.record ⟨.infoRequest, ()⟩, [infoTurn d]⟩ := by
  have hconfig : (s.informed d.info).config = s.config := rfl
  rw [introduce, runAt_bind_ok (runAt_requestInfo hs hi d), runAt_get_bind, hconfig, Config.attempt?]
  cases s.config.password? with
  | some password => rfl
  | none => cases d.info.requiresAuth <;> rfl

lemma runAt_refused (ha : s.config.attempt? d.info = some a) (hr : d.Refuses a) :
    runAt introduce.run s ⟨d, []⟩ = ((.ok .denied, { s.informed d.info with access? := some .denied }),
      ⟨(d.record ⟨.infoRequest, ()⟩).record ⟨.authRequest, a⟩, [infoTurn d, denyTurn a]⟩) := by
  have hr' : (d.record ⟨.infoRequest, ()⟩).Refuses a := hr
  have hdenied : runAt (authenticate a).run (s.informed d.info) ⟨d.record ⟨.infoRequest, ()⟩, [infoTurn d]⟩ =
      ((.ok .denied, { s.informed d.info with access? := some .denied }), ⟨_, [infoTurn d, denyTurn a]⟩) :=
    runAt_authenticate reached_informed hi (Device.respond_refused hr')
  rw [runAt_introduce hs hi, ha, present, runAt_bind_ok hdenied]
  exact runAt_of_run (run_pure _ _) _

lemma runAt_admitted (hd : d.Fresh) (hr : ∀ a, s.config.attempt? d.info = some a → ¬ d.Refuses a) : ∃ s' d',
    runAt introduce.run s ⟨d, []⟩ = ((.ok .granted, s'), ⟨d', infoTurn d ::
      (s.config.attempt? d.info).toList.map acceptTurn ++ [stateTurn s.category d.flags]⟩) ∧
      s'.state = .stateKnown ∧ s'.device? = some d.info ∧ s'.flags? = some d.flags := by
  rw [runAt_introduce hs hi]
  cases ha : s.config.attempt? d.info with
  | some a =>
    rw [present, runAt_bind_ok (runAt_accepted hi (hr a ha))]
    exact ⟨_, _, runAt_proceed (.inr rfl) hi (.inr rfl) rfl, rfl, rfl, rfl⟩
  | none =>
    obtain ⟨hpassword, hauth⟩ := attempt?_eq_none ha
    -- a device that wants no password has none, and so was never locked
    have hopen : d.password? = none := by
      cases hp : d.password? with
      | none => rfl
      | some p => exact absurd (hd.requiresAuth (by simp [hp])) (by simp [hauth])
    have hproceed : (s.informed d.info).mayProceed := .inl (by simp [informed, hauth])
    exact ⟨_, _, runAt_proceed (.inl rfl) hi hproceed (hd.unlocked hopen), rfl, rfl, rfl⟩

end AtHand

section Encounter

variable {α : Type} {f : Frame} {desktop : Endpoint} {host : Leg → String}

lemma connect_asks (hs : s.state = .listening) (hl : s.listening) (hf : ready.frame = .ok f) (caller : String)
    (k : Except SessionError Unit × Session → Talk α) : ∃ next,
    connect.run.run s >>= k = .ask (.dial .outbound s.config.device) next ∧ ∃ next',
      (next (.ok ())).After (Exchange.delivery .outbound f) (.ask (.accept .inbound) next') ∧
      next' (.ok caller) = k (.ok (), s.joined) := by
  obtain ⟨config, state, listening, inbound, outbound, device?, access?, category, flags?, cached?⟩ := s
  obtain rfl : state = .listening := hs
  obtain rfl : listening = true := hl
  have hdelivered : (Exchange.deliver .outbound ready).run.Yields (Exchange.delivery .outbound f) (.ok ()) :=
    Exchange.yields_deliver.mpr ⟨f, hf, rfl⟩
  -- the binds are those of the exchange within the operation, and the last is the rest of the talk
  exact ⟨_, rfl, _, ((((hdelivered.bind _).bind _).bind _).bind _).bind _, rfl⟩

lemma leads_listen (hs : s.state.canListen) (d : Device) (k : Except SessionError Unit × Session → Talk α) :
    Leads Encounter.Moves (.start (listen.run.run s >>= k) d desktop host)
      (.start (k (.ok (), s.attending)) d desktop host) := by
  rw [run_listen, if_pos hs]
  exact Encounter.leads_of_desktop (x := .bind) rfl

lemma leads_connect (hs : s.state = .listening) (hl : s.listening) (d : Device)
    (k : Except SessionError Unit × Session → Talk α) :
    Leads Encounter.Moves (.start (connect.run.run s >>= k) d desktop host)
      ⟨.start (k (.ok (), s.joined)) d, .none, .none, host⟩ := by
  obtain ⟨f, hf, -, -⟩ := exists_frame fits_ready
  obtain ⟨next, hdial, next', hsent, hdone⟩ := connect_asks hs hl hf (host .inbound) k
  rw [hdial]
  have hmeet : Leads Encounter.Moves (.start (.ask (.dial .outbound s.config.device) next) d desktop host)
      ⟨Duet.meet (next' (.ok (host .inbound))) d.round, .none, .none, host⟩ := Encounter.leads_meet hf hsent
  rwa [hdone] at hmeet

lemma leads_initiate (hs : s.state.canListen ∨ s.state = .listening ∧ s.listening) (d : Device)
    (desktop : Endpoint) (host : Leg → String) : ∃ t : Session,
    t.config = s.config ∧ t.category = s.category ∧
    Leads Encounter.Moves (.start (initiate.run.run s) d desktop host)
      ⟨.start (introduce.run.run t.joined) d, .none, .none, host⟩ := by
  rcases hs with hs | ⟨hs, hl⟩
  · refine ⟨s.attending, rfl, rfl, ?_⟩
    rw [run_initiate hs, run_bind]
    refine (leads_listen hs d _).trans ?_
    dsimp only
    rw [run_bind]
    exact leads_connect rfl rfl d _
  · have hc : ¬ s.state.canListen := by
      rw [hs]
      decide
    refine ⟨s, rfl, rfl, ?_⟩
    rw [run_initiate_listening hc, run_bind]
    exact leads_connect hs hl d _

end Encounter

section Outcome

variable {t s' : Session} {d' : Device} {e : Encounter (Except SessionError Access × Session)} {access : Access}
  {turns : List Turn} {host : Leg → String}

lemma passes_refusal (hinfo : Message.Fits ⟨.info, d.info⟩) (ha : Message.Fits ⟨.authRequest, a⟩) :
    ∀ u ∈ [infoTurn d, denyTurn a], u.Passes := by
  refine List.forall_mem_cons.mpr ⟨⟨by decide, hinfo⟩, List.forall_mem_singleton.mpr ?_⟩
  exact ⟨ha, rfl⟩

lemma passes_admission {attempt : Option Bytes} (hinfo : Message.Fits ⟨.info, d.info⟩)
    (ha : ∀ a, attempt = some a → Message.Fits ⟨.authRequest, a⟩) (c : Category) (flags : Flags) :
    ∀ u ∈ infoTurn d :: attempt.toList.map acceptTurn ++ [stateTurn c flags], u.Passes := by
  refine List.forall_mem_append.mpr ⟨List.forall_mem_cons.mpr ⟨⟨by decide, hinfo⟩, ?_⟩,
    List.forall_mem_singleton.mpr ⟨by cases c <;> decide, Nat.le_of_ble_eq_true rfl⟩⟩
  intro u hu
  obtain ⟨a, hmem, rfl⟩ := List.mem_map.mp hu
  exact ⟨ha a (Option.mem_toList.mp hmem), by decide⟩

lemma comesTo_of_introduce
    (hleads : Leads Encounter.Moves e ⟨.start (introduce.run.run t.joined) d, .none, .none, host⟩)
    (hrun : runAt introduce.run t.joined ⟨d, []⟩ = ((.ok access, s'), ⟨d', turns⟩))
    (hp : ∀ u ∈ turns, u.Passes) : ∃ final, ComesTo Encounter.Moves e final ∧
      final.duet.desktop.talk = .done (.ok access, s') ∧ final.duet.Waiting d' ∧
      d'.requests = d.requests ++ turns.map (·.request) := by
  have hj : t.joined.Joined := ⟨rfl, rfl, rfl⟩
  obtain ⟨final, ⟨hsettles, -⟩, htalk, hwait, hrequests⟩ :=
    seesThrough_of_tracks tracks_introduce hj hrun hp
  exact ⟨_, Encounter.comesTo_of_settles hleads hsettles htalk hwait, htalk, hwait, hrequests⟩

end Outcome

/-- A session is denied just where it tries a password and the device has another. -/
theorem initiate_decides {s : Session} {d : Device} {attempt : Option Bytes}
    (hs : s.state.canListen ∨ s.state = .listening ∧ s.listening) (hd : d.Built)
    (ha : attempt = s.config.attempt? d.info) (hinfo : Message.Fits ⟨.info, d.info⟩)
    (hattempt : ∀ a, attempt = some a → Message.Fits ⟨.authRequest, a⟩) (desktop : Endpoint)
    (host : Leg → String) : ∃ final access s' d',
      ComesTo Encounter.Moves (.start (initiate.run.run s) d desktop host) final ∧
      final.duet.desktop.talk = .done (.ok access, s') ∧ final.duet.Waiting d' ∧
      (access = .denied ↔ ∃ a p, attempt = some a ∧ d.password? = some p ∧ a ≠ p) ∧
      (access = .denied → s'.state = .infoKnown ∧
        ∃ a, attempt = some a ∧ d'.requests = [⟨.infoRequest, ()⟩, ⟨.authRequest, a⟩]) ∧
      (access = .granted → s'.state = .stateKnown ∧ s'.device? = some d.info ∧ s'.flags? = some d.flags ∧
        d'.requests = ⟨.infoRequest, ()⟩ :: attempt.toList.map (⟨.authRequest, ·⟩) ++
          [⟨.stateRequest, s.category⟩]) := by
  obtain ⟨t, hconfig, hcategory, hleads⟩ := leads_initiate hs d desktop host
  have hfresh : d.Fresh := hd.fresh
  have hattempt' : t.joined.config.attempt? d.info = attempt := by
    rw [ha, ← hconfig]
    rfl
  by_cases hrefused : ∃ a, attempt = some a ∧ d.Refuses a
  · obtain ⟨a, hsome, hr⟩ := hrefused
    have hrun := runAt_refused (s := t.joined) rfl rfl (hattempt'.trans hsome) hr
    obtain ⟨final, hcomes, htalk, hwait, hrequests⟩ := comesTo_of_introduce hleads hrun
      (passes_refusal hinfo (hattempt a hsome))
    obtain ⟨p, hp, hne⟩ := hr
    rw [hfresh.requests] at hrequests
    exact ⟨final, .denied, _, _, hcomes, htalk, hwait, ⟨fun _ => ⟨a, p, hsome, hp, hne⟩, fun _ => rfl⟩,
      fun _ => ⟨rfl, a, hsome, hrequests⟩, nofun⟩
  · have hr : ∀ a, t.joined.config.attempt? d.info = some a → ¬ d.Refuses a := fun a hsome hr =>
      hrefused ⟨a, hattempt'.symm.trans hsome, hr⟩
    obtain ⟨s', d', hrun, hstate, hdevice, hflags⟩ := runAt_admitted (s := t.joined) rfl rfl hfresh hr
    rw [hattempt'] at hrun
    obtain ⟨final, hcomes, htalk, hwait, hrequests⟩ := comesTo_of_introduce hleads hrun
      (passes_admission hinfo hattempt _ _)
    rw [hfresh.requests] at hrequests
    refine ⟨final, .granted, s', d', hcomes, htalk, hwait, ⟨nofun, ?_⟩, nofun, fun _ => ⟨hstate, hdevice, hflags, ?_⟩⟩
    · rintro ⟨a, p, hsome, hp, hne⟩
      exact absurd ⟨a, hsome, p, hp, hne⟩ hrefused
    · rw [hrequests, ← hcategory, List.map_append, List.map_cons, List.map_map]
      rfl

theorem initiate_decides_locked :
    let d := (Device.new ⟨[0x5a], ⟨[0x65, 0x6e], rfl⟩, 0⟩ Device.Sample.time).lock [1]
    let s := Session.new .standard
    let s₂ := { Session.new { Config.standard with password? := some [1] } with state := .disconnected }
    let host : Leg → String := fun _ => "127.0.0.1"
    (∃ final s' d', ComesTo Encounter.Moves (.start (initiate.run.run s) d s.config.listener host) final ∧
      final.duet.desktop.talk = .done (.ok .denied, s') ∧ final.duet.Waiting d' ∧ s'.state = .infoKnown ∧
      d'.requests = [⟨.infoRequest, ()⟩, ⟨.authRequest, []⟩]) ∧
    ∃ final s' d', ComesTo Encounter.Moves (.start (initiate.run.run s₂) d s.config.listener host) final ∧
      final.duet.desktop.talk = .done (.ok .granted, s') ∧ final.duet.Waiting d' ∧ s'.state = .stateKnown ∧
      d'.requests = [⟨.infoRequest, ()⟩, ⟨.authRequest, [1]⟩, ⟨.stateRequest, .todo⟩] := by
  intro d s s₂ host
  have hd : d.Built := .lock _ (.new _ _)
  constructor
  · obtain ⟨final, access, s', d', hcomes, htalk, hwait, hiff, hdenied, -⟩ :=
      initiate_decides (s := s) (.inl (by decide)) hd rfl (by decide)
        (fun a ha => by cases ha; decide) s.config.listener host
    obtain rfl : access = .denied := hiff.mpr ⟨[], [1], rfl, rfl, by decide⟩
    obtain ⟨hstate, a, ha, hrequests⟩ := hdenied rfl
    cases ha
    exact ⟨final, s', d', hcomes, htalk, hwait, hstate, hrequests⟩
  · obtain ⟨final, access, s', d', hcomes, htalk, hwait, hiff, -, hgranted⟩ :=
      initiate_decides (s := s₂) (.inl (by decide)) hd rfl (by decide)
        (fun a ha => by cases ha; decide) s.config.listener host
    cases access with
    | denied =>
      obtain ⟨a, p, ha, hp, hne⟩ := hiff.mp rfl
      cases ha
      cases hp
      exact absurd rfl hne
    | granted =>
      obtain ⟨hstate, -, -, hrequests⟩ := hgranted rfl
      exact ⟨final, s', d', hcomes, htalk, hwait, hstate, hrequests⟩

end Session

end PimSync
