import PimSync.Proofs.Session.Composing
import PimSync.Proofs.Session.Grounded

/-! Every operation of a session keeps it grounded, on the way as well as at the end. -/

namespace PimSync.Session

open Wire Procedure

variable {config : Config} {h : History} {s s' : Session} {α : Type}

def Mild : Request → Prop
  | .listen _ | .send .inbound (.message _) => False
  | .send .outbound (.message f) => f.tag ≠ MessageType.formatRequest.tag
  | _ => True

lemma harmless_of_mild {es : List Event} (he : ∀ e ∈ es, Mild e.request) : s.Harmless (es.map .event) := by
  intro x hx
  obtain ⟨⟨r, answer⟩, hmem, rfl⟩ := List.mem_map.mp hx
  have hr : Mild r := he _ hmem
  refine ⟨⟨?_, id⟩, fun _ => ?_⟩
  · cases r <;> first | exact id | exact absurd hr id
  · cases r with
    | send leg p =>
      cases p with
      | control c => exact id
      | message f =>
        cases leg with
        | inbound => exact absurd hr id
        | outbound => exact hr
    | _ => exact id

lemma mild_of_bare {r : Request} (hr : Exchange.Bare .inbound r) : Mild r := by
  obtain rfl | ⟨c, rfl⟩ := hr <;> trivial

lemma mild_of_ready {r : Request} (hr : Exchange.Carries .outbound ready r) : Mild r := by
  obtain (rfl | ⟨c, rfl⟩) | ⟨f, hf, rfl⟩ := hr
  · trivial
  · trivial
  · rw [Mild, Message.tag_of_frame hf]
    decide

namespace Sound

lemma converse {t : Talk α} (ht : t.Only Mild) : Sound config (converse t) s := by
  intro a h k hu g
  have hg {es u} (hy : t.After es u) : Grounded config (h ++ es.map .event) s :=
    g.append (harmless_of_mild (ht.after hy).1)
  rw [run_converse]
  constructor
  · intro es r s' h'
    obtain ⟨w, hy, hr⟩ := Talk.yields_map.mp h'
    obtain rfl : s' = s := congrArg Prod.snd hr
    exact hg hy
  · intro es g' next h'
    rw [map_eq_pure_bind] at h'
    rcases Talk.asks_bind h' with ⟨next', hn, rfl⟩ | ⟨_, _, _, rfl, _, hr⟩
    · exact absurd (ht.asks hn) id
    · cases hr

lemma converse_unconnected {t : Talk α} (hn : ¬ s.state.isConnected)
    (ht : t.Only fun r => ∀ f, r ≠ .send .inbound (.message f)) : Sound config (Procedure.converse t) s := by
  intro a h k hu g
  rw [run_converse]
  constructor
  · intro es r s' h'
    obtain ⟨w, hy, hr⟩ := Talk.yields_map.mp h'
    obtain rfl : s' = s := congrArg Prod.snd hr
    exact .of_not_connected hn g.cached
  · intro es g' next h'
    rw [map_eq_pure_bind] at h'
    rcases Talk.asks_bind h' with ⟨next', hn, rfl⟩ | ⟨_, _, _, rfl, _, hr⟩
    · exact absurd rfl (ht.asks hn g')
    · cases hr

lemma ofExcept (r : Except SessionError α) : Sound config (Procedure.ofExcept r) s := still (run_ofExcept r s) id

lemma pure (a : α) : Sound config (Pure.pure a) s := still (run_pure a s) id

lemma throw (e : SessionError) : Sound config (throw e : Operation α) s := still (run_throw e s) id

lemma get : Sound config (get : Operation Session) s := still (run_get s) id

lemma require (operation : String) (least : State) : Sound config (require operation least) s :=
  still (run_require operation least s) id

lemma requireLink (present : Session → Bool) : Sound config (requireLink present) s :=
  still (run_requireLink present s) id

lemma modify {f : Session → Session} (hf : ∀ {h}, Grounded config h s → Grounded config h (f s)) :
    Sound config (modify f) s :=
  still (run_modifyGet (fun s => ((), f s)) s) hf

lemma set (hs : ∀ {h}, Grounded config h s') : Sound config (set s' : Operation Unit) s :=
  still (run_modifyGet (fun _ => ((), s')) s) fun _ => hs

lemma linked (r : Except LinkError α) : Sound config (Operation.linked r) s := by
  cases r with
  | ok a => exact pure a
  | error e => exact throw _

lemma request {r : Request} (hr : Mild r) : Sound config (Operation.request r) s := converse (.request hr)

lemma exchange {x : Exchange α} (hx : x.run.Only Mild) : Sound config (Operation.exchange x) s :=
  (converse hx).bind fun _ _ => ofExcept _

lemma pose {request reply : MessageType} {operation : String} {least : State}
    {content : Session → Except SessionError request.Payload} {conclude : reply.Payload → Session → α × Session}
    (hq : ∀ payload, s.HasReached least → content s = .ok payload →
      s.Warrants ⟨request, payload⟩ ∧ (request = .formatRequest → s.cached? = none))
    (hc : ∀ {a h es payload answer}, s.HasReached least → content s = .ok payload →
      Grounded config (h ++ es.map .event) s → Exchange.Answered ⟨request, payload⟩ ⟨reply, answer⟩ es →
      Writes config a (h ++ (es.take 1).map .event) ⟨request, payload⟩ s →
      Grounded config (h ++ es.map .event) (conclude answer s).2) :
    Sound config (pose request reply operation least content conclude) s := by
  have hrun := run_pose (b := Talk) request reply operation least content conclude s
  cases hs : s.question operation least content with
  | error e =>
    rw [hs] at hrun
    exact still hrun id
  | ok payload =>
    rw [hs] at hrun
    obtain ⟨hl, hp, -⟩ := question_eq_ok.mp hs
    obtain ⟨hw, hf⟩ := hq payload hl hp
    refine exchanges hrun Exchange.about_ask hf hw (fun _ => rfl) fun {a h es m} g hy hm => ?_
    have ha := Exchange.yields_answer.mp hy
    rw [conclusion]
    split
    · rename_i answer hm'
      obtain rfl := Message.payload?_eq_some.mp hm'
      apply hc (a := a) hl hp g ha
      obtain ⟨f, _, hf, -, rfl⟩ := ha
      exact hm ⟨f, hf⟩
    · exact g

lemma pose_still {request reply : MessageType} {operation : String} {least : State}
    {content : Session → Except SessionError request.Payload} {conclude : reply.Payload → Session → α × Session}
    (hq : ∀ payload, s.HasReached least → content s = .ok payload → s.Warrants ⟨request, payload⟩)
    (hf : request ≠ .formatRequest) (hc : ∀ answer, (conclude answer s).2 = s) :
    Sound config (Procedure.pose request reply operation least content conclude) s := by
  refine pose (fun payload hl hp => ⟨hq payload hl hp, fun h => absurd h hf⟩) fun {_ _ _ _ answer} _ _ g _ _ => ?_
  rw [hc answer]
  exact g

lemma when {c : Prop} [Decidable c] {x : Operation Unit} {f : Unit → Operation α}
    (hx : Sound config x s) (hf : ∀ u s, Sound config (f u) s) : Sound config (if c then x >>= f else f ()) s := by
  split
  · exact hx.bind hf
  · exact hf _ _

end Sound

lemma composes_sound : Composes fun x => ∀ s, Sound config x s where
  bind hx hf s := (hx s).bind hf
  looks hx _ s := .still (hx s) id

section Requests

lemma sound_requestInfo : Sound config requestInfo s := by
  refine .pose (fun _ _ _ => ⟨trivial, nofun⟩) fun {a h es payload info} hl _ g ha _ => ?_
  simp only [advance_eq]
  refine g.advance hl (t := .infoKnown) (fun m => by cases m <;> decide) rfl g.cached ⟨info, rfl, .now ha⟩
    fun t ht k => ?_
  cases t <;> first | exact k | exact absurd rfl ht

lemma sound_authenticate {password : Bytes} : Sound config (authenticate password) s := by
  have hrun := run_authenticate (b := Talk) password s
  cases hs : s.question "authenticate" .infoKnown fun _ => .ok password with
  | error e =>
    rw [hs] at hrun
    exact .still hrun id
  | ok password =>
    rw [hs] at hrun
    obtain ⟨hl, -, -⟩ := question_eq_ok.mp hs
    refine .exchanges hrun Exchange.about_authorize nofun trivial (fun _ => rfl) fun {a h es w} g hy _ => ?_
    cases w with
    | granted =>
      simp only [admission, advance_eq]
      refine g.advance hl (t := .authenticated) (fun m => by cases m <;> decide) rfl g.cached
        ⟨password, .now (Exchange.yields_granted.mp hy)⟩ fun t ht k => ?_
      cases t <;> exact k
    | denied =>
      refine g.alter rfl g.cached fun t k => ?_
      cases t <;> exact k

lemma sound_requestState : Sound config requestState s := by
  refine .pose (fun c hl hp => ?_) fun {a h es c flags} hl hp g ha hw => ?_
  · split at hp
    · exact ⟨⟨hl, ‹_›⟩, nofun⟩
    · cases hp
  · simp only [advance_eq]
    refine g.advance hl (t := .stateKnown) (fun m => by cases m <;> decide) rfl g.cached ⟨rfl, ?_⟩ fun t ht k => ?_
    · obtain ⟨info, hd, -⟩ := g.reached hl (.inl rfl)
      refine ⟨c, flags, h, es, [], a, s, by simp, ha, by simp, hw, info, hd, ?_⟩
      split at hp
      · rename_i hm
        rcases hm with hm | hm
        · exact .inl (by simpa [hd] using hm)
        · exact .inr hm
      · cases hp
    · cases t <;> first | exact k | exact absurd rfl ht

lemma sound_resetState {c : Category} : Sound config (resetState c) s := by
  refine .pose (fun _ hl _ => ⟨hl, nofun⟩) fun _ _ g _ _ => g.alter rfl g.cached fun t k => ?_
  cases t <;> first | exact k | exact ⟨rfl, k.2⟩

lemma sound_obtainFormat : Sound config obtainFormat s := by
  refine .pose (fun c hl hp => ⟨hl, fun _ => ?_⟩) fun {a h es c entries} hl hp g ha _ => ?_
  · cases hs : s.cached? with
    | some f => simp [hs] at hp
    | none => rfl
  · have hc : s.category = c := by
      cases hs : s.cached? with
      | some f => simp [hs] at hp
      | none => simpa [hs] using hp
    subst hc
    simp only [advance_eq]
    refine g.advance hl (t := .formatKnown) (fun m => by cases m <;> decide) rfl (by rintro _ ⟨⟩; rfl)
      ⟨entries, rfl, .now ha⟩ fun t ht k => ?_
    cases t <;> first | exact k | exact absurd rfl ht

lemma sound_requestIds : Sound config requestIds s := by
  refine .pose (fun c hl hp => ?_) fun {a h es c lists} hl hp g ha _ => ?_
  · obtain rfl := Except.ok.inj hp
    exact ⟨⟨hl, rfl⟩, nofun⟩
  · obtain rfl := Except.ok.inj hp
    simp only [advance_eq]
    refine g.advance hl (t := .iterating) (fun m => by cases m <;> decide) rfl g.cached (.inl ⟨lists, .now ha⟩)
      fun t ht k => ?_
    cases t <;> exact k

lemma sound_fetchValues {id : UInt32} : Sound config (fetchValues id) s := by
  refine .pose (fun c hl hp => ?_) fun {a h es c values} hl hp g ha _ => ?_
  · obtain rfl := Except.ok.inj hp
    exact ⟨⟨hl, rfl⟩, nofun⟩
  · obtain rfl := Except.ok.inj hp
    simp only [advance_eq]
    refine g.advance hl (t := .iterating) (fun m => by cases m <;> decide) rfl g.cached (.inr ⟨id, values, .now ha⟩)
      fun t ht k => ?_
    cases t <;> exact k

lemma sound_writeItem {w : ItemWrite} : Sound config (writeItem w) s :=
  .pose_still (fun _ hl _ => hl) nofun fun _ => rfl

lemma sound_deleteItems {ids : List UInt32} : Sound config (deleteItems ids) s := by
  refine .pose_still (fun _ hl hp => ?_) nofun fun _ => rfl
  obtain rfl := Except.ok.inj hp
  exact ⟨hl, rfl⟩

lemma sound_markDone : Sound config markDone s := by
  refine .pose (fun c hl hp => ?_) fun {a h es c _} hl hp g ha _ => ?_
  · obtain rfl := Except.ok.inj hp
    exact ⟨⟨hl, rfl⟩, nofun⟩
  · obtain rfl := Except.ok.inj hp
    refine g.advance hl (t := .done) (fun m => by cases m <;> decide) ?_ g.cached (.now ha) fun t ht k => ?_
    · change State.done = if s.state < .done then .done else s.state
      have hs := hl.1
      revert hs
      cases s.state <;> decide
    · cases t with
      | stateKnown => exact ⟨by simpa using k.1, k.2⟩
      | done => exact absurd rfl ht
      | _ => exact k

lemma sound_requestTime : Sound config requestTime s := .pose_still (fun _ _ _ => trivial) nofun fun _ => rfl

lemma sound_setTime {time : ClockTime} : Sound config (setTime time) s :=
  .pose_still (fun _ _ _ => trivial) nofun fun _ => rfl

lemma sound_requestPath : Sound config requestPath s := .pose_still (fun _ _ _ => trivial) nofun fun _ => rfl

end Requests

section Compounds

lemma sound_fetchItem {id : UInt32} : Sound config (fetchItem id) s :=
  composes_sound.fetchItem (fun _ _ => sound_fetchValues) id s

lemma sound_insertItem {item : Item} : Sound config (insertItem item) s :=
  composes_sound.insertItem (fun _ _ => sound_writeItem) item s

lemma sound_updateItem {id : UInt32} {item : Item} : Sound config (updateItem id item) s :=
  composes_sound.updateItem (fun _ _ => sound_writeItem) id item s

lemma sound_pullChanges : Sound config pullChanges s :=
  composes_sound.pullChanges (fun _ => sound_obtainFormat) (fun _ => sound_requestIds) (fun _ _ => sound_fetchValues) s

lemma sound_inquire_terminate : Sound config (inquire ⟨.terminate, ()⟩ .complete) s := by
  have hrun := run_inquire (b := Talk) ⟨.terminate, ()⟩ .complete s
  split at hrun
  · refine .exchanges hrun Exchange.about_ask nofun trivial (fun _ => rfl) fun g _ _ => ?_
    rw [conclusion]
    split <;> exact g
  · exact .still hrun id

lemma only_farewell : Talk.farewell.Only Mild :=
  (Exchange.only_deliver.mono fun _ => mild_of_ready).bind fun _ =>
    (Talk.Only.request trivial).bind fun _ => trivial

lemma sound_terminate : Sound config terminate s := by
  apply (Sound.require _ _).bind
  intro _ _
  apply sound_inquire_terminate.bind
  intro _ _
  apply (Sound.requireLink _).bind
  intro _ s₁
  have hleave : Sound config (modify fun s => { s with outbound := false }) s₁ := by
    refine .modify fun g => g.alter rfl g.cached fun t k => ?_
    cases t <;> exact k
  apply hleave.bind
  intro _ _
  apply (Sound.converse only_farewell).bind
  intro last _
  apply (Sound.ofExcept (last.mapError .exchange)).bind
  intro _ _
  exact .modify fun g => .of_not_connected State.not_isConnected_disconnected g.cached

end Compounds

section Links

lemma sound_dial {leg : Leg} {address : Endpoint} : Sound config (Operation.request (.dial leg address)) s :=
  .request trivial

lemma sound_accept {leg : Leg} : Sound config (Operation.request (.accept leg)) s := .request trivial

lemma sound_close {leg : Leg} : Sound config (Operation.request (.close leg)) s := .request trivial

lemma sound_deliverReady : Sound config (Operation.exchange (Exchange.deliver .outbound ready)) s :=
  .exchange (Exchange.only_deliver.mono fun _ => mild_of_ready)

lemma sound_listen : Sound config listen s := by
  by_cases hl : s.state.canListen
  · have hn := State.not_isConnected_of_canListen hl
    refine .congr (y := Operation.request (.listen s.config.listener) >>= fun r => Operation.linked r >>= fun _ =>
      modify ({ · with listening := true, device? := none, access? := none, flags? := none, state := .listening }))
      ?_ ?_
    · rw [listen, run_get_bind]
      simp [hl]
    · refine (Sound.converse_unconnected hn (.request fun _ => by simp)).bind fun _ _ => (Sound.linked _).bind
        fun _ _ => .modify fun g => ?_
      exact .of_not_connected State.not_isConnected_listening g.cached
  · refine .congr (y := throw (.invalidState "listen" s.state)) ?_ (.throw _)
    rw [listen, run_get_bind]
    simp [hl]

lemma sound_requireListening {operation : String} : Sound config (Operation.requireListening operation) s := by
  refine Sound.get.bind fun s₀ _ => ?_
  split
  · exact .pure _
  · exact .throw _

lemma sound_dialled : Sound config (modify fun s => { s with outbound := true }) s := by
  refine .modify fun g => g.alter rfl g.cached fun t k => ?_
  cases t <;> exact k

lemma sound_connect : Sound config connect s := by
  apply sound_requireListening.bind
  intro _ _
  apply Sound.get.bind
  intro _ _
  apply sound_dial.bind
  intro r _
  apply (Sound.linked r).bind
  intro _ _
  apply sound_dialled.bind
  intro _ _
  apply sound_deliverReady.bind
  intro _ _
  apply (Sound.requireLink _).bind
  intro _ _
  apply sound_accept.bind
  intro r _
  apply (Sound.linked r).bind
  intro _ _
  exact .modify fun g => g.meet

lemma sound_dialBack (host : String) (s : Session) : Sound config
    (get >>= fun s => Operation.request (.dial .outbound ⟨host, s.config.device.port⟩) >>= fun r =>
      Operation.linked r >>= fun _ => modify ({ · with outbound := true }) >>= fun _ =>
      Operation.exchange (Exchange.deliver .outbound ready) >>= fun _ =>
      modify ({ · with state := .connected })) s := by
  apply Sound.get.bind
  intro _ _
  apply sound_dial.bind
  intro r _
  apply (Sound.linked r).bind
  intro _ _
  apply sound_dialled.bind
  intro _ _
  apply sound_deliverReady.bind
  intro _ _
  exact .modify fun g => g.meet

lemma sound_acceptDevice : Sound config acceptDevice s := by
  apply sound_requireListening.bind
  intro _ _
  apply (Sound.requireLink _).bind
  intro _ _
  apply sound_accept.bind
  intro r _
  apply (Sound.linked r).bind
  intro host s₁
  have haccept : Sound config (modify fun s => { s with inbound := true }) s₁ := by
    refine .modify fun g => g.alter rfl g.cached fun t k => ?_
    cases t <;> exact k
  apply haccept.bind
  intro _ _
  apply (Sound.exchange (Exchange.only_collect.mono fun _ => mild_of_bare)).bind
  intro m _
  split
  · exact sound_dialBack host _
  · exact (Sound.throw _).bind fun _ s => sound_dialBack host s

lemma sound_finalize : Sound config finalize s :=
  Sound.get.bind fun _ _ => .when sound_close fun _ _ => .when sound_close fun _ _ => .when (.request trivial)
    fun _ _ => .set (.of_not_connected (State.not_isConnected_finalized _) nofun)

lemma sound_initiate : Sound config initiate s :=
  composes_sound.initiate (fun _ => sound_listen) (fun _ => sound_connect) (fun _ => sound_requestInfo)
    (fun _ _ => sound_authenticate) (fun _ => sound_requestState) s

end Links

end PimSync.Session
