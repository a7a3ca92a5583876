import PimSync.Device.Sample
import PimSync.Proofs.Session.Soundness

namespace PimSync.Session

open Wire

variable {config : Config} {h : History} {s : Session} {a : Action} {f : Frame}

lemma shows_of_select {st t : State}
    (k : (if State.stateKnown < st ∧ st.isConnected then State.stateKnown else st).Shows t) :
    t ≤ .stateKnown ∧ st.Shows t := by
  revert k
  cases st <;> cases t <;> decide

lemma shows_of_dropFormat {st t : State}
    (k : (if st = .formatKnown ∨ st = .iterating ∨ st = .done then State.stateKnown else st).Shows t) :
    t ≤ .stateKnown ∧ st.Shows t := by
  revert k
  cases st <;> cases t <;> decide

lemma Grounded.select (g : Grounded config h s) (c : Category) :
    Grounded config (h ++ [.call (.errand (.selectCategory c))]) (s.select c) := by
  rw [Session.select]
  split
  · rename_i hc
    refine g.append fun x hx => ?_
    obtain rfl := List.mem_singleton.mp hx
    exact ⟨⟨id, fun hd => hd hc⟩, fun _ => id⟩
  · refine g.fallBack (fun x hx => ?_) (fun t ht => shows_of_select ht) rfl rfl rfl
    obtain rfl := List.mem_singleton.mp hx
    exact id

lemma Grounded.dropFormat (g : Grounded config h s) :
    Grounded config (h ++ [.call (.errand .resetFormat)]) s.dropFormat := by
  refine g.fallBack (fun x hx => ?_) (fun t ht => shows_of_dropFormat ht) rfl rfl rfl
  obtain rfl := List.mem_singleton.mp hx
  exact id

def Action.IsLocal : Action → Prop
  | .errand (.selectCategory _) | .errand .resetFormat => True
  | _ => False

lemma sound_perform (ha : ¬ a.IsLocal) : Sound config a.perform s := by
  cases a with
  | listen => exact sound_listen
  | connect => exact sound_connect
  | acceptDevice => exact sound_acceptDevice
  | finalize => exact sound_finalize
  | initiate => exact sound_initiate
  | errand e =>
    cases e with
    | requestInfo => exact sound_requestInfo
    | authenticate _ => exact sound_authenticate
    | requestState => exact sound_requestState
    | resetState _ => exact sound_resetState
    | selectCategory _ => exact absurd trivial ha
    | obtainFormat => exact sound_obtainFormat
    | resetFormat => exact absurd trivial ha
    | requestIds => exact sound_requestIds
    | fetchValues _ => exact sound_fetchValues
    | fetchItem _ => exact sound_fetchItem
    | writeItem _ => exact sound_writeItem
    | insertItem _ => exact sound_insertItem
    | updateItem _ _ => exact sound_updateItem
    | deleteItems _ => exact sound_deleteItems
    | markDone => exact sound_markDone
    | requestTime => exact sound_requestTime
    | setTime _ => exact sound_setTime
    | requestPath => exact sound_requestPath
    | terminate => exact sound_terminate
    | pullChanges => exact sound_pullChanges

lemma harmless_call (ha : ¬ a.IsLocal) : s.Harmless [.call a] := by
  intro x hx
  obtain rfl := List.mem_singleton.mp hx
  refine ⟨⟨id, ?_⟩, fun _ => id⟩
  cases a with
  | errand e => cases e <;> first | exact id | exact absurd trivial ha
  | _ => exact id

lemma sound_from_call (ha : ¬ a.IsLocal) (r : Reaches config h s) (g : Grounded config h s) :
    (∀ es r s', (a.perform.run.run s).Yields es (r, s') → Grounded config (h ++ .call a :: es.map .event) s') ∧
    ∀ es f next, (a.perform.run.run s).After es (.ask (.send .inbound (.message f)) next) →
      ∃ m s', m.frame = .ok f ∧ Leaves next s' ∧ Grounded config (h ++ .call a :: es.map .event) s' ∧
        s'.Warrants m := by
  have hu : Underway config a (h ++ [.call a]) ((a.perform >>= pure).run.run s) := by
    rw [bind_pure]
    exact ⟨h, s, [], r, by simp, .here _⟩
  have hs := sound_perform ha a _ pure hu (g.append (harmless_call ha))
  simpa only [List.append_assoc, List.singleton_append] using hs

lemma Grounded.of_local (ha : a.IsLocal) (g : Grounded config h s) {es : List Event}
    {r : Except SessionError a.Result} {s' : Session} (hy : (a.perform.run.run s).Yields es (r, s')) :
    Grounded config (h ++ .call a :: es.map .event) s' := by
  cases a with
  | errand e =>
    cases e with
    | selectCategory c =>
      obtain ⟨rfl, he⟩ := Talk.yields_pure.mp hy
      cases he
      exact g.select c
    | resetFormat =>
      obtain ⟨rfl, he⟩ := Talk.yields_pure.mp hy
      cases he
      exact g.dropFormat
    | _ => exact absurd ha id
  | _ => exact absurd ha id

lemma grounded_of_reaches (r : Reaches config h s) : Grounded config h s := by
  induction r with
  | new => exact .of_not_connected State.not_isConnected_idle nofun
  | act a r hy ih =>
    by_cases ha : a.IsLocal
    · exact ih.of_local ha hy
    · exact (sound_from_call ha r ih).1 _ _ _ hy

lemma not_asks_of_local (ha : a.IsLocal) {es : List Event} {r : Request}
    {next : r.Answer → Talk (Except SessionError a.Result × Session)} :
    ¬ (a.perform.run.run s).After es (.ask r next) := by
  intro hy
  cases a with
  | errand e =>
    cases e with
    | selectCategory c => cases hy
    | resetFormat => cases hy
    | _ => exact ha
  | _ => exact ha

lemma writes_of_underway {next : Except LinkError Unit → Talk (Except SessionError a.Result × Session)}
    (hu : Underway config a h (.ask (.send .inbound (.message f)) next)) :
    ∃ m s, m.frame = .ok f ∧ Leaves next s ∧ Grounded config h s ∧ s.Warrants m := by
  obtain ⟨h₀, s₀, es, r, rfl, ht⟩ := hu
  by_cases ha : a.IsLocal
  · exact absurd ht (not_asks_of_local ha)
  · exact (sound_from_call ha r (grounded_of_reaches r)).2 _ _ _ ht

lemma Reaches.run {σ : Type} {network : Network σ} {σ₁ σ₂ : σ} {r : Except SessionError a.Result} {s' : Session}
    {es : List Event} (k : Reaches config h s)
    (hr : (a.perform.run.run s).run network σ₁ = some ((r, s'), σ₂, es)) :
    Reaches config (h ++ .call a :: es.map .event) s' :=
  k.act a (Talk.yields_of_run hr)

section Progress

variable {α : Type} {es : List Event}

lemma yields_pose {request reply : MessageType} {operation : String} {least : State}
    {content : Session → Except SessionError request.Payload} {conclude : reply.Payload → Session → α × Session}
    {payload : request.Payload} {answer : reply.Payload} (hq : s.question operation least content = .ok payload)
    (ha : Exchange.Answered ⟨request, payload⟩ ⟨reply, answer⟩ es) :
    Operation.Yields (Procedure.pose request reply operation least content conclude) s es
      (.ok (conclude answer s).1) (conclude answer s).2 := by
  rw [Operation.Yields, run_pose, hq]
  refine Talk.yields_map.mpr ⟨_, Exchange.yields_answer.mpr ha, ?_⟩
  simp [conclusion, Message.payload?_eq_some.mpr]

end Progress

def met (config : Config) : Session :=
  { Session.new config with listening := true, inbound := true, outbound := true, state := .connected }

lemma reaches_met (config : Config) : ∃ h, Reaches config h (met config) := by
  let s₁ : Session := { Session.new config with listening := true, state := .listening }
  have hl : Action.listen.perform.Yields (.new config) [⟨.listen config.listener, .ok ()⟩] (.ok ()) s₁ :=
    Talk.After.answered (r := .listen config.listener) (.ok ()) (.here _)
  have hc : ∃ es, Action.connect.perform.Yields s₁ es (.ok ()) (met config) := by
    apply Talk.exists_yields_ask (r := .dial .outbound config.device) (.ok ())
    apply Talk.exists_yields_ask (r := .receive .outbound) (.ok (.control .request))
    apply Talk.exists_yields_ask (r := .send .outbound (.message _)) (.ok ())
    apply Talk.exists_yields_ask (r := .receive .outbound) (.ok (.control .acknowledge))
    apply Talk.exists_yields_ask (r := .accept .inbound) (.ok "")
    exact ⟨_, .here _⟩
  obtain ⟨es, hc⟩ := hc
  exact ⟨_, (Reaches.new.act _ hl).act _ hc⟩

def known : Session :=
  { met .standard with
    state := .formatKnown, device? := some { Device.Sample.info with model := [0x5a] }, flags? := some .none
    cached? := some ⟨.todo, [⟨.ascii 'S' 'Y' 'I' 'D', .ofField .long, []⟩]⟩ }

lemma reaches_known : ∃ h, Reaches .standard h known := by
  let info : DeviceInfo := ⟨[0x5a], ⟨[0x65, 0x6e], rfl⟩, 0⟩
  let entries : Schema.Format := [⟨.ascii 'S' 'Y' 'I' 'D', .ofField .long, []⟩]
  obtain ⟨h, r⟩ := reaches_met .standard
  obtain ⟨es₁, h₁⟩ := Exchange.exists_answered ⟨.infoRequest, ()⟩ ⟨.info, info⟩ (by decide) (by decide)
  obtain ⟨es₂, h₂⟩ := Exchange.exists_answered ⟨.stateRequest, .todo⟩ ⟨.state, .none⟩ (by decide) (by decide)
  obtain ⟨es₃, h₃⟩ := Exchange.exists_answered ⟨.formatRequest, .todo⟩ ⟨.format, entries⟩ (by decide) (by decide)
  have r₁ := r.act (.errand .requestInfo) (yields_pose rfl h₁)
  have r₂ := r₁.act (.errand .requestState) (yields_pose rfl h₂)
  exact ⟨_, r₂.act (.errand .obtainFormat) (yields_pose rfl h₃)⟩

lemma reaches_formatKnown : ∃ h s, Reaches .standard h s ∧ s.HasReached .formatKnown := by
  obtain ⟨h, r⟩ := reaches_known
  exact ⟨h, known, r, by decide⟩

end PimSync.Session
