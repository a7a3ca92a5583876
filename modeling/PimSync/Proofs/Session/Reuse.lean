import PimSync.Proofs.Session.Handshakes
import PimSync.Proofs.Session.Reachable

namespace PimSync.Session

open Schema Procedure

variable {α : Type} {s s₁ s₂ : Session} {es fs : List Event}

lemma conclusion_eq_ok {reply : MessageType} {answer : Except ExchangeError Message} {payload : reply.Payload}
    (h : s.conclusion reply Prod.mk answer = (.ok payload, s₁)) : answer = .ok ⟨reply, payload⟩ ∧ s₁ = s := by
  unfold conclusion at h
  split at h
  · cases h
  · split at h <;> cases h
    rename_i hm
    exact ⟨congrArg Except.ok (Message.payload?_eq_some.mp hm), rfl⟩

lemma yields_terminate : Operation.Yields terminate s es (.ok ()) s₂ ↔
    ∃ fs gs, es = fs ++ gs ∧ s.HasReached .connected ∧ s.inbound ∧ s.outbound ∧
      Exchange.Answered ⟨.terminate, ()⟩ ⟨.complete, ()⟩ fs ∧ Talk.farewell.Yields gs (.ok ()) ∧
      s₂ = { s with outbound := false, state := .disconnected } := by
  rw [Operation.Yields, run_terminate]
  cases hq : s.question "terminate" .connected fun _ => .ok () with
  | error e =>
    constructor
    · intro h
      obtain ⟨-, he⟩ := Talk.yields_pure.mp h
      cases he
    · rintro ⟨fs, gs, -, hr, hi, -⟩
      have hok : s.question "terminate" .connected (fun _ => .ok ()) = .ok () := question_eq_ok.mpr ⟨hr, rfl, hi⟩
      cases hq.symm.trans hok
  | ok _ =>
    obtain ⟨hr, -, hi⟩ := question_eq_ok.mp hq
    simp only [Talk.yields_bind]
    constructor
    · rintro ⟨fs, gs, answer, rfl, hask, h⟩
      rcases hc : s.conclusion .complete Prod.mk answer with ⟨e | payload, s'⟩ <;> simp only [hc] at h
      · obtain ⟨-, he⟩ := Talk.yields_pure.mp h
        cases he
      · obtain ⟨rfl, rfl⟩ := conclusion_eq_ok hc
        cases ho : s'.outbound with
        | false =>
          simp only [ho, Bool.false_eq_true, if_false] at h
          obtain ⟨-, he⟩ := Talk.yields_pure.mp h
          cases he
        | true =>
          simp only [ho, if_true] at h
          obtain ⟨last, hf, he⟩ := Talk.yields_map.mp h
          rcases last with e | ⟨⟩ <;> cases he
          exact ⟨fs, gs, rfl, hr, hi, rfl, Exchange.yields_answer.mp hask, hf, rfl⟩
    · rintro ⟨fs, gs, rfl, -, -, ho, ha, hf, rfl⟩
      refine ⟨fs, gs, .ok ⟨.complete, ()⟩, rfl, Exchange.yields_answer.mpr ha, ?_⟩
      have hc : s.conclusion .complete Prod.mk (.ok ⟨.complete, ()⟩) = (.ok (), s) := by
        simp [conclusion, Message.payload?_eq_some.mpr]
      simp only [hc, ho, if_true]
      exact Talk.yields_map.mpr ⟨.ok (), hf, rfl⟩

lemma select_new (config : Config) (c : Category) : (new config).select c = { new config with category := c } := by
  rw [select]
  split
  · rename_i hc
    rw [hc]
  · rfl

lemma run_obtainFormat_cached {f : CachedFormat} (hs : s.HasReached .stateKnown) (hf : s.cached? = some f) :
    (obtainFormat (b := Talk)).run.run s = pure (.error (.schema (.alreadyObtained f.category)), s) := by
  rw [obtainFormat, run_pose, question, if_pos hs]
  simp only [hf]

lemma run_pullChanges_cached {f : CachedFormat} (hs : s.state = .stateKnown) (hf : s.cached? = some f)
    (hc : f.category = s.category) : (pullChanges (b := Talk)).run.run s =
      pure (.error (.invalidState "request_sync_ids" .stateKnown), s) := by
  have hr : s.HasReached .stateKnown := ⟨by rw [hs]; rfl, by rw [hs]; decide⟩
  have hformat : s.format? = some f.entries := by simp [format?, formatFor?, hf, hc]
  rw [pullChanges, run_bind, run_require, if_pos hr, pure_bind]
  simp only [run_get_bind, hformat, Option.isNone_some, Bool.false_eq_true, if_false]
  have hids : (requestIds (b := Talk)).run.run s =
      pure (.error (.invalidState "request_sync_ids" .stateKnown), s) := by
    rw [requestIds, run_pose, question, if_neg (by rw [HasReached, hs]; decide), hs]
  rw [run_bind, hids, pure_bind]

lemma asks_obtainFormat (hs : s.HasReached .stateKnown) (hi : s.inbound) (hn : s.cached? = none) :
    ∃ next, (obtainFormat (b := Talk)).run.run s = .ask (.receive .inbound) next := by
  rw [obtainFormat, run_pose, question_eq_ok.mpr ⟨hs, by simp only [hn]; rfl, hi⟩]
  exact ⟨_, rfl⟩

lemma asks_pullChanges {r : Request} (hs : s.HasReached .stateKnown) (hn : s.cached? = none)
    (ha : ∃ next, (obtainFormat (b := Talk)).run.run s = .ask r next) :
    ∃ next, (pullChanges (b := Talk)).run.run s = .ask r next := by
  obtain ⟨next, ha⟩ := ha
  have hformat : s.format? = none := by simp [format?, formatFor?, hn]
  rw [pullChanges, run_bind, run_require, if_pos hs, pure_bind]
  simp only [run_get_bind, hformat, Option.isNone_none, if_true]
  rw [run_bind, ha, Talk.bind_ask]
  exact ⟨_, rfl⟩

/-- A session that listens again after its leave-taking is as good as new in everything but its format. -/
theorem reuse_after_terminate {config : Config} {h : History} {x : Operation α} {r : α} (hs : Reaches config h s)
    (ht : Operation.Yields terminate s es (.ok ()) s₁) (hx : Handshake x) (hy : x.Yields s₁ fs (.ok r) s₂)
    (hk : s₂.state = .stateKnown) :
    ∃ fresh, x.Yields ((new s.config).select s.category) fs (.ok r) fresh ∧
      s₂ = { fresh with cached? := s.cached? } ∧ fresh.cached? = none ∧
      (s.cached? = none → s₂ = fresh) ∧
      ∀ f, s.cached? = some f →
        (obtainFormat (b := Talk)).run.run s₂ = pure (.error (.schema (.alreadyObtained s.category)), s₂) ∧
        (pullChanges (b := Talk)).run.run s₂ = pure (.error (.invalidState "request_sync_ids" .stateKnown), s₂) ∧
        (∃ next, (obtainFormat (b := Talk)).run.run fresh = .ask (.receive .inbound) next) ∧
        ∃ next, (pullChanges (b := Talk)).run.run fresh = .ask (.receive .inbound) next := by
  obtain ⟨-, -, -, -, hi, -, -, -, rfl⟩ := yields_terminate.mp ht
  have hnew := select_new s.config s.category
  obtain ⟨fresh, hfresh, rfl, hspares⟩ := hx.again (t := (new s.config).select s.category) rfl
    (by rw [hnew]; rfl) (by rw [hnew]; rfl) (by rw [hnew]; simp only [attending, withRemains, hi]; rfl) hy
  rw [hnew] at hspares
  have hnone : fresh.cached? = none := hspares.cached?
  have hreached : fresh.HasReached .stateKnown := by
    change fresh.state = .stateKnown at hk
    rw [HasReached, hk]
    decide
  refine ⟨fresh, hfresh, rfl, hnone, fun hn => ?_, fun f hf => ?_⟩
  · rw [hn, ← hnone]
    rfl
  · have hfit : f.category = s.category := (grounded_of_reaches hs).cached f hf
    have hasks := asks_obtainFormat hreached hspares.inbound hnone
    refine ⟨?_, run_pullChanges_cached hk hf (hfit.trans hspares.category.symm), hasks, ?_⟩
    · rw [← hfit]
      exact run_obtainFormat_cached hreached hf
    · exact asks_pullChanges hreached hnone hasks

lemma yields_asks_cons {e : Errand} {asks : List Errand} {r : e.Result}
    (he : Operation.Yields e.perform s es (.ok r) s₁)
    (ha : Operation.Yields (asks.forM fun e => do let _ ← e.perform (b := Talk); return ()) s₁ fs (.ok ()) s₂) :
    Operation.Yields ((e :: asks).forM fun e => do let _ ← e.perform (b := Talk); return ()) s (es ++ fs)
      (.ok ()) s₂ :=
  yields_bind_ok.mpr ⟨es, fs, (), s₁, rfl,
    yields_bind_ok.mpr ⟨es, [], r, s₁, (List.append_nil es).symm, he, .here _⟩, ha⟩

lemma exists_reuse : ∃ h es s₁ fs, Reaches .standard h known ∧ Operation.Yields terminate known es (.ok ()) s₁ ∧
    (handshake connect [.requestInfo, .requestState]).Yields s₁ fs (.ok ()) { known with state := .stateKnown } := by
  let info : DeviceInfo := ⟨[0x5a], ⟨[0x65, 0x6e], rfl⟩, 0⟩
  obtain ⟨h, r⟩ := reaches_known
  obtain ⟨es₁, h₁⟩ := Exchange.exists_answered ⟨.terminate, ()⟩ ⟨.complete, ()⟩ (by decide) (by decide)
  obtain ⟨es₂, h₂⟩ : ∃ es, Talk.farewell.Yields es (.ok ()) := by
    apply Talk.exists_yields_ask (r := .receive .outbound) (.ok (.control .request))
    apply Talk.exists_yields_ask (r := .send .outbound (.message _)) (.ok ())
    apply Talk.exists_yields_ask (r := .receive .outbound) (.ok (.control .acknowledge))
    apply Talk.exists_yields_ask (r := .close .outbound) ()
    exact ⟨_, .here _⟩
  let s₁ : Session := { known with outbound := false, state := .disconnected }
  obtain ⟨es₃, h₃⟩ := exists_connects s₁
  obtain ⟨es₄, h₄⟩ := Exchange.exists_answered ⟨.infoRequest, ()⟩ ⟨.info, info⟩ (by decide) (by decide)
  obtain ⟨es₅, h₅⟩ := Exchange.exists_answered ⟨.stateRequest, .todo⟩ ⟨.state, .none⟩ (by decide) (by decide)
  have hterminate : Operation.Yields terminate known (es₁ ++ es₂) (.ok ()) s₁ :=
    yields_terminate.mpr ⟨es₁, es₂, rfl, by decide, rfl, rfl, h₁, h₂, rfl⟩
  have hlisten : Operation.Yields listen s₁ [⟨.listen s₁.config.listener, .ok ()⟩] (.ok ()) s₁.attending :=
    yields_listen.mpr ⟨rfl, rfl, rfl⟩
  have hasks : Operation.Yields ([.requestInfo, .requestState].forM fun e => do
      let _ ← Errand.perform (b := Talk) e
      return ()) s₁.attending.joined _ (.ok ()) _ :=
    yields_asks_cons (yields_pose rfl h₄) (yields_asks_cons (yields_pose rfl h₅) (.here _))
  exact ⟨h, _, s₁, _, r, hterminate, yields_bind_ok.mpr ⟨_, _, (), _, rfl, hlisten,
    yields_bind_ok.mpr ⟨_, _, (), _, rfl, h₃, hasks⟩⟩⟩

theorem reuse_after_terminate_known : ∃ h es s₁ fs s₂ fresh, Reaches .standard h known ∧
    Operation.Yields terminate known es (.ok ()) s₁ ∧
    (handshake connect [.requestInfo, .requestState]).Yields s₁ fs (.ok ()) s₂ ∧ s₂.state = .stateKnown ∧
    (handshake connect [.requestInfo, .requestState]).Yields ((new known.config).select known.category) fs (.ok ())
      fresh ∧ fresh.cached? = none ∧ s₂ = { fresh with cached? := known.cached? } := by
  obtain ⟨h, es, s₁, fs, hr, ht, hy⟩ := exists_reuse
  have hx : Handshake (handshake connect [.requestInfo, .requestState]) := .steps (.inl rfl) (by simp [Errand.Introduces])
  obtain ⟨fresh, hfresh, he, hn, -⟩ := reuse_after_terminate hr ht hx hy rfl
  exact ⟨h, es, s₁, fs, _, fresh, hr, ht, hy, rfl, hfresh, hn, he⟩

theorem not_reusable : ¬ ∀ (config : Config) (h : History) (s s₁ s₂ : Session) (es fs : List Event)
    (x : Operation Unit), Reaches config h s → Operation.Yields terminate s es (.ok ()) s₁ → Handshake x →
    x.Yields s₁ fs (.ok ()) s₂ → s₂.state = .stateKnown →
      (∀ c, (obtainFormat (b := Talk)).run.run s₂ ≠ pure (.error (.schema (.alreadyObtained c)), s₂)) ∧
      ∀ operation state, (pullChanges (b := Talk)).run.run s₂ ≠ pure (.error (.invalidState operation state), s₂) := by
  intro hall
  obtain ⟨h, es, s₁, fs, hr, ht, hy⟩ := exists_reuse
  obtain ⟨hobtain, -⟩ := hall .standard h known s₁ _ es fs _ hr ht (.steps (.inl rfl) (by simp [Errand.Introduces]))
    hy rfl
  exact hobtain .todo (run_obtainFormat_cached (s := { known with state := .stateKnown }) (by decide) rfl)

end PimSync.Session
