import PimSync.Proofs.Item.Readings
import PimSync.Proofs.Session.Reachable

namespace PimSync

/-- An error of the session itself: there is a format already, or none yet. -/
def Schema.SchemaError.IsUntimely : SchemaError → Prop
  | alreadyObtained _ | formatMissing _ => True
  | _ => False

namespace Session

open Wire Schema Procedure

variable {config : Config} {h : History} {s : Session}

lemma Item.ofValues_error {c : Category} {format : Format} {values : Values} {e : SchemaError}
    (h : Item.ofValues c format values = .error e) : ¬ e.IsUntimely := by
  have hreading := Item.reading_ofValues c format values
  rw [h] at hreading
  cases hreading <;> exact id

lemma grounded_of_occurs (o : Occurs config h s) : Grounded config h s := by
  rcases o with r | ⟨a, m, f, next, hf, hu, hl⟩
  · exact grounded_of_reaches r
  · obtain ⟨_, s', -, hl', g, -⟩ := writes_of_underway hu
    exact hl.unique hl' ▸ g

lemma run_fetchValues_error {id : UInt32} {es : List Event} {e : SessionError} {s' : Session}
    (h : ((fetchValues (b := Talk) id).run.run s).Yields es (.error e, s')) (c : Category) :
    e ≠ .schema (.formatMissing c) := by
  rw [fetchValues, run_pose] at h
  split at h
  · rename_i hq
    obtain ⟨-, he⟩ := Talk.yields_pure.mp h
    cases he
    rcases question_eq_error hq with rfl | hc | rfl
    · simp
    · cases hc
    · simp
  · obtain ⟨answer, -, he⟩ := Talk.yields_map.mp h
    obtain ⟨-, x, rfl⟩ := conclusion_eq_error he.symm
    simp

lemma fetchValues_keeps {id : UInt32} {es : List Event} {r : Except SessionError Values} {s' : Session}
    (h : ((fetchValues (b := Talk) id).run.run s).Yields es (r, s')) :
    s'.category = s.category ∧ s'.cached? = s.cached? := by
  rw [fetchValues, run_pose] at h
  split at h
  · obtain ⟨-, he⟩ := Talk.yields_pure.mp h
    cases he
    exact ⟨rfl, rfl⟩
  · obtain ⟨answer, -, he⟩ := Talk.yields_map.mp h
    unfold conclusion at he
    split at he
    · cases he
      exact ⟨rfl, rfl⟩
    · split at he <;> cases he
      · simp [advance_eq]
      · exact ⟨rfl, rfl⟩

lemma fetchItem_finds_format {id : UInt32} {entries : Format} (hc : s.cached? = some ⟨s.category, entries⟩)
    {es : List Event} {r : Except SessionError Item} {s' : Session}
    (h : ((fetchItem (b := Talk) id).run.run s).Yields es (r, s')) (c : Category) :
    r ≠ .error (.schema (.formatMissing c)) := by
  have hf {s₁ : Session} (h₁ : s₁.category = s.category ∧ s₁.cached? = s.cached?) :
      s₁.formatFor? s₁.category = some entries := by
    simp [formatFor?, h₁, hc]
  rw [fetchItem, run_get_bind, run_bind, run_cachedFormat, hf ⟨rfl, rfl⟩, pure_bind] at h
  simp only [run_bind] at h
  obtain ⟨fs, gs, ⟨e | values, s₁⟩, rfl, hv, h⟩ := Talk.yields_bind.mp h
  · obtain ⟨-, he⟩ := Talk.yields_pure.mp h
    cases he
    exact fun he => run_fetchValues_error hv c (Except.error.inj he)
  · simp only [run_get, pure_bind, run_cachedFormat, hf (fetchValues_keeps hv)] at h
    rw [schematic, run_ofExcept] at h
    obtain ⟨-, he⟩ := Talk.yields_pure.mp h
    cases he
    cases hi : Item.ofValues s'.category entries values with
    | ok item => simp [Except.mapError]
    | error e =>
      have he : ¬ e.IsUntimely := Item.ofValues_error hi
      rintro ⟨⟩
      exact he trivial

lemma asks_of_writeItem {w : ItemWrite} {es : List Event} {f : Frame}
    {next : Except LinkError Unit → Talk (Except SessionError UInt32 × Session)}
    (h : ((writeItem (b := Talk) w).run.run s).After es (.ask (.send .inbound (.message f)) next)) :
    Message.frame ⟨.itemWrite, w⟩ = .ok f ∧ Leaves next s := by
  rw [writeItem, run_pose] at h
  split at h
  · cases h
  · rename_i payload hq
    obtain ⟨-, hp, -⟩ := question_eq_ok.mp hq
    obtain rfl := Except.ok.inj hp
    rw [map_eq_pure_bind] at h
    rcases Talk.asks_bind h with ⟨next', hn, rfl⟩ | ⟨_, _, _, -, -, hr⟩
    · obtain ⟨hf, -, hl⟩ := Exchange.about_ask.writes hn
      refine ⟨hf, fun e => ?_⟩
      simp only [hl e]
      rfl
    · cases hr

lemma asks_of_cachedWrite (operation : String) (c : Category) (write : Format → ItemWrite)
    (hc : ∀ format, (write format).category = c) {es : List Event} {f : Frame}
    {next : Except LinkError Unit → Talk (Except SessionError UInt32 × Session)}
    (h : ((require operation .formatKnown >>= fun _ => cachedFormat c >>= fun format =>
      writeItem (b := Talk) (write format)).run.run s).After es (.ask (.send .inbound (.message f)) next)) :
    ∃ w entries, Message.frame ⟨.itemWrite, w⟩ = .ok f ∧ Leaves next s ∧
      s.cached? = some ⟨w.category, entries⟩ := by
  rw [run_bind, run_require, pure_bind] at h
  by_cases hr : s.HasReached .formatKnown
  · rw [if_pos hr] at h
    simp only [run_bind, run_cachedFormat, pure_bind] at h
    cases hf : s.formatFor? c with
    | none =>
      simp only [hf] at h
      cases h
    | some format =>
      simp only [hf] at h
      obtain ⟨hm, hl⟩ := asks_of_writeItem h
      refine ⟨write format, format, hm, hl, ?_⟩
      obtain ⟨⟨c', entries⟩, hs, he⟩ := Option.bind_eq_some_iff.mp hf
      split at he
      · rename_i hcc
        cases he
        simp [hs, hc, ← hcc]
      · cases he
  · rw [if_neg hr] at h
    cases h

def Action.WritesItem : Action → Prop
  | .errand (.insertItem _) | .errand (.updateItem ..) => True
  | _ => False

lemma writes_cached {a : Action} (ha : a.WritesItem) {f : Frame}
    {next : Except LinkError Unit → Talk (Except SessionError a.Result × Session)}
    (hu : Underway config a h (.ask (.send .inbound (.message f)) next)) :
    ∃ w s entries, Message.frame ⟨.itemWrite, w⟩ = .ok f ∧ Leaves next s ∧
      s.cached? = some ⟨w.category, entries⟩ := by
  obtain ⟨h₀, s₀, es, -, rfl, ht⟩ := hu
  cases a with
  | errand e =>
    cases e with
    | insertItem item =>
      obtain ⟨w, entries, hw⟩ := asks_of_cachedWrite "insert_item" item.category
        (fun format => ⟨item.category, .insert, item.values format⟩) (fun _ => rfl) ht
      exact ⟨w, s₀, entries, hw⟩
    | updateItem id item =>
      obtain ⟨w, entries, hw⟩ := asks_of_cachedWrite "update_item" item.category
        (fun format => ⟨item.category, .update id, item.values format⟩) (fun _ => rfl) ht
      exact ⟨w, s₀, entries, hw⟩
    | _ => exact absurd ha id
  | _ => exact absurd ha id

/-- A cached format is for the category that is selected, and what is written for a category fits its format. -/
theorem cached_data_fits (config : Config) :
    (∀ h s, Occurs config h s →
      (∀ f, s.cached? = some f → f.category = s.category) ∧
      (s.HasReached .formatKnown → ∃ entries, s.cached? = some ⟨s.category, entries⟩ ∧
        Happened h ⟨.formatRequest, s.category⟩ ⟨.format, entries⟩ fun x => ¬ x.Listens ∧ ¬ x.Sends .formatRequest) ∧
      (s.HasReached .infoKnown → s.device?.isSome) ∧
      (s.HasReached .stateKnown → s.flags?.isSome) ∧
      (s.HasReached .formatKnown → ∀ id es r s', Operation.Yields (fetchItem id) s es r s' →
        ∀ c, r ≠ .error (.schema (.formatMissing c)))) ∧
    ∀ a h f next, Underway config a h (.ask (.send .inbound (.message f)) next) →
      ∃ (m : Message) (s : Session), m.frame = .ok f ∧ Leaves next s ∧
        (m.type = .idsRequest ∨ m.type = .itemRequest ∨ m.type = .deleteItems ∨ m.type = .syncDone ∨
          m.type = .itemWrite ∧ a.WritesItem →
        ∃ c entries, m.category? = some c ∧ s.cached? = some ⟨c, entries⟩) := by
  refine ⟨fun h s o => ?_, fun a h f next hu => ?_⟩
  · have g := grounded_of_occurs o
    have hformat (hr : s.HasReached .formatKnown) := g.reached hr (.inr (.inr rfl))
    refine ⟨g.cached, fun hr => ?_, fun hr => ?_, fun hr => (g.reached hr (.inr (.inl rfl))).1, fun hr => ?_⟩
    · obtain ⟨entries, hc, hh⟩ := hformat hr
      exact ⟨entries, hc, hh.mono fun x hx => ⟨hx.1.1, hx.2⟩⟩
    · obtain ⟨info, hd, -⟩ := g.reached hr (.inl rfl)
      simp [hd]
    · obtain ⟨entries, hc, -⟩ := hformat hr
      exact fun id es r s' hy => fetchItem_finds_format hc hy
  · obtain ⟨m, s, hf, hl, g, hw⟩ := writes_of_underway hu
    refine ⟨m, s, hf, hl, fun hm => ?_⟩
    have hown (hr : s.HasReached .formatKnown ∧ m.category? = some s.category) :
        ∃ c entries, m.category? = some c ∧ s.cached? = some ⟨c, entries⟩ := by
      obtain ⟨entries, hc, -⟩ := g.reached hr.1 (.inr (.inr rfl))
      exact ⟨s.category, entries, hr.2, hc⟩
    rw [Warrants] at hw
    rcases hm with ht | ht | ht | ht | ⟨ht, ha⟩
    · exact hown (by simpa only [ht] using hw)
    · exact hown (by simpa only [ht] using hw)
    · exact hown (by simpa only [ht] using hw)
    · exact hown (by simpa only [ht] using hw)
    · obtain ⟨w, s', entries, hf', hl', hc⟩ := writes_cached ha hu
      obtain rfl := Message.eq_of_frame hf hf'
      obtain rfl := hl.unique hl'
      exact ⟨_, entries, rfl, hc⟩

theorem cached_data_fits_known : ∃ h s, Reaches .standard h s ∧ s.HasReached .formatKnown ∧
    ∃ entries, s.cached? = some ⟨s.category, entries⟩ ∧ s.device?.isSome ∧ s.flags?.isSome := by
  obtain ⟨h, s, r, hr⟩ := reaches_formatKnown
  obtain ⟨-, hformat, hinfo, hflags, -⟩ := (cached_data_fits .standard).1 h s (.inl r)
  obtain ⟨entries, hc, -⟩ := hformat hr
  exact ⟨h, s, r, hr, entries, hc, hinfo ⟨hr.1, State.le_trans (by decide) hr.2⟩,
    hflags ⟨hr.1, State.le_trans (by decide) hr.2⟩⟩

/-- A connected session is in no state that it has not earned since it last began to listen. -/
theorem state_is_evidence (config : Config) :
    (∀ h s, Occurs config h s → s.state.isConnected →
      (.infoKnown ≤ s.state → ∃ info, Happened h ⟨.infoRequest, ()⟩ ⟨.info, info⟩ (¬ ·.Listens)) ∧
      (s.state = .authenticated →
        ∃ password, Happened h ⟨.authRequest, password⟩ ⟨.authNotRequired, ()⟩ (¬ ·.Listens)) ∧
      (.stateKnown ≤ s.state → Authorized config h) ∧
      (.formatKnown ≤ s.state →
        ∃ entries, Happened h ⟨.formatRequest, s.category⟩ ⟨.format, entries⟩ (·.Keeps s.category)) ∧
      (s.state = .iterating →
        (∃ lists, Happened h ⟨.idsRequest, s.category⟩ ⟨.ids, lists⟩ (·.Keeps s.category)) ∨
          ∃ id values, Happened h ⟨.itemRequest, ⟨s.category, id⟩⟩ ⟨.item, values⟩ (·.Keeps s.category)) ∧
      (s.state = .done → Happened h ⟨.syncDone, s.category⟩ ⟨.complete, ()⟩ (·.Keeps s.category))) ∧
    ∀ a h f next, Underway config a h (.ask (.send .inbound (.message f)) next) →
      ∃ m : Message, m.frame = .ok f ∧
        (m.type ∈ [.setState, .formatRequest, .idsRequest, .itemRequest, .itemWrite, .deleteItems, .syncDone] →
          Authorized config h) := by
  refine ⟨fun h s o hc => ?_, fun a h f next hu => ?_⟩
  · have g := grounded_of_occurs o
    have hstate : Evidence config h s s.state := g.evidence s.state ⟨hc, .inl rfl⟩
    refine ⟨fun hr => ?_, fun hs => ?_, fun hr => (g.reached ⟨hc, hr⟩ (.inr (.inl rfl))).2, fun hr => ?_,
      fun hs => ?_, fun hs => ?_⟩
    · obtain ⟨info, -, hh⟩ := g.reached ⟨hc, hr⟩ (.inl rfl)
      exact ⟨info, hh⟩
    · rwa [hs] at hstate
    · obtain ⟨entries, -, hh⟩ := g.reached ⟨hc, hr⟩ (.inr (.inr rfl))
      exact ⟨entries, hh.mono fun x hx => hx.1⟩
    · rwa [hs] at hstate
    · rwa [hs] at hstate
  · obtain ⟨m, s, hf, -, g, hw⟩ := writes_of_underway hu
    refine ⟨m, hf, fun hm => ?_⟩
    have hr : s.HasReached .stateKnown := by
      have hle {t : State} (hr : s.HasReached t) (ht : .stateKnown ≤ t) : s.HasReached .stateKnown :=
        ⟨hr.1, State.le_trans ht hr.2⟩
      rw [Warrants] at hw
      simp only [List.mem_cons, List.not_mem_nil, or_false] at hm
      rcases hm with ht | ht | ht | ht | ht | ht | ht <;> simp only [ht] at hw
      · exact hw
      · exact hw
      · exact hle hw.1 (by decide)
      · exact hle hw.1 (by decide)
      · exact hle hw (by decide)
      · exact hle hw.1 (by decide)
      · exact hle hw.1 (by decide)
    exact (g.reached hr (.inr (.inl rfl))).2

theorem state_is_evidence_known : ∃ h s, Reaches .standard h s ∧ s.HasReached .formatKnown ∧
    Authorized .standard h := by
  obtain ⟨h, s, r, hr⟩ := reaches_formatKnown
  obtain ⟨-, -, hstate, -⟩ := (state_is_evidence .standard).1 h s (.inl r) hr.1
  exact ⟨h, s, r, hr, hstate (State.le_trans (by decide) hr.2)⟩

end Session

end PimSync
