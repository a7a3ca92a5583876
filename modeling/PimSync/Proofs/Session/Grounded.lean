import PimSync.Proofs.Session.History

/-! What a session knows it has been told: each state stands on what has happened on the connection. -/

namespace PimSync.Session

open Wire

variable {config : Config} {h post : History} {s s' : Session} {t least : State}

def Evidence (config : Config) (h : History) (s : Session) : State → Prop
  | .infoKnown => ∃ info, s.device? = some info ∧ Happened h ⟨.infoRequest, ()⟩ ⟨.info, info⟩ (¬ ·.Listens)
  | .authenticated => ∃ password, Happened h ⟨.authRequest, password⟩ ⟨.authNotRequired, ()⟩ (¬ ·.Listens)
  | .stateKnown => s.flags?.isSome ∧ Authorized config h
  | .formatKnown => ∃ entries, s.cached? = some ⟨s.category, entries⟩ ∧
    Happened h ⟨.formatRequest, s.category⟩ ⟨.format, entries⟩ fun x =>
      x.Keeps s.category ∧ ¬ x.Sends .formatRequest
  | .iterating =>
    (∃ lists, Happened h ⟨.idsRequest, s.category⟩ ⟨.ids, lists⟩ (·.Keeps s.category)) ∨
      ∃ id values, Happened h ⟨.itemRequest, ⟨s.category, id⟩⟩ ⟨.item, values⟩ (·.Keeps s.category)
  | .done => Happened h ⟨.syncDone, s.category⟩ ⟨.complete, ()⟩ (·.Keeps s.category)
  | _ => True

namespace State

def IsMilestone (t : State) : Prop := t = infoKnown ∨ t = stateKnown ∨ t = formatKnown

instance (t : State) : Decidable t.IsMilestone := inferInstanceAs (Decidable (_ ∨ _ ∨ _))

def Shows (st t : State) : Prop := st.isConnected ∧ (t = st ∨ t.IsMilestone ∧ t ≤ st)

instance (st t : State) : Decidable (st.Shows t) := inferInstanceAs (Decidable (_ ∧ _))

lemma le_trans {a b c : State} (h : a ≤ b) (k : b ≤ c) : a ≤ c := Nat.le_trans h k

lemma not_isConnected_idle : ¬ idle.isConnected := by decide

lemma not_isConnected_disconnected : ¬ disconnected.isConnected := by decide

lemma not_isConnected_listening : ¬ listening.isConnected := by decide

lemma not_isConnected_finalized (st : State) : ¬ (if st = idle then idle else disconnected).isConnected := by
  split <;> decide

lemma not_isConnected_of_canListen {st : State} (h : st.canListen) : ¬ st.isConnected := by
  revert h
  cases st <;> decide

lemma eq_of_connected_shows {t : State} (h : connected.Shows t) : t = connected := by
  revert h
  cases t <;> decide

lemma lt_of_le_of_ne {a b : State} (h : a ≤ b) (hn : a ≠ b) : a < b := by
  revert h hn
  cases a <;> cases b <;> decide

end State

/-- A session that knows nothing but what it has been told, and has its format for the category that is selected. -/
structure Grounded (config : Config) (h : History) (s : Session) : Prop where
  cached : ∀ f, s.cached? = some f → f.category = s.category
  evidence : ∀ t, s.state.Shows t → Evidence config h s t

def Harmless (s : Session) (post : History) : Prop :=
  ∀ x ∈ post, x.Keeps s.category ∧ (s.cached?.isSome → ¬ x.Sends .formatRequest)

lemma Evidence.append (k : Evidence config h s t) (hp : s.Harmless post) : Evidence config (h ++ post) s t := by
  have hl : ∀ x ∈ post, ¬ x.Listens := fun x hx => (hp x hx).1.1
  have hk : ∀ x ∈ post, x.Keeps s.category := fun x hx => (hp x hx).1
  cases t with
  | infoKnown =>
    obtain ⟨info, hd, hh⟩ := k
    exact ⟨info, hd, hh.append hl⟩
  | authenticated =>
    obtain ⟨password, hh⟩ := k
    exact ⟨password, hh.append hl⟩
  | stateKnown => exact ⟨k.1, k.2.append hl⟩
  | formatKnown =>
    obtain ⟨entries, hc, hh⟩ := k
    exact ⟨entries, hc, hh.append fun x hx => ⟨hk x hx, (hp x hx).2 (by simp [hc])⟩⟩
  | iterating =>
    rcases k with ⟨lists, hh⟩ | ⟨id, values, hh⟩
    · exact .inl ⟨lists, hh.append hk⟩
    · exact .inr ⟨id, values, hh.append hk⟩
  | done => exact Happened.append k hk
  | _ => trivial

namespace Grounded

lemma append (g : Grounded config h s) (hp : s.Harmless post) : Grounded config (h ++ post) s :=
  ⟨g.cached, fun t ht => (g.evidence t ht).append hp⟩

lemma reached (g : Grounded config h s) (hr : s.HasReached t) (hm : t.IsMilestone) : Evidence config h s t :=
  g.evidence t ⟨hr.1, .inr ⟨hm, hr.2⟩⟩

lemma advance (g : Grounded config h s) (hr : s.HasReached least) (hm : ∀ m, m.IsMilestone → m < t → m ≤ least)
    (hs : s'.state = if s.state < t then t else s.state) (hc : ∀ f, s'.cached? = some f → f.category = s'.category)
    (hn : Evidence config h s' t) (hk : ∀ t', t' ≠ t → Evidence config h s t' → Evidence config h s' t') :
    Grounded config h s' := by
  refine ⟨hc, fun t' ht' => ?_⟩
  by_cases he : t' = t
  · exact he ▸ hn
  refine hk t' he (g.evidence t' ?_)
  rw [hs] at ht'
  split at ht'
  · obtain ⟨-, rfl | ⟨hm', hle⟩⟩ := ht'
    · exact absurd rfl he
    · exact ⟨hr.1, .inr ⟨hm', State.le_trans (hm t' hm' (State.lt_of_le_of_ne hle he)) hr.2⟩⟩
  · exact ht'

lemma alter (g : Grounded config h s) (hs : s'.state = s.state)
    (hc : ∀ f, s'.cached? = some f → f.category = s'.category) (hk : ∀ t, Evidence config h s t → Evidence config h s' t) : Grounded config h s' :=
  ⟨hc, fun t ht => hk t (g.evidence t (hs ▸ ht))⟩

lemma of_not_connected (hn : ¬ s.state.isConnected) (hc : ∀ f, s.cached? = some f → f.category = s.category) :
    Grounded config h s :=
  ⟨hc, fun _ ht => absurd ht.1 hn⟩

lemma meet (g : Grounded config h s) {inbound : Bool} :
    Grounded config h { s with inbound := inbound, state := .connected } := by
  refine ⟨g.cached, fun t ht => ?_⟩
  cases State.eq_of_connected_shows ht
  trivial

lemma fallBack (g : Grounded config h s) (hp : ∀ x ∈ post, ¬ x.Listens)
    (hs : ∀ t, s'.state.Shows t → t ≤ .stateKnown ∧ s.state.Shows t) (hd : s'.device? = s.device?)
    (hf : s'.flags? = s.flags?) (hc : s'.cached? = none) : Grounded config (h ++ post) s' := by
  refine ⟨by simp [hc], fun t ht => ?_⟩
  obtain ⟨hle, ht⟩ := hs t ht
  have k := g.evidence t ht
  cases t with
  | infoKnown =>
    obtain ⟨info, hi, hh⟩ := k
    exact ⟨info, hd.trans hi, hh.append hp⟩
  | authenticated =>
    obtain ⟨password, hh⟩ := k
    exact ⟨password, hh.append hp⟩
  | stateKnown => exact ⟨hf ▸ k.1, k.2.append hp⟩
  | formatKnown => exact absurd hle (by decide)
  | iterating => exact absurd hle (by decide)
  | done => exact absurd hle (by decide)
  | _ => trivial

end Grounded

def Warrants (s : Session) (m : Message) : Prop :=
  match m.type with
  | .stateRequest => s.HasReached .infoKnown ∧ s.mayProceed
  | .setState | .formatRequest => s.HasReached .stateKnown
  | .idsRequest | .itemRequest | .deleteItems | .syncDone =>
    s.HasReached .formatKnown ∧ m.category? = some s.category
  | .itemWrite => s.HasReached .formatKnown
  | _ => True

/-- Wherever an action is about to do this, a grounded session stays grounded and sends only what it may. -/
def Sound {α : Type} (config : Config) (x : Operation α) (s : Session) : Prop :=
  ∀ (a : Action) (h : History) (f : α → Operation a.Result),
    Underway config a h ((x >>= f).run.run s) → Grounded config h s →
    (∀ es r s', (x.run.run s).Yields es (r, s') → Grounded config (h ++ es.map .event) s') ∧
    ∀ es g next, (x.run.run s).After es (.ask (.send .inbound (.message g)) next) →
      ∃ m s', m.frame = .ok g ∧ Leaves next s' ∧ Grounded config (h ++ es.map .event) s' ∧ s'.Warrants m

namespace Sound

open Procedure

variable {α β : Type} {x : Operation α} {f : α → Operation β}

lemma congr {y : Operation α} (hxy : x.run.run s = y.run.run s) (hy : Sound config y s) : Sound config x s := by
  intro a h k hu g
  rw [run_bind, hxy, ← run_bind] at hu
  rw [hxy]
  exact hy a h k hu g

lemma bind (hx : Sound config x s) (hf : ∀ a s', Sound config (f a) s') : Sound config (x >>= f) s := by
  intro a h k hu g
  rw [bind_assoc] at hu
  obtain ⟨hy, hw⟩ := hx _ _ _ hu g
  have hnext {fs b s₁} (hb : (x.run.run s).Yields fs (.ok b, s₁)) := by
    rw [run_bind] at hu
    exact hf b s₁ a _ k (hu.after (hb.bind _)) (hy _ _ _ hb)
  rw [run_bind]
  constructor
  · intro es r s' h'
    obtain ⟨fs, gs, ⟨c | b, s₁⟩, rfl, hb, hr⟩ := Talk.yields_bind.mp h'
    · obtain ⟨rfl, he⟩ := Talk.yields_pure.mp hr
      cases he
      simpa using hy _ _ _ hb
    · simpa using (hnext hb).1 _ _ _ hr
  · intro es g' next h'
    rcases Talk.asks_bind h' with ⟨next', hn, rfl⟩ | ⟨fs, gs, ⟨c | b, s₁⟩, rfl, hb, hr⟩
    · obtain ⟨m, s₁, hf, hl, hm⟩ := hw _ _ _ hn
      exact ⟨m, s₁, hf, hl.andThen f, hm⟩
    · cases hr
    · simpa using (hnext hb).2 _ _ _ hr

lemma still {r : Except SessionError α} (hx : x.run.run s = pure (r, s'))
    (hs : ∀ {h}, Grounded config h s → Grounded config h s') : Sound config x s := by
  intro a h k hu g
  rw [hx]
  constructor
  · intro es r' s'' h'
    obtain ⟨rfl, he⟩ := Talk.yields_pure.mp h'
    cases he
    simpa using hs g
  · intro es g' next h'
    cases h'

lemma harmless_of_carries {m : Message} {es : List Event} (hm : m.type = .formatRequest → s.cached? = none)
    (he : ∀ e ∈ es, Exchange.Carries .inbound m e.request) : s.Harmless (es.map .event) := by
  intro y hy
  obtain ⟨⟨r, answer⟩, hmem, rfl⟩ := List.mem_map.mp hy
  obtain (hr | ⟨c, hr⟩) | ⟨f, hf, hr⟩ := he _ hmem
  · cases hr
    exact ⟨⟨id, id⟩, fun _ => id⟩
  · cases hr
    exact ⟨⟨id, id⟩, fun _ => id⟩
  · cases hr
    refine ⟨⟨id, id⟩, fun hc hs => ?_⟩
    have ht : m.type = .formatRequest := MessageType.tag_injective ((Message.tag_of_frame hf).symm.trans hs)
    simp [hm ht] at hc

lemma exchanges {A : Type} {t : Exchange A} {m : Message}
    {conclude : Except ExchangeError A → Except SessionError α × Session}
    (hx : x.run.run s = conclude <$> t.run) (ht : t.About m) (hm : m.type = .formatRequest → s.cached? = none)
    (hw : s.Warrants m) (he : ∀ e, conclude (.error e) = (.error (.exchange e), s))
    (hc : ∀ {a h es w}, Grounded config (h ++ es.map .event) s → t.run.Yields es (.ok w) →
      ((∃ f, m.frame = .ok f) → Writes config a (h ++ [.event (.received .inbound (.control .request))]) m s) →
      Grounded config (h ++ es.map .event) (conclude (.ok w)).2) : Sound config x s := by
  intro a h k hu g
  have hg {es u} (hy : t.run.After es u) : Grounded config (h ++ es.map .event) s :=
    g.append (harmless_of_carries hm (ht.only.after hy).1)
  have hl {next' : Except LinkError Unit → Talk (Except ExchangeError A)}
      (hn : ∀ e, next' (.error e) = .done (.error (.link e))) :
      Leaves (fun answer => next' answer >>= fun a => Pure.pure (conclude a)) s := fun e => by
    simp only [hn, Talk.bind_done, he]
    rfl
  rw [hx]
  constructor
  · intro es r s' h'
    obtain ⟨w, hy, hr⟩ := Talk.yields_map.mp h'
    obtain rfl : s' = (conclude w).2 := congrArg Prod.snd hr
    cases w with
    | error e =>
      rw [he]
      exact hg hy
    | ok w =>
      refine hc (hg hy) hy (a := a) fun ⟨f, hf⟩ => ?_
      obtain ⟨next, hn⟩ := ht.asks hf
      obtain ⟨-, -, hn'⟩ := ht.writes hn
      rw [run_bind, hx, map_eq_pure_bind] at hu
      exact ⟨f, _, hf, hu.after ((hn.bind _).bind _), (hl hn').andThen k⟩
  · intro es g' next h'
    rw [map_eq_pure_bind] at h'
    rcases Talk.asks_bind h' with ⟨next', hn, rfl⟩ | ⟨_, _, _, rfl, _, hr⟩
    · obtain ⟨hf, rfl, hn'⟩ := ht.writes hn
      exact ⟨m, s, hf, hl hn', hg hn, hw⟩
    · cases hr

end Sound

end PimSync.Session
