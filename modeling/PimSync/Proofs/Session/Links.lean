import PimSync.Proofs.Session.Reuse
import PimSync.Proofs.Session.Steadiness

namespace PimSync.Session

open Wire Procedure

variable {α β : Type} {s s' : Session} {x : Operation α} {es : List Event}

structure Whole (s : Session) : Prop where
  linked : s.state.isConnected → s.inbound ∧ s.outbound
  listening : s.state = .listening → s.listening

structure Anchored (s : Session) : Prop where
  inbound : s.state.isConnected → s.inbound
  listening : s.state = .listening → s.listening

namespace Whole

lemma of_listening (hs : s.state = .listening) (hl : s.listening) : s.Whole :=
  ⟨fun hc => absurd (hs ▸ hc) State.not_isConnected_listening, fun _ => hl⟩

lemma of_joined (h : s.Joined) : s.Whole :=
  ⟨fun _ => h.2, fun hs => absurd (hs ▸ h.1) State.not_isConnected_listening⟩

lemma anchored (h : s.Whole) : s.Anchored := ⟨fun hc => (h.linked hc).1, h.listening⟩

end Whole

namespace Stays

lemma listens (h : s.Stays s') (hl : s.state = .listening → s.listening) (hs' : s'.state = .listening) :
    s'.listening := by
  rcases h.state with he | ⟨-, hc⟩
  · exact h.listening.trans (hl (he ▸ hs'))
  · exact absurd (hs' ▸ hc) State.not_isConnected_listening

lemma anchored (h : s.Stays s') (ha : s.Anchored) : s'.Anchored :=
  ⟨fun hc => h.inbound.trans (ha.inbound (h.isConnected ▸ hc)), h.listens ha.listening⟩

lemma whole (h : s.Stays s') (hw : s.Whole) : s'.Whole := by
  refine ⟨fun hc => ?_, h.listens hw.listening⟩
  rw [h.inbound, h.outbound]
  exact hw.linked (h.isConnected ▸ hc)

end Stays

abbrev Completes (x : Operation α) (s : Session) : Prop :=
  Brings x s fun r s' => s'.Whole ∧ r ≠ .error .notConnected

namespace Completes

lemma still {f : α → Operation β} (h : Brings x s fun r s' => s' = s ∧ r ≠ .error .notConnected) (hs : s.Whole)
    (hk : ∀ a, Completes (f a) s) : Completes (x >>= f) s :=
  Brings.still h (fun _ he => ⟨hs, error_ne_notConnected he⟩) hk

lemma request {r : Request} {f : r.Answer → Operation β} (hr : ∀ address, r ≠ .listen address)
    (hk : ∀ a, Completes (f a) s) : Completes (Operation.request r >>= f) s :=
  Brings.request hr hk

lemma changes {f : Session → Session} {k : Unit → Operation β} (hk : Completes (k ()) (f s)) :
    Completes (modify f >>= k) s := by
  refine (Brings.of_run (run_modifyGet (fun s => ((), f s)) s) (Q := fun r s' => r = .ok () ∧ s' = f s)
    ⟨rfl, rfl⟩).bind (fun _ _ he => nomatch he.1) fun _ s' hs => ?_
  obtain ⟨-, rfl⟩ := hs
  exact hk

lemma steady {f : α → Operation β} (h : Completes x s) (hk : ∀ a s, Steady (f a) s) : Completes (x >>= f) s := by
  refine h.bind (fun _ _ hs => ⟨hs.1, fun k => hs.2 ?_⟩) fun a s' hs => ?_
  · rw [Except.error.inj k]
  · exact (hk a s' hs.1.anchored.inbound).mono fun r s'' hs' => ⟨hs'.1.whole hs.1, hs'.2⟩

end Completes

section Meeting

lemma only_ready : (Exchange.deliver .outbound ready).run.Only fun r => ∀ address, r ≠ .listen address :=
  Exchange.only_deliver.mono fun _ => not_listen_of_carries

lemma only_call : (Exchange.collect .inbound).run.Only fun r => ∀ address, r ≠ .listen address :=
  Exchange.only_collect.mono fun _ hr => not_listen_of_carries (m := ready) (.inl hr)

lemma brings_requireListening (hs : s.state = .listening) (operation : String) :
    Brings (Operation.requireListening operation) s fun r s' => s' = s ∧ r ≠ .error .notConnected := by
  refine .of_run (r := .ok ()) ?_ ⟨rfl, nofun⟩
  rw [Operation.requireListening, run_get_bind, if_pos hs]
  rfl

lemma brings_requireLink (hl : s.listening) :
    Brings (requireLink listening) s fun r s' => s' = s ∧ r ≠ .error .notConnected := by
  refine .of_run (run_requireLink _ s) ⟨rfl, ?_⟩
  rw [if_pos hl]
  nofun

variable (hs : s.state = .listening) (hl : s.listening)

include hs hl

lemma completes_connect : Completes connect s := by
  have hw : s.Whole := .of_listening hs hl
  refine .still (brings_requireListening hs _) hw fun _ => .still (.of_run (run_get s) ⟨rfl, nofun⟩) hw fun s₁ =>
    .request nofun fun answer => .still (.linked answer) hw fun _ => .changes ?_
  refine .still (.exchange _ only_ready) (.of_listening hs hl) fun _ => .still (brings_requireLink hl)
    (.of_listening hs hl) fun _ => ?_
  refine .request nofun fun answer => .still (.linked answer) (.of_listening hs hl)
    fun _ => ?_
  exact .of_run (run_modifyGet _ _) ⟨.of_joined ⟨rfl, rfl, rfl⟩, nofun⟩

lemma completes_callBack (host : String) : Completes (callBack host) { s with inbound := true } := by
  have hw : Whole { s with inbound := true } := .of_listening hs hl
  refine .still (.of_run (run_get _) ⟨rfl, nofun⟩) hw fun s₁ => .request nofun fun answer =>
    .still (.linked answer) hw fun _ => .changes (.still (.exchange _ only_ready) (.of_listening hs hl) fun _ => ?_)
  exact .of_run (run_modifyGet _ _) ⟨.of_joined ⟨rfl, rfl, rfl⟩, nofun⟩

lemma completes_acceptDevice : Completes acceptDevice s := by
  have hw : s.Whole := .of_listening hs hl
  have hw' : Whole { s with inbound := true } := .of_listening hs hl
  refine .still (brings_requireListening hs _) hw fun _ => .still (brings_requireLink hl) hw fun _ =>
    .request nofun fun answer => .still (.linked answer) hw fun host => .changes ?_
  refine .still (.exchange _ only_call) hw' fun m => ?_
  split
  · exact completes_callBack hs hl host
  · refine .of_run (r := .error (.unexpected "device ready" m.name)) ?_ ⟨hw', nofun⟩
    rw [run_bind, run_throw, pure_bind]

end Meeting

lemma run_not_listening {x : Operation α} {operation : String} (hs : s.state ≠ .listening) :
    (Operation.requireListening operation >>= fun _ => x).run.run s =
      pure (.error (.invalidState operation s.state), s) := by
  rw [run_bind, Operation.requireListening, run_get_bind, if_neg hs, run_throw, pure_bind]

lemma steady_connect (hs : s.state ≠ .listening) : Steady connect s :=
  .of_run (run_not_listening hs) nofun

lemma steady_acceptDevice (hs : s.state ≠ .listening) : Steady acceptDevice s :=
  .of_run (run_not_listening hs) nofun

lemma steady_introduce : Steady introduce s :=
  composes_steady.introduce (fun _ => steady_requestInfo) (fun password _ => steady_authenticate password)
    (fun _ => steady_requestState) s

lemma run_initiate_listening (hs : ¬ s.state.canListen) :
    initiate.run.run s = (connect >>= fun _ => introduce).run.run s := by
  rw [initiate, run_get_bind]
  simp only [hs, Bool.false_eq_true, if_false]
  rfl

def Attends (s : Session) (es : List Event) (s' : Session) : Prop :=
  s'.Whole ∨ s.Stays s' ∧ ∀ e ∈ es, ¬ Mark.Listens (.event e)

lemma Completes.attends (h : Completes x s) {r : Except SessionError α} (hy : x.Yields s es r s') :
    s.Attends es s' ∧ r ≠ .error .notConnected :=
  ⟨.inl (h _ _ _ hy).2.1, (h _ _ _ hy).2.2⟩

lemma Steady.attends (h : Steady x s) (ha : s.Anchored) {r : Except SessionError α} (hy : x.Yields s es r s') :
    s.Attends es s' ∧ r ≠ .error .notConnected := by
  obtain ⟨hl, hs, hr⟩ := h ha.inbound _ _ _ hy
  exact ⟨.inr ⟨hs, hl⟩, hr⟩

lemma attends_listen {r : Except SessionError Unit} (hy : listen.Yields s es r s') :
    s.Attends es s' ∧ r ≠ .error .notConnected := by
  rw [Operation.Yields, run_listen] at hy
  split at hy
  · obtain ⟨e | ⟨⟩, rest, rfl, hd⟩ := Talk.yields_ask.mp hy <;> obtain ⟨rfl, he⟩ := Talk.yields_done.mp hd <;> cases he
    · refine ⟨.inr ⟨.refl s, fun e he => ?_⟩, error_ne_notConnected (by simp [SessionError.link])⟩
      obtain rfl := List.mem_singleton.mp he
      exact id
    · exact ⟨.inl (.of_listening rfl rfl), ok_ne_notConnected _⟩
  · obtain ⟨rfl, he⟩ := Talk.yields_done.mp hy
    cases he
    exact ⟨.inr ⟨.refl s, by simp⟩, error_ne_notConnected (by simp)⟩

lemma attends_initiate (ha : s.Anchored) {r : Except SessionError Access} (hy : initiate.Yields s es r s') :
    s.Attends es s' ∧ r ≠ .error .notConnected := by
  by_cases hc : s.state.canListen
  · rw [Operation.Yields, run_initiate hc, run_bind] at hy
    obtain ⟨fs, gs, ⟨e | ⟨⟩, s₁⟩, rfl, hlisten, hy⟩ := Talk.yields_bind.mp hy
    · obtain ⟨rfl, he⟩ := Talk.yields_pure.mp hy
      cases he
      rw [List.append_nil]
      obtain ⟨ha, hr⟩ := attends_listen hlisten
      exact ⟨ha, fun he => hr (by rw [Except.error.inj he])⟩
    · obtain ⟨-, -, rfl⟩ := yields_listen.mp hlisten
      have hconnect : Completes (connect >>= fun _ => introduce) s.attending :=
        (completes_connect rfl rfl).steady fun _ _ => steady_introduce
      exact ⟨.inl (hconnect _ _ _ hy).2.1, (hconnect _ _ _ hy).2.2⟩
  · rw [Operation.Yields, run_initiate_listening hc] at hy
    by_cases hs : s.state = .listening
    · exact ((completes_connect hs (ha.listening hs)).steady fun _ _ => steady_introduce).attends hy
    · exact ((steady_connect hs).bind fun _ _ => steady_introduce).attends ha hy

lemma completes_finalize : Completes finalize s := by
  refine .of_map (run_finalize s) (only_releases (fun _ => nofun) nofun) fun _ => ⟨⟨fun hc => ?_, fun hl => ?_⟩, nofun⟩
  · exact absurd hc (State.not_isConnected_finalized s.state)
  · change (if s.state = .idle then State.idle else .disconnected) = .listening at hl
    split at hl <;> cases hl

lemma attends_perform {a : Action} (hn : a ≠ .errand .terminate) (ha : s.Anchored) {r : Except SessionError a.Result}
    (hy : a.perform.Yields s es r s') : s.Attends es s' ∧ r ≠ .error .notConnected := by
  cases a with
  | listen => exact attends_listen hy
  | connect =>
    by_cases hs : s.state = .listening
    · exact (completes_connect hs (ha.listening hs)).attends hy
    · exact (steady_connect hs).attends ha hy
  | acceptDevice =>
    by_cases hs : s.state = .listening
    · exact (completes_acceptDevice hs (ha.listening hs)).attends hy
    · exact (steady_acceptDevice hs).attends ha hy
  | finalize => exact completes_finalize.attends hy
  | initiate => exact attends_initiate ha hy
  | errand e => exact (steady_errand fun he => hn (congrArg Action.errand he)).attends ha hy

section Leaving

lemma only_terminate (s : Session) :
    ((terminate (b := Talk)).run.run s).Only fun r => ∀ address, r ≠ .listen address := by
  have hfarewell : Talk.farewell.Only fun r => ∀ address, r ≠ .listen address :=
    only_ready.bind fun _ => .bind (.request nofun) fun _ => trivial
  rw [run_terminate]
  cases s.question "terminate" .connected fun _ => .ok () with
  | error e => trivial
  | ok _ =>
    refine .bind (Exchange.only_ask.mono fun r => not_listen_of_carries) fun answer => ?_
    obtain ⟨r, s'⟩ := s.conclusion .complete Prod.mk answer
    cases r with
    | error e => trivial
    | ok _ =>
      dsimp only
      split
      · exact hfarewell.bind fun _ => trivial
      · trivial

lemma terminate_cases (hi : s.state.isConnected → s.inbound) {r : Except SessionError Unit}
    (hy : Operation.Yields terminate s es r s') :
    (s' = s ∧ r ≠ .error .notConnected) ∨ ∃ fs gs, es = fs ++ gs ∧ s.state.isConnected ∧
      Exchange.Answered ⟨.terminate, ()⟩ ⟨.complete, ()⟩ fs ∧
      (¬ s.outbound ∧ gs = [] ∧ r = .error .notConnected ∧ s' = s ∨
        s.outbound ∧ ∃ last, Talk.farewell.Yields gs last ∧ (r, s') = s.parting last) := by
  rw [Operation.Yields, run_terminate] at hy
  cases hq : s.question "terminate" .connected fun _ => .ok () with
  | error e =>
    rw [hq] at hy
    obtain ⟨-, he⟩ := Talk.yields_pure.mp hy
    cases he
    have hn : s.question "terminate" .connected (fun _ => .ok ()) ≠ .error .notConnected :=
      question_ne_notConnected _ _ hi (ok_ne_notConnected _)
    exact .inl ⟨rfl, fun he => hn (hq.trans he)⟩
  | ok _ =>
    rw [hq] at hy
    have hc := (question_eq_ok.mp hq).1.1
    obtain ⟨fs, gs, answer, rfl, hask, hrest⟩ := Talk.yields_bind.mp hy
    rcases ha : s.conclusion .complete Prod.mk answer with ⟨e | payload, s₁⟩ <;> simp only [ha] at hrest
    · obtain ⟨-, he⟩ := Talk.yields_pure.mp hrest
      cases he
      obtain ⟨rfl, x, rfl⟩ := conclusion_eq_error ha
      exact .inl ⟨rfl, error_ne_notConnected (by simp)⟩
    · obtain ⟨rfl, rfl⟩ := conclusion_eq_ok ha
      refine .inr ⟨fs, gs, rfl, hc, Exchange.yields_answer.mp hask, ?_⟩
      split at hrest
      · rename_i ho
        obtain ⟨last, hf, he⟩ := Talk.yields_map.mp hrest
        exact .inr ⟨ho, last, hf, he⟩
      · rename_i ho
        obtain ⟨rfl, he⟩ := Talk.yields_pure.mp hrest
        cases he
        exact .inl ⟨ho, rfl, rfl, rfl⟩

lemma terminate_answered (hc : s.state.isConnected) (hi : s.inbound)
    (ha : Exchange.Answered ⟨.terminate, ()⟩ ⟨.complete, ()⟩ es) : ((terminate (b := Talk)).run.run s).After es
      (if s.outbound then s.parting <$> Talk.farewell else pure (.error .notConnected, s)) := by
  have hq : s.question "terminate" .connected (fun _ => .ok ()) = .ok () :=
    question_eq_ok.mpr ⟨⟨hc, (of_decide_eq_true hc).1⟩, rfl, hi⟩
  have hm : s.conclusion .complete Prod.mk (.ok ⟨.complete, ()⟩) = (.ok (), s) := by
    simp [conclusion, Message.payload?_eq_some.mpr]
  rw [run_terminate, hq, ← List.append_nil es]
  refine Talk.Yields.then (Exchange.yields_answer.mpr ha) ?_
  rw [hm]
  exact .here _

end Leaving

/-- Since the session has last begun to listen, it has taken its leave, and its last word has failed. -/
def Severed (h : History) : Prop :=
  ∃ pre es fs post e, h = pre ++ .call (.errand .terminate) :: (es ++ fs).map .event ++ post ∧
    Exchange.Answered ⟨.terminate, ()⟩ ⟨.complete, ()⟩ es ∧ Talk.farewell.Yields fs (.error e) ∧
    ∀ x ∈ post, ¬ x.Listens

lemma Severed.append {h post : History} (k : Severed h) (hp : ∀ x ∈ post, ¬ x.Listens) : Severed (h ++ post) := by
  obtain ⟨pre, es, fs, post', e, rfl, ha, hf, hs⟩ := k
  exact ⟨pre, es, fs, post' ++ post, e, by simp, ha, hf, List.forall_mem_append.mpr ⟨hs, hp⟩⟩

lemma not_listens_call {a : Action} (he : ∀ e ∈ es, ¬ Mark.Listens (.event e)) :
    ∀ x ∈ Mark.call a :: es.map .event, ¬ x.Listens :=
  List.forall_mem_cons.mpr ⟨id, fun _ hx => by
    obtain ⟨e, he', rfl⟩ := List.mem_map.mp hx
    exact he e he'⟩

variable {config : Config} {h : History}

structure Tied (h : History) (s : Session) : Prop where
  anchored : s.Anchored
  outbound : s.state.isConnected → s.outbound ∨ Severed h

lemma Tied.attends {a : Action} (k : Tied h s) (ha : s.Attends es s') :
    Tied (h ++ .call a :: es.map .event) s' := by
  rcases ha with hw | ⟨hs, hl⟩
  · exact ⟨hw.anchored, fun hc => .inl (hw.linked hc).2⟩
  · refine ⟨hs.anchored k.anchored, fun hc => ?_⟩
    rw [hs.outbound]
    exact (k.outbound (hs.isConnected ▸ hc)).imp_right fun hv => hv.append (not_listens_call hl)

lemma Tied.terminate (k : Tied h s) {r : Except SessionError Unit} (hy : Operation.Yields terminate s es r s') :
    Tied (h ++ .call (.errand .terminate) :: es.map .event) s' := by
  have hl := not_listens_of_only (only_terminate s) hy
  have hsame : Tied (h ++ .call (.errand .terminate) :: es.map .event) s := k.attends (.inr ⟨.refl s, hl⟩)
  rcases terminate_cases k.anchored.inbound hy with ⟨rfl, -⟩ | ⟨fs, gs, rfl, hc, ha, ho⟩
  · exact hsame
  · rcases ho with ⟨-, -, -, rfl⟩ | ⟨-, e | ⟨⟩, hf, he⟩
    · exact hsame
    · cases he
      exact ⟨⟨k.anchored.inbound, k.anchored.listening⟩, fun _ => .inr ⟨h, fs, gs, [], e, by simp, ha, hf, by simp⟩⟩
    · cases he
      exact ⟨⟨fun hc => absurd hc State.not_isConnected_disconnected, nofun⟩,
        fun hc => absurd hc State.not_isConnected_disconnected⟩

lemma tied_of_reaches (k : Reaches config h s) : Tied h s := by
  induction k with
  | new =>
    exact ⟨⟨fun hc => absurd hc State.not_isConnected_idle, nofun⟩, fun hc => absurd hc State.not_isConnected_idle⟩
  | act a _ hy ih =>
    by_cases ha : a = .errand .terminate
    · subst ha
      exact ih.terminate hy
    · exact ih.attends (attends_perform ha ih.anchored hy).1

/-- A connected session has its links, unless its last word has failed. -/
theorem connected_has_links (config : Config) :
    (∀ h s, Reaches config h s → s.state.isConnected → s.inbound ∧ (s.outbound ∨ Severed h)) ∧
    (∀ s es fs e, s.Joined → Exchange.Answered ⟨.terminate, ()⟩ ⟨.complete, ()⟩ es →
      Talk.farewell.Yields fs (.error e) →
        Operation.Yields terminate s (es ++ fs) (.error (.exchange e)) { s with outbound := false }) ∧
    ∀ h s (a : Action) es r s', Reaches config h s → a.perform.Yields s es r s' →
      (r = .error .notConnected ↔ a = .errand .terminate ∧ s.state.isConnected ∧ ¬ s.outbound ∧
        Exchange.Answered ⟨.terminate, ()⟩ ⟨.complete, ()⟩ es) := by
  refine ⟨fun h s k hc => ?_, fun s es fs e ⟨hc, hi, ho⟩ ha hf => ?_, fun h s a es r s' k hy => ⟨fun hr => ?_, ?_⟩⟩
  · have ht := tied_of_reaches k
    exact ⟨ht.anchored.inbound hc, ht.outbound hc⟩
  · have hrest := terminate_answered hc hi ha
    rw [if_pos ho] at hrest
    exact hrest.trans (Talk.yields_map.mpr ⟨_, hf, rfl⟩)
  · have ht := tied_of_reaches k
    by_cases ha : a = .errand .terminate
    · subst ha hr
      rcases terminate_cases ht.anchored.inbound hy with ⟨-, hn⟩ | ⟨fs, gs, rfl, hc, ha, ho⟩
      · exact absurd rfl hn
      · rcases ho with ⟨ho, rfl, -, -⟩ | ⟨-, e | ⟨⟩, -, he⟩
        · rw [List.append_nil]
          exact ⟨rfl, hc, ho, ha⟩
        · cases he
        · cases he
    · exact absurd hr (attends_perform ha ht.anchored hy).2
  · rintro ⟨rfl, hc, ho, ha⟩
    have hrest := terminate_answered hc ((tied_of_reaches k).anchored.inbound hc) ha
    rw [if_neg ho] at hrest
    rw [← List.append_nil es] at hy
    obtain ⟨-, he⟩ := Talk.yields_pure.mp (Talk.after_append hrest hy)
    exact congrArg Prod.fst he

lemma exists_severed : ∃ h es, Reaches .standard h { met .standard with outbound := false } ∧
    Operation.Yields terminate { met .standard with outbound := false } es (.error .notConnected)
      { met .standard with outbound := false } := by
  obtain ⟨h, r⟩ := reaches_met .standard
  obtain ⟨es, ha⟩ := Exchange.exists_answered ⟨.terminate, ()⟩ ⟨.complete, ()⟩ (by decide) (by decide)
  obtain ⟨fs, hf⟩ : ∃ fs, Talk.farewell.Yields fs (.error (.link .closed)) := by
    apply Talk.exists_yields_ask (r := .receive .outbound) (.error (.link .closed))
    apply Talk.exists_yields_ask (r := .close .outbound) ()
    exact ⟨_, .here _⟩
  have hfirst := (terminate_answered (s := met .standard) rfl rfl ha).trans
    (Talk.yields_map.mpr ⟨_, hf, rfl⟩ : ((met .standard).parting <$> Talk.farewell).Yields fs
      (.error (.exchange (.link .closed)), { met .standard with outbound := false }))
  exact ⟨_, es, r.act (.errand .terminate) hfirst,
    terminate_answered (s := { met .standard with outbound := false }) rfl rfl ha⟩

theorem connected_has_links_severed : ∃ h s es, Reaches .standard h s ∧ s.state.isConnected ∧ ¬ s.outbound ∧
    s.inbound ∧ Severed h ∧ Operation.Yields terminate s es (.error .notConnected) s ∧
      Exchange.Answered ⟨.terminate, ()⟩ ⟨.complete, ()⟩ es := by
  obtain ⟨h, es, r, hy⟩ := exists_severed
  obtain ⟨hlinks, -, hmissing⟩ := connected_has_links .standard
  obtain ⟨hi, ho⟩ := hlinks h _ r rfl
  obtain ⟨-, -, -, ha⟩ := (hmissing h _ (.errand .terminate) es _ _ r hy).mp rfl
  exact ⟨h, _, es, r, rfl, nofun, hi, ho.resolve_left nofun, hy, ha⟩

theorem not_always_linked :
    (¬ ∀ (config : Config) (h : History) (s : Session), Reaches config h s → s.state.isConnected →
      s.inbound ∧ s.outbound) ∧
    ¬ ∀ (config : Config) (h : History) (s : Session) (a : Action) (es : List Event) r s',
      Reaches config h s → a.perform.Yields s es r s' → r ≠ .error .notConnected := by
  obtain ⟨h, es, r, hy⟩ := exists_severed
  refine ⟨fun hall => ?_, fun hall => ?_⟩
  · have hlinks := hall .standard h _ r rfl
    exact absurd hlinks.2 nofun
  · exact hall .standard h _ (.errand .terminate) es _ _ r hy rfl

end PimSync.Session
