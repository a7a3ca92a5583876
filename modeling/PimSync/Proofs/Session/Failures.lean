import PimSync.Proofs.Session.Evidence
import PimSync.Proofs.Session.Reuse

namespace PimSync.Session

open Procedure

variable {α β : Type} {s : Session}

structure Knowledge where
  state : State
  category : Category
  device? : Option DeviceInfo
  access? : Option Access
  flags? : Option Flags
  format? : Option Schema.Format

def knowledge (s : Session) : Knowledge := ⟨s.state, s.category, s.device?, s.access?, s.flags?, s.format?⟩

def SessionError.IsUntimely : SessionError → Prop
  | invalidState .. => True
  | schema e => e.IsUntimely
  | _ => False

def Fails (x : Operation α) (s : Session) (P : SessionError → Session → Prop) : Prop :=
  ∀ es e s', x.Yields s es (.error e) s' → P e s'

abbrev Timely (x : Operation α) (s : Session) : Prop := Fails x s fun e _ => ¬ e.IsUntimely

abbrev Misses (x : Operation α) (s : Session) (k : Knowledge) : Prop :=
  Fails x s fun e s' => ¬ e.IsUntimely ∧ s'.knowledge = k

def Prompt (x : Operation α) (s : Session) : Prop :=
  ∀ es e s', x.Yields s es (.error e) s' → e.IsUntimely → es = [] ∧ s' = s

structure Fruitless (x : Operation α) (s : Session) : Prop where
  prompt : Prompt x s
  keeps : Fails x s fun _ s' => s'.knowledge = s.knowledge

section Rules

variable {x : Operation α} {f : α → Operation β} {k : Knowledge}

lemma yields_bind_error {es : List Event} {e : SessionError} {s' : Session}
    (h : (x >>= f).Yields s es (.error e) s') : x.Yields s es (.error e) s' ∨
      ∃ fs gs a s₁, es = fs ++ gs ∧ x.Yields s fs (.ok a) s₁ ∧ (f a).Yields s₁ gs (.error e) s' := by
  rw [Operation.Yields, run_bind, Talk.yields_bind] at h
  obtain ⟨fs, gs, ⟨e' | a, s₁⟩, rfl, hx, hf⟩ := h
  · obtain ⟨rfl, he⟩ := Talk.yields_pure.mp hf
    cases he
    exact .inl (by rwa [List.append_nil])
  · exact .inr ⟨fs, gs, a, s₁, rfl, hx, hf⟩

namespace Fails

variable {P : SessionError → Session → Prop} {Q : Session → Prop}

lemma mono {P' : SessionError → Session → Prop} (h : Fails x s P) (hp : ∀ e s', P e s' → P' e s') : Fails x s P' :=
  fun es e s' hy => hp e s' (h es e s' hy)

lemma andThen (hx : Fails x s P) (hf : ∀ es a s₁, x.Yields s es (.ok a) s₁ → Fails (f a) s₁ P) :
    Fails (x >>= f) s P := by
  intro es e s' hy
  rcases yields_bind_error hy with hy | ⟨fs, gs, a, s₁, -, hy, hk⟩
  · exact hx _ _ _ hy
  · exact hf fs a s₁ hy _ _ _ hk

lemma bind (hx : Fails x s P) (hq : Ensures x s Q) (hf : ∀ a s₁, Q s₁ → Fails (f a) s₁ P) :
    Fails (x >>= f) s P :=
  hx.andThen fun es a s₁ hy => hf a s₁ (hq es a s₁ hy)

lemma of_run {r : Except SessionError α} {s₁ : Session} (hx : x.run.run s = pure (r, s₁))
    (hp : ∀ e, r = .error e → P e s₁) : Fails x s P := by
  intro es e s' hy
  rw [Operation.Yields, hx] at hy
  obtain ⟨-, he⟩ := Talk.yields_pure.mp hy
  obtain ⟨rfl, rfl⟩ := Prod.mk.inj he
  exact hp e rfl

lemma still (hx : Fails x s P) (hq : Ensures x s (· = s)) (hf : ∀ a, Fails (f a) s P) : Fails (x >>= f) s P := by
  refine hx.bind hq fun a s₁ he => ?_
  subst he
  exact hf a

lemma change {g : Session → Session} {f : Unit → Operation β} (hf : Fails (f ()) (g s) P) :
    Fails (modify g >>= f) s P := by
  refine (of_run (run_modifyGet (fun s => ((), g s)) s) nofun).bind (.modify g) fun _ s₁ he => ?_
  subst he
  exact hf

lemma get {f : Session → Operation β} (hf : Fails (f s) s P) : Fails (MonadState.get >>= f) s P := by
  intro es e s' hy
  rw [Operation.Yields, run_get_bind] at hy
  exact hf es e s' hy

lemma request {r : Request} {f : r.Answer → Operation β} (hf : ∀ a, Fails (f a) s P) :
    Fails (Operation.request r >>= f) s P := by
  refine still (fun es e s' hy => ?_) (.converse _) hf
  rw [Operation.Yields, Operation.request, run_converse] at hy
  obtain ⟨_, -, he⟩ := Talk.yields_map.mp hy
  cases he

end Fails

namespace Misses

lemma linked (r : Except Wire.LinkError α) : Misses (Operation.linked r) s s.knowledge := by
  cases r with
  | ok a => exact .of_run (run_pure a s) nofun
  | error e =>
    refine .of_run (run_throw _ s) fun e' he => ?_
    cases he
    exact ⟨id, rfl⟩

lemma exchange (y : Exchange α) : Misses (Operation.exchange y) s s.knowledge := by
  refine .still (fun es e s' hy => ?_) (.converse _) fun answer => .of_run (run_ofExcept _ s) fun e he => ?_
  · rw [Operation.Yields, run_converse] at hy
    obtain ⟨_, -, he⟩ := Talk.yields_map.mp hy
    cases he
  · cases answer <;> cases he
    exact ⟨id, rfl⟩

lemma requireLink (present : Session → Bool) : Misses (requireLink present) s s.knowledge := by
  refine .of_run (run_requireLink present s) fun e he => ?_
  split at he <;> cases he
  exact ⟨id, rfl⟩

end Misses

namespace Prompt

lemma bind {Q : Session → Prop} (hx : Prompt x s) (hq : Ensures x s Q) (hf : ∀ a s₁, Q s₁ → Timely (f a) s₁) :
    Prompt (x >>= f) s := by
  intro es e s' hy he
  rcases yields_bind_error hy with hy | ⟨fs, gs, a, s₁, -, hy, hk⟩
  · exact hx _ _ _ hy he
  · exact absurd he (hf a s₁ (hq _ _ _ hy) _ _ _ hk)

lemma gate {r : Except SessionError α} (hx : x.run.run s = pure (r, s)) (hf : ∀ a, r = .ok a → Prompt (f a) s) :
    Prompt (x >>= f) s := by
  intro es e s' hy
  rw [Operation.Yields, run_bind, hx, pure_bind] at hy
  cases r with
  | error e' =>
    obtain ⟨rfl, he⟩ := Talk.yields_pure.mp hy
    cases he
    exact fun _ => ⟨rfl, rfl⟩
  | ok a => exact hf a rfl es e s' hy

end Prompt

lemma Timely.prompt (h : Timely x s) : Prompt x s := fun es e s' hy he => absurd he (h es e s' hy)

namespace Fruitless

lemma of_never (h : Fails x s fun _ _ => False) : Fruitless x s :=
  ⟨fun es e s' hy => (h es e s' hy).elim, Fails.mono h fun _ _ => False.elim⟩

lemma of_misses (h : Misses x s s.knowledge) : Fruitless x s :=
  ⟨Timely.prompt (Fails.mono h fun _ _ => And.left), Fails.mono h fun _ _ => And.right⟩

lemma of_run {r : Except SessionError α} (hx : x.run.run s = pure (r, s)) : Fruitless x s := by
  refine ⟨fun es e s' hy _ => ?_, .of_run hx fun _ _ => rfl⟩
  rw [Operation.Yields, hx] at hy
  obtain ⟨rfl, he⟩ := Talk.yields_pure.mp hy
  exact ⟨rfl, congrArg Prod.snd he⟩

lemma gate {r : Except SessionError α} (hx : x.run.run s = pure (r, s)) (hf : ∀ a, r = .ok a → Fruitless (f a) s) :
    Fruitless (x >>= f) s := by
  refine ⟨.gate hx fun a ha => (hf a ha).prompt, fun es e s' hy => ?_⟩
  rw [Operation.Yields, run_bind, hx, pure_bind] at hy
  cases r with
  | error e' =>
    obtain ⟨-, he⟩ := Talk.yields_pure.mp hy
    cases he
    rfl
  | ok a => exact (hf a rfl).keeps es e s' hy

lemma of_map {A : Type} {t : Talk A} {g : A → Except SessionError α × Session} (hx : x.run.run s = g <$> t)
    (hg : ∀ a e, (g a).1 = .error e → ¬ e.IsUntimely ∧ (g a).2.knowledge = s.knowledge) : Fruitless x s := by
  refine of_misses fun es e s' hy => ?_
  rw [Operation.Yields, hx] at hy
  obtain ⟨a, -, he⟩ := Talk.yields_map.mp hy
  obtain ⟨hr, rfl⟩ := Prod.mk.inj he
  exact hg a e hr.symm

end Fruitless

end Rules

lemma conclusion_misses {reply : MessageType} {conclude : reply.Payload → Session → α × Session}
    {answer : Except ExchangeError Message} {e : SessionError} (h : (s.conclusion reply conclude answer).1 = .error e) :
    ¬ e.IsUntimely ∧ (s.conclusion reply conclude answer).2 = s := by
  obtain ⟨hs, x, rfl⟩ := conclusion_eq_error (Prod.ext h rfl)
  exact ⟨id, hs⟩

section Operations

lemma fruitless_pose {request reply : MessageType} {operation : String} {least : State}
    {content : Session → Except SessionError request.Payload} {conclude : reply.Payload → Session → α × Session} :
    Fruitless (pose request reply operation least content conclude) s := by
  have hrun := run_pose (b := Talk) request reply operation least content conclude s
  cases hq : s.question operation least content with
  | error e =>
    rw [hq] at hrun
    exact .of_run hrun
  | ok payload =>
    rw [hq] at hrun
    refine .of_map hrun fun answer e he => ?_
    obtain ⟨ht, hs⟩ := conclusion_misses he
    exact ⟨ht, congrArg knowledge hs⟩

lemma fruitless_authenticate (password : Bytes) : Fruitless (authenticate password) s := by
  have hrun := run_authenticate (b := Talk) password s
  cases hq : s.question "authenticate" .infoKnown fun _ => .ok password with
  | error e =>
    rw [hq] at hrun
    exact .of_run hrun
  | ok password =>
    rw [hq] at hrun
    refine .of_map hrun fun answer e he => ?_
    rcases answer with x | _ | _ <;> cases he
    exact ⟨id, rfl⟩

lemma fruitless_terminate : Fruitless terminate s := by
  refine .gate (run_require _ _ s) fun _ _ => .of_misses ?_
  have hask : Misses (inquire ⟨.terminate, ()⟩ .complete) s s.knowledge := by
    intro es e s' hy
    rw [Operation.Yields, run_inquire] at hy
    split at hy
    · obtain ⟨answer, -, he⟩ := Talk.yields_map.mp hy
      obtain ⟨rfl, x, rfl⟩ := conclusion_eq_error he.symm
      exact ⟨id, rfl⟩
    · obtain ⟨-, he⟩ := Talk.yields_pure.mp hy
      cases he
      exact ⟨id, rfl⟩
  have hkept : Ensures (inquire ⟨.terminate, ()⟩ .complete) s (· = s) := by
    intro es _ s' hy
    rw [Operation.Yields, run_inquire] at hy
    split at hy
    · obtain ⟨answer, -, he⟩ := Talk.yields_map.mp hy
      exact (conclusion_eq_ok he.symm).2
    · obtain ⟨-, he⟩ := Talk.yields_pure.mp hy
      cases he
  refine hask.still hkept fun _ => (Misses.requireLink _).still (.requireLink _) fun _ => .change ?_
  rw [← bind_assoc]
  exact (Misses.exchange (ExceptT.mk Talk.farewell)).still (.exchange _) fun _ => .of_run (run_modifyGet _ _)
    fun _ herror => by cases herror

lemma fruitless_listen : Fruitless listen s := by
  have hrun := run_listen s
  by_cases hs : s.state.canListen
  · rw [if_pos hs] at hrun
    refine .of_misses fun es e s' hy => ?_
    rw [Operation.Yields, hrun, Talk.yields_ask] at hy
    obtain ⟨answer | _, rest, -, h⟩ := hy <;> obtain ⟨-, he⟩ := Talk.yields_done.mp h <;> cases he
    exact ⟨id, rfl⟩
  · rw [if_neg hs] at hrun
    exact .of_run hrun

lemma run_requireListening (operation : String) (s : Session) : (Operation.requireListening operation).run.run s =
    pure (if s.state = .listening then .ok () else .error (.invalidState operation s.state), s) := by
  rw [Operation.requireListening, run_get_bind]
  split <;> rfl

def dial : Operation Unit := do
  Operation.linked (← Operation.request (.dial .outbound (← get).config.device))
  modify ({ · with outbound := true })
  Operation.exchange (Exchange.deliver .outbound ready)
  requireLink listening
  let _ ← Operation.linked (← Operation.request (.accept .inbound))
  modify ({ · with inbound := true, state := .connected })

lemma misses_dial : Misses dial s s.knowledge := by
  refine .get (.request fun _ => (Misses.linked _).still (.linked _) fun _ => .change ?_)
  refine (Misses.exchange _).still (.exchange _) fun _ => (Misses.requireLink _).still (.requireLink _) fun _ => ?_
  exact .request fun _ => (Misses.linked _).still (.linked _) fun _ => .of_run (run_modifyGet _ _) nofun

lemma fruitless_connect : Fruitless connect s :=
  .gate (run_requireListening _ s) fun _ _ => .of_misses misses_dial

lemma timely_connect (hs : s.state = .listening) : Timely connect s := by
  refine .still (.of_run (run_requireListening _ s) fun e he => ?_) (.requireListening _) fun _ =>
    misses_dial.mono fun _ _ => And.left
  rw [if_pos hs] at he
  cases he

lemma misses_callBack (host : String) : Misses (callBack host) s s.knowledge := by
  refine .get (.request fun _ => (Misses.linked _).still (.linked _) fun _ => .change ?_)
  exact (Misses.exchange _).still (.exchange _) fun _ => .of_run (run_modifyGet _ _) nofun

lemma fruitless_acceptDevice : Fruitless acceptDevice s := by
  refine .gate (run_requireListening _ s) fun _ _ => .of_misses ?_
  refine (Misses.requireLink _).still (.requireLink _) fun _ => .request fun _ => ?_
  refine (Misses.linked _).still (.linked _) fun host => .change ((Misses.exchange _).still (.exchange _) fun m => ?_)
  split
  · exact misses_callBack host
  · refine .bind (.of_run (run_throw _ _) fun e he => ?_) (Q := fun _ => False) (.throw _) fun _ _ => False.elim
    cases he
    exact ⟨id, rfl⟩

lemma fruitless_modify (g : Session → Session) : Fruitless (modify g : Operation Unit) s :=
  .of_never (.of_run (run_modifyGet (fun s => ((), g s)) s) nofun)

lemma fruitless_finalize : Fruitless finalize s := .of_map (run_finalize s) fun _ _ he => by cases he

lemma fruitless_cachedWrite (operation : String) (c : Category) (write : Schema.Format → ItemWrite) :
    Fruitless (require operation .formatKnown >>= fun _ => cachedFormat c >>= fun format =>
      writeItem (write format)) s :=
  .gate (run_require _ _ s) fun _ _ => .gate (run_cachedFormat c s) fun _ _ => fruitless_pose

end Operations

def Action.IsCompound : Action → Prop
  | initiate | errand .pullChanges | errand (.fetchItem _) => True
  | _ => False

lemma fruitless_perform {a : Action} (ha : ¬ a.IsCompound) : Fruitless a.perform s := by
  cases a with
  | listen => exact fruitless_listen
  | connect => exact fruitless_connect
  | acceptDevice => exact fruitless_acceptDevice
  | finalize => exact fruitless_finalize
  | initiate => exact absurd trivial ha
  | errand e =>
    cases e with
    | authenticate password => exact fruitless_authenticate password
    | selectCategory c => exact fruitless_modify (·.select c)
    | resetFormat => exact fruitless_modify dropFormat
    | fetchItem _ => exact absurd trivial ha
    | insertItem item => exact fruitless_cachedWrite _ _ _
    | updateItem id item => exact fruitless_cachedWrite _ _ _
    | terminate => exact fruitless_terminate
    | pullChanges => exact absurd trivial ha
    | _ => exact fruitless_pose

section Compound

open Schema

variable {least t : State}

lemma hasReached_advance (hs : s.HasReached least) (ht : t.isConnected) : (s.advance t).HasReached t := by
  rw [advance_eq]
  by_cases hlt : s.state < t
  · simp only [HasReached, if_pos hlt]
    exact ⟨ht, Nat.le_refl _⟩
  · simp only [HasReached, if_neg hlt]
    exact ⟨hs.1, Nat.le_of_not_lt hlt⟩

lemma conclusion_ok {reply : MessageType} {conclude : reply.Payload → Session → α × Session}
    {answer : Except ExchangeError Message} {a : α} {s' : Session}
    (h : s.conclusion reply conclude answer = (.ok a, s')) :
    ∃ payload, answer = .ok ⟨reply, payload⟩ ∧ conclude payload s = (a, s') := by
  unfold conclusion at h
  split at h
  · cases h
  · split at h <;> cases h
    rename_i payload hm
    exact ⟨payload, congrArg Except.ok (Message.payload?_eq_some.mp hm), rfl⟩

lemma concluded_of_pose {request reply : MessageType} {operation : String} {least : State}
    {content : Session → Except SessionError request.Payload} {conclude : reply.Payload → Session → α × Session}
    {es : List Event} {a : α} {s' : Session}
    (hy : Operation.Yields (pose request reply operation least content conclude) s es (.ok a) s') :
    s.HasReached least ∧ ∃ answer, conclude answer s = (a, s') := by
  rw [Operation.Yields, run_pose] at hy
  split at hy
  · obtain ⟨-, he⟩ := Talk.yields_pure.mp hy
    cases he
  · rename_i hq
    obtain ⟨answer, -, he⟩ := Talk.yields_map.mp hy
    obtain ⟨payload, -, hc⟩ := conclusion_ok he.symm
    exact ⟨(question_eq_ok.mp hq).1, payload, hc⟩

lemma timely_pose {request reply : MessageType} {operation : String}
    {content : Session → Except SessionError request.Payload} {conclude : reply.Payload → Session → α × Session}
    (hr : s.HasReached least) (hc : ∀ e, content s = .error e → ¬ e.IsUntimely) :
    Timely (pose request reply operation least content conclude) s := by
  intro es e s' hy
  rw [Operation.Yields, run_pose] at hy
  split at hy
  · rename_i hq
    obtain ⟨-, he⟩ := Talk.yields_pure.mp hy
    cases he
    rw [question, if_pos hr] at hq
    split at hq
    · rename_i hce
      cases hq
      exact hc _ hce
    · split at hq <;> cases hq
      exact id
  · obtain ⟨answer, -, he⟩ := Talk.yields_map.mp hy
    obtain ⟨-, x, rfl⟩ := conclusion_eq_error he.symm
    exact id

def Equipped (s : Session) : Prop := s.HasReached .formatKnown ∧ s.format?.isSome

lemma Equipped.iterating (h : s.Equipped) : (s.advance .iterating).Equipped := by
  have hr := hasReached_advance h.1 (t := .iterating) rfl
  refine ⟨⟨hr.1, State.le_trans (by decide) hr.2⟩, ?_⟩
  rw [advance_eq]
  exact h.2

def makeItem (values : Values) : Operation Item := do
  let c := (← get).category
  schematic (Item.ofValues c (← cachedFormat c) values)

lemma run_makeItem {format : Format} (values : Values) (hf : s.format? = some format) :
    (makeItem values).run.run s = pure ((Item.ofValues s.category format values).mapError .schema, s) := by
  have hc : s.formatFor? s.category = some format := hf
  rw [makeItem, run_get_bind, run_bind, run_cachedFormat, hc, pure_bind]
  exact run_ofExcept _ s

lemma misses_makeItem (values : Values) (hf : s.format?.isSome) : Misses (makeItem values) s s.knowledge := by
  obtain ⟨format, hf⟩ := Option.isSome_iff_exists.mp hf
  refine .of_run (run_makeItem values hf) fun e he => ?_
  cases hv : Item.ofValues s.category format values with
  | ok item =>
    rw [hv] at he
    cases he
  | error e' =>
    rw [hv] at he
    cases he
    exact ⟨Item.ofValues_error hv, rfl⟩

lemma run_fetchItem (id : UInt32) (s : Session) : (fetchItem id : Operation Item).run.run s =
    if s.format?.isSome then (fetchValues id >>= makeItem).run.run s
    else pure (.error (.schema (.formatMissing s.category)), s) := by
  rw [fetchItem, run_get_bind, run_bind, run_cachedFormat, pure_bind, format?]
  cases s.formatFor? s.category <;> rfl

def Progresses (s s' : Session) : Prop :=
  s'.knowledge = s.knowledge ∨ s.state = .formatKnown ∧ s'.knowledge = { s.knowledge with state := .iterating }

lemma progresses_advance (hr : s.HasReached .formatKnown) : s.Progresses (s.advance .iterating) := by
  have hstate : s.state < .iterating → s.state = .formatKnown := by
    obtain ⟨-, hle⟩ := hr
    revert hle
    cases s.state <;> decide
  rw [advance_eq]
  by_cases hlt : s.state < .iterating
  · rw [if_pos hlt]
    exact .inr ⟨hstate hlt, rfl⟩
  · rw [if_neg hlt]
    exact .inl rfl

lemma format?_advance : (s.advance t).format? = s.format? := by
  rw [advance_eq]
  rfl

lemma ensures_fetchValues (id : UInt32) : Ensures (fetchValues id) s fun s' =>
    s.HasReached .formatKnown ∧ s' = s.advance .iterating := by
  intro es values s' hy
  obtain ⟨hr, _, he⟩ := concluded_of_pose hy
  cases he
  exact ⟨hr, rfl⟩

lemma fails_fetchItem (id : UInt32) : Fails (fetchItem id) s fun _ s' => s.Progresses s' := by
  intro es e s' hy
  rw [Operation.Yields, run_fetchItem] at hy
  split at hy
  · rename_i hf
    have hvalues : Fails (fetchValues id) s fun _ s' => s.Progresses s' :=
      fruitless_pose.keeps.mono fun _ _ he => .inl he
    refine hvalues.bind (ensures_fetchValues id) (fun values s₁ hs => ?_) es e s' hy
    obtain ⟨hr, rfl⟩ := hs
    refine (misses_makeItem values (by rwa [format?_advance])).mono fun e s₂ hs => ?_
    rcases progresses_advance hr with h | h
    · exact .inl (hs.2.trans h)
    · exact .inr ⟨h.1, hs.2.trans h.2⟩
  · obtain ⟨-, he⟩ := Talk.yields_pure.mp hy
    cases he
    exact .inl rfl

lemma prompt_fetchItem (id : UInt32) : Prompt (fetchItem id) s := by
  intro es e s' hy
  rw [Operation.Yields, run_fetchItem] at hy
  split at hy
  · rename_i hf
    refine fruitless_pose.prompt.bind (ensures_fetchValues id) (fun values s₁ hs => ?_) es e s' hy
    obtain ⟨-, rfl⟩ := hs
    exact (misses_makeItem values (by rwa [format?_advance])).mono fun _ _ => And.left
  · obtain ⟨rfl, he⟩ := Talk.yields_pure.mp hy
    cases he
    exact fun _ => ⟨rfl, rfl⟩

section Pulling

lemma ensures_requestIds : Ensures requestIds s fun s' => s' = s.advance .iterating := by
  intro es lists s' hy
  obtain ⟨-, _, he⟩ := concluded_of_pose hy
  cases he
  rfl

def Handles (x : Operation α) : Prop := ∀ s : Session, s.Equipped → Timely x s ∧ Ensures x s Equipped

lemma Handles.bind {x : Operation α} {f : α → Operation β} (hx : Handles x) (hf : ∀ a, Handles (f a)) :
    Handles (x >>= f) := by
  refine fun s hs => ⟨(hx s hs).1.bind (hx s hs).2 fun a s₁ h₁ => (hf a s₁ h₁).1, ?_⟩
  exact (hx s hs).2.bind fun a s₁ h₁ => (hf a s₁ h₁).2

lemma Handles.pure (a : α) : Handles (Pure.pure a : Operation α) :=
  fun s hs => ⟨.of_run (run_pure a s) nofun, .pure hs⟩

lemma Handles.get : Handles (MonadState.get : Operation Session) := by
  refine fun s hs => ⟨.of_run (run_get s) nofun, fun es a s' hy => ?_⟩
  obtain rfl := Ensures.of_run (run_get s) es a s' hy
  exact hs

lemma Handles.mapM {f : α → Operation β} (h : ∀ a, Handles (f a)) (as : List α) : Handles (as.mapM f) := by
  induction as with
  | nil => exact .pure []
  | cons a as ih =>
    rw [List.mapM_cons]
    exact (h a).bind fun _ => ih.bind fun _ => .pure _

lemma handles_requestIds : Handles requestIds := by
  refine fun s hs => ⟨timely_pose hs.1 (fun _ he => by cases he), fun es a s' hy => ?_⟩
  rw [ensures_requestIds es a s' hy]
  exact hs.iterating

lemma handles_fetchItem (id : UInt32) : Handles (fetchItem id) := by
  intro s hs
  have hrun : (fetchItem id : Operation Item).run.run s = (fetchValues id >>= makeItem).run.run s := by
    rw [run_fetchItem, if_pos hs.2]
  have hmake (values : Values) (s₁ : Session) (h₁ : s.HasReached .formatKnown ∧ s₁ = s.advance .iterating) :
      s₁.Equipped ∧ Timely (makeItem values) s₁ := by
    obtain ⟨-, rfl⟩ := h₁
    exact ⟨hs.iterating, (misses_makeItem values hs.iterating.2).mono fun _ _ => And.left⟩
  constructor
  · intro es e s' hy
    rw [Operation.Yields, hrun] at hy
    exact Fails.bind (timely_pose hs.1 (fun _ he => by cases he)) (ensures_fetchValues id)
      (fun values s₁ h₁ => (hmake values s₁ h₁).2) es e s' hy
  · intro es item s' hy
    rw [Operation.Yields, hrun] at hy
    refine (ensures_fetchValues id).bind (fun values s₁ h₁ => ?_) es item s' hy
    obtain ⟨format, hf⟩ := Option.isSome_iff_exists.mp (hmake values s₁ h₁).1.2
    intro es item s' hy
    obtain rfl := Ensures.of_run (run_makeItem values hf) es item s' hy
    exact (hmake values _ h₁).1

lemma handles_collectChanges : Handles collectChanges :=
  handles_requestIds.bind fun _ => .bind (.mapM handles_fetchItem _) fun _ => .bind .get fun _ => .pure _

lemma ensures_obtainFormat : Ensures obtainFormat s Equipped := by
  intro es a s' hy
  obtain ⟨hr, entries, he⟩ := concluded_of_pose hy
  cases he
  refine ⟨hasReached_advance hr rfl, ?_⟩
  rw [advance_eq]
  simp [format?, formatFor?]

lemma prompt_pullChanges : Prompt pullChanges s := by
  refine .gate (run_require _ _ s) fun _ _ => .gate (run_get s) fun s₀ hs => ?_
  obtain rfl := Except.ok.inj hs
  split
  · exact fruitless_pose.prompt.bind ensures_obtainFormat fun _ s₁ h₁ => (handles_collectChanges s₁ h₁).1
  · rename_i hf
    change Prompt collectChanges s
    by_cases hr : s.HasReached .formatKnown
    · have hformat : s.format?.isSome := by simpa [Option.isNone_iff_eq_none, Option.isSome_iff_ne_none] using hf
      exact Timely.prompt (handles_collectChanges s ⟨hr, hformat⟩).1
    · have hids : (requestIds (b := Talk)).run.run s = pure (.error (.invalidState "request_sync_ids" s.state), s) := by
        rw [requestIds, run_pose, question, if_neg hr]
      exact .gate hids fun _ hok => by cases hok

end Pulling

section Introducing

variable {es : List Event} {s' : Session}

lemma informed_of_yields {info : DeviceInfo} (hy : Operation.Yields requestInfo s es (.ok info) s') :
    s'.HasReached .infoKnown ∧ s'.device? = some info := by
  obtain ⟨hr, _, he⟩ := concluded_of_pose hy
  cases he
  have hr' : Session.HasReached { s with device? := some info } .connected := hr
  refine ⟨hasReached_advance hr' rfl, ?_⟩
  rw [advance_eq]

lemma granted_of_yields {password : Bytes} (hy : Operation.Yields (authenticate password) s es (.ok .granted) s') :
    s'.HasReached .infoKnown ∧ s'.mayProceed := by
  rw [Operation.Yields, run_authenticate] at hy
  split at hy
  · obtain ⟨-, he⟩ := Talk.yields_pure.mp hy
    cases he
  · rename_i hq
    obtain ⟨answer, -, he⟩ := Talk.yields_map.mp hy
    rcases answer with x | _ | _ <;> cases he
    have hr : Session.HasReached { s with access? := some .granted } .infoKnown := (question_eq_ok.mp hq).1
    have hr' := hasReached_advance hr (t := .authenticated) rfl
    refine ⟨⟨hr'.1, State.le_trans (by decide) hr'.2⟩, .inr ?_⟩
    rw [advance_eq]

lemma timely_authenticate (password : Bytes) (hr : s.HasReached .infoKnown) : Timely (authenticate password) s := by
  intro es e s' hy
  rw [Operation.Yields, run_authenticate, question, if_pos hr] at hy
  cases hi : s.inbound <;> simp only [hi, if_true, Bool.false_eq_true, if_false] at hy
  · obtain ⟨-, he⟩ := Talk.yields_pure.mp hy
    cases he
    exact id
  · obtain ⟨answer, -, he⟩ := Talk.yields_map.mp hy
    rcases answer with x | _ | _ <;> cases he
    exact id

lemma timely_proceed {access : Access} (hp : access = .granted → s.HasReached .infoKnown ∧ s.mayProceed) :
    Timely (proceed access : Operation Access) s := by
  unfold proceed
  cases access with
  | denied => exact .of_run (run_pure _ s) nofun
  | granted =>
    obtain ⟨hr, hm⟩ := hp rfl
    have hstate : Timely requestState s := by
      refine timely_pose hr fun e he => ?_
      rw [if_pos hm] at he
      cases he
    refine hstate.bind (Q := fun _ => True) (fun _ _ _ _ => trivial) fun _ s₁ _ => .of_run (run_pure _ s₁) nofun

lemma timely_introduce (hr : s.HasReached .connected) : Timely (introduce : Operation Access) s := by
  refine (timely_pose hr (fun _ he => by cases he)).andThen fun _ info s₁ hy => .get ?_
  obtain ⟨hr₁, hi⟩ := informed_of_yields hy
  have hask (password : Bytes) : Timely (authenticate password >>= proceed) s₁ := by
    refine (timely_authenticate password hr₁).andThen fun fs access s₂ hy => timely_proceed fun ha => ?_
    subst ha
    exact granted_of_yields hy
  split
  · exact hask _
  · split
    · exact hask []
    · rename_i hn
      rw [pure_bind]
      refine timely_proceed fun _ => ⟨hr₁, .inl ?_⟩
      simpa [hi] using hn

lemma prompt_initiate : Prompt initiate s := by
  refine .gate (run_get s) fun s₀ hs => ?_
  obtain rfl := Except.ok.inj hs
  have hmet {s : Session} : Timely (introduce : Operation Access) s.joined := timely_introduce ⟨rfl, Nat.le_refl _⟩
  split
  · rename_i hc
    refine fruitless_listen.prompt.bind (Q := (· = s.attending)) (fun es _ s' hy => (yields_listen.mp hy).2.2)
      fun _ s₁ h₁ => ?_
    subst h₁
    refine (timely_connect rfl).bind ensures_connect fun _ s₂ h₂ => ?_
    subst h₂
    exact hmet
  · refine fruitless_connect.prompt.bind ensures_connect fun _ s₁ h₁ => ?_
    subst h₁
    exact hmet

end Introducing

end Compound

lemma prompt_perform (a : Action) : Prompt a.perform s := by
  by_cases ha : a.IsCompound
  · cases a with
    | initiate => exact prompt_initiate
    | errand e =>
      cases e with
      | fetchItem id => exact prompt_fetchItem id
      | pullChanges => exact prompt_pullChanges
      | _ => exact absurd ha id
    | _ => exact absurd ha id
  · exact (fruitless_perform ha).prompt

/-- A failed operation leaves the session's knowledge as it was. -/
theorem failure_keeps_knowledge {s s' : Session} {a : Action} {es : List Event} {e : SessionError}
    (hy : a.perform.Yields s es (.error e) s') :
    (¬ a.IsCompound → s'.knowledge = s.knowledge) ∧
    (∀ id, a = .errand (.fetchItem id) → s'.knowledge = s.knowledge ∨
      s.state = .formatKnown ∧ s'.knowledge = { s.knowledge with state := .iterating }) ∧
    (e.IsUntimely → es = [] ∧ s' = s) := by
  refine ⟨fun ha => (fruitless_perform ha).keeps es e s' hy, fun id ha => ?_, prompt_perform a es e s' hy⟩
  subst ha
  exact fails_fetchItem id es e s' hy

lemma yields_connect_hungUp (s : Session) : Operation.Yields connect s.attending
    [⟨.dial .outbound s.config.device, .ok ()⟩, ⟨.receive .outbound, .error (.link .closed)⟩]
    (.error (.link .closed)) { s.attending with outbound := true } :=
  .answered (r := .dial .outbound _) (.ok ()) (.answered (r := .receive .outbound) (.error (.link .closed)) (.here _))

theorem failure_keeps_knowledge_dialled : ∃ h s s' es e, Reaches .standard h s ∧
    Action.connect.perform.Yields s es (.error e) s' ∧ es ≠ [] ∧ s' ≠ s ∧ s'.knowledge = s.knowledge := by
  have hl : Action.listen.perform.Yields (new .standard) [⟨.listen Config.standard.listener, .ok ()⟩] (.ok ())
      (new .standard).attending := yields_listen.mpr ⟨rfl, rfl, rfl⟩
  have hc := yields_connect_hungUp (new .standard)
  refine ⟨_, _, _, _, _, Reaches.new.act _ hl, hc, by simp, by decide, ?_⟩
  exact (failure_keeps_knowledge (a := .connect) hc).1 id

end PimSync.Session
