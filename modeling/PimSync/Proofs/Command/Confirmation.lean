import PimSync.Command.Run
import PimSync.Proofs.Session.Composing
import PimSync.Proofs.Session.Failures

namespace PimSync

open Wire

section Located

variable {α : Type} {P : α → Prop} {as ms bs l r : List α} {x : α}

lemma located_after (ha : ∀ a ∈ as, ¬ P a) (hx : P x) (h : as ++ ms = l ++ x :: r) :
    ∃ l', l = as ++ l' ∧ ms = l' ++ x :: r := by
  rcases List.append_eq_append_iff.mp h with ⟨l', rfl, hm⟩ | ⟨c, rfl, hc⟩
  · exact ⟨l', rfl, hm⟩
  · cases c with
    | nil => exact ⟨[], by simp, hc.symm⟩
    | cons y c =>
      obtain ⟨rfl, -⟩ := List.cons.inj hc
      exact absurd hx (ha x (by simp))

lemma located_before (hb : ∀ b ∈ bs, ¬ P b) (hx : P x) (h : ms ++ bs = l ++ x :: r) :
    ∃ r', ms = l ++ x :: r' ∧ r = r' ++ bs := by
  rcases List.append_eq_append_iff.mp h with ⟨c, rfl, hbs⟩ | ⟨r', rfl, hr⟩
  · exact absurd hx (hb x (by simp [hbs]))
  · cases r' with
    | nil =>
      obtain rfl : x :: r = bs := hr
      exact absurd hx (hb x List.mem_cons_self)
    | cons y r' =>
      obtain ⟨rfl, rfl⟩ := List.cons.inj hr
      exact ⟨r', rfl, rfl⟩

end Located

lemma Talk.exists_asks {α : Type} {t u : Talk α} {l r : List Event} {e : Event} (h : t.After (l ++ e :: r) u) :
    ∃ next, t.After l (.ask e.request next) := by
  induction l generalizing t with
  | nil =>
    cases h with
    | answered _ _ => exact ⟨_, .here _⟩
  | cons e' l ih =>
    cases h with
    | answered answer h =>
      obtain ⟨next, hn⟩ := ih h
      exact ⟨next, .answered answer hn⟩

def Request.Sends (t : MessageType) : Request → Prop
  | .send _ (.message f) => f.tag = t.tag
  | _ => False

namespace Exchange

variable {leg : Leg} {m : Message} {t : MessageType} {r : Request}

lemma not_sends_of_bare (h : Bare leg r) : ¬ r.Sends t := by
  obtain rfl | ⟨c, rfl⟩ := h <;> exact id

lemma not_sends_of_carries (hm : m.type ≠ t) (h : Carries leg m r) : ¬ r.Sends t := by
  obtain h | ⟨f, hf, rfl⟩ := h
  · exact not_sends_of_bare h
  · intro ht
    exact hm (MessageType.tag_injective ((Message.tag_of_frame hf).symm.trans ht))

def crossing (f g : Frame) : List Event :=
  delivery .inbound f ++ [.sent .inbound (.control .request), .received .inbound (.message g)]

lemma answered_iff {m reply : Message} {es : List Event} : Answered m reply es ↔ ∃ f g, m.frame = .ok f ∧
    Message.ofFrame g = .ok reply ∧ es = crossing f g ++ [.sent .inbound (.control .acknowledge)] := by
  simp [Answered, crossing, collection]

lemma after_crossing {m reply : Message} {f g : Frame} (hf : m.frame = .ok f) (hg : Message.ofFrame g = .ok reply) :
    ∃ next, (ask m).run.After (crossing f g) (.ask (.send .inbound (.control .acknowledge)) next) ∧
      ∀ a, next a = .done ((a.mapError .link).map fun _ => reply) := by
  let met : Exchange Message := deliver .inbound m >>= fun _ => sendControl .inbound .request >>= fun _ =>
    receiveMessage .inbound
  have hmet : met.run.Yields (crossing f g) (.ok reply) :=
    Talk.yields_bind_ok.mpr ⟨_, _, (), rfl, yields_deliver.mpr ⟨f, hf, rfl⟩,
      Talk.yields_bind_ok.mpr ⟨_, _, (), rfl, yields_send.mpr rfl, yields_receiveMessage.mpr ⟨g, hg, rfl⟩⟩⟩
  have hask : ask m = met >>= fun m => sendControl .inbound .acknowledge >>= fun _ => pure m := by
    simp only [ask, collect, met, bind_assoc]
  refine ⟨fun a => (linked a >>= fun _ => pure reply).run, ?_, fun a => ?_⟩
  · rw [hask, ExceptT.run_bind]
    exact hmet.then (.here _)
  · cases a <;> rfl

lemma of_crossing {m reply : Message} {f g : Frame} {as ms bs pre post : List Event}
    {answer : Except ExchangeError Message} (ha : ∀ e ∈ as, ¬ e.request.Sends t) (hb : ∀ e ∈ bs, ¬ e.request.Sends t)
    (hy : (ask m).run.Yields ms answer) (hg : Message.ofFrame g = .ok reply) (ht : f.tag = t.tag)
    (he : as ++ ms ++ bs = pre ++ crossing f g ++ post) :
    pre = as ∧ ∃ a, post = ⟨.send .inbound (.control .acknowledge), a⟩ :: bs ∧
      answer = (a.mapError .link).map fun _ => reply := by
  let e : Event := .sent .inbound (.message f)
  have hcrossing : pre ++ crossing f g ++ post = (pre ++ [.received .inbound (.control .request)]) ++ e ::
      (.received .inbound (.control .acknowledge) :: .sent .inbound (.control .request) ::
        .received .inbound (.message g) :: post) := by
    simp [crossing, delivery, e]
  obtain ⟨l, hl, hm⟩ := located_after ha (x := e) ht
    ((List.append_assoc ..).symm.trans (he.trans hcrossing))
  obtain ⟨r, rfl, hr⟩ := located_before hb (x := e) ht hm
  obtain ⟨next, hn⟩ := Talk.exists_asks hy
  obtain ⟨hf, rfl, -⟩ := about_ask.writes hn
  obtain rfl := List.append_cancel_right hl
  have hcancel : [Event.received .inbound (.control .request)] ++ e :: r ++ bs = crossing f g ++ post := by
    simpa only [List.append_assoc, List.append_cancel_left_eq] using he
  obtain ⟨next, hafter, hnext⟩ := after_crossing hf hg
  rcases List.append_eq_append_iff.mp hcancel with ⟨c, hc, hbs⟩ | ⟨c, hc, hpost⟩
  · rw [hc] at hafter
    obtain ⟨-, hdone⟩ := Talk.after_done.mp (Talk.after_append hy hafter)
    cases hdone
  · rw [hc] at hy
    obtain ⟨a, rest, rfl, hd⟩ := Talk.yields_ask.mp (Talk.after_append hafter hy)
    rw [hnext] at hd
    obtain ⟨rfl, rfl⟩ := Talk.yields_done.mp hd
    exact ⟨rfl, a, hpost, rfl⟩

end Exchange

namespace Session

open Procedure

variable {α β : Type} {x : Operation α} {s s' : Session} {es : List Event}

structure Gathers (x : Operation α) : Prop where
  silent : ∀ s, (x.run.run s).Only fun r => ¬ r.Sends .syncDone
  keeps : ∀ s, Ensures x s fun s' => s'.category = s.category

namespace Gathers

variable {f : α → Operation β}

lemma bind (hx : Gathers x) (hf : ∀ a, Gathers (f a)) : Gathers (x >>= f) := by
  refine ⟨fun s => ?_, fun s => (hx.keeps s).bind fun a s₁ h₁ => ?_⟩
  · rw [run_bind]
    refine (hx.silent s).bind fun (r, s₁) => ?_
    cases r with
    | ok a => exact (hf a).silent s₁
    | error e => trivial
  · intro es b s₂ hy
    exact ((hf a).keeps s₁ es b s₂ hy).trans h₁

lemma of_run {r : Session → Except SessionError α} {g : Session → Session}
    (hx : ∀ s, x.run.run s = pure (r s, g s)) (hg : ∀ s, (g s).category = s.category) : Gathers x := by
  refine ⟨fun s => ?_, fun s es a s' hy => ?_⟩
  · rw [hx]
    trivial
  · obtain rfl := Ensures.of_run (hx s) es a s' hy
    exact hg s

lemma pure (a : α) : Gathers (Pure.pure a) := of_run (run_pure a) fun _ => rfl

lemma throw (e : SessionError) : Gathers (throw e : Operation α) := of_run (run_throw e) fun _ => rfl

lemma get : Gathers get := of_run run_get fun _ => rfl

lemma modify {g : Session → Session} (hg : ∀ s, (g s).category = s.category) : Gathers (modify g) :=
  of_run (run_modifyGet fun s => ((), g s)) hg

lemma ofExcept (r : Except SessionError α) : Gathers (Procedure.ofExcept r) := of_run (run_ofExcept r) fun _ => rfl

lemma require (operation : String) (least : State) : Gathers (require operation least) :=
  of_run (run_require operation least) fun _ => rfl

lemma requireLink (present : Session → Bool) : Gathers (requireLink present) :=
  of_run (run_requireLink present) fun _ => rfl

lemma requireListening (operation : String) : Gathers (Operation.requireListening operation) :=
  of_run (run_requireListening operation) fun _ => rfl

lemma linked (r : Except LinkError α) : Gathers (Operation.linked r) := by
  cases r with
  | ok a => exact pure a
  | error e => exact throw _

lemma converse {t : Talk α} (ht : t.Only fun r => ¬ r.Sends .syncDone) : Gathers (Procedure.converse t) := by
  refine ⟨fun s => ?_, fun s es a s' hy => congrArg category (Ensures.converse t es a s' hy)⟩
  rw [run_converse, map_eq_pure_bind]
  exact ht.bind fun _ => trivial

lemma request {r : Request} (hr : ¬ r.Sends .syncDone) : Gathers (Operation.request r) := converse (.request hr)

lemma exchange {y : Exchange α} (hy : y.run.Only fun r => ¬ r.Sends .syncDone) : Gathers (Operation.exchange y) :=
  (converse hy).bind fun _ => ofExcept _

lemma inquire {m : Message} {reply : MessageType} (hm : m.type ≠ .syncDone) : Gathers (inquire m reply) := by
  have hask := Exchange.only_ask (m := m).mono fun r => Exchange.not_sends_of_carries hm
  refine (requireLink _).bind fun _ => (converse hask).bind fun _ => (ofExcept _).bind fun answer => ?_
  split
  · exact pure _
  · exact throw _

lemma pose {request reply : MessageType} {operation : String} {least : State}
    {content : Session → Except SessionError request.Payload} {conclude : reply.Payload → Session → α × Session}
    (hr : request ≠ .syncDone) (hc : ∀ answer s, (conclude answer s).2.category = s.category) :
    Gathers (Procedure.pose request reply operation least content conclude) :=
  (require _ _).bind fun _ => get.bind fun _ => (ofExcept _).bind fun _ =>
    (inquire (m := ⟨request, _⟩) hr).bind fun answer => of_run (run_modifyGet (conclude answer)) (hc answer)

end Gathers

lemma composes_gathers : Composes Gathers where
  bind := .bind
  looks hx _ := .of_run hx fun _ => rfl

lemma category_advance (s : Session) (t : State) : (s.advance t).category = s.category := by
  rw [advance_eq]

lemma silent_ready {leg : Leg} : (Exchange.deliver leg ready).run.Only fun r => ¬ r.Sends .syncDone :=
  Exchange.only_deliver.mono fun _ => Exchange.not_sends_of_carries (by decide)

lemma gathers_listen : Gathers listen := by
  have hrest (s : Session) : Gathers (do
      Operation.linked (← Operation.request (.listen s.config.listener))
      modify ({ · with listening := true, device? := none, access? := none, flags? := none, state := .listening })) :=
    (Gathers.request id).bind fun _ => (Gathers.linked _).bind fun _ => .modify fun _ => rfl
  refine Gathers.get.bind fun s => ?_
  split
  · exact (Gathers.throw _).bind fun _ => hrest s
  · exact hrest s

lemma gathers_connect : Gathers connect := by
  refine (Gathers.requireListening _).bind fun _ => Gathers.get.bind fun _ => (Gathers.request id).bind fun _ =>
    (Gathers.linked _).bind fun _ => .bind (.modify fun _ => rfl) fun _ => ?_
  exact (Gathers.exchange silent_ready).bind fun _ => (Gathers.requireLink _).bind fun _ =>
    (Gathers.request id).bind fun _ => (Gathers.linked _).bind fun _ => .modify fun _ => rfl

lemma gathers_requestInfo : Gathers requestInfo := .pose nofun fun _ _ => category_advance _ _

lemma gathers_requestState : Gathers requestState := .pose nofun fun _ _ => category_advance _ _

lemma gathers_authenticate (password : Bytes) : Gathers (authenticate password) := by
  have hask : (Exchange.authorize password).run.Only fun r => ¬ r.Sends .syncDone :=
    Exchange.only_authorize.mono fun r => Exchange.not_sends_of_carries nofun
  refine (Gathers.require _ _).bind fun _ => (Gathers.requireLink _).bind fun _ => (Gathers.converse hask).bind fun _ =>
    (Gathers.ofExcept _).bind fun access => (Gathers.modify fun s => ?_).bind fun _ => .pure _
  split
  · exact category_advance _ _
  · rfl

lemma gathers_initiate : Gathers initiate :=
  composes_gathers.initiate gathers_listen gathers_connect gathers_requestInfo gathers_authenticate gathers_requestState

lemma gathers_pullChanges : Gathers pullChanges := by
  have hobtain : Gathers obtainFormat := .pose nofun fun _ s => category_advance s _
  have hvalues (id : UInt32) : Gathers (fetchValues id) := .pose nofun fun _ _ => category_advance _ _
  exact composes_gathers.pullChanges hobtain (.pose nofun fun _ _ => category_advance _ _) hvalues

lemma gathers_terminate : Gathers terminate := by
  have hfarewell : Talk.farewell.Only fun r => ¬ r.Sends .syncDone :=
    silent_ready.bind fun _ => (Talk.Only.request id).bind fun _ => trivial
  refine (Gathers.require _ _).bind fun _ => .bind (.inquire (by decide)) fun _ => (Gathers.requireLink _).bind fun _ =>
    .bind (.modify fun _ => rfl) fun _ => ?_
  exact (Gathers.converse hfarewell).bind fun _ => (Gathers.ofExcept _).bind fun _ => .modify fun _ => rfl

lemma silent_finalize (s : Session) : (finalize.run.run s).Only fun r => ¬ r.Sends .syncDone := by
  rw [run_finalize, map_eq_pure_bind]
  exact (only_releases (fun _ => id) id).bind fun _ => trivial

end Session

namespace Command

open Session Exchange

variable {α β : Type} {s s' : Session} {es : List Event}

abbrev Action.Yields (x : Command.Action α) (s : Session) (es : List Event) (r : Except Failure α) (s' : Session) :
    Prop := (x.run.run s).Yields es (r, s')

inductive Bound (x : Command.Action α) (f : α → Command.Action β) (s : Session) :
    List Event → Except Failure β → Session → Prop
  | failed {es : List Event} {e : Failure} {s' : Session} : Action.Yields x s es (.error e) s' →
      Bound x f s es (.error e) s'
  | went {es fs : List Event} {a : α} {s₁ s' : Session} {r : Except Failure β} : Action.Yields x s es (.ok a) s₁ →
      Action.Yields (f a) s₁ fs r s' → Bound x f s (es ++ fs) r s'

lemma bound_of_yields {x : Command.Action α} {f : α → Command.Action β} {r : Except Failure β}
    (h : Action.Yields (x >>= f) s es r s') : Bound x f s es r s' := by
  rw [Action.Yields, ExceptT.run_bind, StateT.run_bind] at h
  obtain ⟨fs, gs, ⟨e | a, s₁⟩, rfl, hx, hf⟩ := Talk.yields_bind.mp h
  · obtain ⟨rfl, he⟩ := Talk.yields_pure.mp hf
    cases he
    rw [List.append_nil]
    exact .failed hx
  · exact .went hx hf

lemma run_perform (op : Operation α) (s : Session) :
    (perform op).run.run s = (fun (r, s) => (r.mapError .session, s)) <$> op.run.run s := by
  rw [perform, ExceptT.run_bind, ExceptT.run_lift, StateT.run_bind, StateT.run_map, bind_map_left, map_eq_pure_bind]
  refine congrArg _ (funext fun (r, s) => ?_)
  cases r <;> rfl

lemma yields_perform {op : Operation α} {r : Except Failure α} (h : Action.Yields (perform op) s es r s') :
    ∃ r', Operation.Yields op s es r' s' ∧ r = r'.mapError .session := by
  rw [Action.Yields, run_perform] at h
  obtain ⟨⟨r', s₁⟩, hy, he⟩ := Talk.yields_map.mp h
  cases he
  exact ⟨r', hy, rfl⟩

def gather : Command.Action Changes := do
  start
  perform pullChanges

def report (asJson : Bool) (changes : Changes) : String :=
  if asJson then changes.json.pretty ++ "\n" else changes.text

def deliver (asJson : Bool) (changes : Changes) : Command.Action String := do
  perform terminate
  return report asJson changes

lemma pull_eq (keepFlag asJson : Bool) : pull keepFlag asJson = gather >>= fun changes =>
    if keepFlag then deliver asJson changes else perform markDone >>= fun _ => deliver asJson changes := by
  unfold pull gather deliver report
  rw [bind_assoc]
  refine congrArg _ (funext fun _ => congrArg _ (funext fun changes => ?_))
  cases keepFlag with
  | true =>
    simp only [not_true, if_false, if_true]
  | false =>
    simp only [Bool.false_eq_true, not_false_eq_true, if_true, if_false]

def Silent (es : List Event) : Prop := ∀ e ∈ es, ¬ e.request.Sends .syncDone

lemma silent_of_gathers {op : Operation α} {r : Except SessionError α} (h : Gathers op)
    (hy : Operation.Yields op s es r s') : Silent es :=
  ((h.silent s).after hy).1

lemma Silent.append {fs : List Event} (h : Silent es) (k : Silent fs) : Silent (es ++ fs) :=
  List.forall_mem_append.mpr ⟨h, k⟩

lemma silent_start {r : Except Failure Unit} (hy : Action.Yields start s es r s') :
    Silent es ∧ ∀ u, r = .ok u → s'.category = s.category := by
  rcases bound_of_yields hy with ⟨hx⟩ | ⟨hx, hf⟩
  · obtain ⟨_, hop, -⟩ := yields_perform hx
    exact ⟨silent_of_gathers gathers_initiate hop, nofun⟩
  · rename_i fs access s₁
    obtain ⟨r', hop, he⟩ := yields_perform hx
    obtain rfl : r' = .ok access := by cases r' <;> cases he; rfl
    obtain ⟨rfl, rfl⟩ : fs = [] ∧ s' = s₁ := by
      split at hf <;> obtain ⟨rfl, hr⟩ := Talk.yields_pure.mp hf <;> cases hr <;> exact ⟨rfl, rfl⟩
    rw [List.append_nil]
    exact ⟨silent_of_gathers gathers_initiate hop, fun _ _ => gathers_initiate.keeps _ _ _ _ hop⟩

lemma silent_gather {r : Except Failure Changes} (hy : Action.Yields gather s es r s') :
    Silent es ∧ ∀ changes, r = .ok changes → s'.category = s.category := by
  rcases bound_of_yields hy with ⟨hx⟩ | ⟨hx, hf⟩
  · exact ⟨(silent_start hx).1, nofun⟩
  · obtain ⟨hes, hc⟩ := silent_start hx
    obtain ⟨r', hop, rfl⟩ := yields_perform hf
    refine ⟨hes.append (silent_of_gathers gathers_pullChanges hop), fun changes he => ?_⟩
    cases r' with
    | error e => cases he
    | ok changes => exact (gathers_pullChanges.keeps _ _ _ _ hop).trans (hc () rfl)

lemma yields_deliver {asJson : Bool} {changes : Changes} {r : Except Failure String}
    (hy : Action.Yields (deliver asJson changes) s es r s') : ∃ t, Operation.Yields terminate s es t s' ∧
      r = (t.map fun _ => report asJson changes).mapError .session := by
  rcases bound_of_yields hy with ⟨hx⟩ | ⟨hx, hf⟩
  · obtain ⟨t, ht, he⟩ := yields_perform hx
    refine ⟨t, ht, ?_⟩
    cases t <;> cases he
    rfl
  · obtain ⟨t, ht, he⟩ := yields_perform hx
    obtain ⟨rfl, hr⟩ := Talk.yields_pure.mp hf
    cases hr
    rw [List.append_nil]
    refine ⟨t, ht, ?_⟩
    cases t <;> cases he
    rfl

def Confirmed (c : Category) (es : List Event) : Prop :=
  ∃ f g pre post, Message.frame ⟨.syncDone, c⟩ = .ok f ∧ Message.ofFrame g = .ok ⟨.complete, ()⟩ ∧
    es = pre ++ crossing f g ++ post

lemma not_confirmed_of_silent {c : Category} (h : Silent es) : ¬ Confirmed c es := by
  rintro ⟨f, g, pre, post, hf, -, rfl⟩
  refine h (.sent .inbound (.message f)) ?_ (Message.tag_of_frame hf)
  simp [crossing, delivery]

def marked (s : Session) : Session := { s with flags? := s.flags?.map (·.mark s.category), state := .done }

lemma yields_markDone {r : Except SessionError Unit} (hy : Operation.Yields markDone s es r s') :
    (es = [] ∧ ∃ e, r = .error e) ∨ ∃ answer, (ask ⟨.syncDone, s.category⟩).run.Yields es answer ∧
      (r, s') = s.conclusion .complete (fun _ s => ((), marked s)) answer := by
  rw [Operation.Yields, markDone, run_pose] at hy
  split at hy
  · obtain ⟨rfl, he⟩ := Talk.yields_pure.mp hy
    cases he
    exact .inl ⟨rfl, _, rfl⟩
  · rename_i payload hq
    obtain ⟨-, hp, -⟩ := question_eq_ok.mp hq
    obtain rfl := Except.ok.inj hp
    obtain ⟨answer, ha, he⟩ := Talk.yields_map.mp hy
    exact .inr ⟨answer, ha, he⟩

lemma marks_of_confirmed {c : Category} {as ms bs : List Event} {r : Except SessionError Unit} (ha : Silent as)
    (hb : Silent bs) (hy : Operation.Yields markDone s ms r s') (h : Confirmed c (as ++ ms ++ bs)) :
    ∃ f g a, as ++ ms ++ bs = as ++ crossing f g ++ ⟨.send .inbound (.control .acknowledge), a⟩ :: bs ∧
      ((∃ e, a = .error e ∧ r = .error (.link e)) ∨ a = .ok () ∧ r = .ok () ∧ s' = marked s) := by
  rcases yields_markDone hy with ⟨rfl, -⟩ | ⟨answer, hask, hr⟩
  · rw [List.append_nil] at h
    exact absurd h (not_confirmed_of_silent (ha.append hb))
  · obtain ⟨f, g, pre, post, hf, hg, he⟩ := h
    obtain ⟨rfl, a, rfl, rfl⟩ := of_crossing ha hb hask hg (Message.tag_of_frame hf) he
    refine ⟨f, g, a, he, ?_⟩
    cases a with
    | error e =>
      cases hr
      exact .inl ⟨e, rfl, rfl⟩
    | ok u =>
      have hreply : (⟨.complete, ()⟩ : Message).payload? .complete = some () := Message.payload?_eq_some.mpr rfl
      simp only [Except.mapError, Except.map, conclusion, hreply] at hr
      cases hr
      exact .inr ⟨rfl, rfl, rfl⟩

lemma confirmed_of_marked {as ms bs : List Event} (hy : Operation.Yields markDone s ms (.ok ()) s') :
    Confirmed s.category (as ++ ms ++ bs) := by
  rcases yields_markDone hy with ⟨-, e, he⟩ | ⟨answer, hask, hr⟩
  · cases he
  · obtain ⟨_, rfl, -⟩ := conclusion_ok hr.symm
    obtain ⟨f, g, hf, hg, rfl⟩ := answered_iff.mp (yields_answer.mp hask)
    exact ⟨f, g, as, .sent .inbound (.control .acknowledge) :: bs, hf, hg, by simp⟩

lemma yields_talk {i : Invocation} {r : Except Failure String} (hy : i.talk.Yields es r) : ∃ fs gs s,
    es = fs ++ gs ∧ Action.Yields i.task.action (new i.config) fs r s ∧ Silent gs := by
  obtain ⟨fs, gs, ⟨r', s⟩, rfl, hx, hf⟩ := Talk.yields_bind.mp hy
  obtain ⟨gs, ks, _, rfl, hfinal, hr⟩ := Talk.yields_bind.mp hf
  obtain ⟨rfl, rfl⟩ := Talk.yields_pure.mp hr
  exact ⟨fs, _, s, rfl, hx, Silent.append ((silent_finalize s).after hfinal).1 nofun⟩

/-- Confirming comes before printing, so that changes are lost where the leave-taking in between fails. -/
theorem pull_confirms_before_printing {i : Invocation} {c : Category} {keepFlag asJson : Bool}
    (hi : i.task = .pull c keepFlag asJson) {r : Except Failure String} (hy : i.talk.Yields es r) :
    (∀ text, r = .ok text → keepFlag = false → Confirmed c es) ∧
    (Confirmed c es → keepFlag = false ∧ ∃ as f g a rest changes s,
      Action.Yields gather (new i.config) as (.ok changes) s ∧
      es = as ++ crossing f g ++ ⟨.send .inbound (.control .acknowledge), a⟩ :: rest ∧
      ((∃ e, a = .error e ∧ r = .error (.session (.link e))) ∨
        a = .ok () ∧ ∃ ts t s' closing, rest = ts ++ closing ∧ Operation.Yields terminate (marked s) ts t s' ∧
          r = (t.map fun _ => report asJson changes).mapError .session)) := by
  obtain ⟨fs, gs, s', rfl, hx, hgs⟩ := yields_talk hy
  have hcategory : (new i.config).category = c := by simp [new, Invocation.config, Task.category, hi]
  rw [hi, Task.action, pull_eq] at hx
  rcases bound_of_yields hx with ⟨hgather⟩ | ⟨hgather, hrest⟩
  · refine ⟨nofun, fun h => absurd h (not_confirmed_of_silent ?_)⟩
    exact (silent_gather hgather).1.append hgs
  rename_i as bs changes s
  obtain ⟨has, hc⟩ := silent_gather hgather
  obtain rfl := (hc changes rfl).trans hcategory
  cases keepFlag with
  | true =>
    obtain ⟨t, ht, -⟩ := yields_deliver hrest
    refine ⟨nofun, fun h => absurd h (not_confirmed_of_silent ?_)⟩
    exact (has.append (silent_of_gathers gathers_terminate ht)).append hgs
  | false =>
    simp only [Bool.false_eq_true, if_false] at hrest
    rcases bound_of_yields hrest with ⟨hmark⟩ | ⟨hmark, hdeliver⟩
    · obtain ⟨m, hmark, he⟩ := yields_perform hmark
      refine ⟨nofun, fun h => ⟨rfl, ?_⟩⟩
      obtain ⟨f, g, a, hes, ha⟩ := marks_of_confirmed has hgs hmark h
      refine ⟨as, f, g, a, gs, changes, s, hgather, hes, .inl ?_⟩
      rcases ha with ⟨e, ha, rfl⟩ | ⟨-, rfl, -⟩ <;> cases he
      exact ⟨e, ha, rfl⟩
    · rename_i ms ts u s₁
      obtain ⟨m, hmark, he⟩ := yields_perform hmark
      obtain rfl : m = .ok () := by cases m <;> cases he; rfl
      obtain ⟨t, ht, rfl⟩ := yields_deliver hdeliver
      have hbs : Silent (ts ++ gs) := (silent_of_gathers gathers_terminate ht).append hgs
      have hassoc : as ++ (ms ++ ts) ++ gs = as ++ ms ++ (ts ++ gs) := by simp only [List.append_assoc]
      rw [hassoc]
      refine ⟨fun _ _ _ => confirmed_of_marked hmark, fun h => ⟨rfl, ?_⟩⟩
      obtain ⟨f, g, a, hes, ha⟩ := marks_of_confirmed has hbs hmark h
      refine ⟨as, f, g, a, ts ++ gs, changes, s, hgather, hes, ?_⟩
      rcases ha with ⟨e, -, he⟩ | ⟨ha, -, rfl⟩
      · cases he
      · exact .inr ⟨ha, ts, t, s', gs, rfl, ht, rfl⟩

lemma yields_bind_ok {x : Command.Action α} {f : α → Command.Action β} {fs : List Event} {a : α} {s₁ : Session}
    {r : Except Failure β} (hx : Action.Yields x s es (.ok a) s₁) (hf : Action.Yields (f a) s₁ fs r s') :
    Action.Yields (x >>= f) s (es ++ fs) r s' := by
  rw [Action.Yields, ExceptT.run_bind, StateT.run_bind]
  exact Talk.yields_bind.mpr ⟨es, fs, (.ok a, s₁), rfl, hx, hf⟩

lemma yields_bind_error {x : Command.Action α} {f : α → Command.Action β} {e : Failure}
    (hx : Action.Yields x s es (.error e) s') : Action.Yields (x >>= f) s es (.error e) s' := by
  rw [Action.Yields, ExceptT.run_bind, StateT.run_bind]
  exact Talk.yields_bind.mpr ⟨es, [], (.error e, s'), (List.append_nil es).symm, hx, .here _⟩

lemma yields_performed {op : Operation α} {r : Except SessionError α} (h : Operation.Yields op s es r s') :
    Action.Yields (perform op) s es (r.mapError .session) s' := by
  rw [Action.Yields, run_perform]
  exact Talk.yields_map.mpr ⟨(r, s'), h, rfl⟩

def lostPull (asJson : Bool) : Invocation :=
  ⟨Config.standard.device, Config.desktopPort, none, none, true, false, .pull .todo false asJson⟩

def introduced : Session :=
  { met .standard with
    state := .stateKnown, device? := some { Device.Sample.info with model := [0x5a] }, flags? := some .none }

lemma exists_initiated : ∃ es, Operation.Yields initiate (new .standard) es (.ok .granted) introduced := by
  let info : DeviceInfo := ⟨[0x5a], ⟨[0x65, 0x6e], rfl⟩, 0⟩
  let s₁ : Session := { met .standard with state := .infoKnown, device? := some info }
  obtain ⟨es₁, hconnect⟩ := exists_connects (new .standard)
  obtain ⟨es₂, h₂⟩ := Exchange.exists_answered ⟨.infoRequest, ()⟩ ⟨.info, info⟩ (by decide) (by decide)
  obtain ⟨es₃, h₃⟩ := Exchange.exists_answered ⟨.stateRequest, .todo⟩ ⟨.state, .none⟩ (by decide) (by decide)
  have hlisten : Operation.Yields listen (new .standard) _ (.ok ()) _ := yields_listen.mpr ⟨rfl, rfl, rfl⟩
  have hproceed : Operation.Yields (proceed .granted) s₁ _ (.ok .granted) introduced :=
    Session.yields_bind_ok.mpr ⟨es₃, [], _, _, rfl, yields_pose rfl h₃, .here _⟩
  have hintroduce : Operation.Yields introduce (new .standard).attending.joined _ (.ok .granted) introduced :=
    Session.yields_bind_ok.mpr ⟨es₂, _, info, s₁, rfl, yields_pose rfl h₂, hproceed⟩
  obtain ⟨es, hy⟩ : ∃ es, Operation.Yields (listen >>= fun _ => connect >>= fun _ => introduce) (new .standard) es
      (.ok .granted) introduced :=
    ⟨_, Session.yields_bind_ok.mpr ⟨_, _, (), _, rfl, hlisten,
      Session.yields_bind_ok.mpr ⟨_, _, (), _, rfl, hconnect, hintroduce⟩⟩⟩
  exact ⟨es, by rwa [Operation.Yields, run_initiate rfl]⟩

def gathered : Session := { introduced with state := .iterating, cached? := some ⟨.todo, []⟩ }

lemma exists_pulled : ∃ es changes, Operation.Yields pullChanges introduced es (.ok changes) gathered := by
  obtain ⟨es₁, h₁⟩ := Exchange.exists_answered ⟨.formatRequest, .todo⟩ ⟨.format, []⟩ (by decide) (by decide)
  obtain ⟨es₂, h₂⟩ := Exchange.exists_answered ⟨.idsRequest, .todo⟩ ⟨.ids, .ofIds [] [] [7]⟩ (by decide) (by decide)
  let s₁ : Session := { introduced with state := .formatKnown, cached? := some ⟨.todo, []⟩ }
  have hobtain : Operation.Yields obtainFormat introduced es₁ (.ok []) s₁ := yields_pose rfl h₁
  have hids : Operation.Yields requestIds s₁ es₂ (.ok (.ofIds [] [] [7])) gathered := yields_pose rfl h₂
  have hcollect : Operation.Yields collectChanges s₁ (es₂ ++ []) (.ok ⟨.todo, true, .ofIds [] [] [7], []⟩) gathered :=
    Session.yields_bind_ok.mpr ⟨es₂, [], _, _, rfl, hids, .here _⟩
  have hpull : Operation.Yields pullChanges introduced (es₁ ++ (es₂ ++ [])) (.ok ⟨.todo, true, .ofIds [] [] [7], []⟩)
      gathered := by
    refine Session.yields_bind_ok.mpr ⟨[], _, (), introduced, rfl, .here _,
      Session.yields_bind_ok.mpr ⟨[], _, introduced, introduced, rfl, .here _, ?_⟩⟩
    simp only [show introduced.format?.isNone = true from rfl, if_true]
    exact Session.yields_bind_ok.mpr ⟨es₁, _, [], s₁, rfl, hobtain, hcollect⟩
  exact ⟨_, _, hpull⟩

lemma exists_lost (asJson : Bool) : ∃ es e, (lostPull asJson).talk.Yields es (.error e) ∧ Confirmed .todo es := by
  obtain ⟨es₁, hinitiate⟩ := exists_initiated
  obtain ⟨es₂, changes, hpull⟩ := exists_pulled
  obtain ⟨es₃, h₃⟩ := Exchange.exists_answered ⟨.syncDone, .todo⟩ ⟨.complete, ()⟩ (by decide) (by decide)
  let lost : Event := ⟨.receive .inbound, .error (.link .closed)⟩
  have hmark : Operation.Yields markDone gathered es₃ (.ok ()) (marked gathered) := yields_pose rfl h₃
  have hterminate : Operation.Yields terminate (marked gathered) [lost] (.error (.link .closed)) (marked gathered) :=
    .answered (r := .receive .inbound) (.error (.link .closed)) (.here _)
  have hstart : Action.Yields start (new .standard) (es₁ ++ []) (.ok ()) introduced :=
    yields_bind_ok (yields_performed hinitiate) (.here _)
  have hgather : Action.Yields gather (new .standard) _ (.ok changes) gathered :=
    yields_bind_ok hstart (yields_performed hpull)
  have hdeliver : Action.Yields (deliver asJson changes) (marked gathered) [lost] (.error (.session (.link .closed)))
      (marked gathered) := yields_bind_error (yields_performed hterminate)
  have hpulled : Action.Yields (pull false asJson) (new .standard) (es₁ ++ [] ++ es₂ ++ (es₃ ++ [lost]))
      (.error (.session (.link .closed))) (marked gathered) := by
    rw [pull_eq]
    exact yields_bind_ok hgather (yields_bind_ok (yields_performed hmark) hdeliver)
  obtain ⟨es₄, hfinal⟩ : ∃ es, Operation.Yields finalize (marked gathered) es (.ok ()) _ := by
    apply Talk.exists_yields_ask (r := .close .inbound) ()
    apply Talk.exists_yields_ask (r := .close .outbound) ()
    apply Talk.exists_yields_ask (r := .unlisten) ()
    exact ⟨_, .here _⟩
  have htalk : (lostPull asJson).talk.Yields _ (.error (.session (.link .closed))) :=
    Talk.yields_bind.mpr ⟨_, _, _, rfl, hpulled, Talk.yields_bind.mpr ⟨es₄, [], _, rfl, hfinal, .here _⟩⟩
  refine ⟨_, _, htalk, ?_⟩
  have hc : Confirmed .todo (es₁ ++ [] ++ es₂ ++ es₃ ++ ([lost] ++ (es₄ ++ []))) := confirmed_of_marked hmark
  simpa only [List.append_assoc] using hc

theorem not_always_printed : ¬ ∀ (i : Invocation) (c : Category) (asJson : Bool) (es : List Event)
    (r : Except Failure String), i.task = .pull c false asJson → i.talk.Yields es r → Confirmed c es →
      ∃ text, r = .ok text := by
  intro hall
  obtain ⟨es, e, hy, hc⟩ := exists_lost true
  obtain ⟨text, he⟩ := hall (lostPull true) .todo true es _ rfl hy hc
  cases he

theorem pull_confirms_before_printing_lost : ∃ es e, (lostPull true).talk.Yields es (.error e) ∧ Confirmed .todo es ∧
    ∃ as changes s, Action.Yields gather (new (lostPull true).config) as (.ok changes) s := by
  obtain ⟨es, e, hy, hc⟩ := exists_lost true
  obtain ⟨-, as, f, g, a, rest, changes, s, hgather, -⟩ := (pull_confirms_before_printing rfl hy).2 hc
  exact ⟨es, e, hy, hc, as, changes, s, hgather⟩

end Command

end PimSync
