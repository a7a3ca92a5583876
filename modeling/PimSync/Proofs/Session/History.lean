import PimSync.Proofs.Session.Posing
import PimSync.Proofs.Talk.Exchanges
import PimSync.Session.Action

/-! The histories of a session: its actions, the events of each, and what has happened in them since when. -/

namespace PimSync

def Message.category? : Message → Option Category
  | ⟨.stateRequest, c⟩ | ⟨.formatRequest, c⟩ | ⟨.idsRequest, c⟩ | ⟨.syncDone, c⟩ => some c
  | ⟨.itemRequest, key⟩ => some key.category
  | ⟨.deleteItems, deletion⟩ => some deletion.category
  | ⟨.itemWrite, w⟩ => some w.category
  | _ => none

namespace Session

open Wire

abbrev Operation.Yields {α : Type} (x : Operation α) (s : Session) (es : List Event) (r : Except SessionError α)
    (s' : Session) : Prop := (x.run.run s).Yields es (r, s')

inductive Mark where
  | call (a : Action)
  | event (e : Event)

abbrev History := List Mark

/-- Histories of a session that has been made with this configuration, whatever its requests were answered. -/
inductive Reaches (config : Config) : History → Session → Prop
  | new : Reaches config [] (.new config)
  | act {h : History} {s s' : Session} (a : Action) {es : List Event} {r : Except SessionError a.Result} :
      Reaches config h s → a.perform.Yields s es r s' →
      Reaches config (h ++ .call a :: es.map .event) s'

def Underway (config : Config) (a : Action) (h : History)
    (t : Talk (Except SessionError a.Result × Session)) : Prop :=
  ∃ h₀ s₀ es, Reaches config h₀ s₀ ∧ h = h₀ ++ .call a :: es.map .event ∧ (a.perform.run.run s₀).After es t

def Leaves {α : Type} (next : Except LinkError Unit → Talk (Except SessionError α × Session))
    (s : Session) : Prop :=
  ∀ e, next (.error e) = .done (.error (.link e), s)

def Writes (config : Config) (a : Action) (h : History) (m : Message) (s : Session) : Prop :=
  ∃ f next, m.frame = .ok f ∧ Underway config a h (.ask (.send .inbound (.message f)) next) ∧ Leaves next s

/-- A session between two actions, or in the middle of one when a message is about to be written. -/
def Occurs (config : Config) (h : History) (s : Session) : Prop :=
  Reaches config h s ∨ ∃ a m, Writes config a h m s

/-- A message and the reply to it have crossed the inbound link, and since then it has all been like this. -/
def Happened (h : History) (m reply : Message) (since : Mark → Prop) : Prop :=
  ∃ pre es post, h = pre ++ es.map .event ++ post ∧ Exchange.Answered m reply es ∧ ∀ x ∈ post, since x

namespace Mark

def Listens : Mark → Prop
  | event ⟨.listen _, .ok _⟩ => True
  | _ => False

def Drops (c : Category) : Mark → Prop
  | call (.errand (.selectCategory c')) => c' ≠ c
  | call (.errand .resetFormat) => True
  | _ => False

def Sends (t : MessageType) : Mark → Prop
  | event ⟨.send _ (.message f), _⟩ => f.tag = t.tag
  | _ => False

def Keeps (c : Category) (x : Mark) : Prop := ¬ x.Listens ∧ ¬ x.Drops c

end Mark

def Cleared (s : Session) : Prop :=
  ∃ info, s.device? = some info ∧ (¬ info.requiresAuth ∨ s.access? = some .granted)

/-- On this connection the device has told its state to a session that was cleared when it asked. -/
def Authorized (config : Config) (h : History) : Prop :=
  ∃ c flags pre es post a s, h = pre ++ es.map .event ++ post ∧
    Exchange.Answered ⟨.stateRequest, c⟩ ⟨.state, flags⟩ es ∧ (∀ x ∈ post, ¬ x.Listens) ∧
    Writes config a (pre ++ (es.take 1).map .event) ⟨.stateRequest, c⟩ s ∧ s.Cleared

lemma Leaves.andThen {α β : Type} {next : Except LinkError Unit → Talk (Except SessionError α × Session)}
    {s : Session} (k : Leaves next s) (f : α → Operation β) :
    Leaves (fun answer => next answer >>= fun (r, s) => match r with
      | .ok a => (f a).run.run s
      | .error e => pure (.error e, s)) s := fun e => by
  simp only [k e]
  rfl

lemma Leaves.unique {α : Type} {next : Except LinkError Unit → Talk (Except SessionError α × Session)}
    {s s' : Session} (h : Leaves next s) (h' : Leaves next s') : s' = s := by
  have he := (h .closed).symm.trans (h' .closed)
  cases he
  rfl

lemma Underway.after {config : Config} {a : Action} {h : History} {es : List Event}
    {t u : Talk (Except SessionError a.Result × Session)} (k : Underway config a h t) (hu : t.After es u) :
    Underway config a (h ++ es.map .event) u := by
  obtain ⟨h₀, s₀, fs, hr, rfl, ht⟩ := k
  exact ⟨h₀, s₀, fs ++ es, hr, by simp, ht.trans hu⟩

namespace Happened

variable {h : History} {m reply : Message} {since : Mark → Prop}

lemma now {es : List Event} (k : Exchange.Answered m reply es) : Happened (h ++ es.map .event) m reply since :=
  ⟨h, es, [], by simp, k, by simp⟩

lemma append {post : History} (k : Happened h m reply since) (hp : ∀ x ∈ post, since x) :
    Happened (h ++ post) m reply since := by
  obtain ⟨pre, es, post', rfl, ha, hs⟩ := k
  exact ⟨pre, es, post' ++ post, by simp, ha, List.forall_mem_append.mpr ⟨hs, hp⟩⟩

lemma mono {since' : Mark → Prop} (k : Happened h m reply since) (hs : ∀ x, since x → since' x) :
    Happened h m reply since' := by
  obtain ⟨pre, es, post, rfl, ha, hp⟩ := k
  exact ⟨pre, es, post, rfl, ha, fun x hx => hs x (hp x hx)⟩

end Happened

lemma Authorized.append {config : Config} {h post : History} (k : Authorized config h)
    (hp : ∀ x ∈ post, ¬ x.Listens) : Authorized config (h ++ post) := by
  obtain ⟨c, flags, pre, es, post', a, s, rfl, ha, hs, hw⟩ := k
  exact ⟨c, flags, pre, es, post' ++ post, a, s, by simp, ha, List.forall_mem_append.mpr ⟨hs, hp⟩, hw⟩

end Session

end PimSync
