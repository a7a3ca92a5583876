import Mathlib.Algebra.Ring.Nat
import PimSync.Talk.Basic

/-! What is left of a talk after some requests have been answered, whatever the answers. -/

namespace PimSync.Talk

variable {α β σ : Type}

lemma ask_ne_done {r : Request} {next : r.Answer → Talk α} {a : α} : ask r next ≠ done a := by
  intro h
  cases h

lemma bind_done (a : α) (f : α → Talk β) : (done a >>= f) = f a := rfl

lemma bind_ask (r : Request) (next : r.Answer → Talk α) (f : α → Talk β) :
    (ask r next >>= f) = ask r fun answer => next answer >>= f := rfl

lemma map_id (t : Talk α) : id <$> t = t := by
  induction t with
  | done a => rfl
  | ask r next ih => exact congrArg (ask r) (funext ih)

lemma assoc {γ : Type} (t : Talk α) (f : α → Talk β) (g : β → Talk γ) :
    t >>= f >>= g = t >>= fun a => f a >>= g := by
  induction t with
  | done a => rfl
  | ask r next ih => exact congrArg (ask r) (funext ih)

instance : LawfulMonad Talk := LawfulMonad.mk' Talk map_id (fun _ _ => rfl) assoc

/-- The requests are made one after another, with these answers, and then this is left to be done. -/
inductive After : Talk α → List Event → Talk α → Prop
  | here (t : Talk α) : After t [] t
  | answered {r : Request} {next : r.Answer → Talk α} {es : List Event} {t : Talk α} (answer : r.Answer) :
      After (next answer) es t → After (ask r next) (⟨r, answer⟩ :: es) t

abbrev Yields (t : Talk α) (es : List Event) (a : α) : Prop := t.After es (done a)

lemma after_nil {t u : Talk α} : t.After [] u ↔ u = t := by
  constructor
  · intro h
    cases h
    rfl
  · rintro rfl
    exact .here _

lemma after_done {a : α} {es : List Event} {t : Talk α} : (done a).After es t ↔ es = [] ∧ t = done a := by
  constructor
  · intro h
    cases h
    exact ⟨rfl, rfl⟩
  · rintro ⟨rfl, rfl⟩
    exact .here _

lemma yields_done {a b : α} {es : List Event} : (done a).Yields es b ↔ es = [] ∧ b = a := by
  rw [Yields, after_done, done.injEq]

lemma yields_pure {a b : α} {es : List Event} : (pure a : Talk α).Yields es b ↔ es = [] ∧ b = a := yields_done

lemma after_ask {r : Request} {next : r.Answer → Talk α} {es : List Event} {t : Talk α} :
    (ask r next).After es t ↔
      (es = [] ∧ t = ask r next) ∨ ∃ answer rest, es = ⟨r, answer⟩ :: rest ∧ (next answer).After rest t := by
  constructor
  · rintro (_ | ⟨answer, h⟩)
    · exact .inl ⟨rfl, rfl⟩
    · exact .inr ⟨answer, _, rfl, h⟩
  · rintro (⟨rfl, rfl⟩ | ⟨answer, rest, rfl, h⟩)
    · exact .here _
    · exact .answered answer h

lemma yields_ask {r : Request} {next : r.Answer → Talk α} {es : List Event} {a : α} :
    (ask r next).Yields es a ↔ ∃ answer rest, es = ⟨r, answer⟩ :: rest ∧ (next answer).Yields rest a := by
  simp [Yields, after_ask]

lemma after_singleton {t u : Talk α} {e : Event} (h : t.After [e] u) :
    ∃ next : e.request.Answer → Talk α, t = ask e.request next ∧ u = next e.answer := by
  cases h with
  | answered answer h =>
    obtain rfl := after_nil.mp h
    exact ⟨_, rfl, rfl⟩

lemma after_cons {t u : Talk α} {e : Event} {es : List Event} (h : t.After (e :: es) u) :
    ∃ v, t.After [e] v ∧ v.After es u := by
  cases h with
  | answered answer h => exact ⟨_, .answered answer (.here _), h⟩

lemma exists_after_append {t v : Talk α} {es fs : List Event} (h : t.After (es ++ fs) v) :
    ∃ u, t.After es u ∧ u.After fs v := by
  induction es generalizing t with
  | nil => exact ⟨t, .here t, h⟩
  | cons e es ih =>
    cases h with
    | answered answer h =>
      obtain ⟨u, hu, hv⟩ := ih h
      exact ⟨u, .answered answer hu, hv⟩

lemma after_append {t u v : Talk α} {es fs : List Event} (h : t.After es u) (k : t.After (es ++ fs) v) :
    u.After fs v := by
  induction h with
  | here => exact k
  | answered answer _ ih =>
    cases k with
    | answered _ k => exact ih k

lemma exists_yields_ask {r : Request} {next : r.Answer → Talk α} {a : α} (answer : r.Answer)
    (h : ∃ es, (next answer).Yields es a) : ∃ es, (ask r next).Yields es a := by
  obtain ⟨es, h⟩ := h
  exact ⟨_, .answered answer h⟩

namespace After

lemma trans {t u v : Talk α} {es fs : List Event} (h : t.After es u) (k : u.After fs v) : t.After (es ++ fs) v := by
  induction h with
  | here => exact k
  | answered answer _ ih => exact .answered answer (ih k)

lemma bind {t u : Talk α} {es : List Event} (h : t.After es u) (f : α → Talk β) : (t >>= f).After es (u >>= f) := by
  induction h with
  | here => exact .here _
  | answered answer _ ih => exact .answered answer ih

end After

lemma Yields.then {t : Talk α} {es fs : List Event} {a : α} {f : α → Talk β} {u : Talk β}
    (h : t.Yields es a) (k : (f a).After fs u) : (t >>= f).After (es ++ fs) u :=
  (h.bind f).trans k

lemma after_bind {t : Talk α} {f : α → Talk β} {es : List Event} {v : Talk β} (h : (t >>= f).After es v) :
    (∃ r next, t.After es (ask r next) ∧ v = (ask r next >>= f)) ∨
      ∃ fs gs a, es = fs ++ gs ∧ t.Yields fs a ∧ (f a).After gs v := by
  induction t generalizing es with
  | done a => exact .inr ⟨[], es, a, rfl, .here _, h⟩
  | ask r next ih =>
    rw [bind_ask, after_ask] at h
    rcases h with ⟨rfl, rfl⟩ | ⟨answer, rest, rfl, h⟩
    · exact .inl ⟨r, next, .here _, rfl⟩
    · rcases ih answer h with ⟨r', next', hu, rfl⟩ | ⟨fs, gs, a, rfl, hf, hg⟩
      · exact .inl ⟨r', next', .answered answer hu, rfl⟩
      · exact .inr ⟨⟨r, answer⟩ :: fs, gs, a, rfl, .answered answer hf, hg⟩

lemma asks_bind {t : Talk α} {f : α → Talk β} {es : List Event} {r : Request} {next : r.Answer → Talk β}
    (h : (t >>= f).After es (ask r next)) :
    (∃ next', t.After es (ask r next') ∧ next = fun answer => next' answer >>= f) ∨
      ∃ fs gs a, es = fs ++ gs ∧ t.Yields fs a ∧ (f a).After gs (ask r next) := by
  rcases after_bind h with ⟨r', next', hr, hv⟩ | h
  · cases hv
    exact .inl ⟨next', hr, rfl⟩
  · exact .inr h

lemma yields_bind {t : Talk α} {f : α → Talk β} {es : List Event} {b : β} :
    (t >>= f).Yields es b ↔ ∃ fs gs a, es = fs ++ gs ∧ t.Yields fs a ∧ (f a).Yields gs b := by
  constructor
  · intro h
    rcases after_bind h with ⟨r, next, _, hv⟩ | h
    · cases hv
    · exact h
  · rintro ⟨fs, gs, a, rfl, hf, hg⟩
    exact hf.then hg

lemma yields_map {t : Talk α} {f : α → β} {es : List Event} {b : β} :
    (f <$> t).Yields es b ↔ ∃ a, t.Yields es a ∧ b = f a := by
  rw [map_eq_pure_bind, yields_bind]
  constructor
  · rintro ⟨fs, gs, a, rfl, hf, hg⟩
    obtain ⟨rfl, rfl⟩ := yields_done.mp hg
    exact ⟨a, by rwa [List.append_nil], rfl⟩
  · rintro ⟨a, h, rfl⟩
    exact ⟨es, [], a, by rw [List.append_nil], h, .here _⟩

def Only (P : Request → Prop) : Talk α → Prop
  | done _ => True
  | ask r next => P r ∧ ∀ answer, (next answer).Only P

namespace Only

variable {P P' : Request → Prop}

lemma request {r : Request} (h : P r) : (Talk.request r).Only P := ⟨h, fun _ => trivial⟩

lemma bind {t : Talk α} {f : α → Talk β} (h : t.Only P) (k : ∀ a, (f a).Only P) : (t >>= f).Only P := by
  induction t with
  | done a => exact k a
  | ask r next ih => exact ⟨h.1, fun answer => ih answer (h.2 answer)⟩

lemma mono {t : Talk α} (h : t.Only P) (k : ∀ r, P r → P' r) : t.Only P' := by
  induction t with
  | done a => trivial
  | ask r next ih => exact ⟨k r h.1, fun answer => ih answer (h.2 answer)⟩

lemma after {t u : Talk α} {es : List Event} (h : t.Only P) (k : t.After es u) :
    (∀ e ∈ es, P e.request) ∧ u.Only P := by
  induction k with
  | here => exact ⟨by simp, h⟩
  | answered answer _ ih =>
    obtain ⟨hes, hu⟩ := ih (h.2 answer)
    exact ⟨List.forall_mem_cons.mpr ⟨h.1, hes⟩, hu⟩

lemma asks {t : Talk α} {es : List Event} {r : Request} {next : r.Answer → Talk α} (h : t.Only P)
    (k : t.After es (ask r next)) : P r :=
  (h.after k).2.1

end Only

def requestIf (p : Bool) (r : Request) : Talk Unit := if p then ask r fun _ => pure () else pure ()

lemma only_requestIf {P : Request → Prop} {p : Bool} {r : Request} (h : P r) : (requestIf p r).Only P := by
  cases p
  · trivial
  · exact ⟨h, fun _ => trivial⟩

lemma yields_requestIf {p : Bool} {e : Event} (he : Subsingleton e.request.Answer) {es : List Event} {u : Unit} :
    (requestIf p e.request).Yields es u ↔ es = if p then [e] else [] := by
  cases p with
  | false => simp [requestIf, yields_pure]
  | true =>
    constructor
    · intro h
      obtain ⟨answer, rest, rfl, hrest⟩ := yields_ask.mp h
      obtain ⟨rfl, -⟩ := yields_pure.mp hrest
      rw [Subsingleton.elim answer e.answer]
      rfl
    · rintro rfl
      exact .answered e.answer (.here _)

lemma run_ask {network : Network σ} {r : Request} {next : r.Answer → Talk α} {s s' : σ} {a : α} {es : List Event} :
    (ask r next).run network s = some (a, s', es) ↔ ∃ answer s₁ fs, network r s = some (answer, s₁) ∧
      (next answer).run network s₁ = some (a, s', fs) ∧ es = ⟨r, answer⟩ :: fs := by
  simp only [run]
  cases network r s with
  | none => simp
  | some answered =>
    obtain ⟨answer, s₁⟩ := answered
    simp only [Option.map_eq_some_iff, Prod.mk.injEq, Option.some.injEq]
    constructor
    · rintro ⟨⟨b, s₂, fs⟩, hb, rfl, rfl, rfl⟩
      exact ⟨answer, s₁, fs, ⟨rfl, rfl⟩, hb, rfl⟩
    · rintro ⟨_, _, fs, ⟨rfl, rfl⟩, hb, rfl⟩
      exact ⟨⟨a, s', fs⟩, hb, rfl, rfl, rfl⟩

lemma run_done {network : Network σ} {b a : α} {s s' : σ} {es : List Event} :
    (done b).run network s = some (a, s', es) ↔ a = b ∧ s' = s ∧ es = [] := by
  simp only [run, Option.some.injEq, Prod.mk.injEq]
  constructor <;> rintro ⟨rfl, rfl, rfl⟩ <;> exact ⟨rfl, rfl, rfl⟩

lemma run_bind {network : Network σ} {t : Talk α} {f : α → Talk β} {s s₁ s' : σ} {a : α} {b : β} {es fs : List Event}
    (ht : t.run network s = some (a, s₁, es)) (hf : (f a).run network s₁ = some (b, s', fs)) :
    (t >>= f).run network s = some (b, s', es ++ fs) := by
  induction t generalizing s es with
  | done c =>
    obtain ⟨rfl, rfl, rfl⟩ := run_done.mp ht
    exact hf
  | ask r next ih =>
    obtain ⟨answer, s₂, gs, hr, hb, rfl⟩ := run_ask.mp ht
    exact run_ask.mpr ⟨answer, s₂, gs ++ fs, hr, ih answer hb, rfl⟩

lemma yields_of_run {network : Network σ} {t : Talk α} {s s' : σ} {a : α} {es : List Event}
    (h : t.run network s = some (a, s', es)) : t.Yields es a := by
  induction t generalizing s es with
  | done b =>
    obtain ⟨rfl, -, rfl⟩ := run_done.mp h
    exact .here _
  | ask r next ih =>
    obtain ⟨answer, _, _, -, hb, rfl⟩ := run_ask.mp h
    exact .answered answer (ih answer hb)

end PimSync.Talk
