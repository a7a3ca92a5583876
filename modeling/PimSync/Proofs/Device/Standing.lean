import PimSync.Proofs.Device.Rounds

/-! What a device stands at in the middle of its talk. -/

namespace PimSync

open Wire

namespace Event

def Fails (e : Event) : Prop := ∃ leg p x, e = ⟨.send leg p, .error x⟩

def Asks (e : Event) : Prop := ∃ f, e = .received .inbound (.message f)

def IsSilent (e : Event) : Prop := ¬ e.Fails ∧ ¬ e.Asks

lemma isSilent_sent (leg : Leg) (p : Packet) : (Event.sent leg p).IsSilent := ⟨nofun, nofun⟩

lemma isSilent_control (leg : Leg) (c : Control) : (Event.received leg (.control c)).IsSilent := ⟨nofun, nofun⟩

lemma isSilent_outbound (p : Packet) : (Event.received .outbound p).IsSilent := ⟨nofun, nofun⟩

lemma isSilent_cut (leg : Leg) (e : WireError) : Event.IsSilent ⟨.receive leg, .error e⟩ := ⟨nofun, nofun⟩

end Event

namespace Exchange

lemma collect_eq (leg : Leg) : (collect leg).run = .ask (.send leg (.control .request)) fun
    | .error e => .done (.error (.link e))
    | .ok () => .ask (.receive leg) fun
      | .error e => .done (.error (.ofWire e))
      | .ok (.control c) => .done (.error (.message "message" c.name))
      | .ok (.message f) => match Message.ofFrame f with
        | .error e => .done (.error (.coding e))
        | .ok m => .ask (.send leg (.control .acknowledge)) fun
          | .error e => .done (.error (.link e))
          | .ok () => .done (.ok m) := by
  refine congrArg (Talk.ask _) (funext fun sent => ?_)
  rcases sent with e | ⟨⟩
  · rfl
  refine congrArg (Talk.ask _) (funext fun received => ?_)
  rcases received with e | c | f
  · rfl
  · rfl
  change (coded (Message.ofFrame f) >>= fun m => sendControl leg .acknowledge >>= fun _ => pure m).run = _
  dsimp only
  cases Message.ofFrame f with
  | error e => rfl
  | ok m =>
    refine congrArg (Talk.ask _) (funext fun sent => ?_)
    rcases sent with e | ⟨⟩ <;> rfl

lemma cut_of_collect {es : List Event} {e : LinkError} (h : (collect .inbound).run.Yields es (.error (.link e))) :
    (∀ ev ∈ es, ¬ ev.Asks) ∨ ∃ a b c, es = [a, b, c] ∧ c.Fails := by
  rw [collect_eq, Talk.yields_ask] at h
  obtain ⟨sent, rest, rfl, h⟩ := h
  have hsent : ¬ Event.Asks ⟨.send .inbound (.control .request), sent⟩ := nofun
  rcases sent with e' | ⟨⟩
  · obtain ⟨rfl, -⟩ := Talk.yields_done.mp h
    exact .inl (List.forall_mem_singleton.mpr hsent)
  obtain ⟨received, rest, rfl, hreceived⟩ := Talk.yields_ask.mp h
  rcases received with e' | c | f
  · obtain ⟨rfl, -⟩ := Talk.yields_done.mp hreceived
    exact .inl (List.forall_mem_cons.mpr ⟨hsent, List.forall_mem_singleton.mpr nofun⟩)
  · cases (Talk.yields_done.mp hreceived).2
  · dsimp only at hreceived
    split at hreceived
    · cases (Talk.yields_done.mp hreceived).2
    · obtain ⟨acknowledged, rest, rfl, hacknowledged⟩ := Talk.yields_ask.mp hreceived
      rcases acknowledged with e' | ⟨⟩
      · obtain ⟨rfl, -⟩ := Talk.yields_done.mp hacknowledged
        exact .inr ⟨_, _, _, rfl, _, _, _, rfl⟩
      · cases (Talk.yields_done.mp hacknowledged).2

end Exchange

namespace Device

/-- This is what the device comes to if it is not asked for anything more and all that it says gets through. -/
def StandsAt (d : Device) (t : Talk Served) : Prop :=
  ∃ es, (∀ e ∈ es, e.IsSilent) ∧ (t.Yields es (.again d) ∨ t.Yields es (.finished (.ok d)))

variable {d d₁ d₂ : Device} {es : List Event} {t u : Talk Served}

lemma StandsAt.of_silent {e : Event} (he : e.IsSilent) (h : t.After [e] u) (hd : d.StandsAt u) : d.StandsAt t := by
  obtain ⟨es, hes, hy⟩ := hd
  exact ⟨e :: es, List.forall_mem_cons.mpr ⟨he, hes⟩, hy.imp (h.trans ·) (h.trans ·)⟩

lemma standsAt_waiting (ht : d.round.After [.sent .inbound (.control .request)] t) : d.StandsAt t := by
  have hround : d.round.Yields ([.sent .inbound (.control .request)] ++ [⟨.receive .inbound, .error (.link .closed)⟩])
      (.finished (.ok d)) := .answered _ (.answered _ (.here _))
  exact ⟨_, List.forall_mem_singleton.mpr (Event.isSilent_cut _ _), .inr (Talk.after_append ht hround)⟩

def Unasked (es : List Event) : Prop := (∀ e ∈ es, ¬ e.Asks) ∨ ∃ a b c, es = [a, b, c] ∧ c.Fails

lemma Unasked.of_append {fs : List Event} (h : Unasked (es ++ fs)) (hfs : ∀ e ∈ fs, e.IsSilent) : Unasked es := by
  rcases h with h | ⟨a, b, c, he, hc⟩
  · exact .inl (List.forall_mem_append.mp h).1
  · -- the event that failed is the last of all, and none of those that follow has failed
    rcases List.eq_nil_or_concat fs with rfl | ⟨fs, last, rfl⟩
    · exact .inr ⟨a, b, c, by simpa using he, hc⟩
    · have hlast : last = c := by simpa using congrArg List.getLast? he
      exact absurd hc (hlast ▸ hfs last (by simp)).1

lemma round_cases {x : Served} (h : d.round.Yields es x) :
    (x = .finished (.ok d) ∧ Unasked es) ∨ (∃ e, x = .finished (.error e)) ∨
      ∃ f m gs, Message.ofFrame f = .ok m ∧ es = Exchange.collection .inbound f ++ gs ∧
        (x = .again (d.respond m).2 ∨ x = .finished (.ok (d.respond m).2)) := by
  obtain ⟨fs, gs, r, rfl, hcollect, hrest⟩ := Talk.yields_bind.mp h
  rcases r with e | m
  · cases e with
    | link e =>
      obtain ⟨rfl, rfl⟩ := Talk.yields_done.mp hrest
      rw [List.append_nil]
      exact .inl ⟨rfl, Exchange.cut_of_collect hcollect⟩
    | _ => exact .inr (.inl ⟨_, (Talk.yields_done.mp hrest).2⟩)
  · obtain ⟨f, hf, rfl⟩ := Exchange.yields_collect.mp hcollect
    dsimp only at hrest
    split at hrest
    · exact .inr (.inl ⟨_, (Talk.yields_done.mp hrest).2⟩)
    · rename_i reply d' hr
      obtain ⟨_, _, r, rfl, -, hlast⟩ := Talk.yields_bind.mp hrest
      rcases r with e | ⟨⟩
      · exact .inr (.inl ⟨_, (Talk.yields_done.mp hlast).2⟩)
      · refine .inr (.inr ⟨f, m, _, hf, rfl, ?_⟩)
        have hx := (Talk.yields_done.mp hlast).2
        rw [hr]
        split at hx
        · exact .inr hx
        · exact .inl hx

namespace StandsAt

variable {d' : Device}

lemma of_round (ht : d.round.After es t) (h : d'.StandsAt t) : (d' = d ∧ Unasked es) ∨
    ∃ f m gs, Message.ofFrame f = .ok m ∧
      es = .sent .inbound (.control .request) :: .received .inbound (.message f) :: gs ∧ (∀ e ∈ gs.head?, ¬ e.Fails) ∧
        d' = (d.respond m).2 := by
  obtain ⟨fs, hfs, hy⟩ := h
  have hcases : (d' = d ∧ Unasked (es ++ fs)) ∨ ∃ f m gs, Message.ofFrame f = .ok m ∧
      es ++ fs = Exchange.collection .inbound f ++ gs ∧ d' = (d.respond m).2 := by
    rcases hy with hy | hy <;>
      rcases round_cases (ht.trans hy) with ⟨he, hu⟩ | ⟨_, he⟩ | ⟨f, m, gs, hf, hes, he | he⟩ <;> cases he
    · exact .inr ⟨f, m, gs, hf, hes, rfl⟩
    · exact .inl ⟨rfl, hu⟩
    · exact .inr ⟨f, m, gs, hf, hes, rfl⟩
  rcases hcases with ⟨rfl, hu⟩ | ⟨f, m, gs, hf, hes, rfl⟩
  · exact .inl ⟨rfl, hu.of_append hfs⟩
  · have hlate : .received .inbound (.message f) ∉ fs := fun he => (hfs _ he).2 ⟨f, rfl⟩
    -- the request is the second event, and no event that is still to come
    match es with
    | [] =>
      rw [List.nil_append] at hes
      exact absurd (by simp [hes, Exchange.collection]) hlate
    | [e] =>
      obtain ⟨-, rfl⟩ := List.cons.inj hes
      exact absurd List.mem_cons_self hlate
    | e :: e' :: es =>
      obtain ⟨rfl, htail⟩ := List.cons.inj hes
      obtain ⟨rfl, hrest⟩ := List.cons.inj htail
      refine .inr ⟨f, m, es, hf, rfl, fun e he => ?_, rfl⟩
      obtain ⟨es, rfl⟩ := List.head?_eq_some_iff.mp he
      obtain ⟨rfl, -⟩ := List.cons.inj hrest
      nofun

lemma unique_of_round (ht : d.round.After es t) (h₁ : d₁.StandsAt t) (h₂ : d₂.StandsAt t) : d₁ = d₂ := by
  have hnot {es gs : List Event} {f : Frame} (hu : Unasked es)
      (hes : es = .sent .inbound (.control .request) :: .received .inbound (.message f) :: gs)
      (hgs : ∀ e ∈ gs.head?, ¬ e.Fails) : False := by
    rcases hu with hu | ⟨a, b, c, rfl, hc⟩
    · exact hu (.received .inbound (.message f)) (by simp [hes]) ⟨f, rfl⟩
    · cases hes
      exact hgs c rfl hc
  rcases of_round ht h₁ with ⟨rfl, hu⟩ | ⟨f, m, gs, hf, hes, hgs, rfl⟩ <;>
    rcases of_round ht h₂ with ⟨rfl, hu'⟩ | ⟨f', m', gs', hf', hes', hgs', rfl⟩
  · rfl
  · exact (hnot hu hes' hgs').elim
  · exact (hnot hu' hes hgs).elim
  · subst hes
    cases hes'
    cases hf.symm.trans hf'
    rfl

end StandsAt

lemma meet_cases {initiating : Bool} {desktop : Endpoint} {x : Served}
    (h : (d.meet initiating desktop).Yields es x) : x = .again d ∨ ∃ e, x = .finished (.error e) := by
  obtain ⟨_, _, r, -, -, hr⟩ := Talk.yields_bind.mp h
  rcases r with e | ⟨⟩
  · exact .inr ⟨e, (Talk.yields_done.mp hr).2⟩
  · exact .inl (Talk.yields_done.mp hr).2

inductive Reaches : Talk Served → Prop
  | meet {d : Device} {initiating : Bool} {desktop : Endpoint} {es : List Event} {t : Talk Served} :
      (d.meet initiating desktop).After es t → Reaches t
  | round {d : Device} {es : List Event} {t : Talk Served} : d.round.After es t → Reaches t

lemma StandsAt.unique (ht : Reaches t) (h₁ : d₁.StandsAt t) (h₂ : d₂.StandsAt t) : d₁ = d₂ := by
  cases ht with
  | round ht => exact unique_of_round ht h₁ h₂
  | @meet d es _ initiating desktop ht =>
    have hall {d' : Device} (h : d'.StandsAt t) : d' = d := by
      obtain ⟨fs, -, hy⟩ := h
      rcases hy with hy | hy <;> rcases meet_cases (ht.trans hy) with he | ⟨e, he⟩ <;> cases he
      rfl
    rw [hall h₁, hall h₂]

lemma Reaches.after (h : Reaches t) (k : t.After es u) : Reaches u := by
  cases h with
  | meet h => exact .meet (h.trans k)
  | round h => exact .round (h.trans k)

end Device

end PimSync
