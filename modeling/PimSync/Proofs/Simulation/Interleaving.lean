import PimSync.Proofs.Simulation.Crossing

/-! In whatever order two parties move and in whatever pieces they read, they come to the same end. -/

namespace PimSync.Simulation

open Wire

namespace Voice

variable {α : Type} {p q : Voice α} {a b a' b' : Pipes}

lemma Runs.begin (h : p.Runs a b q a' b') (hn : q ≠ p) :
    ∃ r x, p.step a b = some (r, x) ∧ r.Runs (x.onOutgoing a) (x.onIncoming b) q a' b' := by
  cases h with
  | stay => exact absurd rfl hn
  | step hs hr => exact ⟨_, _, hs, hr⟩

lemma Acts.begin (h : p.Acts a b q a' b') :
    ∃ r x, p.step a b = some (r, x) ∧ r.Runs (x.onOutgoing a) (x.onIncoming b) q a' b' := by
  have hmoved {t : Talk α} {moved part : Bytes} (hp : part ≠ []) : (⟨t, moved ++ part⟩ : Voice α) ≠ ⟨t, moved⟩ :=
    fun he => hp (List.append_right_eq_self.mp (congrArg Voice.moved he))
  cases h with
  | step hs => exact ⟨_, _, hs, .stay _ _ _⟩
  | write hp hb ho => exact (runs_write_part _ _ hb ho).begin (hmoved hp)
  | @read leg next moved part rest total _ _ hp hn hl ho hi =>
    refine (runs_read_part part moved (fun k hk => ⟨total, Packet.scan_needs_append hn ?_⟩) ho hi).begin (hmoved hp)
    rw [List.length_take_of_le (Nat.le_of_lt hk)]
    omega

lemma not_step_of_starves {x : Move} (h : p.Starves b) (ha : ∀ leg, (a leg).ended = false)
    (hb : ∀ leg, (b leg).ended = false) : p.step a b ≠ some (q, x) := by
  obtain ⟨leg, next, total, ht, hn, hi⟩ := h
  simp [step, ht, ha, hb, hn, hi]

end Voice

namespace Dialogue

variable {α β : Type} {c d e final : Dialogue α β} {n : Nat}

lemma commutes {p q : Voice α} {v w : Voice β} {a b : Pipes} {x y : Move} (hp : p.step a b = some (q, x))
    (hv : v.step b a = some (w, y)) : ∃ f, Moves ⟨q, v, x.onOutgoing a, x.onIncoming b⟩ f ∧
      Moves ⟨p, w, y.onIncoming a, y.onOutgoing b⟩ f := by
  have hq := Voice.step_mono hp (Move.ended_onIncoming y a) (Move.le_onOutgoing y b)
  have hw := Voice.step_mono hv (Move.ended_onIncoming x b) (Move.le_onOutgoing x a)
  refine ⟨_, .device hw, ?_⟩
  rw [Move.comm (Voice.read_of_step hv), ← Move.comm (Voice.read_of_step hp)]
  exact .desktop hq

lemma diamond : Diamond (Moves (α := α) (β := β)) := by
  intro c d e hd he
  cases hd with
  | desktop hp =>
    cases he with
    | desktop hp' =>
      cases hp.symm.trans hp'
      exact .inl rfl
    | device hv => exact .inr (commutes hp hv)
  | device hv =>
    cases he with
    | device hv' =>
      cases hv.symm.trans hv'
      exact .inl rfl
    | desktop hp =>
      obtain ⟨f, hf, hf'⟩ := commutes hp hv
      exact .inr ⟨f, hf', hf⟩

lemma exists_walk_of_step (h : Step c d) : ∃ n, Walk Moves (n + 1) c d := by
  cases h with
  | desktop ha =>
    obtain ⟨r, x, hs, hr⟩ := ha.begin
    obtain ⟨n, hn⟩ := leads_of_desktop hr
    exact ⟨n, .step (.desktop hs) hn⟩
  | device ha =>
    obtain ⟨r, x, hs, hr⟩ := ha.begin
    obtain ⟨n, hn⟩ := leads_of_device hr
    exact ⟨n, .step (.device hs) hn⟩

lemma step_of_moves (h : Moves c d) : Step c d := by
  cases h with
  | desktop hs => exact .desktop (.step hs)
  | device hs => exact .device (.step hs)

def Open (c : Dialogue α β) : Prop := ∀ leg, (c.toDevice leg).ended = false ∧ (c.toDesktop leg).ended = false

lemma open_of_moves (h : Moves c d) (hd : d.Open) : c.Open := by
  have hfalse {p q : Pipe} (hl : p.Le q) (hq : q.ended = false) : p.ended = false := by
    by_contra hp
    rw [Bool.not_eq_false] at hp
    rw [hl.2 hp, hp] at hq
    cases hq
  intro leg
  obtain ⟨hv, ht⟩ := hd leg
  cases h with
  | desktop hs =>
    refine ⟨hfalse (Move.le_onOutgoing _ _ leg) hv, ?_⟩
    rwa [← Move.ended_onIncoming]
  | device hs =>
    refine ⟨?_, hfalse (Move.le_onOutgoing _ _ leg) ht⟩
    rwa [← Move.ended_onIncoming]

lemma open_of_walk (h : Walk Moves n c d) (hd : d.Open) : c.Open := by
  induction h with
  | stay => exact hd
  | step hs _ ih => exact open_of_moves hs (ih hd)

lemma not_moves_of_deadlocked (h : c.Deadlocked) (ho : c.Open) : ¬ Moves c d := by
  obtain ⟨hp, hv⟩ := h
  rintro (hs | hs)
  · exact Voice.not_step_of_starves hp (fun leg => (ho leg).1) (fun leg => (ho leg).2) hs
  · exact Voice.not_step_of_starves hv (fun leg => (ho leg).2) (fun leg => (ho leg).1) hs

/-- What becomes of two parties, whatever they do: they come to these results, leave nothing unread, and are at no
time both waiting for the other. -/
structure Concludes (c : Dialogue α β) (a : α) (b : β) : Prop where
  comes : ComesTo Step c ⟨.start (.done a), .start (.done b), .idle, .idle⟩
  never_deadlocked : ∀ n d, Walk Step n c d → ¬ d.Deadlocked

lemma Leads.concludes {a : α} {b : β} (h : c.Leads ⟨.start (.done a), .start (.done b), .idle, .idle⟩) :
    c.Concludes a b := by
  have hend : ∀ d, ¬ Moves ⟨.start (.done a), .start (.done b), .idle, .idle⟩ d := by
    rintro d (hs | hs) <;> cases hs
  have hcomes : ComesTo Moves c ⟨.start (.done a), .start (.done b), .idle, .idle⟩ := h.comesTo diamond hend
  refine ⟨hcomes.coarsen (fun _ _ => step_of_moves) fun _ _ => exists_walk_of_step, ?_⟩
  intro m d hm hdead
  obtain ⟨k, -, hk⟩ := hm.refine fun _ _ => exists_walk_of_step
  obtain ⟨-, n, hn⟩ := hcomes
  obtain ⟨-, l, hl⟩ := hn k d hk
  have hopen : d.Open := open_of_walk hl fun leg => ⟨rfl, rfl⟩
  cases hl with
  | stay =>
    obtain ⟨⟨leg, next, total, ht, -⟩, -⟩ := hdead
    cases ht
  | step hs _ => exact not_moves_of_deadlocked hdead hopen hs

end Dialogue

end PimSync.Simulation
