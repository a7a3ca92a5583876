import PimSync.Proofs.Session.History

/-! Operations that do not look at everything that a session holds. -/

namespace PimSync.Session

open Procedure

variable {b : Type → Type} [Monad b] {α β : Type} {f : Session → Session}

def Blind (f : Session → Session) (x : Procedure b α) : Prop :=
  ∀ s, x.run.run (f s) = Prod.map id f <$> x.run.run s

namespace Blind

variable [LawfulMonad b] {x : Procedure b α} {k : α → Procedure b β}

lemma bind (hx : Blind f x) (hk : ∀ a, Blind f (k a)) : Blind f (x >>= k) := by
  intro s
  rw [run_bind, run_bind, hx s]
  simp only [map_eq_pure_bind, bind_assoc, pure_bind]
  refine congrArg _ (funext fun (r, s') => ?_)
  cases r with
  | ok a =>
    have ha := hk a s'
    rwa [map_eq_pure_bind] at ha
  | error e =>
    simp only [pure_bind]
    rfl

lemma of_run {r : Except SessionError α} (h : ∀ s, x.run.run s = Pure.pure (r, s)) : Blind f x := by
  intro s
  rw [h, h, map_pure]
  rfl

lemma pure (a : α) : Blind f (Pure.pure a : Procedure b α) := of_run (run_pure a)

lemma throw (e : SessionError) : Blind f (throw e : Procedure b α) := of_run (run_throw e)

lemma ofExcept (r : Except SessionError α) : Blind f (Procedure.ofExcept r : Procedure b α) := of_run (run_ofExcept r)

lemma converse (t : b α) : Blind f (converse t) := by
  intro s
  rw [run_converse, run_converse, Functor.map_map]
  rfl

lemma changes (g : Session → Session) (h : ∀ s, g (f s) = f (g s)) : Blind f (modify g : Procedure b Unit) := by
  intro s
  have hrun (s : Session) : (modify g : Procedure b Unit).run.run s = Pure.pure (.ok (), g s) :=
    run_modifyGet (fun s => ((), g s)) s
  rw [hrun, hrun, map_pure, h]
  rfl

lemma get {k : Session → Procedure b β} (hf : ∀ s, k (f s) = k s) (hk : ∀ s, Blind f (k s)) : Blind f (get >>= k) := by
  intro s
  rw [run_get_bind, run_get_bind, hf]
  exact hk s s

lemma requireLink {present : Session → Bool} (h : ∀ s, present (f s) = present s) :
    Blind f (requireLink present : Procedure b Unit) := by
  intro s
  rw [run_requireLink, run_requireLink, h, map_pure]
  rfl

lemma pose [Correspondent b] {request reply : MessageType} {operation : String} {least : State}
    {content : Session → Except SessionError request.Payload} {conclude : reply.Payload → Session → α × Session}
    (hq : ∀ s, (f s).question operation least content = s.question operation least content)
    (hc : ∀ answer s, conclude answer (f s) = Prod.map id f (conclude answer s)) :
    Blind f (pose request reply operation least content conclude : Procedure b α) := by
  have hconclusion (s : Session) (answer : Except ExchangeError Message) :
      (f s).conclusion reply conclude answer = Prod.map id f (s.conclusion reply conclude answer) := by
    unfold conclusion
    cases answer with
    | error e => rfl
    | ok m =>
      simp only
      cases m.payload? reply with
      | none => rfl
      | some payload =>
        simp only [hc]
        rfl
  intro s
  rw [run_pose, run_pose, hq]
  cases s.question operation least content with
  | error e =>
    simp only [map_pure]
    rfl
  | ok payload =>
    simp only [Functor.map_map]
    exact congrArg (· <$> _) (funext fun answer => hconclusion s answer)

lemma forM (k : β → Procedure b Unit) {bs : List β} (hk : ∀ b ∈ bs, Blind f (k b)) : Blind f (bs.forM k) := by
  induction bs with
  | nil => exact pure ()
  | cons b bs ih =>
    obtain ⟨hb, hbs⟩ := List.forall_mem_cons.mp hk
    exact hb.bind fun _ => ih hbs

lemma yields {s s₂ : Session} {es : List Event} {x : Operation α} {r : Except SessionError α} (hx : Blind f x)
    (hy : x.Yields (f s) es r s₂) : ∃ s₁, x.Yields s es r s₁ ∧ s₂ = f s₁ := by
  rw [Operation.Yields, hx, Talk.yields_map] at hy
  obtain ⟨⟨r', s₁⟩, hy, he⟩ := hy
  cases he
  exact ⟨s₁, hy, rfl⟩

end Blind

end PimSync.Session
