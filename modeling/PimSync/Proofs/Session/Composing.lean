import PimSync.Proofs.Session.Posing
import PimSync.Proofs.Talk.Runs
import PimSync.Session.Action

/-! What holds of the operations that are made of others, once it holds of these. -/

namespace PimSync.Session

open Procedure

section Parts

variable {b : Type → Type} [Monad b] [Correspondent b]

def proceed (access : Access) : Procedure b Access := do
  if access = .denied then return access
  let _ ← requestState
  return access

def introduce : Procedure b Access := do
  let info ← requestInfo
  match (← get).config.password? with
  | some password => authenticate password >>= proceed
  | none => if info.requiresAuth then authenticate [] >>= proceed else pure .granted >>= proceed

def collectChanges : Operation Changes := do
  let ids ← requestIds
  let items ← ids.changed.mapM fetchItem
  let s ← get
  return ⟨s.category, s.flags?.all (·.needsSlowSync s.category), ids, items⟩

end Parts

structure Composes (R : {α : Type} → Operation α → Prop) : Prop where
  bind {α β : Type} {x : Operation α} {f : α → Operation β} : R x → (∀ a, R (f a)) → R (x >>= f)
  looks {α : Type} {x : Operation α} {r : Session → Except SessionError α} (hx : ∀ s, x.run.run s = pure (r s, s))
    (hr : ∀ s, r s ≠ .error .notConnected) : R x

def Errand.IsCompound : Errand → Prop
  | fetchItem _ | insertItem _ | updateItem .. | pullChanges => True
  | _ => False

namespace Composes

variable {R : {α : Type} → Operation α → Prop} {α β : Type}

lemma pure (h : Composes R) (a : α) : R (Pure.pure a) := h.looks (run_pure a) fun _ => nofun

lemma get (h : Composes R) : R MonadState.get := h.looks run_get fun _ => nofun

lemma require (h : Composes R) (operation : String) (least : State) : R (require operation least) := by
  refine h.looks (run_require operation least) fun s => ?_
  split <;> nofun

lemma cachedFormat (h : Composes R) (c : Category) : R (cachedFormat c) := by
  refine h.looks (run_cachedFormat c) fun s => ?_
  cases s.formatFor? c <;> nofun

lemma schematic (h : Composes R) (r : Except Schema.SchemaError α) : R (schematic r) := by
  refine h.looks (run_ofExcept _) fun s => ?_
  cases r <;> nofun

lemma when (h : Composes R) {c : Prop} [Decidable c] {x : Operation Unit} {f : Unit → Operation β} (hx : R x)
    (hf : ∀ u, R (f u)) : R (if c then x >>= f else f ()) := by
  split
  · exact h.bind hx hf
  · exact hf ()

lemma mapM (h : Composes R) {f : α → Operation β} (hf : ∀ a, R (f a)) (as : List α) : R (as.mapM f) := by
  induction as with
  | nil => exact h.pure []
  | cons a as ih =>
    rw [List.mapM_cons]
    exact h.bind (hf a) fun _ => h.bind ih fun _ => h.pure _

lemma fetchItem (h : Composes R) (hv : ∀ id, R (fetchValues id)) (id : UInt32) : R (fetchItem id) :=
  h.bind h.get fun _ => h.bind (h.cachedFormat _) fun _ => h.bind (hv id) fun _ => h.bind h.get fun _ =>
    h.bind (h.cachedFormat _) fun _ => h.schematic _

lemma insertItem (h : Composes R) (hw : ∀ w, R (writeItem w)) (item : Item) : R (insertItem item) :=
  h.bind (h.require _ _) fun _ => h.bind (h.cachedFormat _) fun _ => hw _

lemma updateItem (h : Composes R) (hw : ∀ w, R (writeItem w)) (id : UInt32) (item : Item) : R (updateItem id item) :=
  h.bind (h.require _ _) fun _ => h.bind (h.cachedFormat _) fun _ => hw _

lemma collectChanges (h : Composes R) (hi : R requestIds) (hv : ∀ id, R (fetchValues id)) : R collectChanges :=
  h.bind hi fun _ => h.bind (h.mapM (h.fetchItem hv) _) fun _ => h.bind h.get fun _ => h.pure _

lemma pullChanges (h : Composes R) (hf : R obtainFormat) (hi : R requestIds) (hv : ∀ id, R (fetchValues id)) :
    R pullChanges := by
  refine h.bind (h.require _ _) fun _ => h.bind h.get fun _ => ?_
  split
  · exact h.bind hf fun _ => h.collectChanges hi hv
  · exact h.collectChanges hi hv

lemma errand (h : Composes R) (hs : ∀ e : Errand, ¬ e.IsCompound → R e.perform) (e : Errand) : R e.perform := by
  have hv (id : UInt32) : R (fetchValues id) := hs (.fetchValues id) not_false
  have hw (w : ItemWrite) : R (writeItem w) := hs (.writeItem w) not_false
  cases e with
  | fetchItem id => exact h.fetchItem hv id
  | insertItem item => exact h.insertItem hw item
  | updateItem id item => exact h.updateItem hw id item
  | pullChanges => exact h.pullChanges (hs .obtainFormat not_false) (hs .requestIds not_false) hv
  | _ => exact hs _ not_false

lemma introduce (h : Composes R) (hi : R requestInfo) (ha : ∀ password, R (authenticate password))
    (hs : R requestState) : R introduce := by
  have hproceed (access : Access) : R (proceed access) := by
    unfold proceed
    split
    · exact h.pure _
    · exact h.bind hs fun _ => h.pure _
  refine h.bind hi fun info => h.bind h.get fun s => ?_
  cases s.config.password? with
  | some password => exact h.bind (ha password) hproceed
  | none =>
    dsimp only
    split
    · exact h.bind (ha []) hproceed
    · exact h.bind (h.pure _) hproceed

lemma initiate (h : Composes R) (hl : R listen) (hc : R connect) (hi : R requestInfo)
    (ha : ∀ password, R (authenticate password)) (hs : R requestState) : R initiate :=
  h.bind h.get fun _ => h.when hl fun _ => h.bind hc fun _ => h.introduce hi ha hs

end Composes

end PimSync.Session
