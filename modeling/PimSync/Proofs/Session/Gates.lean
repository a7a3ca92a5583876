import PimSync.Proofs.Session.Posing
import PimSync.Session.Action

/-! What an errand wants of the session's state before it asks for anything. -/

namespace PimSync.Session

open Procedure

structure Gate where
  operation : String
  least : State

def Errand.gate? : Errand → Option Gate
  | requestInfo => some ⟨"request_device_info", .connected⟩
  | authenticate _ => some ⟨"authenticate", .infoKnown⟩
  | requestState => some ⟨"request_sync_state", .infoKnown⟩
  | resetState _ => some ⟨"reset_sync_state", .stateKnown⟩
  | obtainFormat => some ⟨"obtain_param_format", .stateKnown⟩
  | requestIds => some ⟨"request_sync_ids", .formatKnown⟩
  | fetchValues _ => some ⟨"fetch_param_values", .formatKnown⟩
  | writeItem _ => some ⟨"write_item", .formatKnown⟩
  | insertItem _ => some ⟨"insert_item", .formatKnown⟩
  | updateItem .. => some ⟨"update_item", .formatKnown⟩
  | deleteItems _ => some ⟨"delete_items", .formatKnown⟩
  | markDone => some ⟨"mark_done", .formatKnown⟩
  | requestTime => some ⟨"request_time", .connected⟩
  | setTime _ => some ⟨"set_time", .connected⟩
  | requestPath => some ⟨"request_storage_path", .connected⟩
  | terminate => some ⟨"terminate", .connected⟩
  | pullChanges => some ⟨"pull_changes", .stateKnown⟩
  | fetchItem _ | selectCategory _ | resetFormat => none

variable {b : Type → Type} [Monad b] [LawfulMonad b] {α : Type} {s : Session} {operation : String} {least : State}

lemma run_require_closed {f : Unit → Procedure b α} (hr : ¬ s.HasReached least) :
    (require operation least >>= f).run.run s = pure (.error (.invalidState operation s.state), s) := by
  rw [run_bind, run_require, if_neg hr, pure_bind]

variable [Correspondent b]

lemma run_pose_closed {request reply : MessageType} {content : Session → Except SessionError request.Payload}
    {conclude : reply.Payload → Session → α × Session} (hr : ¬ s.HasReached least) :
    (pose request reply operation least content conclude : Procedure b α).run.run s =
      pure (.error (.invalidState operation s.state), s) := by
  rw [run_pose, question, if_neg hr]

lemma run_closed {e : Errand} {g : Gate} (hg : e.gate? = some g) (hr : ¬ s.HasReached g.least) :
    (e.perform (b := b)).run.run s = pure (.error (.invalidState g.operation s.state), s) := by
  cases e with
  | authenticate _ | insertItem _ | updateItem _ _ | terminate | pullChanges =>
    obtain rfl := Option.some.inj hg
    exact run_require_closed hr
  | fetchItem _ | selectCategory _ | resetFormat =>
    cases hg
  | _ =>
    obtain rfl := Option.some.inj hg
    exact run_pose_closed hr

end PimSync.Session
