import PimSync.Proofs.Device.Rounds
import PimSync.Session.Direct

/-! The turns that a device takes at hand, and which of them can pass over links. -/

namespace PimSync

namespace Turn

/-- What links can carry: messages that fit a frame, and no refusal but that of a password. -/
def Passes : Turn → Prop
  | ⟨m, .ok (.message reply)⟩ => m.Fits ∧ reply.Fits
  | ⟨m, .ok .deny⟩ => m.Fits ∧ m.type = .authRequest
  | ⟨m, .error _⟩ => m.Fits

instance : (t : Turn) → Decidable t.Passes
  | ⟨_, .ok (.message _)⟩ | ⟨_, .ok .deny⟩ => inferInstanceAs (Decidable (_ ∧ _))
  | ⟨m, .error _⟩ => inferInstanceAs (Decidable m.Fits)

def Fits : Turn → Prop
  | ⟨m, .ok (.message reply)⟩ => m.Fits ∧ reply.Fits
  | ⟨m, .ok .deny⟩ | ⟨m, .error _⟩ => m.Fits

instance : (t : Turn) → Decidable t.Fits
  | ⟨_, .ok (.message _)⟩ => inferInstanceAs (Decidable (_ ∧ _))
  | ⟨m, .ok .deny⟩ | ⟨m, .error _⟩ => inferInstanceAs (Decidable m.Fits)

def Refused (t : Turn) : Prop := t.reply = .ok .deny ∧ t.request.type ≠ .authRequest

instance (t : Turn) : Decidable t.Refused := inferInstanceAs (Decidable (_ ∧ _))

lemma passes_iff {t : Turn} : t.Passes ↔ t.Fits ∧ ¬ t.Refused := by
  obtain ⟨m, e | reply | _⟩ := t <;> simp [Passes, Fits, Refused]

end Turn

namespace Desk

def after (desk : Desk) (turns : List Turn) : Desk :=
  ⟨turns.foldl (fun d t => (d.respond t.request).2) desk.device, desk.turns ++ turns⟩

lemma after_nil (desk : Desk) : desk.after [] = desk := by simp [after]

lemma after_append (desk : Desk) (ts us : List Turn) : desk.after (ts ++ us) = (desk.after ts).after us := by
  simp [after]

end Desk

inductive Device.Takes : Device → List Turn → Prop
  | nil (d : Device) : Takes d []
  | cons {d : Device} {m : Message} {ts : List Turn} :
      Takes (d.respond m).2 ts → Takes d (⟨m, (d.respond m).1⟩ :: ts)

namespace Device.Takes

lemma append {desk : Desk} {ts us : List Turn} (h : desk.device.Takes ts) (k : (desk.after ts).device.Takes us) :
    desk.device.Takes (ts ++ us) := by
  induction ts generalizing desk with
  | nil => exact k
  | cons t ts ih =>
    cases h with
    | @cons _ m _ h =>
      have hrest := @ih ⟨(desk.device.respond m).2, []⟩ h k
      exact .cons hrest

lemma locked {d : Device} {ts : List Turn} {t : Turn} (h : d.Takes ts) (ht : t ∈ ts) (hr : t.Refused) :
    ¬ d.unlocked := by
  induction h with
  | nil => cases ht
  | @cons d m ts _ ih =>
    intro hd
    rcases List.mem_cons.mp ht with rfl | ht
    · exact hr.2 (type_of_deny hd hr.1)
    · exact ih ht (unlocked_respond m hd)

end Device.Takes

lemma Desk.unlocked_after {desk : Desk} (turns : List Turn) (h : desk.device.unlocked) :
    (desk.after turns).device.unlocked := by
  induction turns generalizing desk with
  | nil => exact h
  | cons t ts ih => exact @ih ⟨(desk.device.respond t.request).2, []⟩ (Device.unlocked_respond _ h)

end PimSync
