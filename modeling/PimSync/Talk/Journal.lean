import PimSync.Log

/-! Journals: where the entries of a message log go. A talk does not hear what becomes of them. -/

namespace PimSync

open Wire Log

structure Journal (τ : Type) where
  writeRaw : Direction → String → Bytes → τ → Except String Unit × τ

namespace Journal

variable {σ τ : Type}

def null : Journal Unit := ⟨fun _ _ _ _ => (.ok (), ())⟩

def failing : Journal (List Entry) :=
  ⟨fun direction label bytes t => (.error "log write refused", t ++ [⟨direction, label, bytes⟩])⟩

def file : Journal String := ⟨fun direction label bytes t => (.ok (), t ++ Entry.text ⟨direction, label, bytes⟩)⟩

def control (journal : Journal τ) (direction : Direction) (c : Control) (t : τ) : Except String Unit × τ :=
  journal.writeRaw direction c.name c.frame t

def dump (journal : Journal τ) (direction : Direction) (f : Frame) (t : τ) : Except String Unit × τ :=
  journal.writeRaw direction (frameLabel f) f.bytes t

def note (journal : Journal τ) (direction : Direction) (p : Packet) (t : τ) : τ :=
  match p with
  | .control c => (journal.control direction c t).2
  | .message f => (journal.dump direction f t).2

def record (journal : Journal τ) (entries : List Entry) (t : τ) : τ :=
  entries.foldl (fun t e => (journal.writeRaw e.direction e.label e.bytes t).2) t

end Journal

/-- A packet is noted before the network is asked to take it, and once the network has handed it over. -/
def Network.noting {σ τ : Type} (network : Network σ) (journal : Journal τ) : Network (σ × τ)
  | .send leg p, (s, t) =>
    let t := journal.note .sent p t
    (network (.send leg p) s).map fun (answer, s) => (answer, s, t)
  | .receive leg, (s, t) =>
    (network (.receive leg) s).map fun (answer, s) =>
      match answer with
      | .ok p => (.ok p, s, journal.note .received p t)
      | .error e => (.error e, s, t)
  | r, (s, t) => (network r s).map fun (answer, s) => (answer, s, t)

end PimSync
