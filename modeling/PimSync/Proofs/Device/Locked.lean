import PimSync.Device.Sample
import PimSync.Proofs.Device.Rounds

namespace PimSync.Device

variable {d d₁ d₂ : Device} {p : Bytes} {m : Message} {ms : List Message}

def respondAll (d : Device) : List Message → List (Except ExchangeError Reply) × Device
  | [] => ([], d)
  | m :: ms =>
    let later := (d.respond m).2.respondAll ms
    ((d.respond m).1 :: later.1, later.2)

structure Locked (p : Bytes) (d : Device) : Prop where
  password? : d.password? = some p
  unlocked : d.unlocked = false

lemma Built.locked (h : d.Built) (hp : d.password? = some p) : d.Locked p := by
  refine ⟨hp, ?_⟩
  induction h with
  | new info time => cases hp
  | lock password _ _ => rfl
  | withFlags _ _ ih | withStoragePath _ _ ih | withFormat _ _ _ ih | addNew _ _ _ _ ih | addModified _ _ _ _ ih
  | addDeleted _ _ _ ih => exact ih hp

lemma Locked.record (h : d.Locked p) (m : Message) : (d.record m).Locked p := ⟨h.password?, h.unlocked⟩

def lockedReply (info : DeviceInfo) (m : Message) : Reply :=
  if m.type = .infoRequest then .message ⟨.info, info⟩
  else if m.type = .terminate then complete
  else .deny

lemma Locked.respond (h : d.Locked p) (hm : m ≠ ⟨.authRequest, p⟩) :
    d.respond m = (.ok (lockedReply d.info m), d.record m) := by
  have hu : (d.record m).unlocked = false := h.unlocked
  obtain ⟨t, payload⟩ := m
  by_cases hopen : isOpen t
  · cases t with
    | infoRequest => simp [Device.respond, isOpen, answer, lockedReply, Device.record]
    | terminate => simp [Device.respond, isOpen, answer, lockedReply]
    | authRequest =>
      have hne : p ≠ payload := fun heq => hm (by rw [heq])
      have hp : (d.record ⟨.authRequest, payload⟩).password? = some p := h.password?
      simp [Device.respond, isOpen, answer, authorize, hp, hne, lockedReply]
    | _ => cases hopen
  · have hreply : lockedReply d.info ⟨t, payload⟩ = .deny := by
      unfold lockedReply
      rw [if_neg fun ht => hopen (by rw [show t = .infoRequest from ht]; rfl),
        if_neg fun ht => hopen (by rw [show t = .terminate from ht]; rfl)]
    rw [hreply]
    simp only [Device.respond, hu]
    exact if_pos ⟨Bool.false_ne_true, hopen⟩

lemma Locked.unlocked_respond (h : d.Locked p) : (d.respond ⟨.authRequest, p⟩).2.unlocked := by
  have hp : (d.record ⟨.authRequest, p⟩).password? = some p := h.password?
  simp [Device.respond, isOpen, answer, authorize, hp]

lemma Locked.respondAll (h : d.Locked p) (hms : ⟨.authRequest, p⟩ ∉ ms) :
    d.respondAll ms = (ms.map fun m => .ok (lockedReply d.info m), { d with requests := d.requests ++ ms }) := by
  induction ms generalizing d with
  | nil => rw [List.append_nil]; rfl
  | cons m ms ih =>
    rw [Device.respondAll, h.respond fun hm => hms (hm ▸ List.mem_cons_self),
      ih (h.record m) fun hmem => hms (List.mem_cons_of_mem m hmem)]
    simp [Device.record]

lemma unlocked_respondAll (hd : d.unlocked) : (d.respondAll ms).2.unlocked := by
  induction ms generalizing d with
  | nil => exact hd
  | cons m ms ih => exact ih (unlocked_respond m hd)

lemma Locked.unlocked_iff (h : d.Locked p) : (d.respondAll ms).2.unlocked ↔ ⟨.authRequest, p⟩ ∈ ms := by
  induction ms generalizing d with
  | nil => simp [Device.respondAll, h.unlocked]
  | cons m ms ih =>
    by_cases hm : m = ⟨.authRequest, p⟩
    · subst hm
      rw [Device.respondAll]
      exact iff_of_true (unlocked_respondAll h.unlocked_respond) List.mem_cons_self
    · rw [Device.respondAll, h.respond hm, ih (h.record m), List.mem_cons, or_iff_right (Ne.symm hm)]

/-- A locked device reveals nothing and changes nothing until it is given its password. -/
theorem locked_reveals_nothing (h₁ : d₁.Locked p) (h₂ : d₂.Locked p) (hinfo : d₁.info = d₂.info)
    (ms : List Message) :
    (⟨.authRequest, p⟩ ∉ ms →
      (d₁.respondAll ms).1 = (d₂.respondAll ms).1 ∧
      (d₁.respondAll ms).1 = ms.map (fun m => .ok (lockedReply d₁.info m)) ∧
      (d₁.respondAll ms).2 = { d₁ with requests := d₁.requests ++ ms } ∧
      (d₂.respondAll ms).2 = { d₂ with requests := d₂.requests ++ ms }) ∧
    ((d₁.respondAll ms).2.unlocked ↔ ⟨.authRequest, p⟩ ∈ ms) ∧
    ((d₂.respondAll ms).2.unlocked ↔ ⟨.authRequest, p⟩ ∈ ms) := by
  refine ⟨fun hms => ?_, h₁.unlocked_iff, h₂.unlocked_iff⟩
  rw [h₁.respondAll hms, h₂.respondAll hms, hinfo]
  exact ⟨rfl, rfl, rfl, rfl⟩

theorem locked_reveals_nothing_sample :
    let d₁ := ((Device.new Sample.info Sample.time).lock [1]).addNew .todo 7 [[1]]
    let d₂ := (Device.new Sample.info Sample.time).lock [1]
    let ms : List Message :=
      [⟨.infoRequest, ()⟩, ⟨.authRequest, [2]⟩, ⟨.deleteItems, ⟨.todo, [7]⟩⟩, ⟨.authNotRequired, ()⟩]
    d₁.collections ≠ d₂.collections ∧ (d₁.respondAll ms).1 = (d₂.respondAll ms).1 ∧
      (d₁.respondAll ms).2.collections = d₁.collections ∧
      (d₁.respondAll (ms ++ [⟨.authRequest, [1]⟩, ⟨.stateRequest, .todo⟩])).2.unlocked := by
  intro d₁ d₂ ms
  have h₁ : d₁.Locked [1] := (((Built.new _ _).lock [1]).addNew _ _ _).locked rfl
  have h₂ : d₂.Locked [1] := ((Built.new _ _).lock [1]).locked rfl
  obtain ⟨hsame, -, hkept, -⟩ := (locked_reveals_nothing h₁ h₂ rfl ms).1 (by decide)
  have hunlocked := (locked_reveals_nothing h₁ h₂ rfl (ms ++ [⟨.authRequest, [1]⟩, ⟨.stateRequest, .todo⟩])).2.1
  exact ⟨by decide, hsame, by rw [hkept], hunlocked.mpr (by decide)⟩

end PimSync.Device
