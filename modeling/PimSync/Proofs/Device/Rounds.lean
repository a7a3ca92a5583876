import PimSync.Device.Serve
import PimSync.Proofs.Talk.Exchanges

namespace PimSync.Device

open Talk Exchange

variable {d d' : Device} {m reply : Message} {f : Wire.Frame} {es : List Event}

lemma yields_refuse {leg : Leg} : (refuse leg).run.Yields es (.ok ()) ↔
    ∃ f, Message.frame ⟨.authDenied, ()⟩ = .ok f ∧ es = [.received leg (.control .request), .sent leg (.control .abort), .sent leg (.message f),
      .received leg (.control .acknowledge)] := by
  simp only [refuse, sendControl, yields_bind_ok, yields_expectControl, yields_send, yields_sendMessage]
  constructor
  · rintro ⟨_, _, _, rfl, rfl, _, _, _, rfl, rfl, _, _, _, rfl, ⟨f, hf, rfl⟩, rfl⟩
    exact ⟨f, hf, rfl⟩
  · rintro ⟨f, hf, rfl⟩
    exact ⟨_, _, (), rfl, rfl, _, _, (), rfl, rfl, _, _, (), rfl, ⟨f, hf, rfl⟩, rfl⟩

lemma yields_expectReady (h : Message.ofFrame f = .ok ready) :
    expectReady.run.Yields (Exchange.collection .outbound f) (.ok ()) := by
  rw [expectReady, yields_bind_ok]
  exact ⟨_, [], ready, (List.append_nil _).symm, yields_collect.mpr ⟨f, h, rfl⟩, yields_pure.mpr ⟨rfl, rfl⟩⟩

lemma yields_conclude {reply : Reply} (hm : m.type ≠ .terminate) (h : (give reply).run.Yields es (.ok ())) :
    (conclude m reply).run.Yields es (.ok ()) := by
  rw [conclude, if_neg hm, yields_bind_ok]
  exact ⟨es, [], (), (List.append_nil _).symm, h, yields_pure.mpr ⟨rfl, rfl⟩⟩

lemma yields_conclude_terminate {reply : Reply} (hm : m.type = .terminate)
    (h : (give reply).run.Yields es (.ok ())) (hf : Message.ofFrame f = .ok ready) :
    (conclude m reply).run.Yields (es ++ Exchange.collection .outbound f) (.ok ()) := by
  rw [conclude, if_pos hm, yields_bind_ok]
  exact ⟨es, _, (), rfl, h, yields_expectReady hf⟩

lemma yields_round {reply : Reply} (hm : Message.ofFrame f = .ok m) (hr : d.respond m = (.ok reply, d'))
    (h : (conclude m reply).run.Yields es (.ok ())) :
    d.round.Yields (Exchange.collection .inbound f ++ es)
      (if m.type = .terminate then .finished (.ok d') else .again d') := by
  have hcollect : (collect .inbound).run.Yields (Exchange.collection .inbound f) (.ok m) :=
    yields_collect.mpr ⟨f, hm, rfl⟩
  apply hcollect.then
  simp only [hr]
  rw [← List.append_nil es]
  exact h.then (.here _)

lemma round_asks (d : Device) : ∃ next,
    d.round.After [.sent .inbound (.control .request)] (.ask (.receive .inbound) next) :=
  ⟨_, .answered _ (.here _)⟩

lemma requests_authorize (d : Device) (password : Bytes) : (d.authorize password).2.requests = d.requests := by
  unfold authorize
  split <;> rfl

lemma requests_write (d : Device) (w : ItemWrite) : (d.write w).2.requests = d.requests := by
  unfold write
  split <;> rfl

lemma requests_answer {x : Reply × Device} (h : d.answer m = .ok x) : x.2.requests = d.requests := by
  unfold answer at h
  split at h <;> cases h
  case h_2 => exact requests_authorize _ _
  case h_12 => exact requests_write _ _
  all_goals rfl

lemma requests_respond (d : Device) (m : Message) : (d.respond m).2.requests = d.requests ++ [m] := by
  simp only [respond]
  split
  · rfl
  · split
    · rename_i h
      exact requests_answer h
    · rfl

lemma respond_eq_ok (h : ∀ d : Device, ∃ x, d.answer m = .ok x) (d : Device) :
    ∃ reply, (d.respond m).1 = .ok reply := by
  obtain ⟨x, hx⟩ := h (d.record m)
  simp only [respond, hx]
  split
  · exact ⟨_, rfl⟩
  · exact ⟨_, rfl⟩

lemma respond_of_answer {reply : Reply} (hu : d.unlocked) (h : (d.record m).answer m = .ok (reply, d')) :
    d.respond m = (.ok reply, d') := by
  have hopen : ¬ (¬ (d.record m).unlocked ∧ ¬ isOpen m.type) := fun hl => hl.1 hu
  rw [respond, if_neg hopen, h]

lemma unlocked_answer {x : Reply × Device} (h : d.answer m = .ok x) (hd : d.unlocked) : x.2.unlocked := by
  unfold answer at h
  split at h <;> cases h
  case h_2 =>
    unfold authorize
    split
    · rfl
    · exact hd
  case h_12 =>
    unfold write
    split <;> exact hd
  all_goals exact hd

lemma unlocked_respond (m : Message) (hd : d.unlocked) : (d.respond m).2.unlocked := by
  simp only [respond]
  split
  · exact hd
  · split
    · rename_i h
      exact unlocked_answer h hd
    · exact hd

lemma type_of_answer_deny (h : d.answer m = .ok (.deny, d')) : m.type = .authRequest := by
  unfold answer at h
  split at h
  case h_2 => rfl
  case h_12 =>
    unfold write at h
    split at h <;> cases h
  all_goals cases h

lemma type_of_deny (hd : d.unlocked) (h : (d.respond m).1 = .ok .deny) : m.type = .authRequest := by
  simp only [respond] at h
  split at h
  · rename_i hl
    exact absurd hd hl.1
  · split at h
    · rename_i x hx
      cases h
      exact type_of_answer_deny hx
    · cases h

lemma flags_answer {x : Reply × Device} (h : d.answer m = .ok x) (hs : m.type ≠ .setState) (hd : m.type ≠ .syncDone) :
    x.2.flags = d.flags := by
  unfold answer at h
  split at h <;> cases h
  case h_2 =>
    unfold authorize
    split <;> rfl
  case h_7 => exact absurd rfl hs
  case h_12 =>
    unfold write
    split <;> rfl
  case h_13 => exact absurd rfl hd
  all_goals rfl

lemma flags_respond (hs : m.type ≠ .setState) (hd : m.type ≠ .syncDone) : (d.respond m).2.flags = d.flags := by
  simp only [respond]
  split
  · rfl
  · split
    · rename_i h
      exact flags_answer h hs hd
    · rfl

lemma flags_of_deny (h : (d.respond m).1 = .ok .deny) : (d.respond m).2.flags = d.flags := by
  by_cases hd : d.unlocked
  · have ht := type_of_deny hd h
    exact flags_respond (by rw [ht]; nofun) (by rw [ht]; nofun)
  · by_cases ho : isOpen m.type
    · exact flags_respond (fun he => by simp [he, isOpen] at ho) fun he => by simp [he, isOpen] at ho
    · simp only [respond]
      rw [if_pos ⟨hd, ho⟩]
      rfl

lemma unlocked_of_message (h : (d.respond m).1 = .ok (.message reply)) (ho : ¬ isOpen m.type) : d.unlocked := by
  by_contra hd
  simp only [respond] at h
  rw [if_pos ⟨hd, ho⟩] at h
  cases h

end PimSync.Device
