import PimSync.Proofs.Message.RoundTrip

namespace PimSync

open Wire

namespace Wire

def Origin.headerFor : Origin → Nat → Header
  | .device, _ => Origin.device.header
  | .desktop, n =>
    ⟨Origin.desktop.header.val.take 9 ++ (Bytes.ofNat 2 n ++ Origin.desktop.header.val.drop 11), rfl⟩

lemma Origin.setLength_header {n : Nat} (h : n ≤ Frame.contentLimit) :
    desktop.header.setLength (UInt16.ofNat n) = desktop.headerFor n := by
  have hn : n < 65536 := Nat.lt_of_le_of_lt h (by decide)
  have hlow : (UInt16.ofNat n).toUInt8 = UInt8.ofNat n := UInt8.toNat_inj.mp (by simp)
  have hhigh : (UInt16.ofNat n >>> 8).toUInt8 = UInt8.ofNat (n / 256) :=
    UInt8.toNat_inj.mp (by simp [Nat.mod_eq_of_lt hn, Nat.shiftRight_eq_div_pow])
  apply Subtype.ext
  change [0, 0, 0, 0, 0, 0x96, 1, 1, 0x0b, (UInt16.ofNat n).toUInt8, (UInt16.ofNat n >>> 8).toUInt8, 0xff, 0xff] = _
  rw [hlow, hhigh]
  rfl

namespace Frame

def filled (tag : MessageTag) (o : Origin) (content : Bytes) : Frame :=
  ⟨o.headerFor content.length, tag, some content, Wire.checksum tag content⟩

lemma checksumMatches_filled (tag : MessageTag) (o : Origin) (content : Bytes) :
    (filled tag o content).checksumMatches := by
  simp [checksumMatches, computedChecksum, filled, Frame.content]

lemma fill_of_isFilled {f : Frame} (h : f.isFilled) (content : Bytes) : f.fill content = .error .alreadyFilled :=
  if_pos h

lemma fill_new_eq (tag : MessageTag) (o : Origin) {content : Bytes} (h : content.length ≤ contentLimit) :
    (new tag o).fill content = .ok (filled tag o content) := by
  have hl : ¬ content.length > contentLimit := Nat.not_lt.mpr h
  cases o with
  | device => simp [fill, new, isFilled, hl, origin, filled, Origin.headerFor]
  | desktop => simp [fill, new, isFilled, hl, origin, filled, Origin.setLength_header h]

/-- An attempt works on the frame itself, so that whatever it had changed before it failed would stay. -/
abbrev Attempt := ExceptT CodingError (StateM Frame) Unit

def fillInPlace (content : Bytes) : Attempt := do
  let f ← get
  if f.isFilled then throw .alreadyFilled
  if content.length > contentLimit then throw (.tooLong "message content" content.length contentLimit)
  if f.origin = .desktop then
    modify fun f => { f with header := f.header.setLength (UInt16.ofNat content.length) }
  modify fun f => { f with checksum := Wire.checksum f.tag content }
  modify fun f => { f with content? := some content }

lemma run_get_bind (act : Frame → Attempt) (f : Frame) :
    ((get >>= act : Attempt).run).run f = (act f).run.run f := rfl

def settle (f : Frame) : Except CodingError Frame → Except CodingError Unit × Frame
  | .ok g => (.ok (), g)
  | .error e => (.error e, f)

lemma run_fillInPlace (content : Bytes) (f : Frame) :
    (fillInPlace content).run.run f = f.settle (f.fill content) := by
  rw [fillInPlace, fill, run_get_bind]
  by_cases hf : f.isFilled
  · simp only [hf, if_true]
    rfl
  by_cases hl : content.length > contentLimit
  · simp only [hf, hl, if_true, if_false, Bool.false_eq_true]
    rfl
  by_cases ho : f.origin = .desktop
  · simp only [hf, hl, ho, if_true, if_false, Bool.false_eq_true]
    rfl
  · simp only [hf, hl, ho, if_false, Bool.false_eq_true]
    rfl

end Frame

end Wire

def Message.fillInPlace (m : Message) : Frame.Attempt := do
  let f ← get
  if f.isFilled then throw .alreadyFilled
  MonadExcept.ofExcept (reserve "message content" m.encodedLength)
  Frame.fillInPlace (← MonadExcept.ofExcept m.encode)

lemma Message.run_fillInPlace (m : Message) (f : Frame) : m.fillInPlace.run.run f = f.settle (m.fillFrame f) := by
  rw [fillInPlace, fillFrame, Frame.run_get_bind]
  by_cases hf : f.isFilled
  · simp only [hf, if_true]
    rfl
  simp only [hf, if_false, Bool.false_eq_true]
  cases reserve "message content" m.encodedLength with
  | error e => rfl
  | ok =>
    cases m.encode with
    | error e => rfl
    | ok content => exact Frame.run_fillInPlace content f

lemma Message.fillFrame_of_isFilled {f : Frame} (h : f.isFilled) (m : Message) :
    m.fillFrame f = .error .alreadyFilled :=
  if_pos h

lemma Message.fillFrame_new_eq {m : Message} (tag : MessageTag) (o : Origin) {content : Bytes}
    (h : m.encode = .ok content) (hl : content.length ≤ Frame.contentLimit) :
    m.fillFrame (.new tag o) = .ok (.filled tag o content) := by
  have hm : m.encodedLength < memoryLimit := by
    rw [← length_of_encode h]
    exact Nat.lt_of_le_of_lt hl (by decide)
  rw [fillFrame_new tag o hm, h]
  exact Frame.fill_new_eq tag o hl

lemma Message.fillFrame_new_fails {m : Message} (tag : MessageTag) (o : Origin)
    (h : ∀ content, m.encode = .ok content → Frame.contentLimit < content.length) :
    ∃ e, e ≠ .alreadyFilled ∧ m.fillFrame (.new tag o) = .error e := by
  by_cases hm : m.encodedLength < memoryLimit
  · rw [fillFrame_new tag o hm]
    cases he : m.encode with
    | ok content => exact ⟨_, by simp, Frame.fill_new_long tag o (h content he)⟩
    | error e =>
      obtain ⟨what, n, rfl⟩ := tooLong_of_encode he
      exact ⟨_, by simp, rfl⟩
  · have hr : reserve "message content" m.encodedLength = .error (.noMemory "message content" m.encodedLength) :=
      if_neg hm
    refine ⟨.noMemory "message content" m.encodedLength, by simp, ?_⟩
    simp [fillFrame, Frame.new, Frame.isFilled, hr, bind, Except.bind]

inductive Filling where
  | fill (content : Bytes)
  | encode (m : Message)

namespace Filling

def inPlace : Filling → Frame.Attempt
  | fill content => Frame.fillInPlace content
  | encode m => m.fillInPlace

def apply : Filling → Frame → Except CodingError Frame
  | fill content, f => f.fill content
  | encode m, f => m.fillFrame f

lemma run_inPlace (x : Filling) (f : Frame) : x.inPlace.run.run f = f.settle (x.apply f) := by
  cases x with
  | fill content => exact Frame.run_fillInPlace content f
  | encode m => exact m.run_fillInPlace f

def Brings : Filling → Bytes → Prop
  | fill content, c => c = content
  | encode m, c => m.encode = .ok c

def Fits (x : Filling) : Prop := ∃ content, x.Brings content ∧ content.length ≤ Frame.contentLimit

variable {x : Filling}

lemma run_of_isFilled {f : Frame} (h : f.isFilled) (x : Filling) :
    x.inPlace.run.run f = (.error .alreadyFilled, f) := by
  have hx : x.apply f = .error .alreadyFilled := by
    cases x with
    | fill content => exact Frame.fill_of_isFilled h content
    | encode m => exact Message.fillFrame_of_isFilled h m
  rw [run_inPlace, hx, Frame.settle]

lemma run_new (tag : MessageTag) (o : Origin) {content : Bytes} (h : x.Brings content)
    (hl : content.length ≤ Frame.contentLimit) :
    x.inPlace.run.run (.new tag o) = (.ok (), .filled tag o content) := by
  have hx : x.apply (.new tag o) = .ok (.filled tag o content) := by
    cases x with
    | fill c =>
      obtain rfl : content = c := h
      exact Frame.fill_new_eq tag o hl
    | encode m => exact Message.fillFrame_new_eq tag o h hl
  rw [run_inPlace, hx, Frame.settle]

lemma run_new_unfit (tag : MessageTag) (o : Origin) (h : ¬ x.Fits) :
    ∃ e, e ≠ .alreadyFilled ∧ x.inPlace.run.run (.new tag o) = (.error e, .new tag o) := by
  have hx : ∃ e, e ≠ .alreadyFilled ∧ x.apply (.new tag o) = .error e := by
    cases x with
    | fill content =>
      have hl : Frame.contentLimit < content.length := Nat.not_le.mp fun hl => h ⟨content, rfl, hl⟩
      exact ⟨_, by simp, Frame.fill_new_long tag o hl⟩
    | encode m =>
      exact Message.fillFrame_new_fails tag o fun content he => Nat.not_le.mp fun hl => h ⟨content, he, hl⟩
  obtain ⟨e, hne, he⟩ := hx
  exact ⟨e, hne, by rw [run_inPlace, he, Frame.settle]⟩

def outcomes : List Filling → Frame → List (Except CodingError Unit × Frame)
  | [], _ => []
  | x :: xs, f =>
    let outcome := x.inPlace.run.run f
    outcome :: outcomes xs outcome.2

lemma outcomes_of_isFilled {f : Frame} (h : f.isFilled) (xs : List Filling) :
    outcomes xs f = List.replicate xs.length (.error .alreadyFilled, f) := by
  induction xs with
  | nil => rfl
  | cons x xs ih =>
    rw [outcomes, run_of_isFilled h]
    exact congrArg _ ih

def Declined (f : Frame) (n : Nat) (out : List (Except CodingError Unit × Frame)) : Prop :=
  ∃ es : List CodingError, es.length = n ∧ .alreadyFilled ∉ es ∧ out = es.map (.error ·, f)

lemma Declined.cons {f : Frame} {n : Nat} {out : List (Except CodingError Unit × Frame)} {e : CodingError}
    (he : e ≠ .alreadyFilled) (h : Declined f n out) : Declined f (n + 1) ((.error e, f) :: out) := by
  obtain ⟨es, rfl, hes, rfl⟩ := h
  exact ⟨e :: es, rfl, by simp [he.symm, hes], rfl⟩

/-- Of the attempts on a new frame the first with a content of allowed length fills it, and no other changes
anything. -/
theorem filled_once (tag : MessageTag) (o : Origin) (xs : List Filling) :
    (∀ (x : Filling) (f : Frame), x.inPlace.run.run f = f.settle (x.apply f)) ∧
    (((∀ x ∈ xs, ¬ x.Fits) ∧ Declined (.new tag o) xs.length (outcomes xs (.new tag o))) ∨
      ∃ before x after content, xs = before ++ x :: after ∧
        (∀ y ∈ before, ¬ y.Fits) ∧ x.Brings content ∧ content.length ≤ Frame.contentLimit ∧
        let f : Frame := ⟨o.headerFor content.length, tag, some content, Wire.checksum tag content⟩
        f.bodySize.toNat = 3 + content.length ∧ f.checksumMatches ∧
        f.checksum.toNat = ((tag.bytes.val ++ content).map UInt8.toNat).sum % 65536 ∧
        ∃ declined, Declined (.new tag o) before.length declined ∧
          outcomes xs (.new tag o) =
            declined ++ (.ok (), f) :: List.replicate after.length (.error .alreadyFilled, f)) := by
  refine ⟨run_inPlace, ?_⟩
  induction xs with
  | nil => exact .inl ⟨by simp, [], rfl, by simp, rfl⟩
  | cons x xs ih =>
    by_cases hx : x.Fits
    · obtain ⟨content, hb, hl⟩ := hx
      have hout : outcomes (x :: xs) (.new tag o) = (.ok (), .filled tag o content) ::
          List.replicate xs.length (.error .alreadyFilled, .filled tag o content) := by
        rw [outcomes, run_new tag o hb hl]
        exact congrArg _ (outcomes_of_isFilled rfl xs)
      exact .inr ⟨[], x, xs, content, rfl, by simp, hb, hl, Frame.toNat_bodySize hl,
        Frame.checksumMatches_filled tag o content, toNat_checksum tag content, [], ⟨[], rfl, by simp, rfl⟩, hout⟩
    · obtain ⟨e, hne, he⟩ := run_new_unfit tag o hx
      have hout : outcomes (x :: xs) (.new tag o) = (.error e, .new tag o) :: outcomes xs (.new tag o) := by
        rw [outcomes, he]
      rw [hout]
      rcases ih with ⟨hxs, hd⟩ | ⟨before, y, after, content, rfl, hbs, hb, hl, hs, hc, hsum, declined, hd, hys⟩
      · exact .inl ⟨List.forall_mem_cons.mpr ⟨hx, hxs⟩, hd.cons hne⟩
      · exact .inr ⟨x :: before, y, after, content, rfl, List.forall_mem_cons.mpr ⟨hx, hbs⟩, hb, hl, hs, hc,
          hsum, _, hd.cons hne, congrArg _ hys⟩

end Filling

end PimSync
