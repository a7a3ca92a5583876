import PimSync.Proofs.Session.AtHand
import PimSync.Proofs.Session.Recovery

namespace PimSync.Session

open Schema Simulation Procedure

variable {s : Session} {x : Device.Collection} {id : UInt32} {ids : List UInt32} {items : List Item}

def stored (x : Device.Collection) (id : UInt32) : Values := (x.items.get? id).getD []

def itemTurn (c : Category) (x : Device.Collection) (id : UInt32) : Turn :=
  ⟨⟨.itemRequest, ⟨c, id⟩⟩, .ok (.message ⟨.item, stored x id⟩)⟩

def decoded (c : Category) (x : Device.Collection) (id : UInt32) : Except SchemaError Item :=
  Item.ofValues c x.format (stored x id)

structure Iterates (s : Session) (x : Device.Collection) : Prop where
  state : s.state = .iterating
  inbound : s.inbound
  cached : s.cached? = some ⟨s.category, x.format⟩

lemma runAt_fetchItem (hs : s.Iterates x) (desk : Desk) (hd : desk.device.Holds s.category x) (id : UInt32) : ∃ d,
    runAt (fetchItem id).run s desk =
      (((decoded s.category x id).mapError .schema, s), ⟨d, desk.turns ++ [itemTurn s.category x id]⟩) ∧
    d.Holds s.category x := by
  obtain ⟨d, hr, hd⟩ := hd.respond (m := ⟨.itemRequest, ⟨s.category, id⟩⟩) fun _ => rfl
  have hformat : s.formatFor? s.category = some x.format := by simp [formatFor?, hs.cached]
  have hcached : (cachedFormat (b := Direct) s.category).run.run s = pure (.ok x.format, s) := by
    rw [run_cachedFormat, hformat]
  have hadvance : s.advance .iterating = s := by
    rw [advance, hs.state]
    rfl
  have hq : s.question "fetch_param_values" .formatKnown (fun s => .ok ⟨s.category, id⟩) =
      .ok (⟨s.category, id⟩ : ItemKey) :=
    question_eq_ok.mpr ⟨hasReached_of_le hs.state (by decide), rfl, hs.inbound⟩
  have hvalues : runAt (fetchValues id).run s desk = ((.ok (stored x id), s.advance .iterating),
      ⟨d, desk.turns ++ [itemTurn s.category x id]⟩) := runAt_pose hq hr
  rw [hadvance] at hvalues
  refine ⟨d, ?_, hd⟩
  rw [fetchItem, runAt_get_bind, runAt_bind_ok (runAt_of_run hcached desk), runAt_bind_ok hvalues, runAt_get_bind,
    runAt_bind_ok (runAt_of_run hcached _)]
  exact runAt_of_run (run_ofExcept _ s) _

lemma runAt_fetchItems (hs : s.Iterates x) (desk : Desk) (hd : desk.device.Holds s.category x)
    (hi : ids.map (decoded s.category x) = items.map .ok) : ∃ d,
    runAt (ids.mapM fetchItem).run s desk =
      ((.ok items, s), ⟨d, desk.turns ++ ids.map (itemTurn s.category x)⟩) ∧ d.Holds s.category x := by
  -- the device stays as it is while its items are fetched, so each finds what the first found
  induction ids generalizing desk items with
  | nil =>
    obtain rfl := List.map_eq_nil_iff.mp hi.symm
    refine ⟨desk.device, ?_, hd⟩
    rw [List.map_nil, List.append_nil]
    exact runAt_of_run (run_pure _ s) desk
  | cons id ids ih =>
    cases items with
    | nil => cases hi
    | cons item items =>
      obtain ⟨hitem, hitems⟩ := List.cons.inj hi
      obtain ⟨d, hfirst, hd⟩ := runAt_fetchItem hs desk hd id
      obtain ⟨d', hrest, hd'⟩ := ih ⟨d, desk.turns ++ [itemTurn s.category x id]⟩ hd hitems
      rw [hitem] at hfirst
      refine ⟨d', ?_, hd'⟩
      rw [List.mapM_cons, runAt_bind_ok hfirst, runAt_bind_ok hrest]
      simp only [List.append_assoc, List.singleton_append, List.map_cons]
      exact runAt_of_run (run_pure _ s) _

lemma runAt_fetchItems_error {post : List UInt32} {e : SchemaError} (hs : s.Iterates x)
    (desk : Desk) (hd : desk.device.Holds s.category x) (hi : ids.map (decoded s.category x) = items.map .ok)
    (he : decoded s.category x id = .error e) : ∃ d,
    runAt ((ids ++ id :: post).mapM fetchItem).run s desk =
      ((.error (.schema e), s), ⟨d, desk.turns ++ (ids ++ [id]).map (itemTurn s.category x)⟩) := by
  obtain ⟨d, hbefore, hd⟩ := runAt_fetchItems hs desk hd hi
  obtain ⟨d', hlast, -⟩ := runAt_fetchItem hs ⟨d, desk.turns ++ ids.map (itemTurn s.category x)⟩ hd id
  rw [he] at hlast
  refine ⟨d', ?_⟩
  rw [List.mapM_append, runAt_bind_ok hbefore, List.mapM_cons, runAt_bind_error (runAt_bind_error hlast),
    List.map_append, ← List.append_assoc]
  rfl

def formatted (s : Session) (x : Device.Collection) : Session :=
  { s with state := .formatKnown, cached? := some ⟨s.category, x.format⟩ }

def iterating (s : Session) (x : Device.Collection) : Session := { s.formatted x with state := .iterating }

def formatTurn (c : Category) (x : Device.Collection) : Turn :=
  ⟨⟨.formatRequest, c⟩, .ok (.message ⟨.format, x.format⟩)⟩

def idsTurn (c : Category) (x : Device.Collection) : Turn := ⟨⟨.idsRequest, c⟩, .ok (.message ⟨.ids, x.ids⟩)⟩

def reported (s : Session) (x : Device.Collection) (items : List Item) : Changes :=
  ⟨s.category, s.flags?.all (·.needsSlowSync s.category), x.ids, items⟩

section Connected

variable (hs : s.state = .stateKnown) (hi : s.inbound) (hn : s.cached? = none)

include hi in
lemma iterates_iterating : (s.iterating x).Iterates x := ⟨rfl, hi, rfl⟩

include hs hi hn in
lemma runAt_obtainFormat (desk : Desk) (hd : desk.device.Holds s.category x) : ∃ d,
    runAt obtainFormat.run s desk =
      ((.ok x.format, s.formatted x), ⟨d, desk.turns ++ [formatTurn s.category x]⟩) ∧ d.Holds s.category x := by
  obtain ⟨d, hr, hd⟩ := hd.respond (m := ⟨.formatRequest, s.category⟩) fun _ => rfl
  have hadvance : s.advance .formatKnown = { s with state := .formatKnown } :=
    advance_of_lt hs (by decide)
  have hreach : s.HasReached .stateKnown := hasReached_of_le hs (by decide)
  have hpose : runAt obtainFormat.run s desk = ((.ok x.format,
      { s.advance .formatKnown with cached? := some ⟨s.category, x.format⟩ }),
      ⟨d, desk.turns ++ [formatTurn s.category x]⟩) :=
    runAt_pose (question_eq_ok.mpr ⟨hreach, by simp only [hn], hi⟩) hr
  simp only [hadvance] at hpose
  exact ⟨d, hpose, hd⟩

include hi in
lemma runAt_requestIds (desk : Desk) (hd : desk.device.Holds s.category x) : ∃ d,
    runAt requestIds.run (s.formatted x) desk =
      ((.ok x.ids, s.iterating x), ⟨d, desk.turns ++ [idsTurn s.category x]⟩) ∧ d.Holds s.category x := by
  obtain ⟨d, hr, hd⟩ := hd.respond (m := ⟨.idsRequest, s.category⟩) fun _ => rfl
  have hreach : (s.formatted x).HasReached .formatKnown := hasReached_of_le (t := .formatKnown) rfl (by decide)
  have hq : (s.formatted x).question "request_sync_ids" .formatKnown (fun s => .ok s.category) = .ok s.category :=
    question_eq_ok.mpr ⟨hreach, rfl, hi⟩
  exact ⟨d, runAt_pose hq hr, hd⟩

include hs hi hn in
lemma runAt_pullChanges {r : Except SessionError (List Item)} {turns : List Turn} {d : Device}
    (hd : d.Holds s.category x)
    (hfetch : ∀ desk, desk.device.Holds s.category x → ∃ d,
      runAt (x.ids.changed.mapM fetchItem).run (s.iterating x) desk =
        ((r, s.iterating x), ⟨d, desk.turns ++ turns⟩)) :
    ∃ d', runAt pullChanges.run s ⟨d, []⟩ =
      ((r.map (s.reported x), s.iterating x), ⟨d', formatTurn s.category x :: idsTurn s.category x :: turns⟩) := by
  obtain ⟨d₁, hformat, hd₁⟩ := runAt_obtainFormat hs hi hn ⟨d, []⟩ hd
  obtain ⟨d₂, hids, hd₂⟩ := runAt_requestIds hi ⟨d₁, [] ++ [formatTurn s.category x]⟩ hd₁
  obtain ⟨d₃, hitems⟩ := hfetch ⟨d₂, [] ++ [formatTurn s.category x] ++ [idsTurn s.category x]⟩ hd₂
  have hrequire : (require (b := Direct) "pull_changes" .stateKnown).run.run s = pure (.ok (), s) := by
    rw [run_require, if_pos (hasReached_of_le hs (by decide))]
  have hnone : s.format?.isNone := by simp [format?, formatFor?, hn]
  refine ⟨d₃, ?_⟩
  rw [pullChanges, runAt_bind_ok (runAt_of_run hrequire _), runAt_get_bind]
  simp only [hnone, if_true]
  rw [runAt_bind_ok hformat, runAt_bind_ok hids]
  cases r with
  | error e => exact runAt_bind_error hitems
  | ok items =>
    rw [runAt_bind_ok hitems, runAt_get_bind]
    exact runAt_of_run (run_pure _ _) _

lemma passes_turns (c : Category) (hformat : Message.Fits ⟨.format, x.format⟩) (hids : Message.Fits ⟨.ids, x.ids⟩)
    (hitems : ∀ id ∈ ids, Message.Fits ⟨.item, stored x id⟩) :
    ∀ t ∈ formatTurn c x :: idsTurn c x :: ids.map (itemTurn c x), t.Passes := by
  intro t ht
  rcases List.mem_cons.mp ht with rfl | ht
  · exact ⟨by cases c <;> decide, hformat⟩
  rcases List.mem_cons.mp ht with rfl | ht
  · exact ⟨by cases c <;> decide, hids⟩
  obtain ⟨id, hid, rfl⟩ := List.mem_map.mp ht
  exact ⟨Nat.le_of_ble_eq_true rfl, hitems id hid⟩

def pullRequests (c : Category) (ids : List UInt32) : List Message :=
  ⟨.formatRequest, c⟩ :: ⟨.idsRequest, c⟩ :: ids.map (⟨.itemRequest, ⟨c, ·⟩⟩)

lemma slowSync_iff {items : List Item} : (s.reported x items).slowSync = true ↔
    ∀ flags, s.flags? = some flags → flags.bits &&& Flags.bit s.category = 0 := by
  rw [reported]
  cases s.flags? with
  | none => simp
  | some flags => simp [Flags.needsSlowSync, Flags.isSynced]

include hs hn in
lemma pulls {r : Except SessionError (List Item)} {d : Device} (hj : s.Joined) (hd : d.Holds s.category x)
    (hformat : Message.Fits ⟨.format, x.format⟩) (hids : Message.Fits ⟨.ids, x.ids⟩)
    (hitems : ∀ id ∈ ids, Message.Fits ⟨.item, stored x id⟩)
    (hfetch : ∀ desk, desk.device.Holds s.category x → ∃ d,
      runAt (x.ids.changed.mapM fetchItem).run (s.iterating x) desk =
        ((r, s.iterating x), ⟨d, desk.turns ++ ids.map (itemTurn s.category x)⟩)) :
    ∃ final d', d.SeesThrough (pullChanges.run.run s) final ∧
      final.desktop.talk = .done (r.map (s.reported x), s.iterating x) ∧ final.Waiting d' ∧
      d'.requests = d.requests ++ pullRequests s.category ids := by
  obtain ⟨d', hrun⟩ := runAt_pullChanges hs hj.2.1 hn hd hfetch
  obtain ⟨final, hsees, htalk, hwait, hrequests⟩ := seesThrough_of_tracks tracks_pullChanges hj hrun
    (passes_turns s.category hformat hids hitems)
  refine ⟨final, d', hsees, htalk, hwait, ?_⟩
  rw [hrequests, pullRequests, List.map_cons, List.map_cons, List.map_map]
  rfl

end Connected

/-- A pull comes to what the device has listed, and asks for nothing behind an item that cannot be decoded. -/
theorem pulls_listed {s : Session} {d : Device} {x : Device.Collection} (hj : s.Joined) (hs : s.state = .stateKnown)
    (hn : s.cached? = none) (hd : d.Holds s.category x) (hformat : Message.Fits ⟨.format, x.format⟩)
    (hids : Message.Fits ⟨.ids, x.ids⟩) :
    (∀ items, (∀ id ∈ x.ids.new.ids ++ x.ids.modified.ids, Message.Fits ⟨.item, stored x id⟩) →
      (x.ids.new.ids ++ x.ids.modified.ids).map (decoded s.category x) = items.map .ok →
      ∃ slow final d', d.SeesThrough (pullChanges.run.run s) final ∧
        final.desktop.talk = .done (.ok ⟨s.category, slow, x.ids, items⟩, s.iterating x) ∧
        (slow = true ↔ ∀ flags, s.flags? = some flags → flags.bits &&& Flags.bit s.category = 0) ∧
        final.Waiting d' ∧
        d'.requests = d.requests ++ pullRequests s.category (x.ids.new.ids ++ x.ids.modified.ids)) ∧
    (∀ (before after : List UInt32) id (items : List Item) e,
      x.ids.new.ids ++ x.ids.modified.ids = before ++ id :: after →
      (∀ i ∈ before ++ [id], Message.Fits ⟨.item, stored x i⟩) →
      before.map (decoded s.category x) = items.map .ok → decoded s.category x id = .error e →
      ∃ final d', d.SeesThrough (pullChanges.run.run s) final ∧
        final.desktop.talk = .done (.error (.schema e), s.iterating x) ∧ final.Waiting d' ∧
        d'.requests = d.requests ++ pullRequests s.category (before ++ [id])) := by
  have hiterates : (s.iterating x).Iterates x := iterates_iterating hj.2.1
  constructor
  · intro items hfit hi
    obtain ⟨final, d', hsees, htalk, hwait, hrequests⟩ := pulls hs hn hj hd hformat hids hfit fun desk hd => by
      obtain ⟨d, hrun, -⟩ := runAt_fetchItems hiterates desk hd hi
      exact ⟨d, hrun⟩
    exact ⟨(s.reported x items).slowSync, final, d', hsees, htalk, slowSync_iff, hwait, hrequests⟩
  · intro before after id items e hsplit hfit hi he
    have hlisted : x.ids.changed = before ++ id :: after := hsplit
    exact pulls hs hn hj hd hformat hids hfit fun desk hd => by
      rw [hlisted]
      exact runAt_fetchItems_error hiterates desk hd hi he

theorem pulls_listed_tasks :
    let s := { (Session.new .standard).joined with state := .stateKnown, flags? := some ⟨0x06⟩ }
    let tag : FieldTag := .ascii 'P' 'R' 'T' 'Y'
    let task := (Item.blank .todo).set tag .byte (some 2)
    let d := Device.new ⟨[0x5a], ⟨[0x65, 0x6e], rfl⟩, 0⟩ Device.Sample.time
      |>.withFormat .todo [⟨tag, .ofField .byte, []⟩]
      |>.addModified .todo 7 [[2]]
      |>.addNew .todo 7 [[2]]
    let d₂ := d.addModified .todo 9 [[2, 0]]
    (∃ final d', d.SeesThrough (pullChanges.run.run s) final ∧
      final.desktop.talk = .done (.ok ⟨.todo, true, (d.collection .todo).ids, [task, task]⟩,
        s.iterating (d.collection .todo)) ∧ final.Waiting d' ∧
      d'.requests = [⟨.formatRequest, .todo⟩, ⟨.idsRequest, .todo⟩, ⟨.itemRequest, ⟨.todo, 7⟩⟩,
        ⟨.itemRequest, ⟨.todo, 7⟩⟩]) ∧
    ∃ final d', d₂.SeesThrough (pullChanges.run.run s) final ∧
      final.desktop.talk = .done (.error (.schema (.fieldWidth tag 1 2)), s.iterating (d₂.collection .todo)) ∧
      final.Waiting d' ∧
      d'.requests = [⟨.formatRequest, .todo⟩, ⟨.idsRequest, .todo⟩, ⟨.itemRequest, ⟨.todo, 7⟩⟩,
        ⟨.itemRequest, ⟨.todo, 7⟩⟩, ⟨.itemRequest, ⟨.todo, 9⟩⟩] := by
  intro s tag task d d₂
  have hj : s.Joined := by decide
  constructor
  · obtain ⟨hall, -⟩ := pulls_listed (d := d) hj rfl rfl ⟨rfl, rfl⟩ (by decide) (by decide)
    have hfit : Message.Fits ⟨.item, stored (d.collection .todo) 7⟩ := by decide
    obtain ⟨slow, final, d', hsees, htalk, hslow, hwait, hrequests⟩ :=
      hall [task, task] (List.forall_mem_cons.mpr ⟨hfit, List.forall_mem_singleton.mpr hfit⟩) (by decide)
    have hlacks : slow = true := hslow.mpr fun flags hflags => by
      obtain rfl := Option.some.inj hflags
      decide
    subst hlacks
    exact ⟨final, d', hsees, htalk, hwait, hrequests⟩
  · obtain ⟨-, hfails⟩ := pulls_listed (d := d₂) hj rfl rfl ⟨rfl, rfl⟩ (by decide) (by decide)
    have hfit : Message.Fits ⟨.item, stored (d₂.collection .todo) 7⟩ := by decide
    have hfit₉ : Message.Fits ⟨.item, stored (d₂.collection .todo) 9⟩ := by decide
    obtain ⟨final, d', hsees, htalk, hwait, hrequests⟩ :=
      hfails [7, 7] [] 9 [task, task] (.fieldWidth tag 1 2) (by decide)
        (List.forall_mem_cons.mpr ⟨hfit, List.forall_mem_cons.mpr ⟨hfit, List.forall_mem_singleton.mpr hfit₉⟩⟩)
        (by decide) (by decide)
    exact ⟨final, d', hsees, htalk, hwait, hrequests⟩

end PimSync.Session
