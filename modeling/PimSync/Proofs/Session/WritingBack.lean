import PimSync.Proofs.Device.Stores
import PimSync.Proofs.Item.Values
import PimSync.Proofs.Session.Failures
import PimSync.Proofs.Session.Pulling

namespace PimSync

open Schema Simulation

namespace Device

variable {d : Device}

lemma respond_item (hu : d.unlocked) (c : Category) (id : UInt32) : ∃ d', d.respond ⟨.itemRequest, ⟨c, id⟩⟩ =
    (.ok (.message ⟨.item, Session.stored (d.collection c) id⟩), d') ∧ d'.unlocked ∧
      ∀ c', d'.collection c' = d.collection c' :=
  ⟨(d.record ⟨.itemRequest, ⟨c, id⟩⟩).setCollection c (d.collection c), respond_of_answer hu rfl, hu,
    collection_setCollection_self (d.record ⟨.itemRequest, ⟨c, id⟩⟩) c⟩

end Device

namespace Session

open Procedure

variable {s : Session} {d : Device} {id : UInt32} {format : Format} {values : Values} {item : Item}

def writeBack {b : Type → Type} [Monad b] [Correspondent b] (id : UInt32) : Procedure b Item := do
  let item ← fetchItem id
  let _ ← updateItem id item
  return item

lemma tracks_writeBack : Tracks (writeBack id) (writeBack id) s :=
  tracks_fetchItem.bind fun item _ => tracks_updateItem.bind fun _ _ => .pure item

def backWrite (c : Category) (id : UInt32) (values : Values) : Message := ⟨.itemWrite, ⟨c, .update id, values⟩⟩

def backTurn (c : Category) (id : UInt32) (values : Values) : Turn :=
  ⟨backWrite c id values, .ok (.message ⟨.itemWritten, id⟩)⟩

section AtHand

variable (hr : s.HasReached .formatKnown) (hi : s.inbound) (hc : s.cached? = some ⟨s.category, format⟩)

include hc in
lemma formatFor?_advance (t : State) : (s.advance t).formatFor? s.category = some format := by
  rw [advance_eq]
  simp [formatFor?, hc]

include hr hi hc in
lemma runAt_fetchItem_known (id : UInt32) (desk : Desk) (hu : desk.device.unlocked) : ∃ d,
    runAt (fetchItem id).run s desk =
      (((Item.ofValues s.category format (stored (desk.device.collection s.category) id)).mapError .schema,
        s.advance .iterating), ⟨d, desk.turns ++ [itemTurn s.category (desk.device.collection s.category) id]⟩) ∧
    d.unlocked ∧ ∀ c, d.collection c = desk.device.collection c := by
  obtain ⟨d, hrespond, hd⟩ := Device.respond_item hu s.category id
  have hcategory : (s.advance .iterating).category = s.category := by rw [advance_eq]
  have hcached : (cachedFormat (b := Direct) s.category).run.run s = pure (.ok format, s) := by
    rw [run_cachedFormat, show s.formatFor? s.category = some format by simp [formatFor?, hc]]
  have hcached' : (cachedFormat (b := Direct) (s.advance .iterating).category).run.run (s.advance .iterating) =
      pure (.ok format, s.advance .iterating) := by
    rw [run_cachedFormat, hcategory, formatFor?_advance hc]
  have hq : s.question "fetch_param_values" .formatKnown (fun s => .ok ⟨s.category, id⟩) =
      .ok (⟨s.category, id⟩ : ItemKey) := question_eq_ok.mpr ⟨hr, rfl, hi⟩
  have hvalues : runAt (fetchValues id).run s desk = ((.ok (stored (desk.device.collection s.category) id),
      s.advance .iterating), ⟨d, desk.turns ++ [itemTurn s.category (desk.device.collection s.category) id]⟩) :=
    runAt_pose hq hrespond
  refine ⟨d, ?_, hd⟩
  rw [fetchItem, runAt_get_bind, runAt_bind_ok (runAt_of_run hcached desk), runAt_bind_ok hvalues, runAt_get_bind,
    runAt_bind_ok (runAt_of_run hcached' _), hcategory]
  exact runAt_of_run (run_ofExcept _ _) _

lemma runAt_updateItem (hr : s.HasReached .formatKnown) (hi : s.inbound)
    (hf : s.formatFor? item.category = some format) (id : UInt32) (desk : Desk) (hu : desk.device.unlocked) :
    runAt (updateItem id item).run s desk = ((.ok id, s),
      ⟨(desk.device.record (backWrite item.category id (item.values format))).store item.category id
        (item.values format), desk.turns ++ [backTurn item.category id (item.values format)]⟩) := by
  have hrequire : (require (b := Direct) "update_item" .formatKnown).run.run s = pure (.ok (), s) := by
    rw [run_require, if_pos hr]
  have hcached : (cachedFormat (b := Direct) item.category).run.run s = pure (.ok format, s) := by
    rw [run_cachedFormat, hf]
  rw [updateItem, runAt_bind_ok (runAt_of_run hrequire desk), runAt_bind_ok (runAt_of_run hcached desk)]
  exact runAt_pose (question_eq_ok.mpr ⟨hr, rfl, hi⟩) (Device.respond_update hu item.category id (item.values format))

include hr hi hc in
lemma runAt_writeBack (hu : d.unlocked) (hget : (d.collection s.category).items.get? id = some values)
    (hitem : Item.ofValues s.category format values = .ok item) : ∃ d',
    runAt (writeBack id).run s ⟨d, []⟩ = ((.ok item, s.advance .iterating),
      ⟨d', [itemTurn s.category (d.collection s.category) id, backTurn s.category id (item.values format)]⟩) ∧
    d'.collection s.category = { d.collection s.category with
      items := (d.collection s.category).items.insert id (item.values format) } ∧
    ∀ c ≠ s.category, d'.collection c = d.collection c := by
  obtain ⟨d₁, hfetch, hu₁, hkept⟩ := runAt_fetchItem_known hr hi hc id ⟨d, []⟩ hu
  have hstored : stored (d.collection s.category) id = values := by rw [stored, hget]; rfl
  have hcategory : item.category = s.category := Item.category_of_ofValues hitem
  have hr₁ : (s.advance .iterating).HasReached .formatKnown := by
    obtain ⟨hjoined, hle⟩ := hasReached_advance hr (t := .iterating) rfl
    exact ⟨hjoined, State.le_trans (show State.formatKnown ≤ State.iterating by decide) hle⟩
  have hi₁ : (s.advance .iterating).inbound := by rwa [advance_eq]
  have hf₁ : (s.advance .iterating).formatFor? item.category = some format := by
    rw [hcategory]
    exact formatFor?_advance hc _
  have hupdate := runAt_updateItem hr₁ hi₁ hf₁ id ⟨d₁, [] ++ [itemTurn s.category (d.collection s.category) id]⟩ hu₁
  rw [hstored, hitem] at hfetch
  rw [hcategory] at hupdate
  refine ⟨(d₁.record (backWrite s.category id (item.values format))).store s.category id (item.values format),
    ?_, ?_, fun c hne => ?_⟩
  · rw [writeBack, runAt_bind_ok hfetch, runAt_bind_ok hupdate]
    exact runAt_of_run (run_pure _ _) _
  · rw [Device.collection_store]
    exact congrArg (fun x : Device.Collection => { x with items := x.items.insert id (item.values format) })
      (hkept s.category)
  · rw [Device.collection_store_of_ne hne]
    exact hkept c

end AtHand

lemma fits_of_updated {es : List Event} {written : UInt32} {s' : Session}
    (hf : s.formatFor? item.category = some format) (hy : Operation.Yields (updateItem id item) s es (.ok written) s') :
    (backWrite item.category id (item.values format)).Fits := by
  have hwrite : Operation.Yields (writeItem ⟨item.category, .update id, item.values format⟩) s es (.ok written) s' := by
    rw [Operation.Yields, updateItem, run_bind, run_require, pure_bind] at hy
    by_cases hr : s.HasReached .formatKnown
    · rw [if_pos hr] at hy
      simp only [run_bind, run_cachedFormat, hf, pure_bind] at hy
      exact hy
    · rw [if_neg hr] at hy
      obtain ⟨-, he⟩ := Talk.yields_pure.mp hy
      cases he
  rw [Operation.Yields, writeItem, run_pose] at hwrite
  split at hwrite
  · obtain ⟨-, he⟩ := Talk.yields_pure.mp hwrite
    cases he
  · rename_i hq
    obtain ⟨answer, hanswer, he⟩ := Talk.yields_map.mp hwrite
    obtain ⟨reply, rfl, -⟩ := conclusion_ok he.symm
    obtain ⟨f, _, hframe, -⟩ := Exchange.yields_answer.mp hanswer
    obtain ⟨-, hpayload, -⟩ := question_eq_ok.mp hq
    obtain rfl := Except.ok.inj hpayload
    exact Message.fits_of_frame hframe

/-- An item that is fetched and written back loses only what has no field. -/
theorem write_back_keeps {s : Session} {d : Device} {id : UInt32} {format : Format} {values : Values} {item : Item}
    (hr : s.HasReached .formatKnown) (hi : s.inbound) (hc : s.cached? = some ⟨s.category, format⟩) (hu : d.unlocked)
    (hget : (d.collection s.category).items.get? id = some values)
    (hitem : Item.ofValues s.category format values = .ok item) :
    ∃ d' turns, runAt (writeBack id).run s ⟨d, []⟩ = ((.ok item, s.advance .iterating), ⟨d', turns⟩) ∧
      (d'.collection s.category).items.get? id = some (item.values format) ∧
      (item.values format).length = format.length ∧
      Item.ofValues s.category format (item.values format) = .ok item ∧
      (∀ (i : Nat) (e : FormatEntry) (value : Bytes), format[i]? = some e → values[i]? = some value →
        (¬ Record.Knows s.category.fields e → (item.values format)[i]? = some []) ∧
        (Record.Knows s.category.fields e →
          (∀ (j : Nat) (e' : FormatEntry), format[j]? = some e' → e'.tag = e.tag → e'.type = e.type → j = i) →
          (e.type.field? = some .utf8 → ∃ text, value = Text.Utf8.encode text) →
          (item.values format)[i]? = some value)) ∧
      (∀ id' ≠ id, (d'.collection s.category).items.get? id' = (d.collection s.category).items.get? id') ∧
      (∀ c ≠ s.category, d'.collection c = d.collection c) ∧
      (∀ es written s', Operation.Yields (updateItem id item) (s.advance .iterating) es (.ok written) s' →
        (backWrite s.category id (item.values format)).Fits) ∧
      (s.Joined → Message.Fits ⟨.item, values⟩ → (backWrite s.category id (item.values format)).Fits →
        ∃ final, d.SeesThrough ((writeBack id).run.run s) final ∧
          final.desktop.talk = .done (.ok item, s.advance .iterating) ∧ final.Waiting d') := by
  obtain ⟨d', hrun, hitems, hothers⟩ := runAt_writeBack hr hi hc hu hget hitem
  have hstored : stored (d.collection s.category) id = values := by rw [stored, hget]; rfl
  refine ⟨d', _, hrun, ?_, List.length_map _, Item.ofValues_values_of_ofValues hitem, fun i e value he hvalue =>
      ⟨Item.getElem?_values_of_not_knows hitem he, Item.getElem?_values_of_once hitem he hvalue⟩,
    fun id' hne => ?_, hothers, fun es written s' hy => ?_, fun hj hfit hfit' => ?_⟩
  · rw [hitems]
    exact Device.Store.get?_insert_self _ id _
  · rw [hitems]
    exact Device.Store.get?_insert_of_ne hne _ _
  · have hcategory : item.category = s.category := Item.category_of_ofValues hitem
    have hfits := fits_of_updated (hcategory.symm ▸ formatFor?_advance hc .iterating) hy
    rwa [hcategory] at hfits
  · have hpasses : ∀ t ∈ [itemTurn s.category (d.collection s.category) id,
        backTurn s.category id (item.values format)], t.Passes := by
      refine List.forall_mem_cons.mpr ⟨⟨Nat.le_of_ble_eq_true rfl, ?_⟩, List.forall_mem_singleton.mpr ⟨hfit', ?_⟩⟩
      · rwa [hstored]
      · exact Nat.le_of_ble_eq_true rfl
    obtain ⟨final, hsees, htalk, hwait, -⟩ := seesThrough_of_tracks tracks_writeBack hj hrun hpasses
    exact ⟨final, hsees, htalk, hwait⟩

theorem write_back_keeps_task :
    let priority : FormatEntry := ⟨.ascii 'P' 'R' 'T' 'Y', .ofField .byte, []⟩
    let remark : FormatEntry := ⟨.ascii 'X' 'P' 'R' 'V', .ofField .utf8, []⟩
    let s := { (Session.new .standard).joined with state := .formatKnown, cached? := some ⟨.todo, [priority, remark]⟩ }
    let d := Device.new Device.Sample.info Device.Sample.time
      |>.withFormat .todo [priority, remark]
      |>.addNew .todo 7 [[2], [0x61]]
      |>.addNew .todo 9 [[3], []]
    ∃ final d', d.SeesThrough ((writeBack 7).run.run s) final ∧ final.Waiting d' ∧
      (d'.collection .todo).items.get? 7 = some [[2], []] ∧ (d'.collection .todo).items.get? 9 = some [[3], []] := by
  intro priority remark s d
  let task := (Item.blank .todo).set (.ascii 'P' 'R' 'T' 'Y') .byte (some 2)
  have hj : s.Joined := by decide
  have hget : (d.collection .todo).items.get? 7 = some [[2], [0x61]] := by decide
  have hitem : Item.ofValues .todo [priority, remark] [[2], [0x61]] = .ok task := by decide
  have hvalues : task.values [priority, remark] = [[2], []] := by decide
  have hr : s.HasReached .formatKnown := by decide
  obtain ⟨d', -, -, hstored, -, -, -, hothers, -, -, hlinks⟩ := write_back_keeps hr rfl rfl rfl hget hitem
  obtain ⟨final, hsees, -, hwait⟩ := hlinks hj (by decide) (by decide)
  exact ⟨final, d', hsees, hwait, by rw [← hvalues]; exact hstored, (hothers 9 (by decide)).trans (by decide)⟩

end Session

end PimSync
