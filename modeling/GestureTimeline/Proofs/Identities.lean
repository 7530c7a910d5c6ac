import GestureTimeline.Proofs.Histories
import GestureTimeline.Wire

/-! # Other identities

    The identities of devices are generated, so a session that is opened once more has others.
    It does the same under them: identities are only ever compared, and a renaming that keeps
    different ones different goes through a run call by call (`Opening.run_lines_rename`).

    In a payload an identity shows only where a device has no name or its name is taken.  Devices
    with names of their own are exported alike under all identities. -/

namespace GestureTimeline

variable {f : DeviceId → DeviceId}

/-! ## Renaming -/

/-- The same pointer under another identity. -/
def Pointer.rename (f : DeviceId → DeviceId) (p : Pointer) : Pointer := { p with id := f p.id }

/-- The same keyboard under another identity. -/
def Keyboard.rename (f : DeviceId → DeviceId) (k : Keyboard) : Keyboard := { k with id := f k.id }

/-- The same device under another identity. -/
def Device.rename (f : DeviceId → DeviceId) : Device → Device
  | pointer p => pointer (p.rename f)
  | keyboard k => keyboard (k.rename f)

/-- The same interaction, of the device under another identity. -/
def DeviceAction.rename (f : DeviceId → DeviceId) (a : DeviceAction) : DeviceAction :=
  { a with device := a.device.rename f }

/-- The same timeline, of the device under another identity. -/
def Timeline.rename (f : DeviceId → DeviceId) (t : Timeline) : Timeline :=
  { t with device := t.device.rename f }

/-- The same call; only a raw tick names devices. -/
def Call.rename (f : DeviceId → DeviceId) : Call → Call
  | tick batch => tick (batch.map (DeviceAction.rename f))
  | c => c

/-- The same event; only a raw tick names devices. -/
def Event.rename (f : DeviceId → DeviceId) : Event → Event
  | tick batch => tick (batch.map (DeviceAction.rename f))
  | e => e

/-- The session that is opened when its default devices get other identities. -/
def Opening.sessionUnder (f : DeviceId → DeviceId) (o : Opening) : Session :=
  { o.session with
    pointer := o.session.pointer.rename f
    keyboard := o.session.keyboard.rename f }

namespace Device

@[simp] theorem id_rename (f : DeviceId → DeviceId) (d : Device) : (d.rename f).id = f d.id := by
  cases d <;> rfl

@[simp] theorem name_rename (f : DeviceId → DeviceId) (d : Device) :
    (d.rename f).name = d.name := by
  cases d <;> rfl

@[simp] theorem pointerKind?_rename (f : DeviceId → DeviceId) (d : Device) :
    (d.rename f).pointerKind? = d.pointerKind? := by
  cases d <;> rfl

/-- The identities of renamed devices. -/
theorem map_id_map_rename (f : DeviceId → DeviceId) (ds : List Device) :
    (ds.map (rename f)).map id = (ds.map id).map f := by
  rw [List.map_map, List.map_map]
  exact List.map_congr_left fun d _ => id_rename f d

/-- Renaming keeps which devices occur first. -/
theorem firsts_map_rename (hf : Function.Injective f) (ds : List Device) :
    firsts (ds.map (rename f)) = (firsts ds).map (rename f) := by
  induction ds using List.reverseRecOn with
  | nil => rfl
  | append_singleton ds d ih =>
      have hin : (d.rename f).id ∈ (ds.map (rename f)).map id ↔ d.id ∈ ds.map id := by
        rw [id_rename, map_id_map_rename, List.mem_map_of_injective hf]
      rw [List.map_append, List.map_singleton, firsts_append_singleton, firsts_append_singleton]
      by_cases hd : d.id ∈ ds.map id
      · rw [if_pos (hin.mpr hd), if_pos hd, ih]
      · rw [if_neg fun h => hd (hin.mp h), if_neg hd, ih, List.map_append, List.map_singleton]

end Device

/-! ## Timelines under other identities -/

namespace Timelines

theorem batchIds_map_rename (f : DeviceId → DeviceId) (batch : List DeviceAction) :
    batchIds (batch.map (DeviceAction.rename f)) = (batchIds batch).map f := by
  rw [batchIds, batchIds, List.map_map, List.map_map]
  exact List.map_congr_left fun a _ => Device.id_rename f a.device

theorem nodup_batchIds_map_rename (hf : Function.Injective f) (batch : List DeviceAction) :
    (batchIds (batch.map (DeviceAction.rename f))).Nodup ↔ (batchIds batch).Nodup := by
  rw [batchIds_map_rename, List.nodup_map_iff hf]

theorem stepIn_map_rename (hf : Function.Injective f) (batch : List DeviceAction) (d : Device) :
    stepIn (batch.map (DeviceAction.rename f)) (d.rename f) = stepIn batch d := by
  have hsame : ∀ a : DeviceAction,
      (a.rename f).device.isSame (d.rename f) = a.device.isSame d := by
    intro a
    rw [Bool.eq_iff_iff, Device.isSame_iff, Device.isSame_iff, Device.id_rename]
    show (a.device.rename f).id = _ ↔ _
    rw [Device.id_rename, hf.eq_iff]
  have hfind : ((batch.map (DeviceAction.rename f)).find? fun a => a.device.isSame (d.rename f))
      = (batch.find? fun a => a.device.isSame d).map (DeviceAction.rename f) := by
    rw [List.find?_map]
    exact congrArg (fun p => (batch.find? p).map (DeviceAction.rename f)) (funext hsame)
  rw [stepIn, stepIn, hfind, Option.map_map]
  rfl

theorem devicesOf_map_rename (hf : Function.Injective f) (bs : List (List DeviceAction)) :
    devicesOf (bs.map (List.map (DeviceAction.rename f)))
      = (devicesOf bs).map (Device.rename f) := by
  rw [devicesOf, devicesOf, ← Device.firsts_map_rename hf, ← List.map_flatten, List.map_map,
    List.map_map]
  rfl

/-- Batches of renamed devices describe the renamed timelines. -/
theorem lines_ofBatches_map_rename (hf : Function.Injective f) (bs : List (List DeviceAction)) :
    (ofBatches (bs.map (List.map (DeviceAction.rename f)))).lines
      = (ofBatches bs).lines.map (Timeline.rename f) := by
  show (devicesOf _).map _ = ((devicesOf bs).map _).map _
  rw [devicesOf_map_rename hf, List.map_map, List.map_map]
  refine List.map_congr_left fun d _ => ?_
  show Timeline.mk _ ((bs.map _).map _) = Timeline.mk _ (bs.map _)
  rw [List.map_map]
  exact congrArg _ (List.map_congr_left fun b _ => stepIn_map_rename hf b d)

/-- Whether a batch counts does not depend on what its actions are. -/
theorem counted_map_map (g : DeviceAction → DeviceAction) (bs : List (List DeviceAction)) :
    counted (bs.map (List.map g)) = (counted bs).map (List.map g) := by
  have hempty : List.isEmpty ∘ List.map g = List.isEmpty := funext fun b => List.isEmpty_map
  rw [counted, counted, List.dropWhile_map, hempty]

end Timelines

/-! ## Runs under other identities -/

/-- The same gesture on devices of other identities. -/
theorem Gesture.expand_rename (f : DeviceId → DeviceId) (pointer : Pointer)
    (keyboard : Keyboard) (p : Policy) (g : Gesture) :
    g.expand (pointer.rename f) (keyboard.rename f) p
      = (g.expand pointer keyboard p).map (DeviceAction.rename f) := by
  cases g with
  | keyDown key =>
      show key.codePoints.map (keyboard.rename f).down = (key.codePoints.map keyboard.down).map _
      rw [List.map_map]
      rfl
  | keyUp key =>
      show key.codePoints.map (keyboard.rename f).up = (key.codePoints.map keyboard.up).map _
      rw [List.map_map]
      rfl
  | sendKeys keys =>
      show List.flatMap (stroke (keyboard.rename f)) _ = (List.flatMap (stroke keyboard) _).map _
      rw [List.map_flatMap]
      rfl
  | click | contextClick | clickAndHold | release | moveToElement _ _ _ | moveByOffset _ _
  | pause _ => rfl

namespace Event

theorem fault?_rename (f : DeviceId → DeviceId) (e : Event) : (e.rename f).fault? = e.fault? := by
  cases e <;> rfl

theorem batches_rename (f : DeviceId → DeviceId) (pointer : Pointer) (keyboard : Keyboard)
    (e : Event) :
    (e.rename f).batches (pointer.rename f) (keyboard.rename f)
      = (e.batches pointer keyboard).map (List.map (DeviceAction.rename f)) := by
  cases e with
  | gesture p g =>
      show (g.expand (pointer.rename f) (keyboard.rename f) p).map ([·])
        = ((g.expand pointer keyboard p).map ([·])).map _
      rw [Gesture.expand_rename, List.map_map, List.map_map]
      rfl
  | tick _ | fault _ | policy _ | device => rfl

end Event

namespace Call

theorem allOrNone_rename (f : DeviceId → DeviceId) (recording : Bool) (p : Policy)
    (gs : List Gesture) :
    (allOrNone recording p gs).map (Event.rename f) = allOrNone recording p gs := by
  rw [allOrNone]
  cases gs.findSome? (Gesture.fault? recording) with
  | some e => rfl
  | none => exact List.map_map

/-- A renamed call has the renamed events. -/
theorem events_rename (hf : Function.Injective f) (recording : Bool) (p : Policy) (c : Call) :
    (c.rename f).events recording p = (c.events recording p).map (Event.rename f) := by
  by_cases hg : c.gestures p = []
  · cases c with
    | script s =>
        show s.steps.flatMap _ = (s.steps.flatMap _).map _
        rw [List.map_flatMap]
        exact List.flatMap_congr fun st _ => (allOrNone_rename f recording p _).symm
    | tick batch =>
        show tickEvents recording _ = (tickEvents recording batch).map _
        rw [tickEvents, tickEvents]
        by_cases hnd : (Timelines.batchIds batch).Nodup
        · rw [if_pos hnd, if_pos ((Timelines.nodup_batchIds_map_rename hf batch).mpr hnd)]
          cases recording <;> rfl
        · rw [if_neg hnd,
            if_neg fun h => hnd ((Timelines.nodup_batchIds_map_rename hf batch).mp h)]
          rfl
    | policy _ | newPointer _ _ | newKeyboard _ => rfl
    | _ => exact absurd hg (List.cons_ne_nil _ _)
  · have hsame : c.rename f = c := by
      cases c with
      | tick _ => exact absurd rfl hg
      | _ => rfl
    rw [hsame, events_of_gestures recording hg, allOrNone_rename]

theorem policyAfter_rename (f : DeviceId → DeviceId) (p : Policy) (c : Call) :
    (c.rename f).policyAfter p = c.policyAfter p := by
  cases c <;> rfl

theorem eventsOf_rename (hf : Function.Injective f) (recording : Bool) (p : Policy)
    (calls : List Call) :
    eventsOf recording p (calls.map (rename f))
      = (eventsOf recording p calls).map (Event.rename f) := by
  induction calls generalizing p with
  | nil => rfl
  | cons c cs ih =>
      rw [List.map_cons, eventsOf, eventsOf, List.map_append, events_rename hf,
        policyAfter_rename, ih]

end Call

namespace Opening

/-- A run under other identities has the renamed events. -/
theorem events_rename (hf : Function.Injective f) (o : Opening) (calls : List Call) :
    (o.sessionUnder f).events (calls.map (Call.rename f))
      = (o.session.events calls).map (Event.rename f) :=
  Call.eventsOf_rename hf o.session.isRecording o.session.policy calls

/-- A run under other identities makes the same mistakes. -/
theorem run_deferred_rename (hf : Function.Injective f) (o : Opening) (calls : List Call) :
    ((o.sessionUnder f).run (calls.map (Call.rename f))).deferred
      = (o.session.run calls).deferred := by
  rw [Session.run_eq_receiveAll, Session.run_eq_receiveAll, Session.receiveAll_deferred,
    Session.receiveAll_deferred, events_rename hf, List.findSome?_map]
  exact congrArg (fun fault => o.session.deferred.or ((o.session.events calls).findSome? fault))
    (funext fun e => Event.fault?_rename f e)

theorem batches_rename (hf : Function.Injective f) (o : Opening) (calls : List Call) :
    (o.sessionUnder f).batches (calls.map (Call.rename f))
      = (o.session.batches calls).map (List.map (DeviceAction.rename f)) := by
  rw [Session.batches, Session.batches, events_rename hf, List.flatMap_map, List.map_flatMap]
  exact List.flatMap_congr fun e _ => Event.batches_rename f _ _ e

/-- **A run under other identities has the same timelines, under those identities.** -/
theorem run_lines_rename (hf : Function.Injective f) (o : Opening) (calls : List Call) :
    ((o.sessionUnder f).run (calls.map (Call.rename f))).timelines.lines
      = (o.session.run calls).timelines.lines.map (Timeline.rename f) := by
  have hempty : (o.sessionUnder f).timelines = .empty := o.session_timelines
  rw [Session.run_timelines_of_empty hempty, Session.run_timelines, batches_rename hf,
    Timelines.counted_map_map, Timelines.lines_ofBatches_map_rename hf]

end Opening

/-! ## Payloads under other identities -/

namespace Source

/-- Timelines whose names differ, and are not taken, are exported under their names. -/
theorem assign_of_nodup {taken : List String} {ts : List Timeline}
    (hnd : (ts.map (·.device.wireId)).Nodup) (hfree : ∀ t ∈ ts, t.device.wireId ∉ taken) :
    assign taken ts = ts.map fun t => ofTimeline t.device.wireId t := by
  induction ts generalizing taken with
  | nil => rfl
  | cons t ts ih =>
      obtain ⟨hnew, hnd⟩ := List.nodup_cons.mp hnd
      have hchoose : chooseId taken t.device = t.device.wireId :=
        if_neg (hfree t List.mem_cons_self)
      -- what the first source takes is its own name, and no other has that
      have hrest : ∀ u ∈ ts, u.device.wireId ∉ t.device.wireId :: t.device.wireId :: taken := by
        intro u hu hin
        have hne : u.device.wireId ≠ t.device.wireId := fun h =>
          hnew (List.mem_map.mpr ⟨u, hu, h⟩)
        simp only [List.mem_cons, hne, false_or] at hin
        exact hfree u (List.mem_cons_of_mem t hu) hin
      rw [assign, hchoose, List.map_cons]
      exact congrArg _ (ih hnd hrest)

/-- Devices with names of their own are exported alike under all identities. -/
theorem ofTimelines_map_rename (f : DeviceId → DeviceId) {ts : List Timeline}
    (hnamed : ∀ t ∈ ts, t.device.name ≠ none) (hnd : (ts.map (·.device.wireId)).Nodup) :
    ofTimelines (ts.map (Timeline.rename f)) = ofTimelines ts := by
  have hwire : ∀ t ∈ ts, (t.rename f).device.wireId = t.device.wireId := by
    intro t ht
    show (t.device.rename f).wireId = _
    obtain ⟨name, hname⟩ := Option.ne_none_iff_exists'.mp (hnamed t ht)
    rw [Device.wireId, Device.wireId, Device.name_rename, hname]
    rfl
  have hnd' : ((ts.map (Timeline.rename f)).map (·.device.wireId)).Nodup := by
    rw [List.map_map, List.map_congr_left (f := (·.device.wireId) ∘ Timeline.rename f) hwire]
    exact hnd
  rw [ofTimelines, ofTimelines, assign_of_nodup hnd' fun _ _ => List.not_mem_nil,
    assign_of_nodup hnd fun _ _ => List.not_mem_nil, List.map_map]
  refine List.map_congr_left fun t ht => ?_
  show ofTimeline (t.rename f).device.wireId (t.rename f) = _
  rw [hwire t ht, ofTimeline, ofTimeline]
  exact congrArg (Source.mk _ · _) (Device.pointerKind?_rename f t.device)

end Source

end GestureTimeline
