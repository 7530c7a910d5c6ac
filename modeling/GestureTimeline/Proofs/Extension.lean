import GestureTimeline.Proofs.Growth

/-! # What gestures add to timelines

    The actions of gestures go into the timelines one a tick.  Such a run of ticks leaves what
    was there as it was and adds to every timeline the device's share of the actions: what the
    device does in those ticks, idle ones included.  A device that had no timeline joins behind
    the others, and has idled up to then.

    This is written down at once as `Timelines.extend`, which knows nothing of slots that are
    looked up or of ticks that are filled up, and in a session it is what happens
    (`Session.advanceEach_of_run`). -/

namespace GestureTimeline

/-! ## Devices that join -/

namespace Device

theorem firsts_firsts (ds : List Device) : firsts (firsts ds) = firsts ds := by
  induction ds using List.reverseRecOn with
  | nil => rfl
  | append_singleton ds d ih =>
      rw [firsts_append_singleton]
      by_cases hd : d.id ∈ ds.map id
      · rw [if_pos hd, ih]
      · have hnew : d.id ∉ (firsts ds).map id := fun h => hd ((mem_map_id_firsts ds d.id).mp h)
        rw [if_neg hd, firsts_append_singleton, if_neg hnew, ih]

/-- Of the devices before, only the first occurrences matter to what comes first. -/
theorem firsts_firsts_append (ds es : List Device) :
    firsts (firsts ds ++ es) = firsts (ds ++ es) := by
  induction es using List.reverseRecOn with
  | nil => rw [List.append_nil, List.append_nil, firsts_firsts]
  | append_singleton es e ih =>
      have hmem : e.id ∈ (firsts ds ++ es).map id ↔ e.id ∈ (ds ++ es).map id := by
        simp only [List.map_append, List.mem_append, mem_map_id_firsts]
      rw [← List.append_assoc, ← List.append_assoc, firsts_append_singleton,
        firsts_append_singleton, ih]
      simp only [hmem]

/-- A device that comes again is no further one. -/
theorem firsts_append_replicate (ds : List Device) (d : Device) (n : Nat) :
    firsts (ds ++ List.replicate (n + 1) d) = firsts (ds ++ [d]) := by
  induction n with
  | zero => rfl
  | succ n ih =>
      have hmem : d.id ∈ (ds ++ List.replicate (n + 1) d).map id := by simp
      rw [List.replicate_succ', ← List.append_assoc, firsts_append_singleton, if_pos hmem, ih]

end Device

/-! ## Ticks of one action each -/

namespace Timelines

/-- What a device does while each of the actions has a tick of its own. -/
def share (actions : List DeviceAction) (d : Device) : List Interaction :=
  actions.map fun a => if a.device.isSame d then a.interaction else .idle

/-- What a device has done so far; one without a timeline has idled. -/
def past (t : Timelines) (d : Device) : List Interaction :=
  match t.line? d with
  | some l => l.steps
  | none => List.replicate t.ticks .idle

/-- What timelines are to become when actions follow, each in a tick of its own. -/
def extend (t : Timelines) (actions : List DeviceAction) : Timelines :=
  let devices := Device.firsts (t.lines.map Timeline.device ++ actions.map (·.device))
  { lines := devices.map fun d => ⟨d, t.past d ++ share actions d⟩
    slots := (devices.map Device.id).zipIdx
    ticks := t.ticks + actions.length }

theorem flatten_singletons (actions : List DeviceAction) :
    (actions.map ([·])).flatten = actions := by
  rw [← List.flatMap_def, List.flatMap_singleton']

theorem map_stepIn_singletons (actions : List DeviceAction) (d : Device) :
    (actions.map ([·])).map (fun b => stepIn b d) = share actions d := by
  rw [List.map_map]
  exact List.map_congr_left fun a _ => stepIn_singleton a d

/-- An action in a tick of its own is one more batch. -/
theorem advance_singleton_ofBatches (bs : List (List DeviceAction)) (a : DeviceAction) :
    (ofBatches bs).advance [a] = ofBatches (bs ++ [[a]]) := by
  refine advance_ofBatches (List.nodup_singleton a.device.id) ?_
  intro hnil
  have hempty := devicesOf_eq_nil_iff.mp hnil [a]
    (List.mem_append_right _ (List.mem_singleton.mpr rfl))
  exact List.cons_ne_nil a [] hempty

/-- Actions in ticks of their own are as many more batches. -/
theorem advanceEach_ofBatches (bs : List (List DeviceAction)) (actions : List DeviceAction) :
    (ofBatches bs).advanceEach actions = ofBatches (bs ++ actions.map ([·])) := by
  induction actions generalizing bs with
  | nil => rw [List.map_nil, List.append_nil]; rfl
  | cons a actions ih =>
      show ((ofBatches bs).advance [a]).advanceEach actions = _
      rw [advance_singleton_ofBatches, ih, List.append_assoc]
      rfl

/-- What a device has done in the ticks of batches is what each of them says. -/
theorem past_ofBatches (bs : List (List DeviceAction)) (d : Device) :
    (ofBatches bs).past d = bs.map fun b => stepIn b d := by
  cases hl : (ofBatches bs).line? d with
  | none =>
      have hnone := line?_ofBatches_eq_none_iff.mp hl
      rw [past, hl, map_stepIn_of_notMem hnone]
      rfl
  | some l =>
      have hsteps := steps_of_line?_ofBatches hl
      rw [past, hl]
      exact hsteps

/-- Timelines that batches describe are extended by more actions. -/
theorem advanceEach_ofBatches_eq_extend (bs : List (List DeviceAction))
    (actions : List DeviceAction) :
    (ofBatches bs).advanceEach actions = (ofBatches bs).extend actions := by
  have hdevices : devicesOf (bs ++ actions.map ([·]))
      = Device.firsts ((ofBatches bs).lines.map Timeline.device ++ actions.map (·.device)) := by
    rw [map_device_ofBatches, devicesOf, devicesOf, Device.firsts_firsts_append,
      List.flatten_append, List.map_append, flatten_singletons]
  have hsteps : ∀ d, ((bs ++ actions.map ([·])).map fun b => stepIn b d)
      = (ofBatches bs).past d ++ share actions d := by
    intro d
    rw [List.map_append, map_stepIn_singletons, past_ofBatches]
  rw [advanceEach_ofBatches, extend, ← hdevices, ofBatches]
  simp only [hsteps, List.length_append, List.length_map]
  rfl

theorem extend_ofBatches (bs : List (List DeviceAction)) (actions : List DeviceAction) :
    (ofBatches bs).extend actions = ofBatches (bs ++ actions.map ([·])) := by
  rw [← advanceEach_ofBatches_eq_extend, advanceEach_ofBatches]

/-! ## Looking a device up after actions -/

section Lookup

variable {bs : List (List DeviceAction)} {actions : List DeviceAction} {d : Device} {l : Timeline}

theorem share_of_none (h : ∀ a ∈ actions, a.device.isSame d = false) :
    share actions d = List.replicate actions.length .idle := by
  refine List.eq_replicate_iff.mpr ⟨List.length_map _, ?_⟩
  intro i hi
  obtain ⟨a, ha, rfl⟩ := List.mem_map.mp hi
  rw [h a ha]
  rfl

theorem share_of_all (h : ∀ a ∈ actions, a.device.isSame d = true) :
    share actions d = actions.map (·.interaction) := by
  refine List.map_congr_left fun a ha => ?_
  rw [h a ha]
  rfl

/-- A device has a timeline then if it had one before or acts. -/
theorem line?_extend_eq_none_iff :
    ((ofBatches bs).extend actions).line? d = none
      ↔ (ofBatches bs).line? d = none ∧ ∀ a ∈ actions, a.device.isSame d = false := by
  rw [extend_ofBatches, line?_ofBatches_eq_none_iff, line?_ofBatches_eq_none_iff,
    List.forall_mem_append, List.forall_mem_map]
  refine and_congr_right fun _ => forall₂_congr fun a _ => ?_
  rw [notMem_batchIds_iff, List.forall_mem_singleton]

/-- What a device has done then is what it had done before, and its share. -/
theorem steps_of_line?_extend (h : ((ofBatches bs).extend actions).line? d = some l) :
    l.steps = (ofBatches bs).past d ++ share actions d := by
  rw [extend_ofBatches] at h
  rw [steps_of_line?_ofBatches h, List.map_append, map_stepIn_singletons, past_ofBatches]

/-- A device that had a timeline has its share put behind it. -/
theorem line?_extend_of_line? (h : (ofBatches bs).line? d = some l) :
    ((ofBatches bs).extend actions).line? d = some ⟨l.device, l.steps ++ share actions d⟩ := by
  cases hm : ((ofBatches bs).extend actions).line? d with
  | none =>
      rw [(line?_extend_eq_none_iff.mp hm).1] at h
      cases h
  | some m =>
      have hsteps : m.steps = l.steps ++ share actions d := by
        rw [steps_of_line?_extend hm, past, h]
      have hindexed : ((ofBatches bs).extend actions).Indexed := by
        rw [extend_ofBatches]
        exact indexed_ofBatches _
      obtain ⟨hmem, hmd⟩ := hindexed.of_line?_eq_some hm
      obtain ⟨hl, hld⟩ := (indexed_ofBatches bs).of_line?_eq_some h
      -- the devices of before are still there, and of one identity there is one device
      have hdevices : l.device ∈ ((ofBatches bs).extend actions).lines.map Timeline.device := by
        rw [extend_ofBatches, map_device_ofBatches]
        refine (devicesOf_prefix_append bs _).subset ?_
        rw [← map_device_ofBatches]
        exact List.mem_map_of_mem hl
      obtain ⟨k, hk, hkl⟩ := List.mem_map.mp hdevices
      have hkm : k = m := by
        refine List.inj_on_of_nodup_map hindexed.nodup hk hmem ?_
        rw [hkl, hld, hmd]
      rw [← hkl, hkm, ← hsteps]

/-- The devices after actions of one device are those before, and that one if it is new. -/
theorem devices_extend_of_one (hdevice : ∀ a ∈ actions, a.device = d) (hne : actions ≠ []) :
    ((ofBatches bs).extend actions).lines.map Timeline.device
      = (ofBatches bs).lines.map Timeline.device
        ++ if ((ofBatches bs).line? d).isSome = true then [] else [d] := by
  obtain ⟨a, rest, rfl⟩ := List.exists_cons_of_ne_nil hne
  have hreplicate : (a :: rest).map (·.device) = List.replicate (rest.length + 1) d := by
    refine List.eq_replicate_iff.mpr ⟨List.length_map _, ?_⟩
    intro e he
    obtain ⟨x, hx, rfl⟩ := List.mem_map.mp he
    exact hdevice x hx
  have hlines : ((ofBatches bs).extend (a :: rest)).lines.map Timeline.device
      = Device.firsts (devicesOf bs ++ List.replicate (rest.length + 1) d) := by
    rw [extend, hreplicate, map_device_ofBatches, List.map_map]
    exact List.map_id _
  rw [hlines, Device.firsts_append_replicate, Device.firsts_append_singleton,
    map_device_ofBatches, if_congr isSome_line?_ofBatches_iff rfl rfl]
  have hfirsts : Device.firsts (devicesOf bs) = devicesOf bs := Device.firsts_firsts _
  rw [hfirsts]
  by_cases hd : d.id ∈ (devicesOf bs).map Device.id
  · rw [if_pos hd, if_pos hd, List.append_nil]
  · rw [if_neg hd, if_neg hd]

end Lookup

end Timelines

/-! ## Gestures that are taken -/

namespace Session

/-- The actions of gestures on the default devices of a session, under the policy in force. -/
def expandAll (s : Session) (gs : List Gesture) : List DeviceAction := gs.flatMap s.expand

/-- What gestures add to a session that takes them all. -/
theorem receiveAll_gestures (s : Session) (gs : List Gesture) :
    s.receiveAll (gs.map (.gesture s.policy))
      = { s with
          timelines := s.timelines.advanceEach (s.expandAll gs)
          composite := if s.isRecording then s.composite ++ gs else s.composite } := by
  induction gs generalizing s with
  | nil =>
      show s = { s with composite := if s.isRecording then s.composite ++ [] else s.composite }
      rw [List.append_nil, ite_self]
  | cons g gs ih =>
      -- the gestures that follow are on the same devices, under the same policy
      have hticks : (s.timelines.advanceEach (s.expand g)).advanceEach (s.expandAll gs)
          = s.timelines.advanceEach (s.expandAll (g :: gs)) := List.foldl_append.symm
      have hrest := ih (s.receive (.gesture s.policy g))
      show (s.receive (.gesture s.policy g)).receiveAll (gs.map (.gesture s.policy)) = _
      refine hrest.trans ?_
      show { s with
          timelines := (s.timelines.advanceEach (s.expand g)).advanceEach (s.expandAll gs)
          composite :=
            if s.isRecording then (if s.isRecording then s.composite ++ [g] else s.composite) ++ gs
            else if s.isRecording then s.composite ++ [g] else s.composite } = _
      rw [hticks]
      cases s.isRecording with
      | true => simp
      | false => simp

/-- A call whose gestures are all without fault is one gesture after another. -/
theorem call_of_sound {s : Session} {c : Call} (hgestures : c.gestures s.policy ≠ [])
    (hsound : (c.gestures s.policy).findSome? (Gesture.fault? s.isRecording) = none) :
    s.call c = s.emitAll (c.gestures s.policy) := by
  rw [call_eq_receiveAll_gestures s c hgestures, Call.allOrNone, hsound]
  exact (s.emitAll_of_sound _ (List.findSome?_eq_none_iff.mp hsound)).symm

/-- A call with a gesture at fault leaves no more than the fault. -/
theorem call_of_fault {s : Session} {c : Call} {e : ActionError}
    (hgestures : c.gestures s.policy ≠ [])
    (hfault : (c.gestures s.policy).findSome? (Gesture.fault? s.isRecording) = some e) :
    s.call c = s.defer e := by
  rw [call_eq_receiveAll_gestures s c hgestures, Call.allOrNone, hfault]
  rfl

/-- In a session, actions in ticks of their own extend the timelines. -/
theorem advanceEach_of_run (o : Opening) (calls : List Call) (actions : List DeviceAction) :
    (o.session.run calls).timelines.advanceEach actions
      = (o.session.run calls).timelines.extend actions := by
  rw [run_timelines]
  exact Timelines.advanceEach_ofBatches_eq_extend _ actions

end Session

end GestureTimeline
