import GestureTimeline.Proofs.Batches
import GestureTimeline.Proofs.Events

/-! # The histories of a run

    Every history of a session can be read off the events of its run.  The timelines are those
    that the batches of the events describe; the composite list has the gestures of the events;
    the deferred error is the first mistake among them.

    Two statements follow.  In any session the timelines have the devices of the batches, and
    what each does in each tick.  In a session that records and can be built, no raw tick has
    come between the gestures, so the timelines are the expansion of the composite list. -/

namespace GestureTimeline

namespace Plan

/-- What the timelines of a plan are to be when single actions led to them, one in each tick:
    the device of the action performs it and every other device idles. -/
structure Expand (plan : Plan) (actions : List DeviceAction) : Prop where
  tickCount_eq : plan.tickCount = actions.length
  length_eq : ∀ l ∈ plan.timelines, l.steps.length = actions.length
  acts : ∀ a ∈ actions, ∃ l ∈ plan.timelines, l.device.isSame a.device = true
  step_eq : ∀ l ∈ plan.timelines, ∀ (t : Nat) a, actions[t]? = some a →
    l.steps[t]? = some (if l.device.isSame a.device then a.interaction else .idle)

/-- The timelines of batches of one action each expand those actions. -/
theorem expand_ofBatches (actions : List DeviceAction) (composite : List Gesture) :
    Expand ⟨(Timelines.ofBatches (actions.map ([·]))).lines, composite⟩ actions := by
  have hlength : ∀ l ∈ (Timelines.ofBatches (actions.map ([·]))).lines,
      l.steps.length = actions.length := by
    intro l hl
    obtain ⟨d, -, rfl⟩ := List.mem_map.mp hl
    rw [List.length_map, List.length_map]
  refine ⟨?_, hlength, ?_, ?_⟩
  · -- the ticks are read off the first timeline, and without one nothing acted
    cases hlines : (Timelines.ofBatches (actions.map ([·]))).lines with
    | nil =>
        have hdevices := List.map_eq_nil_iff.mp hlines
        cases actions with
        | nil => rfl
        | cons a actions =>
            have hnil := Timelines.devicesOf_eq_nil_iff.mp hdevices [a] List.mem_cons_self
            exact nomatch hnil
    | cons l lines => exact hlength l (hlines ▸ List.mem_cons_self)
  · intro a ha
    have hid : a.device.id ∈ (Timelines.devicesOf (actions.map ([·]))).map Device.id :=
      Timelines.mem_map_id_devicesOf.mpr ⟨[a], List.mem_map_of_mem ha, List.mem_cons_self⟩
    obtain ⟨d, hd, hda⟩ := List.mem_map.mp hid
    exact ⟨_, List.mem_map_of_mem hd, Device.isSame_iff.mpr hda⟩
  · intro l hl t a ha
    obtain ⟨d, -, rfl⟩ := List.mem_map.mp hl
    have hbatch : (actions.map ([·]))[t]? = some [a] := by
      rw [List.getElem?_map, ha]
      rfl
    show ((actions.map ([·])).map fun b => Timelines.stepIn b d)[t]? = _
    rw [List.getElem?_map, hbatch, Device.isSame_comm]
    exact congrArg some (Timelines.stepIn_singleton a d)

/-- The ticks of a plan are the batches that count. -/
theorem tickCount_ofBatches_counted (bs : List (List DeviceAction)) (composite : List Gesture) :
    tickCount ⟨(Timelines.ofBatches (Timelines.counted bs)).lines, composite⟩
      = (Timelines.counted bs).length := by
  cases hlines : (Timelines.ofBatches (Timelines.counted bs)).lines with
  | nil =>
      -- without a device no batch counts
      have hnone : Timelines.counted bs = [] := by
        by_contra hne
        exact Timelines.devicesOf_counted_ne_nil hne (List.map_eq_nil_iff.mp hlines)
      rw [hnone]
      rfl
  | cons l lines =>
      have hl : l ∈ (Timelines.ofBatches (Timelines.counted bs)).lines :=
        hlines ▸ List.mem_cons_self
      obtain ⟨d, -, rfl⟩ := List.mem_map.mp hl
      exact List.length_map _

end Plan

namespace Event

/-- The batches that an event ticks through, gestures acting on the default devices. -/
def batches (pointer : Pointer) (keyboard : Keyboard) : Event → List (List DeviceAction)
  | gesture p g => (g.expand pointer keyboard p).map ([·])
  | tick batch => [batch]
  | fault _ | policy _ | device => []

/-- The gesture of an event, with the policy it is taken under. -/
def taken? : Event → Option (Policy × Gesture)
  | gesture p g => some (p, g)
  | _ => none

/-- The mistake of an event. -/
def fault? : Event → Option ActionError
  | fault e => some e
  | _ => none

end Event

namespace Session

/-- The batches of a run: each gesture gives one for each action of its expansion, and each raw
    tick its own. -/
def batches (s : Session) (calls : List Call) : List (List DeviceAction) :=
  (s.events calls).flatMap (Event.batches s.pointer s.keyboard)

/-- The gestures that a run takes, each with the policy in force at its call. -/
def taken (s : Session) (calls : List Call) : List (Policy × Gesture) :=
  (s.events calls).filterMap Event.taken?

/-- The actions of the gestures that a run takes, in order. -/
def expansion (s : Session) (calls : List Call) : List DeviceAction :=
  (s.taken calls).flatMap fun (p, g) => g.expand s.pointer s.keyboard p

/-! ## Events one by one -/

theorem advanceEach_eq_foldl (t : Timelines) (actions : List DeviceAction) :
    t.advanceEach actions = (actions.map ([·])).foldl Timelines.advance t :=
  List.foldl_map.symm

theorem receive_timelines (s : Session) (e : Event) :
    (s.receive e).timelines
      = (e.batches s.pointer s.keyboard).foldl Timelines.advance s.timelines := by
  cases e with
  | gesture p g => exact advanceEach_eq_foldl s.timelines (g.expand s.pointer s.keyboard p)
  | tick _ | fault _ | policy _ | device => rfl

theorem receive_composite (s : Session) (e : Event) (h : s.isRecording = true) :
    (s.receive e).composite = s.composite ++ (e.taken?.map Prod.snd).toList := by
  cases e with
  | gesture _ _ => exact if_pos h
  | tick _ | fault _ | policy _ | device => exact (List.append_nil _).symm

theorem receive_deferred (s : Session) (e : Event) :
    (s.receive e).deferred = s.deferred.or e.fault? := by
  cases e with
  | fault _ => rfl
  | gesture _ _ | tick _ | policy _ | device => exact (Option.or_none).symm

/-! ## Events in order -/

/-- The timelines after events go through the batches of all of them. -/
theorem receiveAll_timelines (s : Session) (es : List Event) :
    (s.receiveAll es).timelines
      = (es.flatMap (Event.batches s.pointer s.keyboard)).foldl Timelines.advance
          s.timelines := by
  induction es generalizing s with
  | nil => rfl
  | cons e es ih =>
      rw [receiveAll_cons, ih, receive_timelines, receive_pointer, receive_keyboard,
        List.flatMap_cons, List.foldl_append]

/-- While the session records, the composite list takes the gestures of events. -/
theorem receiveAll_composite (s : Session) (es : List Event) (h : s.isRecording = true) :
    (s.receiveAll es).composite = s.composite ++ (es.filterMap Event.taken?).map Prod.snd := by
  induction es generalizing s with
  | nil => exact (List.append_nil _).symm
  | cons e es ih =>
      have hrec : (s.receive e).isRecording = true := (s.receiveAll_isRecording [e]).trans h
      rw [receiveAll_cons, ih _ hrec, receive_composite s e h]
      cases ht : e.taken? with
      | none => simp [ht]
      | some pg => simp [ht]

/-- The deferred error after events is the one before, or else the first mistake of them. -/
theorem receiveAll_deferred (s : Session) (es : List Event) :
    (s.receiveAll es).deferred = s.deferred.or (es.findSome? Event.fault?) := by
  induction es generalizing s with
  | nil => exact (Option.or_none).symm
  | cons e es ih =>
      rw [receiveAll_cons, ih, receive_deferred, Option.or_assoc]
      cases hf : e.fault? with
      | none => simp [hf]
      | some _ => simp [hf]

/-! ## The timelines of a run -/

theorem nodup_of_mem_batches {s : Session} {calls : List Call} {b : List DeviceAction}
    (h : b ∈ s.batches calls) : (Timelines.batchIds b).Nodup := by
  obtain ⟨e, he, hb⟩ := List.mem_flatMap.mp h
  cases e with
  | gesture p g =>
      obtain ⟨a, -, rfl⟩ := List.mem_map.mp hb
      exact List.nodup_singleton a.device.id
  | tick batch =>
      rw [List.mem_singleton.mp hb]
      exact (Call.tick_mem_eventsOf he).1
  | fault _ | policy _ | device => exact nomatch hb

/-- The timelines of a run that starts without any are those that its batches describe. -/
theorem run_timelines_of_empty {s : Session} (h : s.timelines = .empty) (calls : List Call) :
    (s.run calls).timelines = Timelines.ofBatches (Timelines.counted (s.batches calls)) := by
  rw [run_eq_receiveAll, receiveAll_timelines, h]
  exact Timelines.foldl_advance_eq_ofBatches fun b hb => nodup_of_mem_batches hb

theorem run_timelines (o : Opening) (calls : List Call) :
    (o.session.run calls).timelines
      = Timelines.ofBatches (Timelines.counted (o.session.batches calls)) :=
  run_timelines_of_empty o.session_timelines calls

/-- Runs of the same events tick through the same batches, on the same default devices. -/
theorem batches_congr {o₁ o₂ : Opening} {calls : List Call}
    (h : o₁.session.events calls = o₂.session.events calls) :
    o₁.session.batches calls = o₂.session.batches calls := by
  rw [batches, batches, h, o₁.session_pointer, o₁.session_keyboard, o₂.session_pointer,
    o₂.session_keyboard]

/-- **Timelines follow the batches of the run.**  Empty batches count from the first one on that
    is not empty. -/
theorem run_timelines_follow (o : Opening) (calls : List Call) :
    (o.session.run calls).timelines.Follow (Timelines.counted (o.session.batches calls)) := by
  rw [run_timelines]
  refine Timelines.follow_ofBatches ?_
  intro b hb
  exact nodup_of_mem_batches ((List.dropWhile_suffix List.isEmpty).subset hb)

/-! ## Plans -/

/-- A session that can be built has met no mistake, and both its histories are in the plan. -/
theorem build_eq_ok_iff {s : Session} {plan : Plan} :
    s.build = .ok plan ↔ s.deferred = none ∧ plan = ⟨s.timelines.lines, s.composite⟩ := by
  cases h : s.deferred with
  | none =>
      rw [build, h]
      simp [eq_comm]
  | some e =>
      rw [build, h]
      simp

theorem tickCount_of_build {o : Opening} {calls : List Call} {plan : Plan}
    (hbuild : (o.session.run calls).build = .ok plan) :
    plan.tickCount = (Timelines.counted (o.session.batches calls)).length := by
  obtain ⟨-, rfl⟩ := build_eq_ok_iff.mp hbuild
  rw [run_timelines]
  exact Plan.tickCount_ofBatches_counted _ _

/-! ## Lockstep -/

/-- Without raw ticks, the batches of events are the actions of their gestures, one by one. -/
theorem flatMap_batches_of_no_tick (pointer : Pointer) (keyboard : Keyboard) {es : List Event}
    (h : ∀ batch, Event.tick batch ∉ es) :
    es.flatMap (Event.batches pointer keyboard)
      = ((es.filterMap Event.taken?).flatMap
          fun (p, g) => g.expand pointer keyboard p).map ([·]) := by
  induction es with
  | nil => rfl
  | cons e es ih =>
      have hes := ih fun batch hmem => h batch (List.mem_cons_of_mem e hmem)
      rw [List.flatMap_cons, hes]
      cases e with
      | gesture p g => exact (List.map_append).symm
      | tick batch => exact absurd List.mem_cons_self (h batch)
      | fault _ | policy _ | device => rfl

/-- No event before a build is a mistake. -/
theorem findSome?_fault?_of_build {o : Opening} {calls : List Call} {plan : Plan}
    (hbuild : (o.session.run calls).build = .ok plan) :
    (o.session.events calls).findSome? Event.fault? = none := by
  have hnone := (build_eq_ok_iff.mp hbuild).1
  rw [run_eq_receiveAll, receiveAll_deferred, Option.or_eq_none_iff] at hnone
  exact hnone.2

/-- While a session records, a raw tick is a mistake: none comes before a build. -/
theorem tick_notMem_of_build {o : Opening} {calls : List Call} {plan : Plan}
    (hrec : o.session.isRecording = true) (hbuild : (o.session.run calls).build = .ok plan)
    (batch : List DeviceAction) : Event.tick batch ∉ o.session.events calls := by
  intro htick
  -- the mistake that comes with the tick would be deferred
  have hfault := (Call.tick_mem_eventsOf htick).2 hrec
  exact nomatch List.findSome?_eq_none_iff.mp (findSome?_fault?_of_build hbuild) _ hfault

/-- **The histories of a session that can be built run in lockstep.** -/
theorem histories_lockstep (o : Opening) (calls : List Call) (plan : Plan)
    (hhandles : o.captured?.isSome = true)
    (hbuild : (o.session.run calls).build = .ok plan) :
    plan.composite = (o.session.taken calls).map Prod.snd
      ∧ (o.session.run calls).timelines.ticks = (o.session.expansion calls).length
      ∧ plan.Expand (o.session.expansion calls) := by
  have hrec : o.session.isRecording = true := o.session_isRecording.trans hhandles
  have hbatches : o.session.batches calls = (o.session.expansion calls).map ([·]) :=
    flatMap_batches_of_no_tick _ _ (tick_notMem_of_build hrec hbuild)
  -- no batch is empty, so all of them count
  have htimelines := run_timelines o calls
  rw [hbatches, Timelines.counted_singletons] at htimelines
  obtain ⟨-, rfl⟩ := build_eq_ok_iff.mp hbuild
  refine ⟨?_, ?_, ?_⟩
  · have hnil : o.session.composite = [] := by cases o <;> rfl
    show (o.session.run calls).composite = _
    rw [run_eq_receiveAll, receiveAll_composite _ _ hrec, hnil]
    rfl
  · rw [htimelines]
    exact List.length_map _
  · rw [htimelines]
    exact Plan.expand_ofBatches _ _

/-- A drag, and under a slower policy a key on an element, both through a lone mouse. -/
theorem histories_lockstep_drag :
    let o := Opening.onHandles ⟨false, true⟩
    let calls := [Call.dragAndDropBy ⟨"slider"⟩ 40 0, .policy { elementMoveMs := 900 },
      .keyDownOn ⟨"field"⟩ (.named .shift)]
    let plan : Plan := ⟨(o.session.run calls).timelines.lines, (o.session.run calls).composite⟩
    (o.captured?.isSome = true ∧ (o.session.run calls).build = .ok plan)
      ∧ plan.composite = (o.session.taken calls).map Prod.snd
      ∧ (o.session.run calls).timelines.ticks = (o.session.expansion calls).length
      ∧ plan.Expand (o.session.expansion calls) :=
  ⟨⟨rfl, rfl⟩, histories_lockstep _ _ _ rfl rfl⟩

end Session

end GestureTimeline
