import GestureTimeline.Proofs.Deferral
import GestureTimeline.Proofs.Extension
import GestureTimeline.Proofs.SourceGrowth

/-! # Times from the policy to the payload

    How long a gesture takes is decided when it is called, under the policy that is in force
    then, and told when the plan is exported.  In between it stands in a timeline as a span of
    nanoseconds.  Neither way loses anything: a policy counts milliseconds in 64 bits, and so does
    a payload.  What does not fit is cut off there and nowhere else.

    A call has its ticks one behind another, so an action is found again in the payload by the
    number of the ticks before it (`Session.getElem?_steps_of_call`). -/

namespace GestureTimeline

/-! ## Actions of a payload -/

namespace Json

/-- The action that a source of a payload has in a tick. -/
def actionAt? (payload : Json) (source tick : Nat) : Option Json :=
  payload.sources[source]?.bind fun s => (s.fieldAs? "actions" items?).bind fun vs => vs[tick]?

/-- A move that takes some milliseconds. -/
def moveAction (ms : Nat) (origin : Json) (x y : Int32) : Json :=
  .obj [("duration", .int ms), ("origin", origin), ("type", .str "pointerMove"),
    ("x", .int x.toInt), ("y", .int y.toInt)]

/-- A pause that takes some milliseconds. -/
def pauseAction (ms : Nat) : Json := .obj [("duration", .int ms), ("type", .str "pause")]

/-- What it is for an action to keep the pace of a policy.  A move is one onto an element or one
    relative to the pointer, and takes the time that the policy has for moves of its kind. -/
def Paced (p : Policy) (v : Json) : Prop :=
  v.field? "type" = some (.str "pointerMove") →
    ((∃ id, v.field? "origin" = some (.obj [(Origin.elementKey, .str id)]))
        ∧ v.field? "duration" = some (.int p.elementMoveMs.toNat))
      ∨ (v.field? "origin" = some (.str "pointer")
        ∧ v.field? "duration" = some (.int p.offsetMoveMs.toNat))

theorem paced_of_type {p : Policy} {v : Json} {type : String}
    (htype : v.field? "type" = some (.str type)) (hne : type ≠ "pointerMove") : v.Paced p := by
  intro hmove
  rw [htype] at hmove
  exact absurd (str.inj (Option.some.inj hmove)) hne

end Json

/-- The time that an interaction takes, if it takes any. -/
def Interaction.duration? : Interaction → Option Span
  | pointerMove duration _ _ _ | pause duration => some duration
  | _ => none

/-- The one action of a gesture that takes time, as a payload is to tell it. -/
def Gesture.timedAction? (p : Policy) : Gesture → Option Json
  | moveToElement target x y =>
      some (.moveAction p.elementMoveMs.toNat (.obj [(Origin.elementKey, .str target.id)]) x y)
  | moveByOffset x y => some (.moveAction p.offsetMoveMs.toNat (.str "pointer") x y)
  | pause d =>
      some (.pauseAction (min (d.seconds * 1000 + d.subsecondNanos / 1000000)
        18446744073709551615))
  | _ => none

/-- The gestures that a call makes, those of a script step by step. -/
def Call.allGestures (p : Policy) : Call → List Gesture
  | script s => s.steps.flatMap fun st => (st.asCall p).gestures p
  | c => c.gestures p

/-! ## Spans -/

namespace Span

/-- Every number of seconds of 64 bits makes up a span with the nanoseconds beyond them. -/
theorem exists_ofParts? {seconds nanos : Nat} (hseconds : seconds < 18446744073709551616)
    (hnanos : nanos < 1000000000) :
    ∃ d, ofParts? seconds nanos = some d ∧ d.seconds = seconds
      ∧ d.subsecondNanos = nanos := by
  have hlt : seconds * 1000000000 + nanos < 18446744073709551616 * 1000000000 := by omega
  refine ⟨⟨_, hlt⟩, dif_pos hlt, ?_, ?_⟩
  · show (seconds * 1000000000 + nanos) / 1000000000 = seconds
    omega
  · show (seconds * 1000000000 + nanos) % 1000000000 = nanos
    omega

theorem millis_eq (d : Span) : d.millis = d.seconds * 1000 + d.subsecondNanos / 1000000 := by
  rw [millis, ← d.seconds_add_subsecondNanos]
  omega

/-- A span is told in whole milliseconds, and no more of them than fit 64 bits. -/
theorem wireMillis_eq (d : Span) :
    d.wireMillis
      = min (d.seconds * 1000 + d.subsecondNanos / 1000000) 18446744073709551615 := by
  rw [wireMillis, millis_eq]
  rfl

/-- Milliseconds of 64 bits are told as they are. -/
theorem wireMillis_ofMillis (ms : UInt64) : (ofMillis ms).wireMillis = ms.toNat := by
  rw [wireMillis, millis_ofMillis]
  exact Nat.min_eq_left (Nat.le_sub_one_of_lt ms.toNat_lt)

end Span

/-! ## Interactions of gestures -/

theorem Interaction.field?_duration_toJson {i : Interaction} {d : Span} (h : i.duration? = some d) :
    i.toJson.sorted.field? "duration" = some (.int d.wireMillis) := by
  cases i with
  | pointerMove duration origin x y =>
      obtain rfl := Option.some.inj h
      rfl
  | pause duration =>
      obtain rfl := Option.some.inj h
      rfl
  | pointerDown _ | pointerUp _ | keyDown _ | keyUp _ => cases h

namespace Gesture

variable {pointer : Pointer} {keyboard : Keyboard} {p : Policy} {g : Gesture}

/-- A gesture that takes time is one action of the pointer, told with its time. -/
theorem expand_of_timedAction? (pointer : Pointer) (keyboard : Keyboard) {v : Json}
    (h : g.timedAction? p = some v) :
    ∃ i, g.expand pointer keyboard p = [⟨.pointer pointer, i⟩] ∧ i.toJson.sorted = v := by
  cases g with
  | moveToElement target x y =>
      obtain rfl := Option.some.inj h
      refine ⟨_, rfl, ?_⟩
      rw [← Span.wireMillis_ofMillis]
      rfl
  | moveByOffset x y =>
      obtain rfl := Option.some.inj h
      refine ⟨_, rfl, ?_⟩
      rw [← Span.wireMillis_ofMillis]
      rfl
  | pause d =>
      obtain rfl := Option.some.inj h
      refine ⟨_, rfl, ?_⟩
      rw [← Span.wireMillis_eq]
      rfl
  | click | contextClick | clickAndHold | release | keyDown _ | keyUp _ | sendKeys _ => cases h

/-- The actions of a gesture keep the pace of the policy that it is expanded under. -/
theorem paced_of_mem_expand {a : DeviceAction} (h : a ∈ g.expand pointer keyboard p) :
    a.interaction.toJson.sorted.Paced p := by
  cases g with
  | moveToElement target x y =>
      obtain rfl := List.mem_singleton.mp h
      intro _
      left
      refine ⟨⟨target.id, rfl⟩, ?_⟩
      rw [← Span.wireMillis_ofMillis]
      rfl
  | moveByOffset x y =>
      obtain rfl := List.mem_singleton.mp h
      intro _
      right
      refine ⟨rfl, ?_⟩
      rw [← Span.wireMillis_ofMillis]
      rfl
  | click | contextClick =>
      rcases List.mem_pair.mp h with rfl | rfl
      · exact Json.paced_of_type rfl (by decide)
      · exact Json.paced_of_type rfl (by decide)
  | clickAndHold | release | pause _ =>
      obtain rfl := List.mem_singleton.mp h
      exact Json.paced_of_type rfl (by decide)
  | keyDown key | keyUp key =>
      obtain ⟨c, -, rfl⟩ := List.mem_map.mp h
      exact Json.paced_of_type rfl (by decide)
  | sendKeys keys =>
      obtain ⟨c, -, hc⟩ := List.mem_flatMap.mp h
      rcases List.mem_pair.mp hc with rfl | rfl
      · exact Json.paced_of_type rfl (by decide)
      · exact Json.paced_of_type rfl (by decide)

end Gesture

/-! ## Actions of a plan -/

namespace Plan

/-- A source of the payload shows what stands in its timeline. -/
theorem actionAt?_toValue (plan : Plan) (source tick : Nat) :
    plan.toValue.actionAt? source tick
      = plan.timelines[source]?.bind fun l => l.steps[tick]?.map fun i => i.toJson.sorted := by
  have hsteps : plan.sources.map Source.actions = plan.timelines.map Timeline.steps := by
    have hcontent := congrArg (List.map Prod.snd) (Source.map_content_assign [] plan.timelines)
    rw [List.map_map, List.map_map] at hcontent
    exact hcontent
  have hshown : ∀ s : Source,
      ((s.toJson.sorted.fieldAs? "actions" Json.items?).bind fun vs => vs[tick]?)
        = s.actions[tick]?.map fun i => i.toJson.sorted := by
    intro s
    rw [Json.fieldAs?, Source.field?_actions_toJson]
    show (s.actions.map fun i => i.toJson.sorted)[tick]? = _
    rw [List.getElem?_map]
  have hline := congrArg (fun xs => xs[source]?) hsteps
  simp only [List.getElem?_map] at hline
  rw [Json.actionAt?, sources_toValue, List.getElem?_map]
  cases hs : plan.sources[source]? with
  | none =>
      rw [hs, Option.map_none] at hline
      rw [Option.map_eq_none_iff.mp hline.symm]
      rfl
  | some s =>
      rw [hs, Option.map_some] at hline
      obtain ⟨l, hl, hls⟩ := Option.map_eq_some_iff.mp hline.symm
      rw [hl]
      show ((s.toJson.sorted.fieldAs? "actions" Json.items?).bind fun vs => vs[tick]?)
        = l.steps[tick]?.map _
      rw [hshown, hls]

end Plan

/-! ## Calls without fault -/

namespace Call

variable {recording : Bool} {p : Policy} {c : Call}

theorem allOrNone_of_sound {gs : List Gesture}
    (h : (allOrNone recording p gs).findSome? Event.fault? = none) :
    allOrNone recording p gs = gs.map (.gesture p) := by
  rw [findSome?_fault?_allOrNone] at h
  rw [allOrNone, h]

theorem flatMap_batches_gestures (pointer : Pointer) (keyboard : Keyboard) (gs : List Gesture) :
    (gs.map (Event.gesture p)).flatMap (Event.batches pointer keyboard)
      = (gs.flatMap (Gesture.expand pointer keyboard p)).map ([·]) := by
  rw [List.flatMap_map, List.map_flatMap]
  rfl

/-- A call without fault ticks through the actions of its gestures, unless it is a raw tick. -/
theorem flatMap_batches_of_sound (pointer : Pointer) (keyboard : Keyboard)
    (hraw : ∀ batch, c ≠ .tick batch)
    (hsound : (c.events recording p).findSome? Event.fault? = none) :
    (c.events recording p).flatMap (Event.batches pointer keyboard)
      = ((c.allGestures p).flatMap (Gesture.expand pointer keyboard p)).map ([·]) := by
  by_cases hg : c.gestures p = []
  · cases c with
    | script s =>
        -- step by step, all gestures are taken
        have hsteps : ∀ st ∈ s.steps, allOrNone recording p ((st.asCall p).gestures p)
            = ((st.asCall p).gestures p).map (.gesture p) := by
          intro st hst
          refine allOrNone_of_sound ?_
          rw [List.findSome?_eq_none_iff] at hsound ⊢
          exact fun e he => hsound e (List.mem_flatMap.mpr ⟨st, hst, he⟩)
        have hevents : (script s).events recording p
            = ((script s).allGestures p).map (.gesture p) := by
          rw [allGestures, List.map_flatMap]
          exact List.flatMap_congr hsteps
        rw [hevents, flatMap_batches_gestures]
    | tick batch => exact absurd rfl (hraw batch)
    | policy _ | newPointer _ _ | newKeyboard _ => rfl
    | _ => exact absurd hg (List.cons_ne_nil _ _)
  · have hall : c.allGestures p = c.gestures p := by
      cases c with
      | script _ => exact absurd rfl hg
      | _ => rfl
    rw [events_of_gestures recording hg] at hsound ⊢
    rw [allOrNone_of_sound hsound, flatMap_batches_gestures, hall]

end Call

namespace Timelines

/-- Batches that count by themselves count behind others. -/
theorem counted_append {bs cs : List (List DeviceAction)} (h : counted cs = cs) :
    counted (bs ++ cs) = counted bs ++ cs := by
  rw [counted] at h
  rw [counted, counted, List.dropWhile_append]
  by_cases hbs : (bs.dropWhile List.isEmpty).isEmpty = true
  · rw [if_pos hbs, h, List.isEmpty_iff.mp hbs, List.nil_append]
  · rw [if_neg hbs]

end Timelines

namespace Session

theorem run_pointer (s : Session) (calls : List Call) : (s.run calls).pointer = s.pointer := by
  rw [run_eq_receiveAll, receiveAll_pointer]

theorem run_keyboard (s : Session) (calls : List Call) : (s.run calls).keyboard = s.keyboard := by
  rw [run_eq_receiveAll, receiveAll_keyboard]

theorem ticks_run (o : Opening) (calls : List Call) :
    (o.session.run calls).timelines.ticks
      = (Timelines.counted (o.session.batches calls)).length := by
  rw [run_timelines]
  rfl

section

variable {o : Opening} {before after : List Call} {c : Call} {plan : Plan}

/-- The batches of a call, at its place in a run. -/
def callBatches (s : Session) (c : Call) : List (List DeviceAction) :=
  (c.events s.isRecording s.policy).flatMap (Event.batches s.pointer s.keyboard)

theorem batches_append_cons (o : Opening) (before : List Call) (c : Call) (after : List Call) :
    o.session.batches before ++ (o.session.run before).callBatches c
      <+: o.session.batches (before ++ c :: after) := by
  rw [batches, batches, callBatches, run_pointer, run_keyboard, events_append, events_cons,
    List.flatMap_append, List.flatMap_append, ← List.append_assoc]
  exact List.prefix_append _ _

theorem ticks_call (o : Opening) (before : List Call) {c : Call}
    (hcounted : Timelines.counted ((o.session.run before).callBatches c)
      = (o.session.run before).callBatches c) :
    ((o.session.run before).call c).timelines.ticks
      = (o.session.run before).timelines.ticks
        + ((o.session.run before).callBatches c).length := by
  have hcall : (o.session.run before).call c = o.session.run (before ++ [c]) := by
    rw [run_append]
    rfl
  have hbatches : o.session.batches (before ++ [c])
      = o.session.batches before ++ (o.session.run before).callBatches c := by
    have hnil : ((o.session.run before).call c).events [] = [] := rfl
    rw [batches, batches, callBatches, run_pointer, run_keyboard, events_append,
      List.flatMap_append, events_cons, hnil, List.append_nil]
  rw [hcall, ticks_run, ticks_run, hbatches, Timelines.counted_append hcounted,
    List.length_append]

/-- No call before a build is at fault. -/
theorem sound_of_build (hbuild : (o.session.run (before ++ c :: after)).build = .ok plan) :
    (c.events (o.session.run before).isRecording (o.session.run before).policy).findSome?
      Event.fault? = none := by
  have hall := findSome?_fault?_of_build hbuild
  rw [events_append, events_cons, List.findSome?_append, Option.or_eq_none_iff,
    List.findSome?_append, Option.or_eq_none_iff] at hall
  exact hall.2.1

/-- A call without fault has a tick for each action of its gestures. -/
theorem callBatches_of_sound {s : Session} (hraw : ∀ batch, c ≠ .tick batch)
    (hsound : (c.events s.isRecording s.policy).findSome? Event.fault? = none) :
    s.callBatches c = (s.expandAll (c.allGestures s.policy)).map ([·]) :=
  Call.flatMap_batches_of_sound s.pointer s.keyboard hraw hsound

theorem counted_callBatches_of_sound {s : Session} (hraw : ∀ batch, c ≠ .tick batch)
    (hsound : (c.events s.isRecording s.policy).findSome? Event.fault? = none) :
    Timelines.counted (s.callBatches c) = s.callBatches c := by
  rw [callBatches_of_sound hraw hsound]
  exact Timelines.counted_singletons _

/-- Such a call brings its ticks behind those that were there. -/
theorem ticks_call_of_sound (o : Opening) (before : List Call) {c : Call}
    (hraw : ∀ batch, c ≠ .tick batch)
    (hsound : (c.events (o.session.run before).isRecording
      (o.session.run before).policy).findSome? Event.fault? = none) :
    ((o.session.run before).call c).timelines.ticks
      = (o.session.run before).timelines.ticks
        + ((o.session.run before).expandAll
            (c.allGestures (o.session.run before).policy)).length := by
  rw [ticks_call o before (counted_callBatches_of_sound hraw hsound),
    callBatches_of_sound hraw hsound, List.length_map]

/-- A raw tick has its own batch. -/
theorem callBatches_tick (s : Session) {batch : List DeviceAction}
    (hnodup : (Timelines.batchIds batch).Nodup) : s.callBatches (.tick batch) = [batch] := by
  show (Call.tickEvents s.isRecording batch).flatMap _ = _
  rw [Call.tickEvents, if_pos hnodup]
  cases s.isRecording with
  | true | false => rfl

section

variable {tick source : Nat} {batch : List DeviceAction} {l : Timeline}
  (hcounted : Timelines.counted ((o.session.run before).callBatches c)
    = (o.session.run before).callBatches c)
  (hbatch : ((o.session.run before).callBatches c)[tick]? = some batch)

include hcounted hbatch

/-- The ticks of a call come behind those before it. -/
theorem getElem?_counted_of_call (after : List Call) :
    (Timelines.counted (o.session.batches (before ++ c :: after)))[
      (o.session.run before).timelines.ticks + tick]? = some batch := by
  obtain ⟨more, hmore⟩ := batches_append_cons o before c after
  have hprefix := Timelines.counted_prefix_append
    (o.session.batches before ++ (o.session.run before).callBatches c) more
  rw [hmore, Timelines.counted_append hcounted] at hprefix
  refine getElem?_of_prefix hprefix ?_
  rw [ticks_run, List.getElem?_append_right (Nat.le_add_right _ _), Nat.add_sub_cancel_left]
  exact hbatch

/-- **A call does in its own ticks what its batches say**, whatever comes before and after. -/
theorem getElem?_steps_of_call
    (hbuild : (o.session.run (before ++ c :: after)).build = .ok plan)
    (hl : plan.timelines[source]? = some l) :
    l.steps[(o.session.run before).timelines.ticks + tick]?
      = some (Timelines.stepIn batch l.device) := by
  have hplace := getElem?_counted_of_call hcounted hbatch after
  obtain ⟨-, rfl⟩ := build_eq_ok_iff.mp hbuild
  rw [run_timelines] at hl
  obtain ⟨-, hsteps⟩ := Timelines.getElem?_lines_ofBatches hl
  rw [hsteps, List.getElem?_map, hplace]
  rfl

/-- An action of a call is found in the payload, with its device and in its tick. -/
theorem exists_action_of_call {a : DeviceAction}
    (hbuild : (o.session.run (before ++ c :: after)).build = .ok plan)
    (hnodup : (Timelines.batchIds batch).Nodup) (ha : a ∈ batch) :
    ∃ source l, plan.timelines[source]? = some l ∧ l.device.isSame a.device = true
      ∧ plan.toValue.actionAt? source ((o.session.run before).timelines.ticks + tick)
        = some a.interaction.toJson.sorted := by
  have hplace := getElem?_counted_of_call hcounted hbatch after
  -- the device has come by this tick, so it has a timeline
  have hdevice : a.device.id ∈ plan.timelines.map fun l => l.device.id := by
    obtain ⟨-, rfl⟩ := build_eq_ok_iff.mp hbuild
    rw [run_timelines]
    show _ ∈ (Timelines.ofBatches _).ids
    rw [Timelines.ids_ofBatches, Timelines.mem_map_id_devicesOf]
    exact ⟨batch, List.mem_of_getElem? hplace, List.mem_map_of_mem ha⟩
  obtain ⟨l, hmem, hid⟩ := List.mem_map.mp hdevice
  obtain ⟨source, hl⟩ := List.mem_iff_getElem?.mp hmem
  have hstep := getElem?_steps_of_call hcounted hbatch hbuild hl
  rw [Timelines.stepIn_of_mem hnodup ha (Device.isSame_iff.mpr hid.symm)] at hstep
  refine ⟨source, l, hl, Device.isSame_iff.mpr hid, ?_⟩
  rw [Plan.actionAt?_toValue, hl, Option.bind_some, hstep]
  rfl

end

/-! ## What a call exports -/

/-- How the times of a call are told in the payload of a plan that is built later. -/
structure ExportsTimes (s : Session) (c : Call) (plan : Plan) : Prop where
  /-- In the ticks of the call, unless these are raw ones, all moves keep the pace of the policy
      that was in force. -/
  moves_paced : (∀ batch, c ≠ .tick batch) → ∀ source tick v, s.timelines.ticks ≤ tick →
    tick < (s.call c).timelines.ticks → plan.toValue.actionAt? source tick = some v →
    v.Paced s.policy
  /-- Each gesture that takes time is told in its tick, by the source of the default pointer. -/
  gesture_told : ∀ front g back v, c.allGestures s.policy = front ++ g :: back →
    g.timedAction? s.policy = some v →
    ∃ source l, plan.timelines[source]? = some l ∧ l.device.isSame (.pointer s.pointer) = true
      ∧ plan.toValue.actionAt? source (s.timelines.ticks + (s.expandAll front).length) = some v
  /-- A pause in a script is told behind the ticks of the steps before it. -/
  pause_told : ∀ front ms back, c = .script ⟨front ++ .pause ms :: back⟩ →
    ∃ source l, plan.timelines[source]? = some l ∧ l.device.isSame (.pointer s.pointer) = true
      ∧ plan.toValue.actionAt? source (s.call (.script ⟨front⟩)).timelines.ticks
        = some (.pauseAction ms.toNat)
  /-- A raw tick may have any span there is: its whole milliseconds are told, and no more of them
      than fit 64 bits. -/
  raw_told : ∀ batch, c = .tick batch → (Timelines.batchIds batch).Nodup →
    ∀ seconds < 18446744073709551616, ∀ nanos < 1000000000,
    ∃ d, Span.ofParts? seconds nanos = some d
      ∧ ∀ a ∈ batch, a.interaction.duration? = some d →
        ∃ source l v, plan.timelines[source]? = some l ∧ l.device.isSame a.device = true
          ∧ plan.toValue.actionAt? source s.timelines.ticks = some v
          ∧ v.field? "duration"
            = some (.int (min (seconds * 1000 + nanos / 1000000) 18446744073709551615 : Nat))

theorem moves_paced_of_build {source tick : Nat} {v : Json}
    (hbuild : (o.session.run (before ++ c :: after)).build = .ok plan)
    (hraw : ∀ batch, c ≠ .tick batch) (hle : (o.session.run before).timelines.ticks ≤ tick)
    (hlt : tick < ((o.session.run before).call c).timelines.ticks)
    (hv : plan.toValue.actionAt? source tick = some v) : v.Paced (o.session.run before).policy := by
  have hsound := sound_of_build hbuild
  rw [ticks_call_of_sound o before hraw hsound] at hlt
  obtain ⟨k, rfl⟩ := Nat.exists_eq_add_of_le hle
  -- the tick has an action of one of the gestures
  obtain ⟨a, ha⟩ : ∃ a, ((o.session.run before).expandAll
      (c.allGestures (o.session.run before).policy))[k]? = some a :=
    ⟨_, List.getElem?_eq_getElem (Nat.lt_of_add_lt_add_left hlt)⟩
  have hbatch : ((o.session.run before).callBatches c)[k]? = some [a] := by
    rw [callBatches_of_sound hraw hsound, List.getElem?_map, ha]
    rfl
  rw [Plan.actionAt?_toValue, Option.bind_eq_some_iff] at hv
  obtain ⟨l, hl, hv⟩ := hv
  rw [getElem?_steps_of_call (counted_callBatches_of_sound hraw hsound) hbatch hbuild hl,
    Option.map_some, Option.some.injEq, Timelines.stepIn_singleton] at hv
  subst hv
  -- in it, the source shows the action or idles
  cases a.device.isSame l.device with
  | true =>
      obtain ⟨g, -, hg⟩ := List.mem_flatMap.mp (List.mem_of_getElem? ha)
      exact Gesture.paced_of_mem_expand hg
  | false => exact Json.paced_of_type rfl (by decide)

theorem gesture_told_of_build {front back : List Gesture} {g : Gesture} {v : Json}
    (hbuild : (o.session.run (before ++ c :: after)).build = .ok plan)
    (hgestures : c.allGestures (o.session.run before).policy = front ++ g :: back)
    (hv : g.timedAction? (o.session.run before).policy = some v) :
    ∃ source l, plan.timelines[source]? = some l
      ∧ l.device.isSame (.pointer (o.session.run before).pointer) = true
      ∧ plan.toValue.actionAt? source ((o.session.run before).timelines.ticks
          + ((o.session.run before).expandAll front).length) = some v := by
  have hraw : ∀ batch, c ≠ .tick batch := by
    rintro batch rfl
    exact absurd hgestures.symm (List.append_ne_nil_of_right_ne_nil _ (List.cons_ne_nil _ _))
  have hsound := sound_of_build hbuild
  obtain ⟨i, hexpand, rfl⟩ := Gesture.expand_of_timedAction? (o.session.run before).pointer
    (o.session.run before).keyboard hv
  let a : DeviceAction := ⟨.pointer (o.session.run before).pointer, i⟩
  have hall : (o.session.run before).expandAll (c.allGestures (o.session.run before).policy)
      = (o.session.run before).expandAll front
        ++ a :: (o.session.run before).expandAll back := by
    have hg : (o.session.run before).expand g = [a] := hexpand
    rw [hgestures, expandAll, List.flatMap_append, List.flatMap_cons, hg]
    rfl
  have hbatch : ((o.session.run before).callBatches c)[
      ((o.session.run before).expandAll front).length]? = some [a] := by
    rw [callBatches_of_sound hraw hsound, hall, List.getElem?_map, List.getElem?_append_right
      (Nat.le_refl _), Nat.sub_self]
    rfl
  exact exists_action_of_call (counted_callBatches_of_sound hraw hsound) hbatch hbuild
    (List.nodup_singleton a.device.id) (List.mem_singleton_self a)

theorem pause_told_of_build {front back : List Step} {ms : UInt64}
    (hbuild : (o.session.run (before ++ .script ⟨front ++ .pause ms :: back⟩ :: after)).build
      = .ok plan) :
    ∃ source l, plan.timelines[source]? = some l
      ∧ l.device.isSame (.pointer (o.session.run before).pointer) = true
      ∧ plan.toValue.actionAt? source
          ((o.session.run before).call (.script ⟨front⟩)).timelines.ticks
        = some (.pauseAction ms.toNat) := by
  have hgestures : Call.allGestures (o.session.run before).policy
        (.script ⟨front ++ .pause ms :: back⟩)
      = Call.allGestures (o.session.run before).policy (.script ⟨front⟩)
        ++ Gesture.pause (.ofMillis ms)
          :: Call.allGestures (o.session.run before).policy (.script ⟨back⟩) := by
    simp only [Call.allGestures, List.flatMap_append, List.flatMap_cons]
    rfl
  have htold : (Gesture.pause (.ofMillis ms)).timedAction? (o.session.run before).policy
      = some (.pauseAction ms.toNat) := by
    rw [Gesture.timedAction?, ← Span.wireMillis_eq, Span.wireMillis_ofMillis]
  -- the steps before the pause are without fault as well
  have hsound : ((Call.script ⟨front⟩).events (o.session.run before).isRecording
      (o.session.run before).policy).findSome? Event.fault? = none := by
    have hall := sound_of_build hbuild
    rw [Call.events, List.flatMap_append, List.findSome?_append, Option.or_eq_none_iff] at hall
    exact hall.1
  have hraw : ∀ batch, Call.script ⟨front⟩ ≠ .tick batch := by
    intro batch h
    cases h
  rw [ticks_call_of_sound o before hraw hsound]
  exact gesture_told_of_build hbuild hgestures htold

theorem raw_told_of_build {batch : List DeviceAction} {a : DeviceAction} {d : Span}
    (hbuild : (o.session.run (before ++ .tick batch :: after)).build = .ok plan)
    (hnodup : (Timelines.batchIds batch).Nodup) (ha : a ∈ batch)
    (hd : a.interaction.duration? = some d) :
    ∃ source l v, plan.timelines[source]? = some l ∧ l.device.isSame a.device = true
      ∧ plan.toValue.actionAt? source (o.session.run before).timelines.ticks = some v
      ∧ v.field? "duration" = some (.int d.wireMillis) := by
  have hbatches := callBatches_tick (o.session.run before) hnodup
  have hcounted : Timelines.counted ((o.session.run before).callBatches (.tick batch))
      = (o.session.run before).callBatches (.tick batch) := by
    rw [hbatches]
    cases batch with
    | nil => cases ha
    | cons _ _ => rfl
  have hbatch : ((o.session.run before).callBatches (.tick batch))[0]? = some batch := by
    rw [hbatches]
    rfl
  obtain ⟨source, l, hl, hsame, hv⟩ := exists_action_of_call hcounted hbatch hbuild hnodup ha
  exact ⟨source, l, _, hl, hsame, hv, Interaction.field?_duration_toJson hd⟩

end

/-- **Times that are configured reach the payload as they are.** -/
theorem configured_millis_reach_payload (o : Opening) (before : List Call) (c : Call)
    (after : List Call) (plan : Plan)
    (hbuild : (o.session.run (before ++ c :: after)).build = .ok plan) :
    (o.session.run before).ExportsTimes c plan := by
  constructor
  case moves_paced =>
    intro hraw source tick v hle hlt hv
    exact moves_paced_of_build hbuild hraw hle hlt hv
  case gesture_told =>
    intro front g back v hgestures hv
    exact gesture_told_of_build hbuild hgestures hv
  case pause_told =>
    rintro front ms back rfl
    exact pause_told_of_build hbuild
  case raw_told =>
    rintro batch rfl hnodup seconds hseconds nanos hnanos
    obtain ⟨d, hparts, rfl, rfl⟩ := Span.exists_ofParts? hseconds hnanos
    refine ⟨d, hparts, ?_⟩
    intro a ha hd
    rw [← Span.wireMillis_eq]
    exact raw_told_of_build hbuild hnodup ha hd

/-- The longest moves there are, then a drag and the longest pause in a script, and last a policy
    that comes too late for them. -/
theorem configured_millis_reach_payload_longest :
    let o := Opening.onEndpoint ⟨true, none⟩
    let before := [Call.policy { elementMoveMs := 18446744073709551615, offsetMoveMs := 0 },
      .tick [defaultPointer.pause ⟨18446744073709551615999999999, by decide⟩]]
    let c := Call.script ⟨[.dragAndDropBy ⟨"slider"⟩ 40 0, .pause 18446744073709551615]⟩
    let after := [Call.policy {}, .moveByOffset 1 1]
    let plan : Plan := ⟨(o.session.run (before ++ c :: after)).timelines.lines, []⟩
    (o.session.run (before ++ c :: after)).build = .ok plan
      ∧ (o.session.run before).ExportsTimes c plan := by
  intro o before c after plan
  have hbuild : (o.session.run (before ++ c :: after)).build = .ok plan := rfl
  exact ⟨hbuild, configured_millis_reach_payload o before c after plan hbuild⟩

end Session

end GestureTimeline
