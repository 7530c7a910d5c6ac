import GestureTimeline.Proofs.Deferral
import GestureTimeline.Proofs.Identities

/-! # With and without legacy handles

    A session with a legacy handle is stricter than one without: it takes named modifiers only,
    and no raw ticks.  It is no different in anything else that reaches the timelines.  So where
    it can be built, the same calls without a handle have the same events, and lead to the same
    timelines and the same payload.

    The two sessions are different ones, with identities of their own; the comparison is made
    under a renaming from those of the one to those of the other. -/

namespace GestureTimeline

/-! ## What is sound with a handle is sound without -/

namespace Gesture

theorem keyFault?_eq_none_of_recording {key : KeyInput} (h : keyFault? true key = none) :
    keyFault? false key = none := by
  have hmodifier : key.modifier? ≠ none := by
    intro hk
    rw [keyFault?_of_recording, if_pos hk] at h
    exact nomatch h
  rw [keyFault?_of_not_recording,
    if_neg (not_not_intro (KeyInput.length_codePoints_of_modifier? hmodifier))]

theorem fault?_of_recording {g : Gesture} (h : g.fault? true = none) : g.fault? false = none := by
  cases g with
  | keyDown key | keyUp key => exact keyFault?_eq_none_of_recording h
  | click | contextClick | clickAndHold | release | moveToElement _ _ _ | moveByOffset _ _
  | sendKeys _ | pause _ => rfl

end Gesture

namespace Call

/-- Gestures without fault are the same events in both modes. -/
theorem allOrNone_of_recording {p : Policy} {gs : List Gesture}
    (h : (allOrNone true p gs).findSome? Event.fault? = none) :
    allOrNone false p gs = allOrNone true p gs := by
  rw [findSome?_fault?_allOrNone] at h
  have hfalse : gs.findSome? (Gesture.fault? false) = none := by
    rw [List.findSome?_eq_none_iff] at h ⊢
    exact fun g hg => Gesture.fault?_of_recording (h g hg)
  rw [allOrNone, allOrNone, h, hfalse]

/-- A call without fault is the same events in both modes. -/
theorem events_of_recording {p : Policy} {c : Call}
    (h : (c.events true p).findSome? Event.fault? = none) :
    c.events false p = c.events true p := by
  by_cases hg : c.gestures p = []
  · cases c with
    | script s =>
        refine List.flatMap_congr fun st hst => allOrNone_of_recording ?_
        rw [List.findSome?_eq_none_iff] at h ⊢
        exact fun e he => h e (List.mem_flatMap.mpr ⟨st, hst, he⟩)
    | tick batch =>
        -- a tick that is taken is a fault of its own
        by_cases hnd : (Timelines.batchIds batch).Nodup
        · have hfault : Event.fault .conflictingProtocols ∈ tickEvents true batch := by
            rw [tickEvents, if_pos hnd]
            exact List.mem_cons_of_mem _ (List.mem_singleton.mpr rfl)
          exact absurd (List.findSome?_eq_none_iff.mp h _ hfault) (Option.some_ne_none _)
        · show tickEvents false batch = tickEvents true batch
          rw [tickEvents, tickEvents, if_neg hnd, if_neg hnd]
    | policy _ | newPointer _ _ | newKeyboard _ => rfl
    | _ => exact absurd hg (List.cons_ne_nil _ _)
  · rw [events_of_gestures true hg] at h
    rw [events_of_gestures true hg, events_of_gestures false hg]
    exact allOrNone_of_recording h

/-- A run without fault is the same events in both modes. -/
theorem eventsOf_of_recording {p : Policy} {calls : List Call}
    (h : (eventsOf true p calls).findSome? Event.fault? = none) :
    eventsOf false p calls = eventsOf true p calls := by
  induction calls generalizing p with
  | nil => rfl
  | cons c cs ih =>
      rw [eventsOf, List.findSome?_append, Option.or_eq_none_iff] at h
      rw [eventsOf, eventsOf, events_of_recording h.1, ih h.2]

end Call

/-! ## The devices of gestures -/

/-- Gestures act on the default devices. -/
theorem Gesture.device_of_mem_expand {pointer : Pointer} {keyboard : Keyboard} {p : Policy}
    {g : Gesture} {a : DeviceAction} (h : a ∈ g.expand pointer keyboard p) :
    a.device = .pointer pointer ∨ a.device = .keyboard keyboard := by
  cases g with
  | keyDown key | keyUp key =>
      obtain ⟨c, -, rfl⟩ := List.mem_map.mp h
      exact Or.inr rfl
  | sendKeys keys =>
      obtain ⟨c, -, hc⟩ := List.mem_flatMap.mp h
      simp only [stroke, List.mem_cons, List.not_mem_nil, or_false] at hc
      rcases hc with rfl | rfl <;> exact Or.inr rfl
  | click | contextClick =>
      simp only [expand, clickWith, List.mem_cons, List.not_mem_nil, or_false] at h
      rcases h with rfl | rfl <;> exact Or.inl rfl
  | clickAndHold | release | moveToElement _ _ _ | moveByOffset _ _ | pause _ =>
      rw [List.mem_singleton.mp h]
      exact Or.inl rfl

theorem Device.mem_of_mem_firsts {ds : List Device} {d : Device} (h : d ∈ firsts ds) : d ∈ ds := by
  induction ds using List.reverseRecOn with
  | nil => exact h
  | append_singleton ds e ih =>
      rw [firsts_append_singleton] at h
      by_cases he : e.id ∈ ds.map id
      · rw [if_pos he] at h
        exact List.mem_append_left _ (ih h)
      · rw [if_neg he] at h
        rcases List.mem_append.mp h with hds | hd
        · exact List.mem_append_left _ (ih hds)
        · exact List.mem_append_right _ hd

namespace Session

/-- While a session records and can be built, its timelines are those of the default devices. -/
theorem device_of_build_of_recording {o : Opening} {calls : List Call} {plan : Plan}
    (hrec : o.session.isRecording = true) (hbuild : (o.session.run calls).build = .ok plan)
    {l : Timeline} (hl : l ∈ plan.timelines) :
    l.device = .pointer defaultPointer ∨ l.device = .keyboard defaultKeyboard := by
  have htick := tick_notMem_of_build hrec hbuild
  obtain ⟨-, rfl⟩ := build_eq_ok_iff.mp hbuild
  rw [run_timelines] at hl
  obtain ⟨d, hd, rfl⟩ := List.mem_map.mp hl
  -- the device occurs in a batch, and the batches are those of gestures
  obtain ⟨a, ha, rfl⟩ := List.mem_map.mp (Device.mem_of_mem_firsts hd)
  obtain ⟨b, hb, hab⟩ := List.mem_flatten.mp ha
  obtain ⟨e, he, hbe⟩ := List.mem_flatMap.mp ((List.dropWhile_suffix List.isEmpty).subset hb)
  cases e with
  | gesture p g =>
      obtain ⟨x, hx, rfl⟩ := List.mem_map.mp hbe
      obtain rfl := List.mem_singleton.mp hab
      have hdevice := Gesture.device_of_mem_expand hx
      rw [o.session_pointer, o.session_keyboard] at hdevice
      exact hdevice
  | tick batch => exact absurd he (htick batch)
  | fault _ | policy _ | device => exact nomatch hbe

/-- The two default devices have names of their own, so the timelines of such a plan have too. -/
theorem nodup_wireId_of_build_of_recording {o : Opening} {calls : List Call} {plan : Plan}
    (hrec : o.session.isRecording = true) (hbuild : (o.session.run calls).build = .ok plan) :
    (plan.timelines.map (·.device.wireId)).Nodup := by
  have hdefault : ∀ d ∈ plan.timelines.map Timeline.device,
      d = .pointer defaultPointer ∨ d = .keyboard defaultKeyboard := by
    intro d hd
    obtain ⟨l, hl, rfl⟩ := List.mem_map.mp hd
    exact device_of_build_of_recording hrec hbuild hl
  have hdevices : (plan.timelines.map Timeline.device).Nodup := by
    refine List.Nodup.of_map Device.id ?_
    obtain ⟨-, rfl⟩ := build_eq_ok_iff.mp hbuild
    rw [run_timelines, List.map_map]
    exact (Timelines.indexed_ofBatches _).nodup
  have hwire : plan.timelines.map (·.device.wireId)
      = (plan.timelines.map Timeline.device).map Device.wireId := by
    rw [List.map_map]
    rfl
  rw [hwire]
  refine hdevices.map_on fun d hd e he hde => ?_
  rcases hdefault d hd with rfl | rfl <;> rcases hdefault e he with rfl | rfl
  · rfl
  · exact absurd hde (by decide)
  · exact absurd hde (by decide)
  · rfl

/-- A session can be built when nothing that was attempted is a mistake. -/
theorem exists_build_iff (o : Opening) (calls : List Call) :
    (∃ plan, (o.session.run calls).build = .ok plan)
      ↔ ∀ a ∈ calls.flatMap Call.attempts, ∀ e, ¬ a.Mistaken o.session.isRecording e := by
  have hdeferred := run_deferred o.session calls
  rw [o.session_deferred, Option.none_or] at hdeferred
  rw [← Attempt.findSome?_fault?_eq_none_iff, ← hdeferred]
  constructor
  · rintro ⟨plan, hplan⟩
    exact (build_eq_ok_iff.mp hplan).1
  · intro h
    exact ⟨_, build_eq_ok_iff.mpr ⟨h, rfl⟩⟩

/-- Where a session with a handle can be built, one without has the same events. -/
theorem events_eq_of_build {o₁ o₂ : Opening} {calls : List Call} {plan : Plan}
    (hrec : o₁.session.isRecording = true) (hnot : o₂.session.isRecording = false)
    (hbuild : (o₁.session.run calls).build = .ok plan) :
    o₂.session.events calls = o₁.session.events calls := by
  have hsound := findSome?_fault?_of_build hbuild
  rw [events, hrec, o₁.session_policy] at hsound
  rw [events, events, hrec, hnot, o₁.session_policy, o₂.session_policy]
  exact Call.eventsOf_of_recording hsound

/-- So it can be built as well, from the same timelines. -/
theorem exists_build_of_build {o₁ o₂ : Opening} {calls : List Call} {plan : Plan}
    (hrec : o₁.session.isRecording = true) (hnot : o₂.session.isRecording = false)
    (hbuild : (o₁.session.run calls).build = .ok plan) :
    (o₂.session.run calls).deferred = none
      ∧ (o₂.session.run calls).timelines.lines = plan.timelines := by
  have hevents := events_eq_of_build hrec hnot hbuild
  have hbatches : o₂.session.batches calls = o₁.session.batches calls := batches_congr hevents
  refine ⟨?_, ?_⟩
  · rw [run_eq_receiveAll, receiveAll_deferred, hevents, findSome?_fault?_of_build hbuild,
      o₂.session_deferred]
    rfl
  · rw [(build_eq_ok_iff.mp hbuild).2, run_timelines, run_timelines, hbatches]

/-- **A legacy handle changes nothing in what the synchronized command is sent.**  Where the
    session with a handle can be built, the one without can be too, and its plan has the same
    timelines and the same payload.  The one with a handle can be built exactly if every key
    that is held or let go of is a named modifier and no raw tick is taken. -/
theorem recording_keeps_synchronized_form (o₁ o₂ : Opening) (f : DeviceId → DeviceId)
    (calls : List Call) (hwith : o₁.captured?.isSome = true)
    (hwithout : o₂.captured?.isSome = false) (hf : Function.Injective f) :
    (∀ p, (o₁.session.run calls).build = .ok p →
        ∃ q, ((o₂.sessionUnder f).run (calls.map (Call.rename f))).build = .ok q
          ∧ q.tickCount = p.tickCount
          ∧ q.timelines = p.timelines.map (Timeline.rename f)
          ∧ q.toJson = p.toJson)
      ∧ ((∃ p, (o₁.session.run calls).build = .ok p)
        ↔ (∀ key, Attempt.key key ∈ calls.flatMap Call.attempts →
            ∃ k, key = .named k ∧ k.isModifier = true)
          ∧ ∀ batch, Attempt.tick batch ∈ calls.flatMap Call.attempts →
            ¬ (Timelines.batchIds batch).Nodup) := by
  have hrec : o₁.session.isRecording = true := o₁.session_isRecording.trans hwith
  have hnot : o₂.session.isRecording = false := o₂.session_isRecording.trans hwithout
  refine ⟨?_, ?_⟩
  · intro p hp
    obtain ⟨hdeferred, hlines⟩ := exists_build_of_build hrec hnot hp
    have hrenamed := Opening.run_lines_rename hf o₂ calls
    rw [hlines] at hrenamed
    refine ⟨_, build_eq_ok_iff.mpr ⟨?_, rfl⟩, ?_, hrenamed, ?_⟩
    · rw [Opening.run_deferred_rename hf]
      exact hdeferred
    · rw [Plan.tickCount, Plan.tickCount, hrenamed]
      cases p.timelines with
      | nil => rfl
      | cons l ls => rfl
    · have hnamed : ∀ l ∈ p.timelines, l.device.name ≠ none := by
        intro l hl
        rcases device_of_build_of_recording hrec hp hl with h | h <;> rw [h] <;> decide
      rw [Plan.toJson, Plan.toJson, Plan.actionsJson, Plan.actionsJson, Plan.sources,
        Plan.sources, hrenamed, Source.ofTimelines_map_rename f hnamed
          (nodup_wireId_of_build_of_recording hrec hp)]
  · rw [exists_build_iff, hrec]
    constructor
    · intro h
      exact ⟨fun key hkey => Attempt.not_mistaken_key_iff.mp (h _ hkey),
        fun batch hbatch => Attempt.not_mistaken_tick_iff.mp (h _ hbatch)⟩
    · rintro ⟨hkeys, hticks⟩ a ha
      cases a with
      | key key => exact Attempt.not_mistaken_key_iff.mpr (hkeys key ha)
      | tick batch => exact Attempt.not_mistaken_tick_iff.mpr (hticks batch ha)

/-- A drag with a key held by a script, and a tick that is refused. -/
theorem recording_keeps_synchronized_form_drag :
    let o₁ := Opening.onEndpoint ⟨true, some ⟨true, false⟩⟩
    let o₂ := Opening.onEndpoint ⟨true, none⟩
    let f : DeviceId → DeviceId := fun i => ⟨"other " ++ i.text⟩
    let pen : Pointer := ⟨.nth 2, none, .pen, false⟩
    let calls : List Call :=
      [.script ⟨[.keyDown (.named .shift) none, .click (some ⟨"card"⟩)]⟩,
        .dragAndDrop ⟨"card"⟩ ⟨"bin"⟩, .newPointer .pen none, .tick [pen.down 0, pen.up 0],
        .keyUp (.named .shift)]
    (o₁.captured?.isSome = true ∧ o₂.captured?.isSome = false ∧ Function.Injective f)
      ∧ (∀ p, (o₁.session.run calls).build = .ok p →
          ∃ q, ((o₂.sessionUnder f).run (calls.map (Call.rename f))).build = .ok q
            ∧ q.tickCount = p.tickCount
            ∧ q.timelines = p.timelines.map (Timeline.rename f)
            ∧ q.toJson = p.toJson)
      ∧ ((∃ p, (o₁.session.run calls).build = .ok p)
        ↔ (∀ key, Attempt.key key ∈ calls.flatMap Call.attempts →
            ∃ k, key = .named k ∧ k.isModifier = true)
          ∧ ∀ batch, Attempt.tick batch ∈ calls.flatMap Call.attempts →
            ¬ (Timelines.batchIds batch).Nodup) := by
  intro o₁ o₂ f pen calls
  have hf : Function.Injective f := by
    rintro ⟨s⟩ ⟨t⟩ h
    rw [DeviceId.mk.injEq] at h ⊢
    exact (String.append_right_inj _).mp h
  exact ⟨⟨rfl, rfl, hf⟩, recording_keeps_synchronized_form o₁ o₂ f calls rfl rfl hf⟩

end Session

end GestureTimeline
