import GestureTimeline.Proofs.RecordingMode
import GestureTimeline.Proofs.SourceGrowth
import GestureTimeline.Text.Digits

/-! # Sources hold actions of their own type

    A device and what it does are stored side by side, and nothing in the types keeps a key from
    standing in the timeline of a pointer.  Two things keep it out: actions are made by methods
    of the device that they are bound to, so each is one of its device's type, and a timeline is
    found by an identity, which is generated for one device.

    In a run this carries over from the batches to the timelines that they describe
    (`Timelines.performs_of_mem_steps`): what a device does in a tick was made by a device of its
    identity, or it idles.  From there it reaches the payload. -/

namespace GestureTimeline

/-! ## Types of devices and of what they do -/

/-- Whether a device is a pointer; if not, it is a keyboard. -/
def Device.isPointer : Device → Bool
  | pointer _ => true
  | keyboard _ => false

namespace Interaction

/-- What a pointer can do. -/
inductive OfPointer : Interaction → Prop where
  | down (button : UInt32) : OfPointer (pointerDown button)
  | up (button : UInt32) : OfPointer (pointerUp button)
  | move (duration : Span) (origin : Origin) (x y : Int32) :
      OfPointer (pointerMove duration origin x y)
  | pause (duration : Span) : OfPointer (pause duration)

/-- What a keyboard can do. -/
inductive OfKeyboard : Interaction → Prop where
  | down (value : Char) : OfKeyboard (keyDown value)
  | up (value : Char) : OfKeyboard (keyUp value)
  | pause (duration : Span) : OfKeyboard (pause duration)

end Interaction

/-- What a device can do, by its type. -/
def Device.Performs (d : Device) (i : Interaction) : Prop :=
  match d with
  | pointer _ => i.OfPointer
  | keyboard _ => i.OfKeyboard

/-- The actions that the methods of pointers and keyboards make. -/
inductive DeviceAction.Made : DeviceAction → Prop where
  | pointerDown (p : Pointer) (button : UInt32) : Made (p.down button)
  | pointerUp (p : Pointer) (button : UInt32) : Made (p.up button)
  | pointerMove (p : Pointer) (duration : Span) (origin : Origin) (x y : Int32) :
      Made (p.move duration origin x y)
  | pointerPause (p : Pointer) (duration : Span) : Made (p.pause duration)
  | keyDown (k : Keyboard) (value : Char) : Made (k.down value)
  | keyUp (k : Keyboard) (value : Char) : Made (k.up value)
  | keyPause (k : Keyboard) (duration : Span) : Made (k.pause duration)

namespace Device

/-- Every device can idle. -/
theorem performs_idle (d : Device) : d.Performs .idle := by
  cases d with
  | pointer p => exact .pause .zero
  | keyboard k => exact .pause .zero

/-- What a device can do depends on its type alone. -/
theorem Performs.of_isPointer_eq {d e : Device} {i : Interaction} (h : d.Performs i)
    (hde : d.isPointer = e.isPointer) : e.Performs i := by
  cases d with
  | pointer p =>
      cases e with
      | pointer q => exact h
      | keyboard k => cases hde
  | keyboard k =>
      cases e with
      | pointer p => cases hde
      | keyboard j => exact h

end Device

/-- A method makes an action of its device's type. -/
theorem DeviceAction.Made.performs {a : DeviceAction} (h : a.Made) :
    a.device.Performs a.interaction := by
  cases h with
  | pointerDown p button => exact .down button
  | pointerUp p button => exact .up button
  | pointerMove p duration origin x y => exact .move duration origin x y
  | pointerPause p duration => exact .pause duration
  | keyDown k value => exact .down value
  | keyUp k value => exact .up value
  | keyPause k duration => exact .pause duration

/-- Gestures are expanded by the methods of the default devices. -/
theorem Gesture.made_of_mem_expand {pointer : Pointer} {keyboard : Keyboard} {p : Policy}
    {g : Gesture} {a : DeviceAction} (h : a ∈ g.expand pointer keyboard p) : a.Made := by
  cases g with
  | click | contextClick =>
      rcases List.mem_pair.mp h with rfl | rfl
      · exact .pointerDown pointer _
      · exact .pointerUp pointer _
  | clickAndHold =>
      obtain rfl := List.mem_singleton.mp h
      exact .pointerDown pointer _
  | release =>
      obtain rfl := List.mem_singleton.mp h
      exact .pointerUp pointer _
  | moveToElement target x y =>
      obtain rfl := List.mem_singleton.mp h
      exact .pointerMove pointer _ _ x y
  | moveByOffset x y =>
      obtain rfl := List.mem_singleton.mp h
      exact .pointerMove pointer _ _ x y
  | keyDown key =>
      obtain ⟨c, -, rfl⟩ := List.mem_map.mp h
      exact .keyDown keyboard c
  | keyUp key =>
      obtain ⟨c, -, rfl⟩ := List.mem_map.mp h
      exact .keyUp keyboard c
  | sendKeys keys =>
      obtain ⟨c, -, hc⟩ := List.mem_flatMap.mp h
      rcases List.mem_pair.mp hc with rfl | rfl
      · exact .keyDown keyboard c
      · exact .keyUp keyboard c
  | pause duration =>
      obtain rfl := List.mem_singleton.mp h
      exact .pointerPause pointer duration

/-! ## Timelines of batches -/

/-- Of one identity all devices are of one type. -/
def Device.TypedById (ds : List Device) : Prop :=
  ∀ d ∈ ds, ∀ e ∈ ds, d.id = e.id → d.isPointer = e.isPointer

instance (ds : List Device) : Decidable (Device.TypedById ds) :=
  inferInstanceAs (Decidable (∀ d ∈ ds, ∀ e ∈ ds, d.id = e.id → d.isPointer = e.isPointer))

namespace Timelines

/-- In a tick a device does what an action of its identity says, or idles. -/
theorem stepIn_eq_idle_or (batch : List DeviceAction) (d : Device) :
    stepIn batch d = .idle
      ∨ ∃ a ∈ batch, a.device.id = d.id ∧ stepIn batch d = a.interaction := by
  rw [stepIn]
  cases h : batch.find? fun a => a.device.isSame d with
  | none => exact Or.inl rfl
  | some a =>
      have hsame : a.device.isSame d = true :=
        List.find?_some (p := fun x : DeviceAction => x.device.isSame d) h
      exact Or.inr ⟨a, List.mem_of_find?_eq_some h, Device.isSame_iff.mp hsame, rfl⟩

theorem exists_device_eq_of_mem_devicesOf {bs : List (List DeviceAction)} {d : Device}
    (h : d ∈ devicesOf bs) : ∃ b ∈ bs, ∃ a ∈ b, a.device = d := by
  obtain ⟨a, ha, had⟩ := List.mem_map.mp (Device.mem_of_mem_firsts h)
  obtain ⟨b, hb, hab⟩ := List.mem_flatten.mp ha
  exact ⟨b, hb, a, hab, had⟩

/-- **Timelines hold what their devices can do**, if the batches that they follow were made by
    methods of devices whose identities tell their types. -/
theorem performs_of_mem_steps {bs : List (List DeviceAction)} {ds : List Device}
    (hmade : ∀ b ∈ bs, ∀ a ∈ b, a.Made ∧ a.device ∈ ds) (htyped : Device.TypedById ds)
    {l : Timeline} (hl : l ∈ (ofBatches bs).lines) {i : Interaction} (hi : i ∈ l.steps) :
    l.device.Performs i := by
  obtain ⟨d, hd, rfl⟩ := List.mem_map.mp hl
  obtain ⟨b, hb, rfl⟩ := List.mem_map.mp hi
  rcases stepIn_eq_idle_or b d with hidle | ⟨a, ha, hid, hstep⟩
  · rw [hidle]
    exact d.performs_idle
  · obtain ⟨c, hc, e, he, rfl⟩ := exists_device_eq_of_mem_devicesOf hd
    obtain ⟨hmethod, hads⟩ := hmade b hb a ha
    rw [hstep]
    exact hmethod.performs.of_isPointer_eq (htyped _ hads _ (hmade c hc e he).2 hid)

end Timelines

/-! ## Runs -/

/-- The actions of a raw tick. -/
def Call.rawActions : Call → List DeviceAction
  | tick batch => batch
  | _ => []

namespace Session

/-- The devices that can act in a run: the default ones and those that raw ticks name. -/
def actors (calls : List Call) : List Device :=
  .pointer defaultPointer :: .keyboard defaultKeyboard
    :: (calls.flatMap Call.rawActions).map (·.device)

/-- An action of a run is made by a method, if those of raw ticks are. -/
theorem made_of_mem_batches {o : Opening} {calls : List Call}
    (hmade : ∀ a ∈ calls.flatMap Call.rawActions, a.Made) {b : List DeviceAction}
    (hb : b ∈ o.session.batches calls) {a : DeviceAction} (ha : a ∈ b) :
    a.Made ∧ a.device ∈ actors calls := by
  obtain ⟨e, he, hbe⟩ := List.mem_flatMap.mp hb
  cases e with
  | gesture p g =>
      obtain ⟨x, hx, rfl⟩ := List.mem_map.mp hbe
      obtain rfl := List.mem_singleton.mp ha
      refine ⟨Gesture.made_of_mem_expand hx, ?_⟩
      have hdevice := Gesture.device_of_mem_expand hx
      rw [o.session_pointer, o.session_keyboard] at hdevice
      rcases hdevice with hdevice | hdevice
      · rw [hdevice]
        exact List.mem_cons_self
      · rw [hdevice]
        exact List.mem_cons_of_mem _ List.mem_cons_self
  | tick batch =>
      obtain rfl := List.mem_singleton.mp hbe
      -- the tick is one of the calls
      obtain ⟨c, hc, q, hcq, -⟩ := Call.exists_call_of_mem_eventsOf he
      have hraw : a ∈ calls.flatMap Call.rawActions := by
        cases Call.makes_of_mem_events hcq with
        | tick _ _ => exact List.mem_flatMap.mpr ⟨_, hc, ha⟩
      refine ⟨hmade a hraw, ?_⟩
      exact List.mem_cons_of_mem _ (List.mem_cons_of_mem _ (List.mem_map_of_mem hraw))
  | fault _ | policy _ | device => cases hbe

/-- Every timeline of a run holds what its device can do. -/
theorem performs_of_run {o : Opening} {calls : List Call}
    (hmade : ∀ a ∈ calls.flatMap Call.rawActions, a.Made)
    (htyped : Device.TypedById (actors calls)) {l : Timeline}
    (hl : l ∈ (o.session.run calls).timelines.lines) {i : Interaction} (hi : i ∈ l.steps) :
    l.device.Performs i := by
  rw [run_timelines] at hl
  refine Timelines.performs_of_mem_steps ?_ htyped hl hi
  intro b hb a ha
  exact made_of_mem_batches hmade ((List.dropWhile_suffix List.isEmpty).subset hb) ha

end Session

/-! ## Devices of a session

    What is asked of identities holds of the devices that a session creates: it counts them, and
    no two get one number. -/

theorem DeviceId.nth_injective : Function.Injective nth := by
  intro m n h
  have htext : toString m = toString n :=
    (String.append_right_inj "device#").mp (congrArg DeviceId.text h)
  have hdigits : Text.decimal m = Text.decimal n := by
    rw [Text.decimal, Text.decimal]
    simpa using congrArg String.toList htext
  rw [← Text.digitsValue_decimal m, hdigits, Text.digitsValue_decimal]

namespace Session

/-- The device that a call creates, if it creates one. -/
def deviceOf? (s : Session) : Call → Option Device
  | .newPointer kind name => some (.pointer (s.newPointer kind name).1)
  | .newKeyboard name => some (.keyboard (s.newKeyboard name).1)
  | _ => none

/-- The devices that calls create, in order. -/
def devicesCreated (s : Session) : List Call → List Device
  | [] => []
  | c :: cs => (s.deviceOf? c).toList ++ (s.call c).devicesCreated cs

theorem created_le_receiveAll (s : Session) (es : List Event) :
    s.created ≤ (s.receiveAll es).created := by
  induction es generalizing s with
  | nil => exact Nat.le_refl _
  | cons e es ih =>
      refine Nat.le_trans ?_ (ih (s.receive e))
      cases e with
      | device => exact Nat.le_succ s.created
      | gesture _ _ | tick _ | fault _ | policy _ => exact Nat.le_refl _

/-- A device that is created gets the number that is next, and the numbers after it are higher. -/
theorem id_of_deviceOf? {s : Session} {c : Call} {d : Device} (h : s.deviceOf? c = some d) :
    d.id = .nth s.created ∧ s.created < (s.call c).created := by
  cases c with
  | newPointer kind name =>
      obtain rfl := Option.some.inj h
      exact ⟨rfl, Nat.lt_succ_self _⟩
  | newKeyboard name =>
      obtain rfl := Option.some.inj h
      exact ⟨rfl, Nat.lt_succ_self _⟩
  | _ => cases h

theorem exists_id_of_mem_devicesCreated {s : Session} {calls : List Call} {d : Device}
    (h : d ∈ s.devicesCreated calls) : ∃ n, s.created ≤ n ∧ d.id = .nth n := by
  induction calls generalizing s with
  | nil => cases h
  | cons c cs ih =>
      rcases List.mem_append.mp h with hd | hd
      · have hid := (id_of_deviceOf? (Option.mem_toList.mp hd)).1
        exact ⟨s.created, Nat.le_refl _, hid⟩
      · obtain ⟨n, hle, hid⟩ := ih hd
        have hcall : s.created ≤ (s.call c).created := by
          rw [call_eq_receiveAll]
          exact s.created_le_receiveAll _
        exact ⟨n, Nat.le_trans hcall hle, hid⟩

theorem nodup_ids_devicesCreated (s : Session) (calls : List Call) :
    ((s.devicesCreated calls).map Device.id).Nodup := by
  induction calls generalizing s with
  | nil => exact List.nodup_nil
  | cons c cs ih =>
      rw [devicesCreated]
      cases hc : s.deviceOf? c with
      | none => exact ih (s.call c)
      | some d =>
          obtain ⟨hid, hlt⟩ := id_of_deviceOf? hc
          rw [Option.toList_some, List.singleton_append, List.map_cons, List.nodup_cons]
          refine ⟨?_, ih (s.call c)⟩
          intro hmem
          -- a later device of this identity would have a higher number
          obtain ⟨e, he, hed⟩ := List.mem_map.mp hmem
          obtain ⟨n, hle, hn⟩ := exists_id_of_mem_devicesCreated he
          rw [hid, hn] at hed
          have := DeviceId.nth_injective hed
          omega

/-- The devices that a session knows by itself: the default ones and those it creates. -/
def devicesOwn (o : Opening) (calls : List Call) : List Device :=
  .pointer defaultPointer :: .keyboard defaultKeyboard :: o.session.devicesCreated calls

/-- **No two devices of a session have one identity.** -/
theorem nodup_ids_devicesOwn (o : Opening) (calls : List Call) :
    ((devicesOwn o calls).map Device.id).Nodup := by
  have hlate : ∀ n < 2, DeviceId.nth n ∉ (o.session.devicesCreated calls).map Device.id := by
    intro n hn hmem
    obtain ⟨d, hd, hdn⟩ := List.mem_map.mp hmem
    obtain ⟨m, hle, hm⟩ := exists_id_of_mem_devicesCreated hd
    rw [hm] at hdn
    have hstart : o.session.created = 2 := by cases o <;> rfl
    have := DeviceId.nth_injective hdn
    omega
  have hdefault : DeviceId.nth 0 ≠ DeviceId.nth 1 := fun h =>
    absurd (DeviceId.nth_injective h) (by decide)
  rw [devicesOwn, List.map_cons, List.map_cons, List.nodup_cons, List.nodup_cons, List.mem_cons,
    not_or]
  exact ⟨⟨hdefault, hlate 0 (by decide)⟩, hlate 1 (by decide), nodup_ids_devicesCreated _ _⟩

/-- A run whose raw ticks are made by devices of the session has identities that tell types. -/
theorem typedById_actors {o : Opening} {calls : List Call}
    (h : ∀ a ∈ calls.flatMap Call.rawActions, a.device ∈ devicesOwn o calls) :
    Device.TypedById (actors calls) := by
  have hown : ∀ d ∈ actors calls, d ∈ devicesOwn o calls := by
    intro d hd
    rcases List.mem_cons.mp hd with rfl | hd
    · exact List.mem_cons_self
    rcases List.mem_cons.mp hd with rfl | hd
    · exact List.mem_cons_of_mem _ List.mem_cons_self
    obtain ⟨a, ha, rfl⟩ := List.mem_map.mp hd
    exact h a ha
  intro d hd e he hid
  rw [List.inj_on_of_nodup_map (nodup_ids_devicesOwn o calls) (hown d hd) (hown e he) hid]

end Session

/-! ## Sources -/

namespace Json

/-- What the types of the actions of a source are to be among. -/
def ActionsAmong (types : List String) (v : Json) : Prop :=
  ∃ vs, v.field? "actions" = some (.arr vs)
    ∧ ∀ w ∈ vs, ∃ type ∈ types, w.field? "type" = some (.str type)

/-- What a source is to be that belongs to a pointer of some kind. -/
structure PointerSource (kind : PointerKind) (v : Json) : Prop where
  type_eq : v.field? "type" = some (.str "pointer")
  parameters_eq : v.field? "parameters" = some (.obj [("pointerType", .str kind.name)])
  actions_among : v.ActionsAmong ["pointerDown", "pointerUp", "pointerMove", "pause"]

/-- What a source is to be that belongs to a keyboard. -/
structure KeySource (v : Json) : Prop where
  type_eq : v.field? "type" = some (.str "key")
  no_parameters : v.field? "parameters" = none
  actions_among : v.ActionsAmong ["keyDown", "keyUp", "pause"]

/-- What a source is to be, by the device that it belongs to. -/
def SourceOf (d : Device) (v : Json) : Prop :=
  match d with
  | .pointer p => v.PointerSource p.kind
  | .keyboard _ => v.KeySource

end Json

/-- The actions of a source have types of its own, if its interactions have. -/
theorem Source.actionsAmong_toJson {s : Source} {types : List String}
    (h : ∀ i ∈ s.actions, ∃ type ∈ types, i.toJson.sorted.field? "type" = some (.str type)) :
    s.toJson.sorted.ActionsAmong types := by
  refine ⟨_, s.field?_actions_toJson, ?_⟩
  rw [List.forall_mem_map]
  exact h

namespace Interaction

theorem OfPointer.exists_type {i : Interaction} (h : i.OfPointer) :
    ∃ type ∈ ["pointerDown", "pointerUp", "pointerMove", "pause"],
      i.toJson.sorted.field? "type" = some (.str type) := by
  cases h with
  | down button => exact ⟨"pointerDown", by decide, rfl⟩
  | up button => exact ⟨"pointerUp", by decide, rfl⟩
  | move duration origin x y => exact ⟨"pointerMove", by decide, rfl⟩
  | pause duration => exact ⟨"pause", by decide, rfl⟩

theorem OfKeyboard.exists_type {i : Interaction} (h : i.OfKeyboard) :
    ∃ type ∈ ["keyDown", "keyUp", "pause"],
      i.toJson.sorted.field? "type" = some (.str type) := by
  cases h with
  | down value => exact ⟨"keyDown", by decide, rfl⟩
  | up value => exact ⟨"keyUp", by decide, rfl⟩
  | pause duration => exact ⟨"pause", by decide, rfl⟩

end Interaction

/-- A timeline that holds what its device can do is exported as a source of its device. -/
theorem Source.sourceOf_toJson (id : String) {l : Timeline}
    (h : ∀ i ∈ l.steps, l.device.Performs i) :
    (ofTimeline id l).toJson.sorted.SourceOf l.device := by
  obtain ⟨d, steps⟩ := l
  cases d with
  | pointer p =>
      constructor
      case type_eq => exact field?_type_toJson _
      case parameters_eq => exact field?_parameters_toJson _
      case actions_among =>
        exact actionsAmong_toJson fun i hi => Interaction.OfPointer.exists_type (h i hi)
  | keyboard k =>
      constructor
      case type_eq => exact field?_type_toJson _
      case no_parameters => exact field?_parameters_toJson _
      case actions_among =>
        exact actionsAmong_toJson fun i hi => Interaction.OfKeyboard.exists_type (h i hi)

theorem Source.forall₂_sourceOf_assign (taken : List String) {ts : List Timeline}
    (h : ∀ l ∈ ts, ∀ i ∈ l.steps, l.device.Performs i) :
    List.Forall₂ (fun l v => Json.SourceOf l.device v) ts
      ((assign taken ts).map fun s => s.toJson.sorted) := by
  induction ts generalizing taken with
  | nil => exact .nil
  | cons l ts ih =>
      rw [List.forall_mem_cons] at h
      exact .cons (sourceOf_toJson _ h.1) (ih _ h.2)

namespace Session

/-- **Sources hold actions of their own type.**  In every run each timeline holds what its device
    can do, and in every payload each source is one of its timeline's device. -/
theorem sources_of_own_type (o : Opening) (calls : List Call)
    (hmade : ∀ a ∈ calls.flatMap Call.rawActions, a.Made)
    (htyped : Device.TypedById (actors calls)) :
    (∀ l ∈ (o.session.run calls).timelines.lines, ∀ i ∈ l.steps, l.device.Performs i)
      ∧ ∀ plan, (o.session.run calls).build = .ok plan →
        List.Forall₂ (fun l v => Json.SourceOf l.device v) plan.timelines
          plan.toValue.sources := by
  have hperforms : ∀ l ∈ (o.session.run calls).timelines.lines, ∀ i ∈ l.steps,
      l.device.Performs i :=
    fun l hl i hi => performs_of_run hmade htyped hl hi
  refine ⟨hperforms, ?_⟩
  intro plan hbuild
  obtain ⟨-, rfl⟩ := build_eq_ok_iff.mp hbuild
  rw [Plan.sources_toValue]
  exact Source.forall₂_sourceOf_assign [] hperforms

/-- A pen and a second keyboard of one name act in raw ticks around a script. -/
theorem sources_of_own_type_pen :
    let o := Opening.onEndpoint ⟨true, none⟩
    let pen : Pointer := ⟨.nth 2, some "extra", .pen, false⟩
    let keys : Keyboard := ⟨.nth 3, some "extra"⟩
    let calls := [Call.newPointer .pen (some "extra"), .newKeyboard (some "extra"),
      .tick [pen.down 0, keys.down 'a'],
      .script ⟨[.dragAndDropBy ⟨"slider"⟩ 40 0, .sendKeys [.text "ok"] none]⟩,
      .tick [keys.up 'a', pen.move .zero .viewport 1 2, defaultKeyboard.pause (.ofMillis 5)]]
    ((∀ a ∈ calls.flatMap Call.rawActions, a.Made) ∧ Device.TypedById (actors calls))
      ∧ (∀ l ∈ (o.session.run calls).timelines.lines, ∀ i ∈ l.steps, l.device.Performs i)
      ∧ ∀ plan, (o.session.run calls).build = .ok plan →
        List.Forall₂ (fun l v => Json.SourceOf l.device v) plan.timelines
          plan.toValue.sources := by
  intro o pen keys calls
  have hmade : ∀ a ∈ calls.flatMap Call.rawActions, a.Made := by
    intro a ha
    have hactions : calls.flatMap Call.rawActions
        = [pen.down 0, keys.down 'a', keys.up 'a', pen.move .zero .viewport 1 2,
          defaultKeyboard.pause (.ofMillis 5)] := rfl
    rw [hactions] at ha
    simp only [List.mem_cons, List.not_mem_nil, or_false] at ha
    rcases ha with rfl | rfl | rfl | rfl | rfl
    · exact .pointerDown pen 0
    · exact .keyDown keys 'a'
    · exact .keyUp keys 'a'
    · exact .pointerMove pen _ _ 1 2
    · exact .keyPause defaultKeyboard _
  have htyped : Device.TypedById (actors calls) := typedById_actors (o := o) (by decide)
  exact ⟨⟨hmade, htyped⟩, sources_of_own_type o calls hmade htyped⟩

/-- A keyboard that had the identity of the default mouse would type in its timeline. -/
example :
    ((Opening.onEndpoint ⟨true, none⟩).session.run
        [.click, .tick [Keyboard.down ⟨.nth 0, none⟩ 'a']]).timelines.lines
      = [⟨.pointer defaultPointer, [.pointerDown 0, .pointerUp 0, .keyDown 'a']⟩] := by decide

end Session

end GestureTimeline
