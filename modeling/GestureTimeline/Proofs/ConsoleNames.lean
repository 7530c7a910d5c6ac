import GestureTimeline.Proofs.SourceGrowth
import GestureTimeline.Proofs.Transcript

/-! # Names in the transcript

    The console names the device of a timeline by the name under which it would be exported, for
    each timeline on its own.  The payload gives out its source ids one after another, and the id
    of a device whose name is taken is its identity.  So the two name a source alike exactly if
    its device's name is not taken by an earlier source, or is its identity anyway: of two devices
    with one name, the console shows both under that name, and the payload only the first. -/

namespace GestureTimeline

/-! ## Ids by position -/

namespace Source

theorem length_ids (ts : List Timeline) : (ids ts).length = ts.length := by
  induction ts using List.reverseRecOn with
  | nil => rfl
  | append_singleton ts t ih =>
      rw [ids_append_singleton, List.length_append, List.length_append, ih]
      rfl

/-- The ids of the first timelines are the first ids. -/
theorem ids_take (ts : List Timeline) (i : Nat) : ids (ts.take i) = (ids ts).take i := by
  have hprefix : ids (ts.take i) <+: ids ts := ids_prefix ((List.take_prefix i ts).map _)
  rw [List.prefix_iff_eq_take.mp hprefix, length_ids, List.length_take, ← length_ids,
    ← List.take_eq_take_min]

/-- The id at a position is chosen among those that the ids before it leave. -/
theorem getElem?_ids {ts : List Timeline} {i : Nat} {t : Timeline} (h : ts[i]? = some t) :
    (ids ts)[i]? = some (chooseId ((ids ts).take i) t.device) := by
  have hfront : ids (ts.take (i + 1))
      = (ids ts).take i ++ [chooseId ((ids ts).take i) t.device] := by
    rw [List.take_add_one, h, Option.toList_some, ids_append_singleton, ids_take]
  obtain ⟨hlt, -⟩ := List.getElem?_eq_some_iff.mp h
  have hlength : ((ids ts).take i).length = i := by
    rw [List.length_take, length_ids]
    exact Nat.min_eq_left (Nat.le_of_lt hlt)
  rw [← List.getElem?_take_of_lt (Nat.lt_succ_self i), ← ids_take, hfront,
    List.getElem?_append_right (Nat.le_of_eq hlength), hlength, Nat.sub_self]
  rfl

/-- An id is a device's name for the wire, or its identity where that name is taken. -/
theorem chooseId_eq_wireId_or (taken : List String) (d : Device) :
    chooseId taken d = d.wireId ∨ chooseId taken d = d.id.text := by
  by_cases h : d.wireId ∈ taken
  · exact Or.inr (if_pos h)
  · exact Or.inl (if_neg h)

/-- A device keeps its name for the wire unless that is taken and not its identity anyway. -/
theorem chooseId_eq_wireId_iff {taken : List String} {d : Device} :
    chooseId taken d = d.wireId ↔ (d.wireId ∈ taken → d.wireId = d.id.text) := by
  by_cases h : d.wireId ∈ taken
  · rw [chooseId, if_pos h, forall_prop_of_true h, eq_comm]
  · rw [chooseId, if_neg h]
    exact iff_of_true rfl fun hin => absurd hin h

end Source

/-! ## Lines by position -/

namespace Console

/-- The line that shows a timeline under a source id. -/
def lineUnder (id : String) (t : Timeline) : String :=
  "actions: " ++ id ++ " [" ++ ", ".intercalate (t.steps.map interactionText) ++ "]"

theorem lineUnder_inj {id id' : String} {t : Timeline} :
    lineUnder id t = lineUnder id' t ↔ id = id' := by
  simp only [lineUnder, String.append_left_inj, String.append_right_inj]

/-- The console shows a timeline under the id of its source exactly if the device of the source
    keeps its name. -/
theorem timelineLine_eq_lineUnder_chooseId_iff {taken : List String} {t : Timeline} :
    timelineLine t = lineUnder (Source.chooseId taken t.device) t
      ↔ (t.device.wireId ∈ taken → t.device.wireId = t.device.id.text) := by
  show lineUnder t.device.wireId t = _ ↔ _
  rw [lineUnder_inj, eq_comm, Source.chooseId_eq_wireId_iff]

/-- A console that obeys the synchronized command shows the timelines of a plan, one a line. -/
theorem transcript_of_obeyed {c : Console} (hmode : c.mode = .synchronized) (plan : Plan) :
    let p := plan.perform (Opening.onEndpoint c.endpoint).session.route c.answers
    p.result = .ok .synchronized ∧ c.transcript p = plan.timelines.map timelineLine := by
  intro p
  obtain ⟨mode, legacy⟩ := c
  obtain rfl : mode = .synchronized := hmode
  have hp : p = ⟨[.sequences plan.timelines], .ok .synchronized⟩ := rfl
  rw [hp]
  exact ⟨rfl, List.append_nil _⟩

/-- How the line of a timeline names its device, and how the source at that place of the payload
    does, which has the `ids`. -/
structure LineNames (ids : List Json) (i : Nat) (t : Timeline) (line id : String) : Prop where
  line_eq : line = lineUnder t.device.wireId t
  id_at : ids[i]? = some (.str id)
  id_eq : id = t.device.wireId ∨ id = t.device.id.text
  alike_iff : line = lineUnder id t
    ↔ (.str t.device.wireId ∈ ids.take i → t.device.wireId = t.device.id.text)

theorem lineNames_of_getElem? {plan : Plan} {i : Nat} {t : Timeline}
    (h : plan.timelines[i]? = some t) :
    LineNames plan.toValue.sourceIds i t (timelineLine t)
      (Source.chooseId ((Source.ids plan.timelines).take i) t.device) where
  line_eq := rfl
  id_at := by
    rw [Source.sourceIds_toValue, List.getElem?_map, Source.getElem?_ids h]
    rfl
  id_eq := Source.chooseId_eq_wireId_or _ _
  alike_iff := by
    have hinj : Function.Injective Json.str := fun _ _ h => Json.str.inj h
    rw [Source.sourceIds_toValue, ← List.map_take, List.mem_map_of_injective hinj]
    exact timelineLine_eq_lineUnder_chooseId_iff

end Console

namespace Session

theorem exists_build_of_perform {s : Session} {answers : Answers} {protocol : Protocol}
    (h : (s.perform answers).result = .ok protocol) : ∃ plan, s.build = .ok plan := by
  cases hbuild : s.build with
  | ok plan => exact ⟨plan, rfl⟩
  | error e =>
      rw [perform, hbuild] at h
      cases h

/-- **The console names a source as the payload does unless another source has its name.**  Every
    successful performance shows one line for each source of the payload, at the same place.  The
    line has the name of the device.  It is the id of the source exactly if no earlier source has
    that id, or the name is the identity of the device; else the id is that identity. -/
theorem console_line_names_source_iff (c : Console) (calls : List Call) (protocol : Protocol)
    (hmode : c.mode = .synchronized)
    (hok : (((Opening.onEndpoint c.endpoint).session.run calls).perform c.answers).result
      = .ok protocol) :
    let s := (Opening.onEndpoint c.endpoint).session.run calls
    let lines := c.transcript (s.perform c.answers)
    protocol = .synchronized
      ∧ ∃ plan, s.build = .ok plan
        ∧ lines.length = plan.toValue.sourceIds.length
        ∧ ∀ (i : Nat) line, lines[i]? = some line →
            ∃ t id, plan.timelines[i]? = some t
              ∧ Console.LineNames plan.toValue.sourceIds i t line id := by
  intro s lines
  obtain ⟨plan, hbuild⟩ := exists_build_of_perform hok
  have hperform : s.perform c.answers = plan.perform _ c.answers :=
    perform_of_build hbuild c.answers
  obtain ⟨hresult, htranscript⟩ := Console.transcript_of_obeyed hmode plan
  rw [← hperform] at hresult htranscript
  have hlines : lines = plan.timelines.map Console.timelineLine := htranscript
  refine ⟨Except.ok.inj (hok.symm.trans hresult), plan, hbuild, ?_, ?_⟩
  · rw [hlines, Source.sourceIds_toValue, List.length_map, List.length_map, Source.length_ids]
  · intro i line hline
    rw [hlines, List.getElem?_map, Option.map_eq_some_iff] at hline
    obtain ⟨t, ht, rfl⟩ := hline
    exact ⟨t, _, ht, Console.lineNames_of_getElem? ht⟩

/-- Two pens of one name act in one tick. -/
def twoPensCalls : List Call :=
  let pen : Pointer := ⟨.nth 2, some "pen", .pen, false⟩
  let other : Pointer := ⟨.nth 3, some "pen", .pen, false⟩
  [.newPointer .pen (some "pen"), .newPointer .pen (some "pen"),
    .tick [pen.down 0, other.down 0]]

theorem console_line_names_source_iff_pens :
    let c : Console := ⟨.synchronized, false⟩
    let s := (Opening.onEndpoint c.endpoint).session.run twoPensCalls
    let lines := c.transcript (s.perform c.answers)
    (c.mode = .synchronized ∧ (s.perform c.answers).result = .ok .synchronized)
      ∧ ∃ plan, s.build = .ok plan
        ∧ lines.length = plan.toValue.sourceIds.length
        ∧ ∀ (i : Nat) line, lines[i]? = some line →
            ∃ t id, plan.timelines[i]? = some t
              ∧ Console.LineNames plan.toValue.sourceIds i t line id :=
  ⟨⟨rfl, rfl⟩,
    (console_line_names_source_iff ⟨.synchronized, false⟩ twoPensCalls .synchronized rfl rfl).2⟩

/-- The line of the second pen then shows the name that both have, and its source in the payload
    has another id. -/
theorem console_line_misnames_source :
    let c : Console := ⟨.synchronized, false⟩
    let s := (Opening.onEndpoint c.endpoint).session.run twoPensCalls
    (s.perform c.answers).result = .ok .synchronized
      ∧ c.transcript (s.perform c.answers) = ["actions: pen [down(0)]", "actions: pen [down(0)]"]
      ∧ ∃ plan t, s.build = .ok plan ∧ plan.timelines[1]? = some t
        ∧ plan.toValue.sourceIds[1]? = some (.str "device#3")
        ∧ (c.transcript (s.perform c.answers))[1]? ≠ some (Console.lineUnder "device#3" t) := by
  intro c s
  have hid : (Source.ids s.timelines.lines)[1]? = some "device#3" := by decide +kernel
  refine ⟨rfl, by decide +kernel, _, _, rfl, rfl, ?_, by decide +kernel⟩
  rw [Source.sourceIds_toValue, List.getElem?_map, hid]
  rfl

end Session

end GestureTimeline
