import GestureTimeline.Proofs.Growth
import GestureTimeline.Proofs.Payload

/-! # Sources only grow

    An endpoint knows a source by its id.  Ids are handed out in the order of the timelines, and
    what is taken when one is chosen depends on the devices before it alone (`Source.ids_prefix`).
    A session puts new devices behind the known ones, so whatever they are called they take no id
    that was handed out before: each source of an earlier payload is found at its place in every
    later one, with more actions behind those that it had. -/

namespace GestureTimeline

namespace Source

/-! ## Ids of more timelines -/

/-- Which ids are chosen depends on the devices, not on what they do. -/
theorem map_id_assign_congr (taken : List String) {ts us : List Timeline}
    (h : ts.map Timeline.device = us.map Timeline.device) :
    (assign taken ts).map Source.id = (assign taken us).map Source.id := by
  induction ts generalizing taken us with
  | nil =>
      rw [List.map_nil, eq_comm, List.map_eq_nil_iff] at h
      rw [h]
  | cons t ts ih =>
      obtain ⟨u, us, rfl, htu, hrest⟩ := List.map_eq_cons_iff.mp h.symm
      show chooseId taken t.device :: _ = chooseId taken u.device :: _
      rw [htu, ih _ hrest.symm]

/-- The ids of more timelines begin with those of fewer. -/
theorem ids_prefix {ts us : List Timeline}
    (h : ts.map Timeline.device <+: us.map Timeline.device) : ids ts <+: ids us := by
  obtain ⟨ds, hds⟩ := h
  obtain ⟨us₁, us₂, rfl, hsame, -⟩ := List.map_eq_append_iff.mp hds.symm
  have hids : ids ts = ids us₁ := map_id_assign_congr [] hsame.symm
  rw [hids, ids, ids, ofTimelines, ofTimelines, assign_append, List.map_append]
  exact List.prefix_append _ _

/-- The source at a position is the timeline there under the id there. -/
theorem getElem?_ofTimelines_eq_some_iff {ts : List Timeline} {i : Nat} {s : Source} :
    (ofTimelines ts)[i]? = some s
      ↔ ∃ id t, (ids ts)[i]? = some id ∧ ts[i]? = some t ∧ ofTimeline id t = s := by
  rw [ofTimelines_eq_zipWith, List.getElem?_zipWith_eq_some]
  constructor
  · rintro ⟨id, c, hid, hc, rfl⟩
    rw [List.getElem?_map, Option.map_eq_some_iff] at hc
    obtain ⟨t, ht, rfl⟩ := hc
    exact ⟨id, t, hid, ht, rfl⟩
  · rintro ⟨id, t, hid, ht, rfl⟩
    refine ⟨id, t.content, hid, ?_, rfl⟩
    rw [List.getElem?_map, ht]
    rfl

/-! ## The fields of sources -/

/-- The type of a source says whether its device is a pointer. -/
theorem field?_type_toJson (s : Source) :
    s.toJson.sorted.field? "type"
      = some (.str (if s.pointerKind?.isSome then "pointer" else "key")) := by
  rw [toJson, header]
  cases s.pointerKind? with
  | none | some kind => rfl

/-- Only pointers have parameters, and these tell their kind. -/
theorem field?_parameters_toJson (s : Source) :
    s.toJson.sorted.field? "parameters"
      = s.pointerKind?.map fun kind => .obj [("pointerType", .str kind.name)] := by
  rw [toJson, header]
  cases s.pointerKind? with
  | none | some kind => rfl

end Source

/-- What it is for a source of a payload to have grown into one of a later payload: it has the
    same type, id and parameters, and more actions behind those it had. -/
structure Json.SourceGrows (a b : Json) : Prop where
  type_eq : ∃ type, a.field? "type" = some (.str type) ∧ b.field? "type" = some (.str type)
  id_eq : ∃ id, a.field? "id" = some (.str id) ∧ b.field? "id" = some (.str id)
  parameters_eq : a.field? "parameters" = b.field? "parameters"
  actions_grow : ∃ xs ys, a.field? "actions" = some (.arr xs)
    ∧ b.field? "actions" = some (.arr ys) ∧ xs <+: ys

namespace Source

/-- A source that has got more actions has grown in its payload. -/
theorem sourceGrows_toJson {s r : Source} (hid : s.id = r.id)
    (hkind : s.pointerKind? = r.pointerKind?) (hactions : s.actions <+: r.actions) :
    s.toJson.sorted.SourceGrows r.toJson.sorted where
  type_eq := by
    refine ⟨_, field?_type_toJson s, ?_⟩
    rw [hkind]
    exact field?_type_toJson r
  id_eq := by
    refine ⟨_, field?_id_toJson_sorted s, ?_⟩
    rw [hid]
    exact field?_id_toJson_sorted r
  parameters_eq := by
    rw [field?_parameters_toJson, field?_parameters_toJson, hkind]
  actions_grow :=
    ⟨_, _, field?_actions_toJson s, field?_actions_toJson r, hactions.map _⟩

end Source

namespace Plan

/-- The sources of a plan that has grown are at their places in the later plan. -/
theorem GrowsInto.exists_source {p q : Plan} (h : p.GrowsInto q) {i : Nat} {s : Source}
    (hs : p.sources[i]? = some s) :
    ∃ r, q.sources[i]? = some r ∧ s.id = r.id ∧ s.pointerKind? = r.pointerKind?
      ∧ s.actions <+: r.actions := by
  obtain ⟨id, t, hid, ht, rfl⟩ := Source.getElem?_ofTimelines_eq_some_iff.mp hs
  -- the later plan has the device of the timeline, and so the id, at the same position
  obtain ⟨u, hu, hut, hsteps⟩ := h.exists_timeline ht
  have hid' : (Source.ids q.timelines)[i]? = some id :=
    getElem?_of_prefix (Source.ids_prefix h.devices_grow) hid
  refine ⟨Source.ofTimeline id u, ?_, rfl, ?_, hsteps⟩
  · exact Source.getElem?_ofTimelines_eq_some_iff.mpr ⟨id, u, hid', hu, rfl⟩
  · show t.device.pointerKind? = u.device.pointerKind?
    rw [hut]

theorem length_sources_toValue (p : Plan) : p.toValue.sources.length = p.timelines.length := by
  have hread := congrArg List.length p.map_read?_sources_toValue
  rwa [List.length_map, List.length_map] at hread

/-- The sources in the payload of a plan that has grown are at their places in the later one. -/
theorem GrowsInto.exists_payload_source {p q : Plan} (h : p.GrowsInto q) {i : Nat} {a : Json}
    (ha : p.toValue.sources[i]? = some a) :
    ∃ b, q.toValue.sources[i]? = some b ∧ a.SourceGrows b := by
  rw [sources_toValue, List.getElem?_map, Option.map_eq_some_iff] at ha
  obtain ⟨s, hs, rfl⟩ := ha
  obtain ⟨r, hr, hid, hkind, hactions⟩ := h.exists_source hs
  refine ⟨r.toJson.sorted, ?_, Source.sourceGrows_toJson hid hkind hactions⟩
  rw [sources_toValue, List.getElem?_map, hr]
  rfl

end Plan

namespace Scene

/-- **Exported sources stay what and where they are, and only get more actions.**  Every
    timeline of the earlier plan has its source, so none is left out. -/
theorem later_sources_grow (o : Opening) (hs more : List Happening) (p q : Plan)
    (hp : ((opened o).happenAll hs).session.build = .ok p)
    (hq : ((opened o).happenAll (hs ++ more)).session.build = .ok q) :
    p.toValue.sources.length = p.timelines.length
      ∧ ∀ i < p.toValue.sources.length, ∃ a b, p.toValue.sources[i]? = some a
        ∧ q.toValue.sources[i]? = some b ∧ a.SourceGrows b := by
  rw [happenAll_session] at hp
  rw [happenAll_session, List.filterMap_append] at hq
  have hgrows := Session.growsInto_of_build hp hq
  refine ⟨p.length_sources_toValue, fun i hi => ?_⟩
  have ha := List.getElem?_eq_getElem hi
  obtain ⟨b, hb, hab⟩ := hgrows.exists_payload_source ha
  exact ⟨_, b, ha, hb, hab⟩

/-- A pen without a name acts first; later another pen is ticked that is named like its
    identity, and a third one named like the default mouse. -/
theorem later_sources_grow_namesakes :
    let o := Opening.onEndpoint ⟨true, none⟩
    let pen (n : Nat) (name : Option String) : Pointer := ⟨.nth n, name, .pen, false⟩
    let hs : List Happening :=
      [.call (.newPointer .pen none), .call (.tick [(pen 2 none).down 0]), .call .click, .build]
    let more : List Happening :=
      [.call (.newPointer .pen (some "device#2")),
        .call (.newPointer .pen (some "default mouse")),
        .call (.tick [(pen 4 (some "default mouse")).down 0, (pen 3 (some "device#2")).up 0,
          (pen 2 none).up 0])]
    let p : Plan := ⟨((opened o).happenAll hs).session.timelines.lines, []⟩
    let q : Plan := ⟨((opened o).happenAll (hs ++ more)).session.timelines.lines, []⟩
    (((opened o).happenAll hs).session.build = .ok p
        ∧ ((opened o).happenAll (hs ++ more)).session.build = .ok q)
      ∧ p.toValue.sources.length = p.timelines.length
      ∧ ∀ i < p.toValue.sources.length, ∃ a b, p.toValue.sources[i]? = some a
        ∧ q.toValue.sources[i]? = some b ∧ a.SourceGrows b := by
  intro o pen hs more p q
  have hp : ((opened o).happenAll hs).session.build = .ok p := rfl
  have hq : ((opened o).happenAll (hs ++ more)).session.build = .ok q := rfl
  exact ⟨⟨hp, hq⟩, later_sources_grow o hs more p q hp hq⟩

end Scene

end GestureTimeline
