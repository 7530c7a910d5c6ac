import GestureTimeline.Proofs.Histories
import GestureTimeline.Wire

/-! # Source ids

    The sources of a payload get their ids one after another, and an id depends on the ids
    before it.  The identity that stands in for a taken name is used without a look at whether
    it is taken as well.  Identities never clash with each other, so two sources share an id
    exactly if this happens: a device whose name is taken comes after one that was given its
    identity for a name. -/

namespace GestureTimeline

/-- The ids of the sources that a payload lists. -/
def Json.sourceIds (payload : Json) : List Json :=
  match payload.field? "actions" with
  | some (.arr sources) => sources.map fun s => (s.field? "id").getD .null
  | _ => []

namespace Source

/-- The ids of the sources of timelines, in order. -/
def ids (ts : List Timeline) : List String := (ofTimelines ts).map Source.id

/-! ## Ids one after another -/

/-- The ids and names that are taken behind timelines. -/
def takenAfter : List String → List Timeline → List String
  | taken, [] => taken
  | taken, t :: ts => takenAfter (chooseId taken t.device :: t.device.wireId :: taken) ts

theorem assign_append (taken : List String) (ts us : List Timeline) :
    assign taken (ts ++ us) = assign taken ts ++ assign (takenAfter taken ts) us := by
  induction ts generalizing taken with
  | nil => rfl
  | cons t ts ih =>
      show ofTimeline _ t :: assign _ (ts ++ us) = ofTimeline _ t :: (assign _ ts ++ _)
      rw [ih]
      rfl

/-- A name that is not chosen is taken. -/
theorem wireId_mem_of_ne_chooseId {taken : List String} {d : Device}
    (h : d.wireId ≠ chooseId taken d) : d.wireId ∈ taken := by
  by_contra hnot
  exact h (if_neg hnot).symm

/-- What is taken behind timelines was taken before them or is one of their ids. -/
theorem mem_takenAfter {taken : List String} {ts : List Timeline} {x : String} :
    x ∈ takenAfter taken ts ↔ x ∈ taken ∨ x ∈ (assign taken ts).map Source.id := by
  induction ts generalizing taken with
  | nil => simp [takenAfter, assign]
  | cons t ts ih =>
      have hids : (assign taken (t :: ts)).map Source.id
          = chooseId taken t.device
            :: (assign (chooseId taken t.device :: t.device.wireId :: taken) ts).map
                Source.id := rfl
      rw [takenAfter, ih, hids]
      simp only [List.mem_cons]
      constructor
      · rintro ((rfl | rfl | hx) | hx)
        · exact Or.inr (Or.inl rfl)
        · by_cases h : t.device.wireId = chooseId taken t.device
          · exact Or.inr (Or.inl h)
          · exact Or.inl (wireId_mem_of_ne_chooseId h)
        · exact Or.inl hx
        · exact Or.inr (Or.inr hx)
      · rintro (hx | rfl | hx)
        · exact Or.inl (Or.inr (Or.inr hx))
        · exact Or.inl (Or.inl rfl)
        · exact Or.inr hx

/-- The id of a further source depends on the ids before it only. -/
theorem ids_append_singleton (ts : List Timeline) (t : Timeline) :
    ids (ts ++ [t]) = ids ts ++ [chooseId (ids ts) t.device] := by
  -- the names that are taken besides the ids are ids themselves
  have hmem : t.device.wireId ∈ takenAfter [] ts ↔ t.device.wireId ∈ ids ts := by
    rw [mem_takenAfter]
    exact or_iff_right List.not_mem_nil
  have hchoose : chooseId (takenAfter [] ts) t.device = chooseId (ids ts) t.device := by
    simp only [chooseId, hmem]
  rw [ids, ofTimelines, assign_append, List.map_append, ← hchoose]
  rfl

/-- The name under which a device would be exported is the id of a source, its own or an
    earlier one's. -/
theorem wireId_mem_ids {ts : List Timeline} {t : Timeline} (h : t ∈ ts) :
    t.device.wireId ∈ ids ts := by
  induction ts using List.reverseRecOn with
  | nil => exact nomatch h
  | append_singleton ts u ih =>
      rw [ids_append_singleton]
      rcases List.mem_append.mp h with hts | hu
      · exact List.mem_append_left _ (ih hts)
      · rw [List.mem_singleton.mp hu]
        by_cases hne : u.device.wireId = chooseId (ids ts) u.device
        · exact List.mem_append_right _ (List.mem_singleton.mpr hne)
        · exact List.mem_append_left _ (wireId_mem_of_ne_chooseId hne)

/-- An id is the name of a device or its identity. -/
theorem exists_of_mem_ids {ts : List Timeline} {x : String} (h : x ∈ ids ts) :
    ∃ t ∈ ts, t.device.name = some x ∨ t.device.id.text = x := by
  induction ts using List.reverseRecOn with
  | nil => exact nomatch h
  | append_singleton ts u ih =>
      rw [ids_append_singleton] at h
      rcases List.mem_append.mp h with hts | hu
      · obtain ⟨t, ht, hx⟩ := ih hts
        exact ⟨t, List.mem_append_left _ ht, hx⟩
      · refine ⟨u, List.mem_append_right _ (List.mem_singleton.mpr rfl), ?_⟩
        rw [List.mem_singleton.mp hu, chooseId]
        by_cases hw : u.device.wireId ∈ ids ts
        · rw [if_pos hw]
          exact Or.inr rfl
        · rw [if_neg hw, Device.wireId]
          cases u.device.name with
          | none => exact Or.inr rfl
          | some name => exact Or.inl rfl

/-! ## When two ids are the same -/

/-- A timeline is exported under an id that is taken: the name of its device is taken by the
    sources before it, and one of their devices is named like its identity. -/
def Clashes (before : List Timeline) (t : Timeline) : Prop :=
  t.device.wireId ∈ ids before ∧ ∃ u ∈ before, u.device.name = some t.device.id.text

/-- Behind devices of other identities, exactly the timelines that clash take an id again. -/
theorem chooseId_mem_ids_iff {before : List Timeline} {t : Timeline}
    (h : t.device.id ∉ before.map (·.device.id)) :
    chooseId (ids before) t.device ∈ ids before ↔ Clashes before t := by
  by_cases hw : t.device.wireId ∈ ids before
  · rw [chooseId, if_pos hw]
    constructor
    · -- an identity is another device's name where it is taken, for identities differ
      intro hid
      obtain ⟨u, hu, hname | hsame⟩ := exists_of_mem_ids hid
      · exact ⟨hw, u, hu, hname⟩
      · have hids : u.device.id = t.device.id := by
          cases hud : u.device.id
          cases htd : t.device.id
          rw [hud, htd] at hsame
          exact congrArg DeviceId.mk hsame
        exact absurd (List.mem_map.mpr ⟨u, hu, hids⟩) h
    · rintro ⟨-, u, hu, hname⟩
      have hwire : u.device.wireId = t.device.id.text := by
        rw [Device.wireId, hname]
        rfl
      exact hwire ▸ wireId_mem_ids hu
  · rw [chooseId, if_neg hw]
    exact ⟨fun hin => absurd hin hw, fun hclash => absurd hclash.1 hw⟩

/-- The ids of timelines of distinct devices are distinct unless one of them clashes. -/
theorem nodup_ids_iff {ts : List Timeline} (h : (ts.map (·.device.id)).Nodup) :
    (ids ts).Nodup ↔ ∀ before t, before ++ [t] <+: ts → ¬ Clashes before t := by
  induction ts using List.reverseRecOn with
  | nil =>
      refine ⟨fun _ before t hpre => ?_, fun _ => List.nodup_nil⟩
      exact absurd (List.prefix_nil.mp hpre) (by simp)
  | append_singleton ts u ih =>
      rw [List.map_append, List.nodup_append] at h
      obtain ⟨hnd, -, hdisjoint⟩ := h
      have hnew : u.device.id ∉ ts.map (·.device.id) := by
        intro hin
        exact hdisjoint _ hin _ (List.mem_singleton.mpr rfl) rfl
      have hsplit : (ids (ts ++ [u])).Nodup ↔ (ids ts).Nodup ∧ ¬ Clashes ts u := by
        rw [ids_append_singleton, ← chooseId_mem_ids_iff hnew, ← List.concat_eq_append,
          List.nodup_concat]
        exact and_comm
      -- what clashes is the last timeline, or one before it
      rw [hsplit, ih hnd]
      constructor
      · rintro ⟨hold, hlast⟩ before t hpre
        rcases List.prefix_concat_iff.mp hpre with heq | hpre
        · obtain ⟨rfl, hut⟩ := List.append_inj' heq rfl
          cases hut
          exact hlast
        · exact hold before t hpre
      · intro hall
        refine ⟨fun before t hpre => hall before t ?_, hall ts u (List.prefix_refl _)⟩
        exact hpre.trans (List.prefix_append ts [u])

/-! ## Ids in payloads -/

/-- A source has its id in the payload. -/
theorem field?_id_toJson_sorted (s : Source) :
    s.toJson.sorted.field? "id" = some (.str s.id) := by
  rw [toJson, header]
  cases s.pointerKind? with
  | none => rfl
  | some kind => rfl

/-- The ids in the payload of a plan are those of its sources. -/
theorem sourceIds_toValue (p : Plan) :
    p.toValue.sourceIds = (ids p.timelines).map Json.str := by
  have hvalue : p.toValue
      = .obj [("actions", .arr ((p.sources.map toJson).map Json.sorted))] := by
    rw [← Json.sortedItems_eq_map]
    rfl
  have hsources : p.toValue.sourceIds
      = ((p.sources.map toJson).map Json.sorted).map fun s => (s.field? "id").getD .null := by
    rw [hvalue]
    rfl
  rw [hsources, ids, List.map_map, List.map_map, List.map_map]
  refine List.map_congr_left fun s _ => ?_
  show (s.toJson.sorted.field? "id").getD .null = .str s.id
  rw [field?_id_toJson_sorted]
  rfl

end Source

namespace Session

/-- **Two sources of a payload share an id exactly if a timeline clashes.** -/
theorem sourceIds_nodup_iff (o : Opening) (calls : List Call) (plan : Plan)
    (hbuild : (o.session.run calls).build = .ok plan) :
    plan.toValue.sourceIds.Nodup
      ↔ ¬ ∃ before t, before ++ [t] <+: plan.timelines ∧ Source.Clashes before t := by
  obtain ⟨-, rfl⟩ := build_eq_ok_iff.mp hbuild
  have hids : ((o.session.run calls).timelines.lines.map (·.device.id)).Nodup := by
    rw [run_timelines]
    exact (Timelines.indexed_ofBatches _).nodup
  have hinj : Function.Injective Json.str := fun _ _ h => Json.str.inj h
  rw [Source.sourceIds_toValue, List.nodup_map_iff hinj, Source.nodup_ids_iff hids]
  simp only [not_exists, not_and]

/-- A pen is named like the identity of a touch pointer without a name, and acts before it. -/
def namesakeCalls : List Call :=
  let touch : Pointer := ⟨.nth 2, none, .touch, false⟩
  let pen : Pointer := ⟨.nth 3, some "device#2", .pen, false⟩
  [.newPointer .touch none, .newPointer .pen (some "device#2"),
    .tick [pen.down 0, touch.down 0]]

theorem sourceIds_nodup_iff_namesake :
    let s := (Opening.onEndpoint ⟨true, none⟩).session.run namesakeCalls
    let plan : Plan := ⟨s.timelines.lines, s.composite⟩
    s.build = .ok plan
      ∧ (plan.toValue.sourceIds.Nodup
        ↔ ¬ ∃ before t, before ++ [t] <+: plan.timelines ∧ Source.Clashes before t) :=
  ⟨rfl, sourceIds_nodup_iff (.onEndpoint ⟨true, none⟩) namesakeCalls _ rfl⟩

/-- The payload then gives two sources one id, though their devices have distinct identities. -/
theorem sourceIds_not_nodup_namesake :
    ∃ plan, ((Opening.onEndpoint ⟨true, none⟩).session.run namesakeCalls).build = .ok plan
      ∧ (plan.timelines.map (·.device.id)).Nodup ∧ ¬ plan.toValue.sourceIds.Nodup := by
  refine ⟨_, rfl, by decide, ?_⟩
  rw [Source.sourceIds_toValue]
  intro hnodup
  have hids := hnodup.of_map
  revert hids
  decide

end Session

end GestureTimeline
