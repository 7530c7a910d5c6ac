import GestureTimeline.Proofs.Deferral
import Mathlib.Data.List.Nodup

/-! # Raw ticks that are refused

    A raw tick is refused exactly if two of its actions are of one device, and devices are told
    apart by their identities alone.

    That a refused tick leaves no trace is a matter of order: the batch is gone through once
    before anything is put down.  So the tick is told here a second time as an update in place,
    where whatever was done before an error stays done (`Session.tickInPlace`).  It comes to
    what `Session.tick` says, and leaves the state alone where that fails
    (`Session.run_tickInPlace`). -/

namespace GestureTimeline

/-! ## Steps that fail in place -/

section InPlace

variable {σ ε α β : Type} {m : ExceptT ε (StateM σ) α} {f : α → ExceptT ε (StateM σ) β} {s u : σ}

theorem run_bind_of_ok {a : α} (h : m.run.run s = (.ok a, u)) :
    (m >>= f).run.run s = (f a).run.run u := by
  simp only [ExceptT.run_bind, StateT.run_bind, h]
  rfl

theorem run_bind_of_error {e : ε} (h : m.run.run s = (.error e, u)) :
    (m >>= f).run.run s = (.error e, u) := by
  simp only [ExceptT.run_bind, StateT.run_bind, h]
  rfl

end InPlace

/-! ## Ticks in place -/

namespace Timelines

/-- Goes through actions beside the identities seen before them, up to the first that comes
    again. -/
def scan (e : ActionError) : List DeviceId → List DeviceAction →
    ExceptT ActionError (StateM Timelines) (List DeviceId)
  | seen, [] => pure seen
  | seen, a :: as =>
      if a.device.id ∈ seen then throw e else scan e (a.device.id :: seen) as

/-- One tick as an update in place: the batch is scanned, then its actions are put down, and then
    every device that was not seen idles. -/
def tickInPlace (batch : List DeviceAction) : ExceptT ActionError (StateM Timelines) Unit := do
  let seen ← scan (.duplicateDevice batch) [] batch
  batch.forM fun a => modify (·.place a)
  if (← get).lines.isEmpty then return
  modify fun t =>
    { t with
      lines := t.lines.map fun l => if l.device.id ∈ seen then l else l.push .idle
      ticks := t.ticks + 1 }

/-- A scan that meets only new identities has seen them all in the end. -/
theorem run_scan_of_fresh (e : ActionError) (t : Timelines) {as : List DeviceAction}
    {seen : List DeviceId} (hnd : (batchIds as).Nodup)
    (hfresh : ∀ i ∈ batchIds as, i ∉ seen) :
    (scan e seen as).run.run t = (.ok ((batchIds as).reverse ++ seen), t) := by
  induction as generalizing seen with
  | nil => rfl
  | cons a as ih =>
      obtain ⟨ha, hnd⟩ := List.nodup_cons.mp hnd
      rw [scan, if_neg (hfresh _ List.mem_cons_self), ih hnd ?_]
      · simp [batchIds]
      · intro i hi hseen
        rcases List.mem_cons.mp hseen with rfl | hseen
        · exact ha hi
        · exact hfresh i (List.mem_cons_of_mem _ hi) hseen

/-- A scan that meets an identity again ends with the error, and has changed nothing. -/
theorem run_scan_of_stale (e : ActionError) (t : Timelines) {as : List DeviceAction}
    {seen : List DeviceId} (h : ¬ ((batchIds as).Nodup ∧ ∀ i ∈ batchIds as, i ∉ seen)) :
    (scan e seen as).run.run t = (.error e, t) := by
  induction as generalizing seen with
  | nil => exact absurd ⟨List.nodup_nil, fun _ hi => nomatch hi⟩ h
  | cons a as ih =>
      rw [scan]
      by_cases ha : a.device.id ∈ seen
      · rw [if_pos ha]
        rfl
      · rw [if_neg ha]
        refine ih ?_
        rintro ⟨hnd, hfresh⟩
        refine h ⟨List.nodup_cons.mpr ⟨?_, hnd⟩, ?_⟩
        · intro hmem
          exact hfresh _ hmem List.mem_cons_self
        · intro i hi hseen
          rcases List.mem_cons.mp hi with rfl | hi
          · exact ha hseen
          · exact hfresh i hi (List.mem_cons_of_mem _ hseen)

theorem run_forM_place (t : Timelines) (as : List DeviceAction) :
    (as.forM fun a => modify (·.place a)
        : ExceptT ActionError (StateM Timelines) PUnit).run.run t
      = (.ok (), as.foldl place t) := by
  induction as generalizing t with
  | nil => rfl
  | cons a as ih => exact ih (t.place a)

/-- In place, a tick comes to what it is told to be, and a refused one leaves no trace. -/
theorem run_tickInPlace (t : Timelines) (batch : List DeviceAction) :
    (tickInPlace batch).run.run t = match t.tick batch with
      | .ok next => (.ok (), next)
      | .error e => (.error e, t) := by
  rw [tickInPlace]
  by_cases hnd : (batchIds batch).Nodup
  · have hscan : (scan (.duplicateDevice batch) [] batch).run.run t
        = (.ok ((batchIds batch).reverse ++ []), t) :=
      run_scan_of_fresh _ t hnd fun _ _ => List.not_mem_nil
    have hseen : ∀ i, i ∈ (batchIds batch).reverse ++ [] ↔ i ∈ batchIds batch := by simp
    have hget : (get : ExceptT ActionError (StateM Timelines) Timelines).run.run
        (batch.foldl place t) = (.ok (batch.foldl place t), batch.foldl place t) := rfl
    rw [t.tick_of_nodup hnd, run_bind_of_ok hscan, run_bind_of_ok (run_forM_place t batch),
      run_bind_of_ok hget]
    simp only [hseen, advance]
    cases (batch.foldl place t).lines.isEmpty <;> rfl
  · have hscan : (scan (.duplicateDevice batch) [] batch).run.run t
        = (.error (.duplicateDevice batch), t) :=
      run_scan_of_stale _ t fun h => hnd h.1
    rw [t.tick_of_not_nodup hnd, run_bind_of_error hscan]

/-- Two actions of a batch are of one device. -/
def Repeats (batch : List DeviceAction) : Prop :=
  ∃ (i j : Nat) (a b : DeviceAction), i < j ∧ batch[i]? = some a ∧ batch[j]? = some b
    ∧ a.device.isSame b.device = true

theorem repeats_iff {batch : List DeviceAction} : Repeats batch ↔ ¬ (batchIds batch).Nodup := by
  rw [List.nodup_iff_getElem?_ne_getElem?]
  constructor
  · rintro ⟨i, j, a, b, hij, ha, hb, hsame⟩ hne
    obtain ⟨hj, -⟩ := List.getElem?_eq_some_iff.mp hb
    refine hne i j hij (by rwa [batchIds, List.length_map]) ?_
    rw [batchIds, List.getElem?_map, List.getElem?_map, ha, hb]
    exact congrArg some (Device.isSame_iff.mp hsame)
  · intro h
    push Not at h
    obtain ⟨i, j, hij, hj, heq⟩ := h
    rw [batchIds, List.length_map] at hj
    have ha : batch[i]? = some batch[i] := List.getElem?_eq_getElem (Nat.lt_trans hij hj)
    have hb : batch[j]? = some batch[j] := List.getElem?_eq_getElem hj
    rw [batchIds, List.getElem?_map, List.getElem?_map, ha, hb] at heq
    exact ⟨i, j, _, _, hij, ha, hb, Device.isSame_iff.mpr (Option.some.inj heq)⟩

end Timelines

namespace Session

/-- A raw tick as an update in place.  What the timelines have become is kept before their error,
    if there is one, is passed on. -/
def tickInPlace (batch : List DeviceAction) : ExceptT ActionError (StateM Session) Unit := do
  let s ← get
  let (result, timelines) := (Timelines.tickInPlace batch).run.run s.timelines
  set { s with timelines }
  MonadExcept.ofExcept result
  if s.isRecording then modify (·.defer .conflictingProtocols)

theorem run_tickInPlace (s : Session) (batch : List DeviceAction) :
    (tickInPlace batch).run.run s = match s.tick batch with
      | .ok next => (.ok (), next)
      | .error e => (.error e, s) := by
  have hget : (get : ExceptT ActionError (StateM Session) Session).run.run s = (.ok s, s) := rfl
  rw [tickInPlace, run_bind_of_ok hget, Timelines.run_tickInPlace]
  cases h : s.timelines.tick batch with
  | error e =>
      have htick : s.tick batch = .error e := by rw [tick, h]; rfl
      rw [htick]
      rfl
  | ok t =>
      let taken := { s with timelines := t }
      have htick : s.tick batch
          = .ok (if s.isRecording then taken.defer .conflictingProtocols else taken) := by
        rw [tick, h]
        rfl
      rw [htick]
      cases s.isRecording <;> rfl

/-- What a raw tick comes to in a session, by what its batch repeats. -/
structure RefusesRepeats (s : Session) (batch : List DeviceAction) : Prop where
  refused_iff : s.tick batch = .error (.duplicateDevice batch) ↔ Timelines.Repeats batch
  taken_iff : (∃ next, s.tick batch = .ok next) ↔ ¬ Timelines.Repeats batch
  identities_only : ∀ other, Timelines.batchIds other = Timelines.batchIds batch →
    ((∃ next, s.tick other = .ok next) ↔ ∃ next, s.tick batch = .ok next)
  message_eq : (ActionError.duplicateDevice batch).message
    = "only one action per input device per tick: "
      ++ ("[" ++ ", ".intercalate (batch.map fun a =>
          a.device.display ++ " -> " ++ a.interaction.describe) ++ "]")
  call_eq : Timelines.Repeats batch → s.call (.tick batch) = s
  unchanged : Timelines.Repeats batch →
    (tickInPlace batch).run.run s = (.error (.duplicateDevice batch), s)
  inPlace_of_taken : ∀ next, s.tick batch = .ok next →
    (tickInPlace batch).run.run s = (.ok (), next)

/-- **A raw tick is refused exactly if a device repeats, and then changes nothing.** -/
theorem raw_tick_refuses_repeats (s : Session) (batch : List DeviceAction) :
    s.RefusesRepeats batch := by
  have hrefused : Timelines.Repeats batch → s.tick batch = .error (.duplicateDevice batch) :=
    fun h => s.tick_of_not_nodup (Timelines.repeats_iff.mp h)
  have htaken : (∃ next, s.tick batch = .ok next) ↔ ¬ Timelines.Repeats batch := by
    rw [exists_tick_eq_ok_iff, Timelines.repeats_iff, not_not]
  refine ⟨⟨?_, hrefused⟩, htaken, ?_, rfl, ?_, ?_, ?_⟩
  · intro h
    by_contra hnone
    obtain ⟨next, hnext⟩ := htaken.mpr hnone
    rw [h] at hnext
    exact nomatch hnext
  · intro other hids
    rw [exists_tick_eq_ok_iff, exists_tick_eq_ok_iff, hids]
  · intro h
    exact call_tick_of_not_nodup (Timelines.repeats_iff.mp h)
  · intro h
    rw [run_tickInPlace, hrefused h]
  · intro next h
    rw [run_tickInPlace, h]

/-- Pens of one name act together, and a pen that is new does not come in with a batch that then
    names the mouse twice. -/
example :
    let s := (Opening.onHandles ⟨true, true⟩).session
    let pen (n : Nat) : Pointer := ⟨.nth n, some "pen", .pen, false⟩
    (s.call (.tick [(pen 2).down 0, (pen 3).down 0])).timelines.lines.length = 2
      ∧ (s.call (.tick [(pen 2).down 0, s.pointer.down 0, s.pointer.up 0])).timelines = .empty := by
  decide

end Session

end GestureTimeline
