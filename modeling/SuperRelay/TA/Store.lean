import SuperRelay.TA.Requests

/-!
# SuperRelay TA: the abstract key store and the refinement

What the TA is for, stated without its arrays: an append-only list of key
records in creation order, with the session and operation counters.

**Abstract model.**  `Store.apply` gives the store after a call of each shape:
a generated key is appended, a signature touches one record, a counted read
advances the operation counter, sessions move the session counter.

**Refinement.**  `TAState.store` reads the store off the globals: the first
`g_key_count` slots, in order.  `store_step` says that every call of the TA,
from a state satisfying the invariant, moves the abstract store exactly as its
shape says; `store_run` lifts this to whole runs.

**Results.**
* `store_step`, `store_run`: the array implementation refines the list store.
* `effects`: the shapes of a run's calls, read off the states they meet; the
  history module matches the generated records to the calls that made them.
-/

namespace SuperRelay
namespace TA

/-- The key store as the TA means it. -/
structure Store where
  records : List SrKeyEntry
  sessionCount : UInt32
  operationCount : UInt32
  startTime : UInt64

/-- The store held by the globals: the first `g_key_count` slots, in order. -/
def TAState.store (s : TAState) : Store :=
  ⟨(List.range s.keyCount.toNat).map s.slot, s.sessionCount, s.operationCount, s.startTime⟩

/-- The record after a successful sign at clock `now`. -/
def SrKeyEntry.touch (e : SrKeyEntry) (now : UInt32) : SrKeyEntry :=
  { e with info := e.info.touch now }

/-- The store after a call of shape `eff`. -/
def Store.apply (st : Store) : Effect → Store
  | .none => st
  | .openSession => { st with sessionCount := st.sessionCount + 1 }
  | .closeSession =>
      { st with sessionCount :=
          if st.sessionCount > 0 then st.sessionCount - 1 else st.sessionCount }
  | .counted => { st with operationCount := st.operationCount + 1 }
  | .generated e =>
      { st with records := st.records ++ [e], operationCount := st.operationCount + 1 }
  | .signed i now =>
      { st with records := st.records.modify (fun e => e.touch now) i,
                operationCount := st.operationCount + 1 }

/-- The store after a sequence of shapes. -/
def Store.applyAll (st : Store) (effs : List Effect) : Store := effs.foldl Store.apply st

@[simp] theorem Store.applyAll_nil (st : Store) : st.applyAll [] = st := rfl

@[simp] theorem Store.applyAll_append_single (st : Store) (effs : List Effect) (eff : Effect) :
    st.applyAll (effs ++ [eff]) = (st.applyAll effs).apply eff :=
  List.foldl_append _ _ _ _

theorem EqOffStaging.store_eq {s s' : TAState} (hs : EqOffStaging s s') : s'.store = s.store := by
  have hc : s'.keyCount.toNat = s.keyCount.toNat := by rw [hs.keyCount]
  simp only [TAState.store, hc, hs.sessionCount, hs.operationCount, hs.startTime, Store.mk.injEq,
    and_true]
  refine List.map_congr_left fun j hj => ?_
  have hj : j < s.keyCount.toNat := List.mem_range.1 hj
  unfold TAState.slot arrayGet
  split_ifs with h16
  · exact hs.keyStorage ⟨j, h16⟩ (by simp; omega)
  · rfl

theorem publish_store (s : TAState) (e : SrKeyEntry) (hc : s.keyCount < srMaxKeys) :
    (s.publish e).store = s.store.apply (.generated e) := by
  have hc' : s.keyCount.toNat < 16 := hc
  have hk : (s.publish e).keyCount.toNat = s.keyCount.toNat + 1 := by
    show (s.keyCount + 1).toNat = _
    rw [UInt32.toNat_add]
    exact Nat.mod_eq_of_lt (by simp [UInt32.size]; omega)
  have hmap : (List.range s.keyCount.toNat).map (s.publish e).slot =
      (List.range s.keyCount.toNat).map s.slot :=
    List.map_congr_left fun j hj => publish_slot_of_ne s e (Nat.ne_of_lt (List.mem_range.1 hj))
  simp only [TAState.store, Store.apply, hk, List.range_succ, List.map_append, List.map_cons,
    List.map_nil, publish_slot_self s e hc, hmap, publish_sessionCount, publish_operationCount,
    publish_startTime]

theorem touchSlot_store (s : TAState) (i : Nat) (now : UInt32) (hc : s.keyCount.toNat ≤ 16) :
    (s.touchSlot i now).store = s.store.apply (.signed i now) := by
  simp only [TAState.store, Store.apply, touchSlot_keyCount, touchSlot_sessionCount,
    touchSlot_operationCount, touchSlot_startTime]
  congr 1
  apply List.ext_getElem?
  intro j
  simp only [List.getElem?_map, List.getElem?_modify]
  by_cases hj : j < s.keyCount.toNat
  · simp only [List.getElem?_range hj, Option.map_some', Function.comp]
    by_cases hji : i = j
    · subst hji
      simp [touchSlot_slot_self s now (by omega : i < 16), SrKeyEntry.touch]
    · simp [hji, touchSlot_slot_of_ne s now (Ne.symm hji)]
  · simp [List.getElem?_eq_none (by simpa using hj : (List.range s.keyCount.toNat).length ≤ j)]

theorem Effect.apply_store {s : TAState} {eff : Effect} (hc : s.keyCount.toNat ≤ 16)
    (hg : ∀ e, eff = .generated e → s.keyCount < srMaxKeys) :
    (eff.apply s).store = s.store.apply eff := by
  cases eff with
  | none => rfl
  | openSession => rfl
  | closeSession =>
      simp only [Effect.apply, taCloseSessionEntryPoint, Store.apply, TAState.store]
      split_ifs <;> rfl
  | counted => rfl
  | generated e => exact publish_store s e (hg e rfl)
  | signed i now => exact touchSlot_store s i now hc

theorem effect_generated_lt {s : TAState} {ev : Event} {e : SrKeyEntry}
    (he : effect s ev = .generated e) : s.keyCount < srMaxKeys := by
  cases ev with
  | openSession => cases he
  | closeSession => cases he
  | invoke h c pt ps =>
      obtain ⟨hres, rfl, -⟩ := effect_eq_generated he
      exact (cmdGenerateKey_ok hres).1

/-- The refinement: one call moves the abstract store as its shape says. -/
theorem store_step {s : TAState} (hi : s.Inv) (ev : Event) :
    (step s ev).store = s.store.apply (effect s ev) := by
  rw [(step_effect s ev).store_eq, Effect.apply_store hi.keyCount_le]
  rintro e he
  exact effect_generated_lt he

/-- The calls of a run, each with the globals it met. -/
def calls : TAState → List Event → List (TAState × Event)
  | _, [] => []
  | s, ev :: evs => (s, ev) :: calls (step s ev) evs

theorem calls_append_single (s : TAState) (evs : List Event) (ev : Event) :
    calls s (evs ++ [ev]) = calls s evs ++ [(run s evs, ev)] := by
  induction evs generalizing s with
  | nil => rfl
  | cons e evs ih => simp [calls, ih]

theorem run_append_single (s : TAState) (evs : List Event) (ev : Event) :
    run s (evs ++ [ev]) = step (run s evs) ev := by
  rw [run_append]
  rfl

/-- The shapes of the calls of a run. -/
def effects (s : TAState) (evs : List Event) : List Effect :=
  (calls s evs).map fun c => effect c.1 c.2

theorem store_run {s : TAState} (hi : s.Inv) (evs : List Event) :
    (run s evs).store = s.store.applyAll (effects s evs) := by
  induction evs using List.reverseRecOn with
  | nil => rfl
  | append_singleton evs ev ih =>
      simp only [run_append_single, store_step (hi.run evs), ih, effects, calls_append_single,
        List.map_append, List.map_cons, List.map_nil, Store.applyAll_append_single]

theorem store_run_sample :
    (taCreateEntryPoint 0).Inv ∧
    (run (taCreateEntryPoint 0) sampleSession).store =
      (taCreateEntryPoint 0).store.applyAll (effects (taCreateEntryPoint 0) sampleSession) :=
  ⟨taCreateEntryPoint_inv 0, store_run (taCreateEntryPoint_inv 0) _⟩

end TA
end SuperRelay
