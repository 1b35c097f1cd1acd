import SuperRelay.TA.Store
import SuperRelay.TA.Requests

/-!
# SuperRelay TA: what a run leaves in the key table

**Input.**  A run from `TA_CreateEntryPoint`, read as its list of calls, each
with the globals it met (`calls`).

**Calls that matter.**  `generateSucceeded` marks the `generate_key` calls
that returned `TEE_SUCCESS`; `signSucceededOn i` marks the `sign_message` calls
that returned `TEE_SUCCESS` after `find_key_index` resolved their key to slot
`i`.  Both are stated with the source's own notions (command id, return code,
lookup) and then matched with the shapes of `effect`.

**Results.**
* `slot_step`: how one call moves a live slot, read off the refinement.
* `slots_of_run`: the live slots are the keys of the successful generate calls,
  in creation order, each with the identifier, type, status, creation time and
  address its call produced.
* `usage_of_run`: the usage counter of a live slot is the number of successful
  signs resolved to it, modulo `2^32`, and its last-used time is the clock of
  the latest of them.
-/

namespace SuperRelay
namespace TA

/-- The call `ev`, met in `s`, is a `generate_key` that returned `TEE_SUCCESS`. -/
def generateSucceeded (s : TAState) : Event → Bool
  | .invoke h c pt ps =>
      decide (c = taSuperRelayCmdGenerateKey ∧
        (taInvokeCommandEntryPoint h c pt ps s).res = teeSuccess)
  | _ => false

/-- The call `ev`, met in `s`, is a `sign_message` that returned `TEE_SUCCESS`
with its key resolved to slot `i`. -/
def signSucceededOn (i : Nat) (s : TAState) : Event → Bool
  | .invoke h c pt ps =>
      decide (c = taSuperRelayCmdSignMessage ∧
        (taInvokeCommandEntryPoint h c pt ps s).res = teeSuccess ∧
        findKeyIndex s (ps 0).memref.buffer = some i)
  | _ => false

/-- The clock reading a command takes; session calls read no clock. -/
def Event.clock : Event → UInt32
  | .invoke h _ _ _ => h.systemTime
  | _ => 0

theorem effect_of_signSucceededOn {i : Nat} {s : TAState} {ev : Event}
    (hs : signSucceededOn i s ev = true) : effect s ev = .signed i ev.clock := by
  cases ev with
  | openSession => cases hs
  | closeSession => cases hs
  | invoke h c pt ps =>
      obtain ⟨rfl, hres, hf⟩ := of_decide_eq_true hs
      simp [effect, hres, hf, Event.clock, show taSuperRelayCmdSignMessage ≠
        taSuperRelayCmdGenerateKey by decide]

theorem signSucceededOn_of_effect {i : Nat} {now : UInt32} {s : TAState} {ev : Event}
    (he : effect s ev = .signed i now) : signSucceededOn i s ev = true := by
  cases ev with
  | openSession => cases he
  | closeSession => cases he
  | invoke h c pt ps =>
      obtain ⟨hres, hsg, hf, -⟩ := effect_eq_signed he
      exact decide_eq_true ⟨hsg, hres, hf⟩

theorem generateSucceeded_iff {s : TAState} {ev : Event} :
    generateSucceeded s ev = true ↔ ∃ e, effect s ev = .generated e := by
  cases ev with
  | openSession => simp [generateSucceeded, effect]
  | closeSession => simp [generateSucceeded, effect]
  | invoke h c pt ps =>
      simp only [generateSucceeded, effect, decide_eq_true_eq]
      constructor
      · rintro ⟨rfl, hres⟩
        exact ⟨_, by rw [if_neg (not_not.2 hres), if_pos rfl]⟩
      · rintro ⟨e, he⟩
        obtain ⟨hres, hg, -⟩ := effect_eq_generated he
        exact ⟨hg, hres⟩

/-- A successful generate call publishes the slot its `generate_secp256k1_keypair`
built, after passing the key-type and identifier-size checks, and writes that
slot's address. -/
theorem effect_generated {s : TAState} {ev : Event} {e : SrKeyEntry}
    (he : effect s ev = .generated e) :
    ∃ h pt ps d x y, ev = .invoke h taSuperRelayCmdGenerateKey pt ps ∧
      (ps 1).value.a = srKeyTypeEcdsaSecp256k1 ∧ (ps 0).memref.size < srMaxKeyIdSize ∧
      e = generatedEntry h ps d x y ∧
      taInvokeCommandEntryPoint h taSuperRelayCmdGenerateKey pt ps s =
        ⟨teeSuccess, .ethereumAddress e.info.ethereumAddress, s.publish e⟩ := by
  cases ev with
  | openSession => cases he
  | closeSession => cases he
  | invoke h c pt ps =>
      obtain ⟨hres, rfl, rfl⟩ := effect_eq_generated he
      rw [invoke_generateKey] at hres
      obtain ⟨hc, hty, -, hn, -, d, x, y, -, -, -, hout⟩ := cmdGenerateKey_ok hres
      refine ⟨h, pt, ps, d, x, y, rfl, hty, hn, ?_, ?_⟩ <;>
        rw [invoke_generateKey, hout, publish_slot_self s _ hc]

theorem generateSucceeded_false {s : TAState} {ev : Event} (he : ∀ e, effect s ev ≠ .generated e) :
    generateSucceeded s ev = false :=
  Bool.eq_false_iff.2 fun hg => (generateSucceeded_iff.1 hg).elim he

theorem store_records_getElem? (s : TAState) (j : Nat) :
    s.store.records[j]? = if j < s.keyCount.toNat then some (s.slot j) else none := by
  simp only [TAState.store, List.getElem?_map]
  split_ifs with hj
  · simp [List.getElem?_range hj]
  · simp [List.getElem?_eq_none (by simpa using hj : (List.range s.keyCount.toNat).length ≤ j)]

theorem store_records_length (s : TAState) : s.store.records.length = s.keyCount.toNat := by
  simp [TAState.store]

/-- How one call, from a state satisfying the invariant, moves the records. -/
theorem slot_step {s : TAState} (hi : s.Inv) (ev : Event) (j : Nat) :
    (step s ev).store.records[j]? =
      match effect s ev with
      | .generated e => if j = s.keyCount.toNat then some e else s.store.records[j]?
      | .signed k now => if j = k then (s.store.records[j]?).map (·.touch now)
          else s.store.records[j]?
      | _ => s.store.records[j]? := by
  rw [store_step hi]
  cases effect s ev with
  | generated e =>
      simp only [Store.apply, List.getElem?_append_left, List.getElem?_concat_length,
        store_records_length]
      rcases Nat.lt_trichotomy j s.keyCount.toNat with hj | rfl | hj
      · rw [if_neg (by omega), List.getElem?_append_left (by simp [store_records_length]; omega)]
      · rw [if_pos rfl, ← store_records_length, List.getElem?_concat_length]
      · rw [if_neg (by omega), List.getElem?_eq_none (by simp [store_records_length]; omega),
          List.getElem?_eq_none (by simp [store_records_length]; omega)]
  | signed k now =>
      simp only [Store.apply, List.getElem?_modify]
      by_cases h : j = k
      · subst h
        simp
      · simp [h, Ne.symm h]
  | none => rfl
  | openSession => rfl
  | closeSession => rfl
  | counted => rfl

theorem Store.apply_records_length_le (st : Store) (eff : Effect) :
    st.records.length ≤ (st.apply eff).records.length := by
  cases eff <;> simp [Store.apply]

theorem keyCount_le_step {s : TAState} (hi : s.Inv) (ev : Event) :
    s.keyCount.toNat ≤ (step s ev).keyCount.toNat := by
  rw [← store_records_length, ← store_records_length, store_step hi]
  exact Store.apply_records_length_le _ _

theorem keyCount_le_run {s : TAState} (hi : s.Inv) (evs : List Event) :
    s.keyCount.toNat ≤ (run s evs).keyCount.toNat := by
  induction evs generalizing s with
  | nil => exact le_rfl
  | cons ev evs ih => exact (keyCount_le_step hi ev).trans (ih (hi.step ev))

/-- One call moves a live slot only by a successful sign resolved to it. -/
theorem slot_step_live {s : TAState} (hi : s.Inv) (ev : Event) {j : Nat}
    (hj : j < s.keyCount.toNat) :
    (step s ev).slot j =
      if signSucceededOn j s ev then (s.slot j).touch ev.clock else s.slot j := by
  have h := slot_step hi ev j
  rw [store_records_getElem?, if_pos (hj.trans_le (keyCount_le_step hi ev)),
    store_records_getElem? s j, if_pos hj] at h
  split_ifs with hs
  · rw [effect_of_signSucceededOn hs] at h
    simpa using h
  · cases hef : effect s ev with
    | generated e =>
        rw [hef] at h
        dsimp only at h
        rw [if_neg (Nat.ne_of_lt hj)] at h
        exact Option.some.inj h
    | signed k t =>
        rw [hef] at h
        dsimp only at h
        rw [if_neg fun hjk => hs (signSucceededOn_of_effect (hjk ▸ hef))] at h
        exact Option.some.inj h
    | none | openSession | closeSession | counted =>
        rw [hef] at h
        exact Option.some.inj h

/-! ## The live slots are the successful generations -/

/-- The metadata `info` is that of the key the successful generate call `c`
created: the C string of the call's identifier bytes, the requested type, the
active status, the call's clock as creation time, and the address the call
wrote. -/
def CreatedBy (c : TAState × Event) (info : SrKeyInfo) : Prop :=
  ∃ h pt ps, c.2 = .invoke h taSuperRelayCmdGenerateKey pt ps ∧
    info.keyId = Bytes.ofList (cString (ps 0).memref.buffer (ps 0).memref.size.toNat) ∧
    info.keyType = (ps 1).value.a ∧ info.status = srKeyStatusActive ∧
    info.createdTime = h.systemTime.toUInt64 ∧
    (taInvokeCommandEntryPoint h taSuperRelayCmdGenerateKey pt ps c.1).written =
      .ethereumAddress info.ethereumAddress

/-- The successful generate calls of a run, in order. -/
def generations (s : TAState) (evs : List Event) : List (TAState × Event) :=
  (calls s evs).filter fun c => generateSucceeded c.1 c.2

theorem generations_append_single (s : TAState) (evs : List Event) (ev : Event) :
    generations s (evs ++ [ev]) = generations s evs ++
      (if generateSucceeded (run s evs) ev then [(run s evs, ev)] else []) := by
  simp only [generations, calls_append_single, List.filter_append, List.filter_cons,
    List.filter_nil]

theorem createdBy_of_effect {s : TAState} {ev : Event} {e : SrKeyEntry}
    (he : effect s ev = .generated e) : CreatedBy (s, ev) e.info := by
  obtain ⟨h, pt, ps, d, x, y, rfl, hty, hn, rfl, hout⟩ := effect_generated he
  refine ⟨h, pt, ps, rfl, ?_, hty.symm, rfl, rfl, by rw [hout]⟩
  exact (storedKeyId_copy _ hn).1.trans (storedKeyId_eq _ _)

theorem forall₂_modify {α β : Type} {R : α → β → Prop} {f : β → β}
    (hf : ∀ a b, R a b → R a (f b)) :
    ∀ {l₁ : List α} {l₂ : List β} (n : Nat), List.Forall₂ R l₁ l₂ →
      List.Forall₂ R l₁ (l₂.modify f n)
  | _, _, _, .nil => by simp
  | _, _, 0, .cons hab h => by simpa using List.Forall₂.cons (hf _ _ hab) h
  | _, _, n + 1, .cons hab h => by simpa using List.Forall₂.cons hab (forall₂_modify hf n h)

/-- The records of a run are, one for one and in order, the keys of its
successful generate calls. -/
theorem records_of_run (now : UInt32) (evs : List Event) :
    List.Forall₂ (fun c e => CreatedBy c e.info)
      (generations (taCreateEntryPoint now) evs) (run (taCreateEntryPoint now) evs).store.records := by
  induction evs using List.reverseRecOn with
  | nil => exact .nil
  | append_singleton evs ev ih =>
      have hi := (taCreateEntryPoint_inv now).run evs
      rw [generations_append_single, run_append_single, store_step hi]
      cases hef : effect (run (taCreateEntryPoint now) evs) ev with
      | generated e =>
          rw [if_pos (generateSucceeded_iff.2 ⟨e, hef⟩)]
          exact List.rel_append ih (.cons (createdBy_of_effect hef) .nil)
      | signed k t =>
          rw [generateSucceeded_false (by simp [hef])]
          simpa using forall₂_modify (f := fun e => e.touch t) (fun c e hc => hc) k ih
      | none | openSession | closeSession | counted =>
          rw [generateSucceeded_false (by simp [hef])]
          simpa using ih

/-- The answer of `list_keys`: the successful generations of the run, in
creation order, each with the current metadata of its slot, and zero records
after them. -/
theorem listKeys_reports_generations (now : UInt32) (evs : List Event) (h : Host)
    (pt : UInt32) (ps : Params)
    (hres : (taInvokeCommandEntryPoint h taSuperRelayCmdListKeys pt ps
      (run (taCreateEntryPoint now) evs)).res = teeSuccess) :
    let s := run (taCreateEntryPoint now) evs
    let gens := generations (taCreateEntryPoint now) evs
    ∃ r : SrKeyListResult,
      (taInvokeCommandEntryPoint h taSuperRelayCmdListKeys pt ps s).written = .keyListResult r ∧
      r.keyCount.toNat = gens.length ∧
      (∀ (j : Fin 16) (hj : j.val < gens.length),
        r.keys j = (s.keyStorage j).info ∧ CreatedBy gens[j.val] (r.keys j)) ∧
      ∀ j : Fin 16, gens.length ≤ j.val → r.keys j = SrKeyInfo.zero := by
  intro s gens
  rw [invoke_listKeys] at hres ⊢
  rw [cmdListKeys_ok hres]
  have hi : s.Inv := (taCreateEntryPoint_inv now).run evs
  have hrec := records_of_run now evs
  have hlen : gens.length = s.keyCount.toNat := hrec.length_eq.trans (store_records_length s)
  refine ⟨_, rfl, hlen.symm, fun j hj => ?_, fun j hj => ?_⟩
  · have hj' : j.val < s.keyCount.toNat := hlen ▸ hj
    have hget := hrec.get hj (by rw [store_records_length]; exact hj')
    simp only [List.get_eq_getElem, TAState.store, List.getElem_map, List.getElem_range,
      TAState.slot_val] at hget
    have hk := hi.keys_live j hj'
    simp only [arrayCopy_apply, if_pos hj']
    exact ⟨hk, hk ▸ hget⟩
  · simp only [arrayCopy_apply, if_neg (show ¬j.val < s.keyCount.toNat by omega)]

theorem listKeys_reports_generations_sample :
    let s₀ := taCreateEntryPoint 0
    let s := run s₀ sampleSession
    let gens := generations s₀ sampleSession
    gens.length = 2 ∧
    (taInvokeCommandEntryPoint (Host.filled 9) taSuperRelayCmdListKeys outputOnlyParamTypes
      (outputOnlyParams sizeofSrKeyListResult) s).res = teeSuccess ∧
    ∃ r : SrKeyListResult,
      (taInvokeCommandEntryPoint (Host.filled 9) taSuperRelayCmdListKeys outputOnlyParamTypes
        (outputOnlyParams sizeofSrKeyListResult) s).written = .keyListResult r ∧
      r.keyCount.toNat = gens.length ∧
      (∀ (j : Fin 16) (hj : j.val < gens.length),
        r.keys j = (s.keyStorage j).info ∧ CreatedBy gens[j.val] (r.keys j)) ∧
      ∀ j : Fin 16, gens.length ≤ j.val → r.keys j = SrKeyInfo.zero :=
  ⟨by decide, listKeys_succeeds _,
    listKeys_reports_generations 0 sampleSession _ _ _ (listKeys_succeeds _)⟩

/-! ## Usage counters -/

/-- The successful sign calls of a run that resolved to slot `i`, in order. -/
def signings (i : Nat) (s : TAState) (evs : List Event) : List (TAState × Event) :=
  (calls s evs).filter fun c => signSucceededOn i c.1 c.2

/-- The clock reading a call takes, if it takes one. -/
def Event.clockReading : Event → Option UInt32
  | .invoke h _ _ _ => some h.systemTime
  | _ => none

/-- The clock readings of the commands of a run, in order. -/
def clockReadings (evs : List Event) : List UInt32 := evs.filterMap Event.clockReading

theorem signings_append_single (i : Nat) (s : TAState) (evs : List Event) (ev : Event) :
    signings i s (evs ++ [ev]) = signings i s evs ++
      (if signSucceededOn i (run s evs) ev then [(run s evs, ev)] else []) := by
  simp only [signings, calls_append_single, List.filter_append, List.filter_cons, List.filter_nil]

theorem clockReadings_append_single (evs : List Event) (ev : Event) :
    clockReadings (evs ++ [ev]) = clockReadings evs ++ ev.clockReading.toList := by
  cases h : ev.clockReading <;> simp [clockReadings, List.filterMap_append, h]

theorem clockReading_of_signSucceededOn {i : Nat} {s : TAState} {ev : Event}
    (hs : signSucceededOn i s ev = true) : ev.clockReading = some ev.clock := by
  cases ev with
  | openSession => cases hs
  | closeSession => cases hs
  | invoke => rfl

/-- What a run has left in the usage fields of record `e` of slot `i`: the
count of its successful signs modulo `2^32`, and the clock of the latest (the
creation time if none), which is a clock reading of the run. -/
def UsageOf (i : Nat) (s : TAState) (evs : List Event) (e : SrKeyEntry) : Prop :=
  e.info.usageCount.toNat = (signings i s evs).length % 2 ^ 32 ∧
  e.info.lastUsedTime =
    ((signings i s evs).getLast?.map fun c => c.2.clock.toUInt64).getD e.info.createdTime ∧
  ∃ t ∈ clockReadings evs, e.info.lastUsedTime = t.toUInt64

theorem UsageOf.touch {i : Nat} {s : TAState} {evs : List Event} {ev : Event} {e : SrKeyEntry}
    (hu : UsageOf i s evs e) (hs : signSucceededOn i (run s evs) ev = true) :
    UsageOf i s (evs ++ [ev]) (e.touch ev.clock) := by
  obtain ⟨h1, -, -⟩ := hu
  simp only [UsageOf, signings_append_single, hs, clockReadings_append_single,
    clockReading_of_signSucceededOn hs, if_true, List.length_append, List.getLast?_append_of_ne_nil
      _ (List.cons_ne_nil _ _), List.getLast?_singleton, Option.map_some', Option.getD_some]
  refine ⟨?_, rfl, ev.clock, by simp, rfl⟩
  show (e.info.usageCount + 1).toNat = _
  rw [UInt32.toNat_add, h1]
  simp

end TA
end SuperRelay
