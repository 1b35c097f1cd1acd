import SuperRelay.TA.History
import SuperRelay.TA.Secrecy

/-!
# SuperRelay TA: what later calls can see

Every command reads the globals only through the counters, `g_keys` and the
live slots of `g_key_storage`, and `cmd_generate_key` clears the staging slot
with `memset` before it fills it.  So the free slots, where a failed
`cmd_generate_key` leaves what it generated, are never read, and
`g_operation_count` is read only by `cmd_health_check`.

**Relation.**  `OpsAhead k s₁ s₂` says that `s₂` agrees with `s₁` on the
counters, `g_keys` and the live slots, except that its `g_operation_count` is
`k` ahead; the free slots may differ.  Every call shows the same return code
and output from both states, with the `total_operations` of a health report
`k` ahead, and keeps the relation (`OpsAhead.step`); so does every run
(`OpsAhead.run`).

**Results.**
* `store_determines_run`: two states satisfying the invariant with the same
  abstract store show every run the same thing.  The store of the refinement
  loses nothing a caller can observe.
* `unstored_calls_invisible`: after a failed call, every later call shows what
  it would have shown without it; after a successful `get_public_key` or
  `list_keys`, the same holds except that later health reports count one more
  operation.
-/

namespace SuperRelay
namespace TA

/-- What a call wrote, with the `total_operations` of a health report `k` ahead. -/
def Written.opsAhead (k : UInt32) : Written → Written
  | .healthResult r => .healthResult { r with totalOperations := r.totalOperations + k }
  | w => w

@[simp] theorem Written.opsAhead_zero (w : Written) : w.opsAhead 0 = w := by
  cases w <;> simp [Written.opsAhead, add_zero]

/-- The store with the operation count `k` ahead. -/
def Store.opsAhead (k : UInt32) (st : Store) : Store :=
  { st with operationCount := st.operationCount + k }

@[simp] theorem Store.opsAhead_zero (st : Store) : st.opsAhead 0 = st := by
  rw [Store.opsAhead, add_zero]

@[simp] theorem Store.opsAhead_records (k : UInt32) (st : Store) :
    (st.opsAhead k).records = st.records := rfl

/-- The globals `s₂` agree with `s₁` on the counters, `g_keys` and the live
slots, except that `g_operation_count` is `k` ahead. -/
structure OpsAhead (k : UInt32) (s₁ s₂ : TAState) : Prop where
  keys : s₂.keys = s₁.keys
  keyCount : s₂.keyCount = s₁.keyCount
  sessionCount : s₂.sessionCount = s₁.sessionCount
  operationCount : s₂.operationCount = s₁.operationCount + k
  startTime : s₂.startTime = s₁.startTime
  slot_live : ∀ j < s₁.keyCount.toNat, s₂.slot j = s₁.slot j

theorem find?_congr_of_mem {α : Type} {l : List α} {p q : α → Bool} (h : ∀ x ∈ l, p x = q x) :
    l.find? p = l.find? q := by
  induction l with
  | nil => rfl
  | cons a l ih => simp only [List.find?_cons, h a (.head _), ih fun x hx => h x (.tail _ hx)]

namespace OpsAhead

variable {k : UInt32} {s₁ s₂ : TAState}

/-- A change confined to the staging slot is invisible. -/
theorem of_eqOffStaging {s s' : TAState} (hs : EqOffStaging s s') : OpsAhead 0 s s' := by
  refine ⟨hs.keys, hs.keyCount, hs.sessionCount, hs.operationCount.trans (add_zero _).symm,
    hs.startTime, fun j hj => ?_⟩
  unfold TAState.slot arrayGet
  split_ifs with h16
  · exact hs.keyStorage ⟨j, h16⟩ (Nat.ne_of_lt hj)
  · rfl

theorem findKeyIndex (hs : OpsAhead k s₁ s₂) (buf : Nat → UInt8) :
    findKeyIndex s₂ buf = findKeyIndex s₁ buf := by
  unfold TA.findKeyIndex
  rw [hs.keyCount]
  exact find?_congr_of_mem fun j hj => by rw [hs.slot_live j (List.mem_range.1 hj)]

theorem stage (hs : OpsAhead k s₁ s₂) (e : SrKeyEntry) :
    OpsAhead k { s₁ with keyStorage := arraySet s₁.keyStorage s₁.keyCount.toNat e }
      { s₂ with keyStorage := arraySet s₂.keyStorage s₂.keyCount.toNat e } := by
  have h₁ := OpsAhead.of_eqOffStaging (EqOffStaging.stage s₁ e)
  have h₂ := OpsAhead.of_eqOffStaging (EqOffStaging.stage s₂ e)
  refine ⟨hs.keys, hs.keyCount, hs.sessionCount, hs.operationCount, hs.startTime,
    fun j hj => ?_⟩
  rw [h₂.slot_live j (hs.keyCount ▸ hj), h₁.slot_live j hj]
  exact hs.slot_live j hj

/-- Writing the same live slot and the same `g_keys` entry in both, with the
operation counted, keeps the relation. -/
theorem write (hs : OpsAhead k s₁ s₂) {i : Nat} (e : SrKeyEntry) (info : SrKeyInfo) :
    OpsAhead k
      { s₁ with keyStorage := arraySet s₁.keyStorage i e, keys := arraySet s₁.keys i info,
                operationCount := s₁.operationCount + 1 }
      { s₂ with keyStorage := arraySet s₂.keyStorage i e, keys := arraySet s₂.keys i info,
                operationCount := s₂.operationCount + 1 } := by
  refine ⟨by rw [hs.keys], hs.keyCount, hs.sessionCount,
    by rw [hs.operationCount, add_right_comm], hs.startTime, fun j hj => ?_⟩
  have := hs.slot_live j hj
  unfold TAState.slot arrayGet at this ⊢
  split_ifs at this ⊢ with h16
  · simp only [arraySet_apply]
    split_ifs
    · rfl
    · exact this
  · rfl

theorem publish (hs : OpsAhead k s₁ s₂) (hc : s₁.keyCount < srMaxKeys) (e : SrKeyEntry) :
    OpsAhead k (s₁.publish e) (s₂.publish e) := by
  have hk := publish_keyCount_toNat s₁ e hc
  refine ⟨by simp only [TAState.publish, hs.keys, hs.keyCount], by simp [hs.keyCount],
    hs.sessionCount, by simp only [publish_operationCount, hs.operationCount, add_right_comm],
    hs.startTime, fun j hj => ?_⟩
  rw [hk] at hj
  rcases Nat.lt_succ_iff_lt_or_eq.1 hj with hj | rfl
  · rw [publish_slot_of_ne s₂ e (hs.keyCount ▸ Nat.ne_of_lt hj),
      publish_slot_of_ne s₁ e (Nat.ne_of_lt hj)]
    exact hs.slot_live j hj
  · rw [publish_slot_self s₁ e hc, ← hs.keyCount, publish_slot_self s₂ e (hs.keyCount ▸ hc)]

/-- A counted read moves the operation count one ahead and nothing else. -/
theorem countOp_self (s : TAState) : OpsAhead 1 s s.countOp :=
  ⟨rfl, rfl, rfl, rfl, rfl, fun _ _ => rfl⟩

theorem countOp (hs : OpsAhead k s₁ s₂) : OpsAhead k s₁.countOp s₂.countOp :=
  ⟨hs.keys, hs.keyCount, hs.sessionCount, by simp only [countOp_operationCount,
    hs.operationCount, add_right_comm], hs.startTime, hs.slot_live⟩

end OpsAhead

/-- Two outcomes give the same return code, the second writes what the first
does with the operation count `k` ahead, and their globals are so related. -/
def Outcome.OpsAhead (k : UInt32) (o₁ o₂ : Outcome) : Prop :=
  o₂.res = o₁.res ∧ o₂.written = o₁.written.opsAhead k ∧ TA.OpsAhead k o₁.state o₂.state

/-- Both branches of one test keep the relation, so the test does. -/
theorem Outcome.OpsAhead.ite {k : UInt32} {c : Prop} [Decidable c] {a₁ a₂ b₁ b₂ : Outcome}
    (ha : c → a₁.OpsAhead k a₂) (hb : ¬c → b₁.OpsAhead k b₂) :
    (if c then a₁ else b₁).OpsAhead k (if c then a₂ else b₂) := by
  by_cases h : c
  · rw [if_pos h, if_pos h]
    exact ha h
  · rw [if_neg h, if_neg h]
    exact hb h

section Commands

variable {k : UInt32} {h : Host} {pt : UInt32} {ps : Params} {s₁ s₂ : TAState}

theorem reject_opsAhead (hs : OpsAhead k s₁ s₂) (r : TEEResult) :
    (reject r s₁).OpsAhead k (reject r s₂) :=
  ⟨rfl, rfl, hs⟩

theorem finishGenerateKey_opsAhead (hs : OpsAhead k s₁ s₂) (hc : s₁.keyCount < srMaxKeys)
    (g : TEEResult × SrKeyEntry) :
    (finishGenerateKey ps s₁ g).OpsAhead k (finishGenerateKey ps s₂ g) :=
  .ite (fun _ => reject_opsAhead (hs.stage g.2) _) fun _ =>
    .ite (fun _ => reject_opsAhead (hs.stage g.2) _) fun _ => ⟨rfl, rfl, hs.publish hc g.2⟩

theorem cmdGenerateKey_opsAhead (hs : OpsAhead k s₁ s₂) :
    (cmdGenerateKey h pt ps s₁).OpsAhead k (cmdGenerateKey h pt ps s₂) := by
  unfold cmdGenerateKey
  rw [hs.findKeyIndex, hs.keyCount]
  refine .ite (fun _ => reject_opsAhead hs _) fun _ =>
    .ite (fun _ => reject_opsAhead hs _) fun hc => ?_
  exact .ite (fun _ => reject_opsAhead hs _) fun _ => .ite (fun _ => reject_opsAhead hs _)
    fun _ => .ite (fun _ => reject_opsAhead hs _) fun _ =>
      finishGenerateKey_opsAhead hs (UInt32.not_le.1 hc) _

theorem signWithSlot_opsAhead (hs : OpsAhead k s₁ s₂) {i : Nat} (hi : i < s₁.keyCount.toNat) :
    (signWithSlot h ps s₁ i).OpsAhead k (signWithSlot h ps s₂ i) := by
  unfold signWithSlot
  rw [hs.slot_live i hi]
  exact .ite (fun _ => reject_opsAhead hs _) fun _ =>
    .ite (fun _ => ⟨rfl, rfl, hs.write _ _⟩) fun _ => ⟨rfl, rfl, hs⟩

theorem cmdSignMessage_opsAhead (hs : OpsAhead k s₁ s₂) :
    (cmdSignMessage h pt ps s₁).OpsAhead k (cmdSignMessage h pt ps s₂) := by
  unfold cmdSignMessage
  rw [hs.findKeyIndex]
  refine .ite (fun _ => reject_opsAhead hs _) fun _ => .ite (fun _ => reject_opsAhead hs _)
    fun _ => .ite (fun _ => reject_opsAhead hs _) fun _ =>
      .ite (fun _ => reject_opsAhead hs _) fun _ => ?_
  cases hf : findKeyIndex s₁ (ps 0).memref.buffer with
  | none => exact reject_opsAhead hs _
  | some i => exact signWithSlot_opsAhead hs (findKeyIndex_lt hf)

theorem cmdGetPublicKey_opsAhead (hs : OpsAhead k s₁ s₂) :
    (cmdGetPublicKey pt ps s₁).OpsAhead k (cmdGetPublicKey pt ps s₂) := by
  unfold cmdGetPublicKey
  rw [hs.findKeyIndex]
  refine .ite (fun _ => reject_opsAhead hs _) fun _ => .ite (fun _ => reject_opsAhead hs _)
    fun _ => .ite (fun _ => reject_opsAhead hs _) fun _ => ?_
  cases hf : findKeyIndex s₁ (ps 0).memref.buffer with
  | none => exact reject_opsAhead hs _
  | some i =>
      exact ⟨rfl, by simp only [publicKeyOf, hs.slot_live i (findKeyIndex_lt hf)]; rfl, hs.countOp⟩

theorem cmdListKeys_opsAhead (hs : OpsAhead k s₁ s₂) :
    (cmdListKeys pt ps s₁).OpsAhead k (cmdListKeys pt ps s₂) :=
  .ite (fun _ => reject_opsAhead hs _) fun _ => .ite (fun _ => reject_opsAhead hs _) fun _ =>
    ⟨rfl, by rw [hs.keys, hs.keyCount]; rfl, hs.countOp⟩

theorem cmdHealthCheck_opsAhead (hs : OpsAhead k s₁ s₂) :
    (cmdHealthCheck h pt ps s₁).OpsAhead k (cmdHealthCheck h pt ps s₂) :=
  .ite (fun _ => reject_opsAhead hs _) fun _ => .ite (fun _ => reject_opsAhead hs _) fun _ =>
    ⟨rfl, by rw [hs.sessionCount, hs.operationCount, hs.keyCount, hs.startTime]; rfl, hs⟩

theorem cmdGetVersion_opsAhead (hs : OpsAhead k s₁ s₂) :
    (cmdGetVersion pt ps s₁).OpsAhead k (cmdGetVersion pt ps s₂) :=
  .ite (fun _ => reject_opsAhead hs _) fun _ => .ite (fun _ => reject_opsAhead hs _) fun _ =>
    ⟨rfl, rfl, hs⟩

theorem taInvokeCommandEntryPoint_opsAhead (hs : OpsAhead k s₁ s₂) (c : UInt32) :
    (taInvokeCommandEntryPoint h c pt ps s₁).OpsAhead k (taInvokeCommandEntryPoint h c pt ps s₂) :=
  .ite (fun _ => cmdGenerateKey_opsAhead hs) fun _ =>
    .ite (fun _ => cmdSignMessage_opsAhead hs) fun _ =>
    .ite (fun _ => cmdGetPublicKey_opsAhead hs) fun _ =>
    .ite (fun _ => cmdListKeys_opsAhead hs) fun _ =>
    .ite (fun _ => cmdGetVersion_opsAhead hs) fun _ =>
    .ite (fun _ => cmdHealthCheck_opsAhead hs) fun _ =>
    .ite (fun _ => reject_opsAhead hs _) fun _ => reject_opsAhead hs _

end Commands

/-- What the caller sees of a call, with the `total_operations` of a health
report `k` ahead. -/
def observeAhead (k : UInt32) (c : TAState × Event) : Option (TEEResult × Written) :=
  (observe c.1 c.2).map fun o => (o.1, o.2.opsAhead k)

@[simp] theorem observeAhead_zero : observeAhead 0 = fun c => observe c.1 c.2 :=
  funext fun c => by simp [observeAhead]

namespace OpsAhead

variable {k : UInt32} {s₁ s₂ : TAState}

/-- One call shows the same thing from both states, up to the operation count,
and keeps them related. -/
theorem step (hs : OpsAhead k s₁ s₂) (ev : Event) :
    observe s₂ ev = observeAhead k (s₁, ev) ∧ OpsAhead k (TA.step s₁ ev) (TA.step s₂ ev) := by
  cases ev with
  | openSession =>
      refine ⟨rfl, { hs with sessionCount := ?_ }⟩
      simp only [TA.step, taOpenSessionEntryPoint, hs.sessionCount]
  | closeSession =>
      refine ⟨rfl, ?_⟩
      simp only [TA.step, taCloseSessionEntryPoint, hs.sessionCount]
      split_ifs
      · exact { hs with sessionCount := rfl }
      · exact hs
  | invoke h c pt ps =>
      obtain ⟨hr, hw, hst⟩ : (taInvokeCommandEntryPoint h c pt ps s₁).OpsAhead k
          (taInvokeCommandEntryPoint h c pt ps s₂) := taInvokeCommandEntryPoint_opsAhead hs c
      exact ⟨by simp only [observe, observeAhead, hr, hw, Option.map_some'], hst⟩

/-- Over a whole run, every call shows the same thing from both states, up to
the operation count, and the runs end related. -/
theorem run (hs : OpsAhead k s₁ s₂) (evs : List Event) :
    (calls s₂ evs).map (fun c => observe c.1 c.2) = (calls s₁ evs).map (observeAhead k) ∧
    OpsAhead k (TA.run s₁ evs) (TA.run s₂ evs) := by
  induction evs generalizing s₁ s₂ with
  | nil => exact ⟨rfl, hs⟩
  | cons ev evs ih =>
      obtain ⟨hobs, hs'⟩ := hs.step ev
      obtain ⟨hrest, hend⟩ := ih hs'
      exact ⟨by simp only [calls, List.map_cons, hobs, hrest], hend⟩

/-- The related states hold the same store, with the operation count `k` ahead. -/
theorem store_eq (hs : OpsAhead k s₁ s₂) : s₂.store = s₁.store.opsAhead k := by
  simp only [TAState.store, Store.opsAhead, hs.keyCount, hs.sessionCount, hs.operationCount,
    hs.startTime]
  congr 1
  exact List.map_congr_left fun j hj => hs.slot_live j (List.mem_range.1 hj)

/-- Two states satisfying the invariant with the same store, up to the
operation count, are related. -/
theorem of_store (h₁ : s₁.Inv) (h₂ : s₂.Inv) (hst : s₂.store = s₁.store.opsAhead k) :
    OpsAhead k s₁ s₂ := by
  have hrec : s₂.store.records = s₁.store.records := by rw [hst, Store.opsAhead_records]
  have hc : s₂.keyCount = s₁.keyCount := UInt32.ext <| by
    rw [← store_records_length, ← store_records_length, hrec]
  have hlive : ∀ j < s₁.keyCount.toNat, s₂.slot j = s₁.slot j := fun j hj => by
    have := congrArg (·[j]?) hrec
    simp only [store_records_getElem?, hc, if_pos hj, Option.some.injEq] at this
    exact this
  refine ⟨funext fun j => ?_, hc, congrArg Store.sessionCount hst,
    congrArg Store.operationCount hst, congrArg Store.startTime hst, hlive⟩
  by_cases hj : j.val < s₁.keyCount.toNat
  · rw [h₂.keys_live j (hc ▸ hj), h₁.keys_live j hj, ← TAState.slot_val, ← TAState.slot_val,
      hlive j hj]
  · rw [h₂.keys_free j (by rw [hc]; omega), h₁.keys_free j (by omega)]

end OpsAhead

/-- The abstract store is all a caller can observe: from two states satisfying
the invariant that hold the same store, the same calls show the same return
codes and outputs, one by one, and the runs end with the same store. -/
theorem store_determines_run {s₁ s₂ : TAState} (h₁ : s₁.Inv) (h₂ : s₂.Inv)
    (hst : s₁.store = s₂.store) (evs : List Event) :
    (calls s₁ evs).map (fun c => observe c.1 c.2) = (calls s₂ evs).map (fun c => observe c.1 c.2) ∧
    (run s₁ evs).store = (run s₂ evs).store := by
  have hs : OpsAhead 0 s₁ s₂ := .of_store h₁ h₂ (by rw [← hst, Store.opsAhead_zero])
  obtain ⟨hobs, hend⟩ := hs.run evs
  exact ⟨by rw [hobs, observeAhead_zero], by rw [hend.store_eq, Store.opsAhead_zero]⟩

theorem store_determines_run_after_short_buffer :
    (taCreateEntryPoint 0).Inv ∧
    (run (taCreateEntryPoint 0) [.invoke (Host.filled 0) taSuperRelayCmdGenerateKey
      generateKeyParamTypes (params4 (.ofMemref (callerBytes [65]) 1)
        (.ofValue srKeyTypeEcdsaSecp256k1) (outputParam 19) unusedParam)]).Inv ∧
    (taCreateEntryPoint 0).store =
      (run (taCreateEntryPoint 0) [.invoke (Host.filled 0) taSuperRelayCmdGenerateKey
        generateKeyParamTypes (params4 (.ofMemref (callerBytes [65]) 1)
          (.ofValue srKeyTypeEcdsaSecp256k1) (outputParam 19) unusedParam)]).store ∧
    (calls (taCreateEntryPoint 0) [listKeysRequest (Host.filled 0)]).map
        (fun c => observe c.1 c.2) =
      (calls (run (taCreateEntryPoint 0) [.invoke (Host.filled 0) taSuperRelayCmdGenerateKey
        generateKeyParamTypes (params4 (.ofMemref (callerBytes [65]) 1)
          (.ofValue srKeyTypeEcdsaSecp256k1) (outputParam 19) unusedParam)])
        [listKeysRequest (Host.filled 0)]).map (fun c => observe c.1 c.2) ∧
    (run (taCreateEntryPoint 0) [listKeysRequest (Host.filled 0)]).store =
      (run (run (taCreateEntryPoint 0) [.invoke (Host.filled 0) taSuperRelayCmdGenerateKey
        generateKeyParamTypes (params4 (.ofMemref (callerBytes [65]) 1)
          (.ofValue srKeyTypeEcdsaSecp256k1) (outputParam 19) unusedParam)])
        [listKeysRequest (Host.filled 0)]).store :=
  ⟨taCreateEntryPoint_inv 0, (taCreateEntryPoint_inv 0).run _, rfl,
    store_determines_run (taCreateEntryPoint_inv 0) ((taCreateEntryPoint_inv 0).run _) (by rfl) _⟩

/-- Calls that store nothing are invisible to later calls.  After a failed
call, every later call shows what it would have shown without it, and the run
ends with the same store.  After a successful `get_public_key` or `list_keys`,
the same holds, except that later health reports and the final store count
one more operation. -/
theorem unstored_calls_invisible (s : TAState) (h : Host) (c pt : UInt32) (ps : Params)
    (evs : List Event) :
    ((taInvokeCommandEntryPoint h c pt ps s).res ≠ teeSuccess →
      (calls (step s (.invoke h c pt ps)) evs).map (fun x => observe x.1 x.2) =
        (calls s evs).map (fun x => observe x.1 x.2) ∧
      (run (step s (.invoke h c pt ps)) evs).store = (run s evs).store) ∧
    ((taInvokeCommandEntryPoint h c pt ps s).res = teeSuccess →
      c = taSuperRelayCmdGetPublicKey ∨ c = taSuperRelayCmdListKeys →
      (calls (step s (.invoke h c pt ps)) evs).map (fun x => observe x.1 x.2) =
        (calls s evs).map (observeAhead 1) ∧
      (run (step s (.invoke h c pt ps)) evs).store = (run s evs).store.opsAhead 1) := by
  refine ⟨fun hres => ?_, fun hres hc => ?_⟩
  · obtain ⟨hobs, hend⟩ := (OpsAhead.of_eqOffStaging (taInvokeCommandEntryPoint_fail hres)).run evs
    rw [observeAhead_zero] at hobs
    exact ⟨hobs, hend.store_eq.trans (Store.opsAhead_zero _)⟩
  · have hst : (taInvokeCommandEntryPoint h c pt ps s).state = s.countOp := by
      rcases hc with rfl | rfl
      · rw [invoke_getPublicKey] at hres ⊢
        obtain ⟨i, -, he⟩ := cmdGetPublicKey_ok hres
        rw [he]
        rfl
      · rw [invoke_listKeys] at hres ⊢
        rw [cmdListKeys_ok hres]
    have hs : OpsAhead 1 s (step s (.invoke h c pt ps)) := by
      show OpsAhead 1 s (taInvokeCommandEntryPoint h c pt ps s).state
      rw [hst]
      exact OpsAhead.countOp_self s
    obtain ⟨hobs, hend⟩ := hs.run evs
    exact ⟨hobs, hend.store_eq⟩

theorem unstored_calls_invisible_listKeys :
    (taInvokeCommandEntryPoint (Host.filled 0) taSuperRelayCmdListKeys outputOnlyParamTypes
      (outputOnlyParams sizeofSrKeyListResult) (taCreateEntryPoint 0)).res = teeSuccess ∧
    (calls (step (taCreateEntryPoint 0) (listKeysRequest (Host.filled 0)))
        [listKeysRequest (Host.filled 1)]).map (fun x => observe x.1 x.2) =
      (calls (taCreateEntryPoint 0) [listKeysRequest (Host.filled 1)]).map (observeAhead 1) ∧
    (run (step (taCreateEntryPoint 0) (listKeysRequest (Host.filled 0)))
        [listKeysRequest (Host.filled 1)]).store =
      (run (taCreateEntryPoint 0) [listKeysRequest (Host.filled 1)]).store.opsAhead 1 :=
  ⟨rfl, (unstored_calls_invisible (taCreateEntryPoint 0) (Host.filled 0) taSuperRelayCmdListKeys
    outputOnlyParamTypes (outputOnlyParams sizeofSrKeyListResult) _).2 rfl (.inr rfl)⟩

end TA
end SuperRelay
