import SuperRelay.TA.History

/-!
# SuperRelay TA: the health report over a run

`cmd_health_check` reports `g_session_count`, `g_operation_count`,
`g_key_count * sizeof(sr_key_entry_t)` and the clock minus `g_start_time`.

**Counters.**  `TA_OpenSessionEntryPoint` increments `g_session_count` and
`TA_CloseSessionEntryPoint` decrements it unless it is zero; a command
increments `g_operation_count` exactly when it is a successful
`generate_key`, `sign_message`, `get_public_key` or `list_keys`
(`countsOperation`).  Both counters are `uint32_t`, so they count modulo
`2^32`.

**Results.**
* `operationCount_run`: the operation counter is the number of counted calls
  of the run modulo `2^32`.
* `sessionCount_run`: the session counter is opens minus closes, as long as
  the host closes only sessions it opened and never holds `2^32` open.
* `generations_capacity`: at most sixteen generate calls ever succeed, and
  after the sixteenth none does.
* `healthCheck_reports_run`: what a successful `health_check` reports.
* `healthCheck_operations_wrap`: after `2^32` counted calls the report says
  zero operations.
-/

namespace SuperRelay
namespace TA

/-- The call `ev`, met in `s`, is a successful `generate_key`, `sign_message`,
`get_public_key` or `list_keys`. -/
def countsOperation (s : TAState) : Event → Bool
  | .invoke h c pt ps =>
      decide ((c = taSuperRelayCmdGenerateKey ∨ c = taSuperRelayCmdSignMessage ∨
          c = taSuperRelayCmdGetPublicKey ∨ c = taSuperRelayCmdListKeys) ∧
        (taInvokeCommandEntryPoint h c pt ps s).res = teeSuccess)
  | _ => false

/-- The calls of a run that `g_operation_count` counts, in order. -/
def operations (s : TAState) (evs : List Event) : List (TAState × Event) :=
  (calls s evs).filter fun c => countsOperation c.1 c.2

/-- Whether a call opens a session. -/
def Event.isOpen : Event → Bool
  | .openSession => true
  | _ => false

/-- Whether a call closes a session. -/
def Event.isClose : Event → Bool
  | .closeSession => true
  | _ => false

/-- The number of sessions a run opens. -/
def opens (evs : List Event) : Nat := evs.countP Event.isOpen

/-- The number of sessions a run closes. -/
def closes (evs : List Event) : Nat := evs.countP Event.isClose

/-- The host closes only sessions it opened and never holds `2^32` or more
open at once: every prefix of the run has at most as many closes as opens, and
fewer than `2^32` more opens. -/
def SessionsNested (evs : List Event) : Prop :=
  ∀ k ≤ evs.length,
    closes (evs.take k) ≤ opens (evs.take k) ∧ opens (evs.take k) - closes (evs.take k) < 2 ^ 32

theorem effect_invoke_operationCount (s : TAState) (h : Host) (c pt : UInt32) (ps : Params) :
    (s.store.apply (effect s (.invoke h c pt ps))).operationCount =
      if countsOperation s (.invoke h c pt ps) then s.operationCount + 1 else s.operationCount := by
  simp only [effect, countsOperation]
  by_cases hres : (taInvokeCommandEntryPoint h c pt ps s).res = teeSuccess
  · simp only [hres, ne_eq, not_true_eq_false, if_false, and_true]
    by_cases hg : c = taSuperRelayCmdGenerateKey
    · simp [hg, Store.apply, TAState.store]
    by_cases hsg : c = taSuperRelayCmdSignMessage
    · subst hsg
      rw [invoke_signMessage] at hres
      obtain ⟨i, hi, -⟩ := cmdSignMessage_ok hres
      simp [hg, hi, Store.apply, TAState.store]
    by_cases hc : c = taSuperRelayCmdGetPublicKey ∨ c = taSuperRelayCmdListKeys <;>
      simp [hg, hsg, hc, Store.apply, TAState.store]
  · simp [hres, Store.apply, TAState.store]

theorem effect_invoke_sessionCount (s : TAState) (h : Host) (c pt : UInt32) (ps : Params) :
    (s.store.apply (effect s (.invoke h c pt ps))).sessionCount = s.sessionCount := by
  simp only [effect]
  split_ifs <;> (try split) <;> rfl

theorem operationCount_step {s : TAState} (hi : s.Inv) (ev : Event) :
    (step s ev).operationCount = (s.store.apply (effect s ev)).operationCount :=
  congrArg Store.operationCount (store_step hi ev)

theorem sessionCount_step {s : TAState} (hi : s.Inv) (ev : Event) :
    (step s ev).sessionCount = (s.store.apply (effect s ev)).sessionCount :=
  congrArg Store.sessionCount (store_step hi ev)

theorem operations_append_single (s : TAState) (evs : List Event) (ev : Event) :
    operations s (evs ++ [ev]) = operations s evs ++
      (if countsOperation (run s evs) ev then [(run s evs, ev)] else []) := by
  simp only [operations, calls_append_single, List.filter_append, List.filter_cons, List.filter_nil]

/-- The operation counter is the number of counted calls modulo `2^32`. -/
theorem operationCount_run (now : UInt32) (evs : List Event) :
    (run (taCreateEntryPoint now) evs).operationCount.toNat =
      (operations (taCreateEntryPoint now) evs).length % 2 ^ 32 := by
  induction evs using List.reverseRecOn with
  | nil => rfl
  | append_singleton evs ev ih =>
      rw [run_append_single, operations_append_single, List.length_append,
        operationCount_step ((taCreateEntryPoint_inv now).run evs)]
      cases ev with
      | openSession => simpa [Store.apply, TAState.store, countsOperation, effect] using ih
      | closeSession => simpa [Store.apply, TAState.store, countsOperation, effect] using ih
      | invoke h c pt ps =>
          rw [effect_invoke_operationCount]
          split_ifs <;> simp [UInt32.toNat_add, ih]

theorem SessionsNested.of_append {evs : List Event} {ev : Event}
    (hn : SessionsNested (evs ++ [ev])) : SessionsNested evs := fun k hk => by
  have := hn k (by simp; omega)
  rwa [List.take_append_of_le_length hk] at this

/-- The session counter is opens minus closes while the host closes only
sessions it opened and never holds `2^32` open. -/
theorem sessionCount_run (now : UInt32) (evs : List Event) (hn : SessionsNested evs) :
    (run (taCreateEntryPoint now) evs).sessionCount.toNat = opens evs - closes evs := by
  induction evs using List.reverseRecOn with
  | nil => rfl
  | append_singleton evs ev ih =>
      have hi := (taCreateEntryPoint_inv now).run evs
      have hlast := hn (evs ++ [ev]).length le_rfl
      have hprev := hn.of_append evs.length le_rfl
      rw [List.take_length] at hlast hprev
      have ih := ih hn.of_append
      simp only [opens, closes, List.countP_append] at hlast hprev ih ⊢
      rw [run_append_single]
      cases ev with
      | openSession =>
          simp only [step, taOpenSessionEntryPoint, UInt32.toNat_add]
          simp only [Event.isClose, Bool.false_eq_true, not_false_eq_true, List.countP_cons_of_neg,
            List.countP_nil, add_zero, Event.isOpen, List.countP_cons_of_pos, zero_add,
            Nat.reducePow, UInt32.reduceToNat, UInt32.size] at hlast ⊢
          rw [ih]
          omega
      | closeSession =>
          simp only [Event.isClose, List.countP_cons_of_pos, List.countP_nil, zero_add,
            Event.isOpen, Bool.false_eq_true, not_false_eq_true, List.countP_cons_of_neg, add_zero,
            Nat.reducePow] at hlast ⊢
          have hpos : 0 < (run (taCreateEntryPoint now) evs).sessionCount := by
            rw [u32_lt_iff, ih, UInt32.toNat_zero]
            omega
          simp only [step, taCloseSessionEntryPoint, gt_iff_lt, if_pos hpos]
          have h1 : (1 : UInt32).toNat = 1 := rfl
          rw [UInt32.toNat_sub_of_le _ _ (by rw [u32_le_iff, ih, h1]; omega), ih, h1]
          omega
      | invoke h c pt ps =>
          rw [sessionCount_step hi, effect_invoke_sessionCount, ih]
          simp only [Event.isOpen, Bool.false_eq_true, not_false_eq_true, List.countP_cons_of_neg,
            List.countP_nil, add_zero, Event.isClose]

theorem startTime_run (now : UInt32) (evs : List Event) :
    (run (taCreateEntryPoint now) evs).startTime = now.toUInt64 := by
  induction evs using List.reverseRecOn with
  | nil => rfl
  | append_singleton evs ev ih =>
      rw [run_append_single, ← ih]
      have := congrArg Store.startTime (store_step ((taCreateEntryPoint_inv now).run evs) ev)
      simp only [TAState.store] at this
      rw [this]
      cases effect (run (taCreateEntryPoint now) evs) ev <;> rfl

theorem cmdHealthCheck_ok {h : Host} {pt : UInt32} {ps : Params} {s : TAState}
    (hres : (cmdHealthCheck h pt ps s).res = teeSuccess) :
    cmdHealthCheck h pt ps s =
      ⟨teeSuccess, .healthResult ⟨srSuccess, s.sessionCount, s.operationCount,
        s.keyCount * sizeofSrKeyEntry, h.systemTime.toUInt64 - s.startTime⟩, s⟩ := by
  unfold cmdHealthCheck at hres ⊢
  split_ifs at hres ⊢
  · exact absurd hres teeErrorBadParameters_ne
  · exact absurd hres teeErrorShortBuffer_ne
  · rfl

theorem keyCount_run (now : UInt32) (evs : List Event) :
    (run (taCreateEntryPoint now) evs).keyCount.toNat =
      (generations (taCreateEntryPoint now) evs).length :=
  (store_records_length _).symm.trans (records_of_run now evs).length_eq.symm

/-- At most `SR_MAX_KEYS` generate calls succeed over the life of the TA, and
once that many have, every further `generate_key` fails: no call frees a
slot. -/
theorem generations_capacity (now : UInt32) (evs : List Event) (h : Host) (pt : UInt32)
    (ps : Params) :
    (generations (taCreateEntryPoint now) evs).length ≤ srMaxKeys.toNat ∧
    ((generations (taCreateEntryPoint now) evs).length = srMaxKeys.toNat →
      (taInvokeCommandEntryPoint h taSuperRelayCmdGenerateKey pt ps
        (run (taCreateEntryPoint now) evs)).res ≠ teeSuccess) := by
  have hi := (taCreateEntryPoint_inv now).run evs
  rw [← keyCount_run]
  refine ⟨hi.keyCount_le, fun hfull hres => ?_⟩
  rw [invoke_generateKey] at hres
  have hc : (run (taCreateEntryPoint now) evs).keyCount.toNat < srMaxKeys.toNat :=
    (cmdGenerateKey_ok hres).1
  exact absurd hfull (Nat.ne_of_lt hc)

/-- What a successful `health_check` reports after any run: sessions opened
minus closed while the host closes only sessions it opened and holds fewer
than `2^32`, the counted calls modulo `2^32`, the live keys times the slot
size, and the clock minus the start time when the clock has not gone back. -/
theorem healthCheck_reports_run (now : UInt32) (evs : List Event) (h : Host) (pt : UInt32)
    (ps : Params)
    (hres : (taInvokeCommandEntryPoint h taSuperRelayCmdHealthCheck pt ps
      (run (taCreateEntryPoint now) evs)).res = teeSuccess) :
    ∃ r : SrHealthResult,
      (taInvokeCommandEntryPoint h taSuperRelayCmdHealthCheck pt ps
        (run (taCreateEntryPoint now) evs)).written = .healthResult r ∧
      r.status = srSuccess ∧
      (SessionsNested evs → r.activeSessions.toNat = opens evs - closes evs) ∧
      r.totalOperations.toNat = (operations (taCreateEntryPoint now) evs).length % 2 ^ 32 ∧
      r.storageUsage.toNat =
        (generations (taCreateEntryPoint now) evs).length * sizeofSrKeyEntry.toNat ∧
      (now ≤ h.systemTime → r.uptime.toNat = h.systemTime.toNat - now.toNat) := by
  have hk := (taCreateEntryPoint_inv now).run evs |>.keyCount_le
  rw [show taInvokeCommandEntryPoint h taSuperRelayCmdHealthCheck pt ps _ =
    cmdHealthCheck h pt ps _ from rfl] at hres ⊢
  rw [cmdHealthCheck_ok hres]
  refine ⟨_, rfl, rfl, sessionCount_run now evs, operationCount_run now evs, ?_, fun hle => ?_⟩
  · show ((run (taCreateEntryPoint now) evs).keyCount.toNat * 288) % 2 ^ 32 = _
    rw [keyCount_run] at hk ⊢
    exact Nat.mod_eq_of_lt (by omega)
  · rw [startTime_run, UInt64.toNat_sub_of_le _ _ (u64_le_iff.2 (by simpa [u32_le_iff] using hle))]
    simp

theorem healthCheck_reports_run_sample :
    (taInvokeCommandEntryPoint (Host.filled 9) taSuperRelayCmdHealthCheck outputOnlyParamTypes
      (outputOnlyParams sizeofSrHealthResult) (run (taCreateEntryPoint 0) sampleSession)).res =
        teeSuccess ∧
    ∃ r : SrHealthResult,
      (taInvokeCommandEntryPoint (Host.filled 9) taSuperRelayCmdHealthCheck outputOnlyParamTypes
        (outputOnlyParams sizeofSrHealthResult) (run (taCreateEntryPoint 0) sampleSession)).written =
          .healthResult r ∧
      r.status = srSuccess ∧
      (SessionsNested sampleSession → r.activeSessions.toNat = opens sampleSession - closes sampleSession) ∧
      r.totalOperations.toNat = (operations (taCreateEntryPoint 0) sampleSession).length % 2 ^ 32 ∧
      r.storageUsage.toNat =
        (generations (taCreateEntryPoint 0) sampleSession).length * sizeofSrKeyEntry.toNat ∧
      ((0 : UInt32) ≤ (Host.filled 9).systemTime →
        r.uptime.toNat = (Host.filled 9).systemTime.toNat - (0 : UInt32).toNat) :=
  ⟨healthCheck_succeeds _,
    healthCheck_reports_run 0 sampleSession _ _ _ (healthCheck_succeeds _)⟩

theorem countsOperation_listKeysRequest (s : TAState) (h : Host) :
    countsOperation s (listKeysRequest h) = true := by
  simp only [countsOperation, listKeysRequest, listKeys_succeeds, and_true]
  decide

/-- Every `list_keys` call of a run of them is counted. -/
theorem operations_replicate_listKeys (s : TAState) (h : Host) (k : Nat) :
    (operations s (List.replicate k (listKeysRequest h))).length = k := by
  induction k generalizing s with
  | zero => rfl
  | succ k ih =>
      simp only [operations, List.replicate_succ, calls, List.filter_cons,
        countsOperation_listKeysRequest, if_true, List.length_cons]
      exact congrArg (· + 1) (ih _)

/-- `k` calls of `list_keys` add `k` to the operation counter, modulo `2^32`, and
change nothing else. -/
theorem run_replicate_listKeys (s : TAState) (h : Host) (k : Nat) :
    run s (List.replicate k (listKeysRequest h)) =
      { s with operationCount := s.operationCount + UInt32.ofNat k } := by
  induction k generalizing s with
  | zero =>
      show s = { s with operationCount := s.operationCount + 0 }
      rw [add_zero]
  | succ k ih =>
      rw [List.replicate_succ, run_cons, show step s (listKeysRequest h) = s.countOp from rfl, ih]
      show { s with operationCount := s.operationCount + 1 + UInt32.ofNat k } = _
      congr 1
      apply UInt32.eq_of_toBitVec_eq
      show s.operationCount.toBitVec + 1#32 + BitVec.ofNat 32 k =
        s.operationCount.toBitVec + BitVec.ofNat 32 (k + 1)
      rw [BitVec.ofNat_add, BitVec.add_assoc, BitVec.add_comm 1#32]

/-- After `2^32` successful `list_keys` calls from `TA_CreateEntryPoint`, all of
them counted, `health_check` succeeds and reports no operation:
`g_operation_count` is a `uint32_t` and wraps. -/
theorem healthCheck_operations_wrap :
    (operations (taCreateEntryPoint 0)
      (List.replicate (2 ^ 32) (listKeysRequest (Host.filled 0)))).length = 2 ^ 32 ∧
    (taInvokeCommandEntryPoint (Host.filled 0) taSuperRelayCmdHealthCheck outputOnlyParamTypes
        (outputOnlyParams sizeofSrHealthResult)
        (run (taCreateEntryPoint 0) (List.replicate (2 ^ 32) (listKeysRequest (Host.filled 0))))).res =
      teeSuccess ∧
    (taInvokeCommandEntryPoint (Host.filled 0) taSuperRelayCmdHealthCheck outputOnlyParamTypes
        (outputOnlyParams sizeofSrHealthResult)
        (run (taCreateEntryPoint 0) (List.replicate (2 ^ 32) (listKeysRequest (Host.filled 0))))).written =
      .healthResult ⟨srSuccess, 0, 0, 0, 0⟩ := by
  have hwrap : run (taCreateEntryPoint 0) (List.replicate (2 ^ 32) (listKeysRequest (Host.filled 0))) =
      taCreateEntryPoint 0 := by
    rw [run_replicate_listKeys, show UInt32.ofNat (2 ^ 32) = 0 from rfl, add_zero]
  rw [hwrap]
  exact ⟨operations_replicate_listKeys _ _ _, rfl, rfl⟩

end TA
end SuperRelay
