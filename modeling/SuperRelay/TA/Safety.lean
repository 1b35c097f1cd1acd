import SuperRelay.TA.Store
import SuperRelay.TA.Requests

/-!
# SuperRelay TA: failed calls and the shape of every reachable state

**Failed calls.**  A call that returns an error changes nothing but the
staging slot `g_key_storage[g_key_count]`, which is not live: the key store,
the counters and `g_keys` are as they were, and the invariant still holds.
The staging slot itself is not restored: `cmd_generate_key` fills it before
its last three checks, so a call failing there leaves the new key's material
behind (`generateKey_short_buffer_leaves_private_key`).

**Reachable states.**  Every state a run reaches satisfies `TAState.Inv`, and
a lookup resolves only to a live, active secp256k1 slot, so
`cmd_sign_message` always takes its ECDSA branch.  The identifier of a live
slot may be the empty string (`generateKey_accepts_empty_id`): the TA checks
the declared size, not the string.
-/

namespace SuperRelay
namespace TA

/-- A failed call changes only the staging slot, which is not live: the store
is unchanged and the invariant kept. -/
theorem failed_call_keeps_store {s : TAState} (hi : s.Inv) (h : Host) (c pt : UInt32)
    (ps : Params) (hres : (taInvokeCommandEntryPoint h c pt ps s).res ≠ teeSuccess) :
    EqOffStaging s (taInvokeCommandEntryPoint h c pt ps s).state ∧
      (taInvokeCommandEntryPoint h c pt ps s).state.store = s.store ∧
      (taInvokeCommandEntryPoint h c pt ps s).state.Inv := by
  have hs := taInvokeCommandEntryPoint_fail hres
  exact ⟨hs, hs.store_eq, hi.of_eqOffStaging hs⟩

theorem failed_call_keeps_store_short_buffer :
    let s := run (taCreateEntryPoint 0)
      [generateKeyRequest (Host.filled 1) (callerBytes [65]) 1 srKeyTypeEcdsaSecp256k1]
    let o := taInvokeCommandEntryPoint (Host.filled 2) taSuperRelayCmdGenerateKey generateKeyParamTypes
      (params4 (.ofMemref (callerBytes [66]) 1) (.ofValue srKeyTypeEcdsaSecp256k1) (outputParam 19)
        unusedParam) s
    s.Inv ∧ o.res ≠ teeSuccess ∧
      (s.keyStorage 1).privateKeyLen = 0 ∧ (o.state.keyStorage 1).privateKeyLen = 32 ∧
      EqOffStaging s o.state ∧ o.state.store = s.store ∧ o.state.Inv :=
  ⟨(taCreateEntryPoint_inv 0).run _, by decide, by decide, by decide,
    failed_call_keeps_store ((taCreateEntryPoint_inv 0).run _) _ _ _ _ (by decide)⟩

/-- A `generate_key` whose output buffer is one byte short of an address fails
with `TEE_ERROR_SHORT_BUFFER` after generating the key, and leaves the private
value in the staging slot. -/
theorem generateKey_short_buffer_leaves_private_key :
    (taInvokeCommandEntryPoint (Host.filled 0) taSuperRelayCmdGenerateKey generateKeyParamTypes
      (params4 (.ofMemref (callerBytes [65]) 1) (.ofValue srKeyTypeEcdsaSecp256k1) (outputParam 19)
        unusedParam) (taCreateEntryPoint 0)).res = teeErrorShortBuffer ∧
    ((taInvokeCommandEntryPoint (Host.filled 0) taSuperRelayCmdGenerateKey generateKeyParamTypes
      (params4 (.ofMemref (callerBytes [65]) 1) (.ofValue srKeyTypeEcdsaSecp256k1) (outputParam 19)
        unusedParam) (taCreateEntryPoint 0)).state.keyStorage 0).privateKeyLen = 32 ∧
    ((taInvokeCommandEntryPoint (Host.filled 0) taSuperRelayCmdGenerateKey generateKeyParamTypes
      (params4 (.ofMemref (callerBytes [65]) 1) (.ofValue srKeyTypeEcdsaSecp256k1) (outputParam 19)
        unusedParam) (taCreateEntryPoint 0)).state.keyStorage 0).privateKey 0 = 1 ∧
    ((taCreateEntryPoint 0).keyStorage 0).privateKeyLen = 0 := by
  decide

/-- Every state a run reaches satisfies the invariant, and a lookup there
resolves only to a live, well-formed slot, whose signing takes the ECDSA
branch. -/
theorem run_state_wellformed (now : UInt32) (evs : List Event) :
    (run (taCreateEntryPoint now) evs).Inv ∧
      ∀ (buf : Nat → UInt8) (i : Nat), findKeyIndex (run (taCreateEntryPoint now) evs) buf = some i →
        i < (run (taCreateEntryPoint now) evs).keyCount.toNat ∧
        ((run (taCreateEntryPoint now) evs).slot i).Wf ∧
        ∀ (h : Host) (m : Bytes 32),
          signByKeyType h ((run (taCreateEntryPoint now) evs).slot i) m =
            signMessageEcdsa h ((run (taCreateEntryPoint now) evs).slot i) m SrSignatureResult.zero := by
  have hi := (taCreateEntryPoint_inv now).run evs
  refine ⟨hi, fun buf i hf => ?_⟩
  have hw := hi.slot_wf_of_lt (findKeyIndex_lt hf)
  exact ⟨findKeyIndex_lt hf, hw, hw.signByKeyType⟩

/-- A `generate_key` whose identifier buffer starts with a NUL, declared one
byte long, succeeds and makes a live key whose identifier is the empty
string. -/
theorem generateKey_accepts_empty_id :
    (run (taCreateEntryPoint 0)
      [generateKeyRequest (Host.filled 0) (callerBytes [0]) 1 srKeyTypeEcdsaSecp256k1]).keyCount = 1 ∧
    ∀ j : Fin 64, ((run (taCreateEntryPoint 0)
      [generateKeyRequest (Host.filled 0) (callerBytes [0]) 1 srKeyTypeEcdsaSecp256k1]).keyStorage
        0).keyId j = 0 := by
  decide

end TA
end SuperRelay
