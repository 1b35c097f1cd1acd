import SuperRelay.TA.Lookup

/-!
# SuperRelay TA: the return codes

Which codes each command can return.  A handler returns its own code at each
of its checks, and passes on the code of the first GlobalPlatform primitive
that fails while a key is generated or a digest signed.

**Paths.**  `generate_secp256k1_keypair` and `sign_message_ecdsa` are chains of
five primitive calls, each with an early exit: each returns the code of the
first call that fails, or `TEE_SUCCESS` (`chainCode`).  Only these two chains
pass a primitive's code on: `generate_key` passes on that of its key
generation, `sign_message` that of signing with the slot its identifier
resolves to, over its message hash (`commandFailure`).  A failed digest is
never returned: `derive_ethereum_address` writes a zero address instead.

**Dead branches.**  `cmd_generate_key` checks `key_type < SR_KEY_TYPE_MAX`
before its switch, so the switch's `default`, `TEE_ERROR_NOT_SUPPORTED`, is
never taken.  In a state satisfying the invariant every slot a lookup resolves
to is an active secp256k1 key, so `cmd_sign_message` never returns
`TEE_ERROR_ACCESS_DENIED`, `TEE_ERROR_NOT_IMPLEMENTED` or
`TEE_ERROR_NOT_SUPPORTED` of its own.

**Results.**
* `invoke_result_codes`: on every reachable state, every call returns one of
  its command's own codes (`commandCodes`) or the code of the first failure
  among the primitives on its own path; the TA returns
  `TEE_ERROR_ACCESS_DENIED` or `TEE_ERROR_NOT_SUPPORTED` only when such a
  primitive did.
* `generateKey_rejects_live_id`: a `generate_key` for the identifier of a live
  key, in a buffer with a NUL at or before its declared size, is refused
  before any key is generated and changes nothing.
-/

namespace SuperRelay
namespace TA

/-- The first failure in a sequence of primitive answers: the one a chain of
early exits passes on. -/
def firstFailure : List (Except ProviderError Unit) → Option ProviderError
  | [] => none
  | .error err :: _ => some err
  | .ok () :: rest => firstFailure rest

/-- The code a chain of early exits over the answers `l` returns: that of the
first failure, or `TEE_SUCCESS`. -/
def chainCode (l : List (Except ProviderError Unit)) : TEEResult :=
  match firstFailure l with
  | none => teeSuccess
  | some err => err.code

/-- The answers of the five primitives `generate_secp256k1_keypair` calls, in
order. -/
def keypairCalls (h : Host) : List (Except ProviderError Unit) :=
  [h.allocateTransientObject, h.generateKey,
    (h.getObjectBufferAttribute .privateValue).map fun _ => (),
    (h.getObjectBufferAttribute .publicValueX).map fun _ => (),
    (h.getObjectBufferAttribute .publicValueY).map fun _ => ()]

/-- The answers of the five primitives `sign_message_ecdsa` calls for the slot
`e` and the digest `m`, in order. -/
def signCalls (h : Host) (e : SrKeyEntry) (m : Bytes 32) : List (Except ProviderError Unit) :=
  [h.allocateTransientObject, h.populateTransientObject e.privateKey e.privateKeyLen,
    h.allocateOperation, h.setOperationKey,
    (h.asymmetricSignDigest e.privateKey e.privateKeyLen m).map fun _ => ()]

/-- The failure a `sign_message` call can pass on: the first among the answers of
`sign_message_ecdsa`'s primitives for the slot the identifier resolves to and
the message hash. -/
def signFailure (h : Host) (ps : Params) (s : TAState) : Option ProviderError :=
  (findKeyIndex s (ps 0).memref.buffer).bind fun i =>
    firstFailure (signCalls h (s.slot i) (messageHashOf ps))

/-- The failure of a primitive on the call's own path that the call can pass
on: none for a command other than `generate_key` and `sign_message`. -/
def commandFailure (h : Host) (c : UInt32) (ps : Params) (s : TAState) : Option ProviderError :=
  if c = taSuperRelayCmdGenerateKey then firstFailure (keypairCalls h)
  else if c = taSuperRelayCmdSignMessage then signFailure h ps s
  else none

/-- A code other than `TEE_SUCCESS` from a chain is the code of its first
failure. -/
theorem chainCode_failure {l : List (Except ProviderError Unit)} (h : chainCode l ≠ teeSuccess) :
    ∃ err, firstFailure l = some err ∧ chainCode l = err.code := by
  revert h
  unfold chainCode
  cases firstFailure l with
  | none => exact fun h => absurd rfl h
  | some err => exact fun _ => ⟨err, rfl, rfl⟩

theorem generateSecp256k1Keypair_code (h : Host) (e : SrKeyEntry) :
    (generateSecp256k1Keypair h e).1 = chainCode (keypairCalls h) := by
  unfold generateSecp256k1Keypair keypairCalls
  cases h.allocateTransientObject <;> try rfl
  cases h.generateKey <;> try rfl
  cases h.getObjectBufferAttribute .privateValue <;> try rfl
  cases h.getObjectBufferAttribute .publicValueX <;> try rfl
  cases h.getObjectBufferAttribute .publicValueY <;> rfl

theorem signMessageEcdsa_code (h : Host) (e : SrKeyEntry) (m : Bytes 32) (r : SrSignatureResult) :
    (signMessageEcdsa h e m r).1 = chainCode (signCalls h e m) := by
  unfold signMessageEcdsa signCalls
  cases h.allocateTransientObject <;> try rfl
  cases h.populateTransientObject e.privateKey e.privateKeyLen <;> try rfl
  cases h.allocateOperation <;> try rfl
  cases h.setOperationKey <;> try rfl
  cases h.asymmetricSignDigest e.privateKey e.privateKeyLen m <;> rfl

/-- The codes `cmd_generate_key` returns of its own. -/
def generateKeyCodes : List TEEResult :=
  [teeSuccess, teeErrorBadParameters, teeErrorStorageNoSpace, srErrorKeyAlreadyExists,
    teeErrorNotImplemented, teeErrorShortBuffer]

/-- The codes `cmd_sign_message` and `cmd_get_public_key` return of their own. -/
def lookupCodes : List TEEResult :=
  [teeSuccess, teeErrorBadParameters, teeErrorShortBuffer, srErrorKeyNotFound]

/-- The codes `cmd_list_keys`, `cmd_get_version` and `cmd_health_check` return. -/
def outputCodes : List TEEResult := [teeSuccess, teeErrorBadParameters, teeErrorShortBuffer]

/-- The codes each command returns of its own, dispatched as
`TA_InvokeCommandEntryPoint` dispatches. -/
def commandCodes (c : UInt32) : List TEEResult :=
  if c = taSuperRelayCmdGenerateKey then generateKeyCodes
  else if c = taSuperRelayCmdSignMessage then lookupCodes
  else if c = taSuperRelayCmdGetPublicKey then lookupCodes
  else if c = taSuperRelayCmdListKeys then outputCodes
  else if c = taSuperRelayCmdGetVersion then outputCodes
  else if c = taSuperRelayCmdHealthCheck then outputCodes
  else if c = taSuperRelayCmdImportKey ∨ c = taSuperRelayCmdDeleteKey then
    [teeErrorNotImplemented]
  else [teeErrorBadParameters]

/-- A property of every code in both lists of a test holds of every code in
the list the test chooses. -/
theorem forall_mem_ite {c : Prop} [Decidable c] {la lb : List TEEResult} {P : TEEResult → Prop}
    (ha : ∀ r ∈ la, P r) (hb : ∀ r ∈ lb, P r) : ∀ r ∈ (if c then la else lb), P r :=
  iteInduction (motive := fun l => ∀ r ∈ l, P r) (fun _ => ha) fun _ => hb

/-- No command returns `TEE_ERROR_ACCESS_DENIED` or `TEE_ERROR_NOT_SUPPORTED` of
its own. -/
theorem commandCodes_ne (c : UInt32) :
    ∀ r ∈ commandCodes c, r ≠ teeErrorAccessDenied ∧ r ≠ teeErrorNotSupported :=
  forall_mem_ite (by decide) <| forall_mem_ite (by decide) <| forall_mem_ite (by decide) <|
    forall_mem_ite (by decide) <| forall_mem_ite (by decide) <| forall_mem_ite (by decide) <|
    forall_mem_ite (by decide) (by decide)

/-- A code in `codes`, or that of the failure `fail` the call passed on. -/
def Outcome.CodeIn (fail : Option ProviderError) (codes : List TEEResult) (o : Outcome) : Prop :=
  o.res ∈ codes ∨ ∃ err, fail = some err ∧ o.res = err.code

/-- An outcome whose code is listed. -/
theorem Outcome.CodeIn.mk {fail : Option ProviderError} {codes : List TEEResult} {r : TEEResult}
    {w : Written} {st : TAState} (hr : r ∈ codes) : (⟨r, w, st⟩ : Outcome).CodeIn fail codes :=
  .inl hr

/-- Both branches of one test return codes from their lists, so the test
returns codes from the list chosen by the same test. -/
theorem Outcome.CodeIn.ite {fail : Option ProviderError} {c : Prop} [Decidable c] {a b : Outcome}
    {la lb : List TEEResult} (ha : c → a.CodeIn fail la) (hb : ¬c → b.CodeIn fail lb) :
    (if c then a else b).CodeIn fail (if c then la else lb) := by
  by_cases hc : c
  · rw [if_pos hc, if_pos hc]
    exact ha hc
  · rw [if_neg hc, if_neg hc]
    exact hb hc

/-- A key type below `SR_KEY_TYPE_MAX` is secp256k1 or Ed25519. -/
theorem keyType_lt_max_cases {t : UInt32} (ht : t < srKeyTypeMax) :
    t = srKeyTypeEcdsaSecp256k1 ∨ t = srKeyTypeEd25519 := by
  have ht : t.toNat < 2 := ht
  rcases Nat.lt_succ_iff_lt_or_eq.1 ht with h0 | h1
  · exact .inl (UInt32.ext (by rw [show srKeyTypeEcdsaSecp256k1.toNat = 0 from rfl]; omega))
  · exact .inr (UInt32.ext h1)

section Commands

variable {h : Host} {pt : UInt32} {ps : Params} {s : TAState}

theorem generateByKeyType_code {t : UInt32} (ht : t < srKeyTypeMax) (e : SrKeyEntry) :
    (generateByKeyType h t e).1 ∈ generateKeyCodes ∨
      ∃ err, firstFailure (keypairCalls h) = some err ∧ (generateByKeyType h t e).1 = err.code := by
  rcases keyType_lt_max_cases ht with rfl | rfl
  · rw [generateByKeyType, if_pos rfl, generateSecp256k1Keypair_code]
    by_cases hs : chainCode (keypairCalls h) = teeSuccess
    · exact .inl (by rw [hs]; decide)
    · exact .inr (chainCode_failure hs)
  · exact .inl (show teeErrorNotImplemented ∈ generateKeyCodes by decide)

theorem cmdGenerateKey_codes :
    (cmdGenerateKey h pt ps s).CodeIn (firstFailure (keypairCalls h)) generateKeyCodes := by
  unfold cmdGenerateKey
  refine iteInduction (fun _ => .mk (by decide)) fun _ => iteInduction (fun _ => .mk (by decide))
    fun _ => iteInduction (fun _ => .mk (by decide)) fun _ =>
      iteInduction (fun _ => .mk (by decide)) fun ht => iteInduction (fun _ => .mk (by decide))
        fun _ => ?_
  have hg := generateByKeyType_code (h := h) (UInt32.not_le.1 ht)
    (newKeyEntry (ps 0).memref.buffer (ps 0).memref.size (ps 1).value.a h.systemTime)
  exact iteInduction (fun _ => hg) fun _ => iteInduction (fun _ => .mk (by decide))
    fun _ => .mk (by decide)

theorem signWithSlot_codes {i : Nat} (hw : (s.slot i).Wf) :
    (signWithSlot h ps s i).CodeIn (firstFailure (signCalls h (s.slot i) (messageHashOf ps)))
      lookupCodes := by
  dsimp only [signWithSlot]
  rw [if_neg (not_not.2 hw.status), hw.signByKeyType]
  refine iteInduction (fun _ => .mk (by decide)) fun hr => .inr ?_
  rw [signMessageEcdsa_code] at hr ⊢
  exact chainCode_failure hr

theorem cmdSignMessage_codes (hi : s.Inv) :
    (cmdSignMessage h pt ps s).CodeIn (signFailure h ps s) lookupCodes := by
  unfold cmdSignMessage signFailure
  refine iteInduction (fun _ => .mk (by decide)) fun _ => iteInduction (fun _ => .mk (by decide))
    fun _ => iteInduction (fun _ => .mk (by decide)) fun _ =>
      iteInduction (fun _ => .mk (by decide)) fun _ => ?_
  cases hf : findKeyIndex s (ps 0).memref.buffer with
  | none => exact .mk (by decide)
  | some i => exact signWithSlot_codes (hi.slot_wf_of_lt (findKeyIndex_lt hf))

theorem cmdGetPublicKey_codes : (cmdGetPublicKey pt ps s).CodeIn none lookupCodes := by
  unfold cmdGetPublicKey
  refine iteInduction (fun _ => .mk (by decide)) fun _ => iteInduction (fun _ => .mk (by decide))
    fun _ => iteInduction (fun _ => .mk (by decide)) fun _ => ?_
  cases findKeyIndex s (ps 0).memref.buffer with
  | none => exact .mk (by decide)
  | some i => exact .mk (by decide)

theorem cmdListKeys_codes : (cmdListKeys pt ps s).CodeIn none outputCodes :=
  iteInduction (fun _ => .mk (by decide)) fun _ => iteInduction (fun _ => .mk (by decide))
    fun _ => .mk (by decide)

theorem cmdGetVersion_codes : (cmdGetVersion pt ps s).CodeIn none outputCodes :=
  iteInduction (fun _ => .mk (by decide)) fun _ => iteInduction (fun _ => .mk (by decide))
    fun _ => .mk (by decide)

theorem cmdHealthCheck_codes : (cmdHealthCheck h pt ps s).CodeIn none outputCodes :=
  iteInduction (fun _ => .mk (by decide)) fun _ => iteInduction (fun _ => .mk (by decide))
    fun _ => .mk (by decide)

theorem taInvokeCommandEntryPoint_codes (hi : s.Inv) (c : UInt32) :
    (taInvokeCommandEntryPoint h c pt ps s).CodeIn (commandFailure h c ps s) (commandCodes c) := by
  unfold taInvokeCommandEntryPoint commandFailure commandCodes
  by_cases hg : c = taSuperRelayCmdGenerateKey
  · rw [if_pos hg, if_pos hg, if_pos hg]
    exact cmdGenerateKey_codes
  rw [if_neg hg, if_neg hg, if_neg hg]
  by_cases hs : c = taSuperRelayCmdSignMessage
  · rw [if_pos hs, if_pos hs, if_pos hs]
    exact cmdSignMessage_codes hi
  rw [if_neg hs, if_neg hs, if_neg hs]
  exact .ite (fun _ => cmdGetPublicKey_codes) fun _ => .ite (fun _ => cmdListKeys_codes) fun _ =>
    .ite (fun _ => cmdGetVersion_codes) fun _ => .ite (fun _ => cmdHealthCheck_codes) fun _ =>
    .ite (fun _ => .mk (by decide)) fun _ => .mk (by decide)

end Commands

/-- On every reachable state, every call returns one of its command's own codes
or the code of the first failure among the primitives on its own path
(`commandFailure`): the key generation of `generate_key`, or the signing of
`sign_message` with the resolved slot's key over the message hash.  No other
command returns a primitive's code, and the TA returns
`TEE_ERROR_ACCESS_DENIED` or `TEE_ERROR_NOT_SUPPORTED` only when such a
primitive did. -/
theorem invoke_result_codes (now : UInt32) (evs : List Event) (h : Host) (c pt : UInt32)
    (ps : Params) :
    ((taInvokeCommandEntryPoint h c pt ps (run (taCreateEntryPoint now) evs)).res ∈ commandCodes c ∨
      ∃ err, commandFailure h c ps (run (taCreateEntryPoint now) evs) = some err ∧
        (taInvokeCommandEntryPoint h c pt ps (run (taCreateEntryPoint now) evs)).res = err.code) ∧
    (c ≠ taSuperRelayCmdGenerateKey → c ≠ taSuperRelayCmdSignMessage →
      (taInvokeCommandEntryPoint h c pt ps (run (taCreateEntryPoint now) evs)).res ∈
        commandCodes c) ∧
    ((taInvokeCommandEntryPoint h c pt ps (run (taCreateEntryPoint now) evs)).res =
        teeErrorAccessDenied ∨
      (taInvokeCommandEntryPoint h c pt ps (run (taCreateEntryPoint now) evs)).res =
        teeErrorNotSupported →
      ∃ err, commandFailure h c ps (run (taCreateEntryPoint now) evs) = some err ∧
        (taInvokeCommandEntryPoint h c pt ps (run (taCreateEntryPoint now) evs)).res =
          err.code) := by
  have hc : (taInvokeCommandEntryPoint h c pt ps (run (taCreateEntryPoint now) evs)).CodeIn
      (commandFailure h c ps (run (taCreateEntryPoint now) evs)) (commandCodes c) :=
    taInvokeCommandEntryPoint_codes ((taCreateEntryPoint_inv now).run evs) c
  refine ⟨hc, fun hg hs => hc.resolve_right ?_, fun hd => hc.resolve_left fun hm => ?_⟩
  · rintro ⟨err, hf, -⟩
    simp only [commandFailure, if_neg hg, if_neg hs, reduceCtorEq] at hf
  · obtain ⟨ha, hn⟩ := commandCodes_ne c _ hm
    exact hd.elim ha hn

/-- On a reachable state, a `generate_key` for the identifier of a live key, in
a buffer with a NUL at or before its declared size, is refused before the host
is asked for a key: with `TEE_ERROR_STORAGE_NO_SPACE` on a full store, and
otherwise with `SR_ERROR_KEY_ALREADY_EXISTS`.  Nothing is written and the
globals are unchanged. -/
theorem generateKey_rejects_live_id (now : UInt32) (evs : List Event) (h : Host)
    {b : Nat → UInt8} {size keyType : UInt32} (h0 : size ≠ 0) (hn : size < srMaxKeyIdSize)
    (hterm : ∃ k ≤ size.toNat, b k = 0) (hkt : keyType < srKeyTypeMax) {i : Nat}
    (hlt : i < (run (taCreateEntryPoint now) evs).keyCount.toNat)
    (hid : ((run (taCreateEntryPoint now) evs).slot i).keyId = storedKeyId b size.toNat) :
    taInvokeCommandEntryPoint h taSuperRelayCmdGenerateKey generateKeyParamTypes
        (generateKeyParams b size keyType) (run (taCreateEntryPoint now) evs) =
      reject (if (run (taCreateEntryPoint now) evs).keyCount ≥ srMaxKeys then
          teeErrorStorageNoSpace else srErrorKeyAlreadyExists)
        (run (taCreateEntryPoint now) evs) := by
  have hi := (taCreateEntryPoint_inv now).run evs
  have hm := (keyIdMatches_iff_stored hi hn hterm hlt).2 hid
  have hf : (findKeyIndex (run (taCreateEntryPoint now) evs) b).isSome :=
    Option.ne_none_iff_isSome.1 fun hnone =>
      Bool.false_ne_true ((findKeyIndex_eq_none_iff.1 hnone i hlt).symm.trans hm)
  rw [invoke_generateKey, cmdGenerateKey, generateKeyParamTypes, if_neg (not_not.2 rfl)]
  simp only [generateKeyParams, params4_zero, params4_one, TEEParam.ofMemref_memref,
    TEEParam.ofValue_value]
  by_cases hc : (run (taCreateEntryPoint now) evs).keyCount ≥ srMaxKeys
  · rw [if_pos hc, if_pos hc]
  · rw [if_neg hc, if_neg hc, if_neg fun h' => h'.elim h0 (UInt32.not_le.2 hn),
      if_neg (UInt32.not_le.2 hkt), if_pos hf]

theorem generateKey_rejects_live_id_again :
    (1 : UInt32) ≠ 0 ∧ (1 : UInt32) < srMaxKeyIdSize ∧
    (∃ k ≤ (1 : UInt32).toNat, callerBytes [65] k = 0) ∧
    srKeyTypeEcdsaSecp256k1 < srKeyTypeMax ∧
    0 < (run (taCreateEntryPoint 0)
      [generateKeyRequest (Host.filled 0) (callerBytes [65]) 1 srKeyTypeEcdsaSecp256k1]).keyCount.toNat ∧
    ((run (taCreateEntryPoint 0)
      [generateKeyRequest (Host.filled 0) (callerBytes [65]) 1 srKeyTypeEcdsaSecp256k1]).slot 0).keyId =
      storedKeyId (callerBytes [65]) (1 : UInt32).toNat ∧
    taInvokeCommandEntryPoint (Host.filled 1) taSuperRelayCmdGenerateKey generateKeyParamTypes
        (generateKeyParams (callerBytes [65]) 1 srKeyTypeEcdsaSecp256k1)
        (run (taCreateEntryPoint 0)
          [generateKeyRequest (Host.filled 0) (callerBytes [65]) 1 srKeyTypeEcdsaSecp256k1]) =
      reject (if (run (taCreateEntryPoint 0)
          [generateKeyRequest (Host.filled 0) (callerBytes [65]) 1 srKeyTypeEcdsaSecp256k1]).keyCount ≥
            srMaxKeys then teeErrorStorageNoSpace else srErrorKeyAlreadyExists)
        (run (taCreateEntryPoint 0)
          [generateKeyRequest (Host.filled 0) (callerBytes [65]) 1 srKeyTypeEcdsaSecp256k1]) :=
  ⟨by decide, by decide, ⟨1, le_rfl, rfl⟩, by decide, by decide, rfl,
    generateKey_rejects_live_id 0 _ _ (i := 0) (by decide) (by decide) ⟨1, le_rfl, rfl⟩ (by decide)
      (by decide) rfl⟩

end TA
end SuperRelay
