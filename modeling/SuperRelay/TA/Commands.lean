import SuperRelay.TA.Crypto

/-!
# SuperRelay TA: the commands and the entry points

This module transcribes the command handlers and the entry points of
`super_relay_ta.c`, and puts them together as a state machine.

**Lookup.**  `findKeyIndex` is the loop of `find_key_index`: the first of the
first `g_key_count` slots whose identifier `strncmp`-matches the caller's
buffer over `SR_MAX_KEY_ID_SIZE` bytes.  It reads the caller's memory through
the raw buffer, not through the declared size.

**Commands.**  Each handler checks the parameter types, then its own
parameters, in the order of the source, and returns at the first failed check.
`cmd_generate_key` builds the new key in slot `g_key_count` in place, so the
slot is written before the checks that follow key generation; only a
successful call publishes it (`g_keys[g_key_count]`, `g_key_count++`).

**Machine.**  `Event` is one call of the host into the TA: a session opened or
closed, or a command invoked with the host's answers for that command.  `step`
is one call and `run` a sequence of them.
-/

namespace SuperRelay
namespace TA

/-- Whether the identifier of slot `e` matches the caller's buffer under
`strncmp(e->key_id, key_id, SR_MAX_KEY_ID_SIZE) == 0`. -/
def keyIdMatches (keyId : Nat → UInt8) (e : SrKeyEntry) : Bool :=
  decide (strncmp e.keyId.view keyId srMaxKeyIdSize.toNat = 0)

/-- The function `find_key_index`; `none` is the code's `-1`. -/
def findKeyIndex (s : TAState) (keyId : Nat → UInt8) : Option Nat :=
  (List.range s.keyCount.toNat).find? fun i => keyIdMatches keyId (s.slot i)

/-- An early `return res;`: nothing written, the globals as they were. -/
def reject (res : TEEResult) (s : TAState) : Outcome := ⟨res, .nothing, s⟩

/-- Lines 261-275 of `cmd_generate_key`: the slot cleared, the identifier copied
and terminated, and the metadata initialised. -/
def newKeyEntry (keyId : Nat → UInt8) (keyIdLen keyType now : UInt32) : SrKeyEntry :=
  let id := storedKeyId keyId keyIdLen.toNat
  { SrKeyEntry.zero with
    keyId := id
    keyType := keyType
    info := { SrKeyInfo.zero with
      keyId := strncpy (Bytes.zero 64) id.view (srMaxKeyIdSize.toNat - 1)
      keyType := keyType
      status := srKeyStatusActive
      createdTime := now.toUInt64
      lastUsedTime := now.toUInt64
      usageCount := 0 } }

/-- The switch on the key type in `cmd_generate_key`. -/
def generateByKeyType (h : Host) (keyType : UInt32) (e : SrKeyEntry) :
    TEEResult × SrKeyEntry :=
  if keyType = srKeyTypeEcdsaSecp256k1 then generateSecp256k1Keypair h e
  else if keyType = srKeyTypeEd25519 then (teeErrorNotImplemented, e)
  else (teeErrorNotSupported, e)

/-- Lines 295-316 of `cmd_generate_key`: the slot `g` left in the staging slot
published, once the generation succeeded and the output buffer is large
enough. -/
def finishGenerateKey (params : Params) (s : TAState) (g : TEEResult × SrKeyEntry) :
    Outcome :=
  let s' := { s with keyStorage := arraySet s.keyStorage s.keyCount.toNat g.2 }
  if g.1 ≠ teeSuccess then reject g.1 s'
  else if (params 2).memref.size < srEthereumAddressSize then reject teeErrorShortBuffer s'
  else
    ⟨teeSuccess, .ethereumAddress g.2.info.ethereumAddress,
      { s' with keys := arraySet s.keys s.keyCount.toNat g.2.info,
                keyCount := s.keyCount + 1,
                operationCount := s.operationCount + 1 }⟩

/-- The function `cmd_generate_key`. -/
def cmdGenerateKey (h : Host) (paramTypes : UInt32) (params : Params) (s : TAState) :
    Outcome :=
  if paramTypes ≠ teeParamTypes teeParamTypeMemrefInput teeParamTypeValueInput
      teeParamTypeMemrefOutput teeParamTypeNone then
    reject teeErrorBadParameters s
  else if s.keyCount ≥ srMaxKeys then reject teeErrorStorageNoSpace s
  else if (params 0).memref.size = 0 ∨ (params 0).memref.size ≥ srMaxKeyIdSize then
    reject teeErrorBadParameters s
  else if (params 1).value.a ≥ srKeyTypeMax then reject teeErrorBadParameters s
  else if (findKeyIndex s (params 0).memref.buffer).isSome then
    reject srErrorKeyAlreadyExists s
  else
    finishGenerateKey params s
      (generateByKeyType h (params 1).value.a
        (newKeyEntry (params 0).memref.buffer (params 0).memref.size (params 1).value.a
          h.systemTime))

/-- The switch on the key type in `cmd_sign_message`, after the result has
been cleared. -/
def signByKeyType (h : Host) (e : SrKeyEntry) (messageHash : Bytes 32) :
    TEEResult × SrSignatureResult :=
  if e.keyType = srKeyTypeEcdsaSecp256k1 then
    signMessageEcdsa h e messageHash SrSignatureResult.zero
  else if e.keyType = srKeyTypeEd25519 then (teeErrorNotImplemented, SrSignatureResult.zero)
  else (teeErrorNotSupported, SrSignatureResult.zero)

/-- Lines 401-403 of `cmd_sign_message`: the metadata after a successful sign. -/
def SrKeyInfo.touch (info : SrKeyInfo) (now : UInt32) : SrKeyInfo :=
  { info with lastUsedTime := now.toUInt64, usageCount := info.usageCount + 1 }

/-- The 32 bytes `cmd_sign_message` hands to the host as the digest. -/
def messageHashOf (params : Params) : Bytes 32 := fun j => (params 1).memref.buffer j.val

/-- The digest handed to the host is the first 32 bytes of the second parameter's
buffer. -/
@[simp] theorem messageHashOf_apply (params : Params) (j : Fin 32) :
    messageHashOf params j = (params 1).memref.buffer j.val := rfl

/-- Lines 371-409 of `cmd_sign_message`, once the key resolved to slot `i`. -/
def signWithSlot (h : Host) (params : Params) (s : TAState) (i : Nat) : Outcome :=
  if (s.slot i).info.status ≠ srKeyStatusActive then reject teeErrorAccessDenied s
  else
    let r := signByKeyType h (s.slot i) (messageHashOf params)
    if r.1 = teeSuccess then
      ⟨teeSuccess, .signatureResult r.2,
        { s with keyStorage :=
                   arraySet s.keyStorage i { s.slot i with info := (s.slot i).info.touch h.systemTime },
                 keys := arraySet s.keys i ((s.slot i).info.touch h.systemTime),
                 operationCount := s.operationCount + 1 }⟩
    else ⟨r.1, .signatureResult r.2, s⟩

/-- The function `cmd_sign_message`. -/
def cmdSignMessage (h : Host) (paramTypes : UInt32) (params : Params) (s : TAState) :
    Outcome :=
  if paramTypes ≠ teeParamTypes teeParamTypeMemrefInput teeParamTypeMemrefInput
      teeParamTypeMemrefOutput teeParamTypeNone then
    reject teeErrorBadParameters s
  else if (params 0).memref.size = 0 ∨ (params 0).memref.size ≥ srMaxKeyIdSize then
    reject teeErrorBadParameters s
  else if (params 1).memref.size ≠ srMessageHashSize then reject teeErrorBadParameters s
  else if (params 2).memref.size < sizeofSrSignatureResult then reject teeErrorShortBuffer s
  else
    match findKeyIndex s (params 0).memref.buffer with
    | none => reject srErrorKeyNotFound s
    | some i => signWithSlot h params s i

/-- Lines 454-466 of `cmd_get_public_key`, once the key resolved to slot `i`. -/
def publicKeyOf (s : TAState) (i : Nat) : Outcome :=
  ⟨teeSuccess,
    .publicKeyResult ⟨arrayCopy (Bytes.zero 64) (s.slot i).publicKey (s.slot i).publicKeyLen.toNat,
      (s.slot i).publicKeyLen, (s.slot i).info.ethereumAddress⟩,
    { s with operationCount := s.operationCount + 1 }⟩

/-- The function `cmd_get_public_key`. -/
def cmdGetPublicKey (paramTypes : UInt32) (params : Params) (s : TAState) : Outcome :=
  if paramTypes ≠ teeParamTypes teeParamTypeMemrefInput teeParamTypeMemrefOutput
      teeParamTypeNone teeParamTypeNone then
    reject teeErrorBadParameters s
  else if (params 0).memref.size = 0 ∨ (params 0).memref.size ≥ srMaxKeyIdSize then
    reject teeErrorBadParameters s
  else if (params 1).memref.size < sizeofSrPublicKeyResult then reject teeErrorShortBuffer s
  else
    match findKeyIndex s (params 0).memref.buffer with
    | none => reject srErrorKeyNotFound s
    | some i => publicKeyOf s i

/-- The function `cmd_list_keys`. -/
def cmdListKeys (paramTypes : UInt32) (params : Params) (s : TAState) : Outcome :=
  if paramTypes ≠ teeParamTypes teeParamTypeMemrefOutput teeParamTypeNone
      teeParamTypeNone teeParamTypeNone then
    reject teeErrorBadParameters s
  else if (params 0).memref.size < sizeofSrKeyListResult then reject teeErrorShortBuffer s
  else
    ⟨teeSuccess,
      .keyListResult ⟨s.keyCount, arrayCopy (fun _ => SrKeyInfo.zero) s.keys s.keyCount.toNat⟩,
      { s with operationCount := s.operationCount + 1 }⟩

/-- The bytes of the string literal `"SuperRelay TA v1.0.0"`, its NUL included. -/
def buildInfoLiteral : Nat → UInt8 :=
  fun j => (("SuperRelay TA v1.0.0".toList.map fun c => c.toNat.toUInt8).getD j 0)

/-- The function `cmd_get_version`. -/
def cmdGetVersion (paramTypes : UInt32) (params : Params) (s : TAState) : Outcome :=
  if paramTypes ≠ teeParamTypes teeParamTypeMemrefOutput teeParamTypeNone
      teeParamTypeNone teeParamTypeNone then
    reject teeErrorBadParameters s
  else if (params 0).memref.size < sizeofSrVersionInfo then reject teeErrorShortBuffer s
  else ⟨teeSuccess, .versionInfo ⟨1, 0, 0, strncpy (Bytes.zero 64) buildInfoLiteral 63⟩, s⟩

/-- The function `cmd_health_check`. -/
def cmdHealthCheck (h : Host) (paramTypes : UInt32) (params : Params) (s : TAState) :
    Outcome :=
  if paramTypes ≠ teeParamTypes teeParamTypeMemrefOutput teeParamTypeNone
      teeParamTypeNone teeParamTypeNone then
    reject teeErrorBadParameters s
  else if (params 0).memref.size < sizeofSrHealthResult then reject teeErrorShortBuffer s
  else
    ⟨teeSuccess,
      .healthResult ⟨srSuccess, s.sessionCount, s.operationCount,
        s.keyCount * sizeofSrKeyEntry, h.systemTime.toUInt64 - s.startTime⟩, s⟩

/-- The function `TA_CreateEntryPoint`, with the clock reading it takes. -/
def taCreateEntryPoint (now : UInt32) : TAState :=
  ⟨fun _ => SrKeyInfo.zero, 0, 0, 0, now.toUInt64, fun _ => SrKeyEntry.zero⟩

/-- The function `TA_DestroyEntryPoint`. -/
def taDestroyEntryPoint (s : TAState) : TAState :=
  { s with keyStorage := fun _ => SrKeyEntry.zero, keys := fun _ => SrKeyInfo.zero }

/-- The function `TA_OpenSessionEntryPoint`; it always returns `TEE_SUCCESS`. -/
def taOpenSessionEntryPoint (s : TAState) : TAState :=
  { s with sessionCount := s.sessionCount + 1 }

/-- The function `TA_CloseSessionEntryPoint`. -/
def taCloseSessionEntryPoint (s : TAState) : TAState :=
  if s.sessionCount > 0 then { s with sessionCount := s.sessionCount - 1 } else s

/-- The function `TA_InvokeCommandEntryPoint`. -/
def taInvokeCommandEntryPoint (h : Host) (cmdId paramTypes : UInt32) (params : Params)
    (s : TAState) : Outcome :=
  if cmdId = taSuperRelayCmdGenerateKey then cmdGenerateKey h paramTypes params s
  else if cmdId = taSuperRelayCmdSignMessage then cmdSignMessage h paramTypes params s
  else if cmdId = taSuperRelayCmdGetPublicKey then cmdGetPublicKey paramTypes params s
  else if cmdId = taSuperRelayCmdListKeys then cmdListKeys paramTypes params s
  else if cmdId = taSuperRelayCmdGetVersion then cmdGetVersion paramTypes params s
  else if cmdId = taSuperRelayCmdHealthCheck then cmdHealthCheck h paramTypes params s
  else if cmdId = taSuperRelayCmdImportKey ∨ cmdId = taSuperRelayCmdDeleteKey then
    reject teeErrorNotImplemented s
  else reject teeErrorBadParameters s

/-- One call of the host into the TA. -/
inductive Event
  | openSession
  | closeSession
  | invoke (h : Host) (cmdId paramTypes : UInt32) (params : Params)

/-- The globals after one call. -/
def step (s : TAState) : Event → TAState
  | .openSession => taOpenSessionEntryPoint s
  | .closeSession => taCloseSessionEntryPoint s
  | .invoke h cmdId paramTypes params =>
      (taInvokeCommandEntryPoint h cmdId paramTypes params s).state

/-- The globals after a sequence of calls. -/
def run : TAState → List Event → TAState
  | s, [] => s
  | s, e :: es => run (step s e) es

@[simp] theorem run_nil (s : TAState) : run s [] = s := rfl

@[simp] theorem run_cons (s : TAState) (e : Event) (es : List Event) :
    run s (e :: es) = run (step s e) es := rfl

theorem run_append (s : TAState) (es es' : List Event) :
    run s (es ++ es') = run (run s es) es' := by
  induction es generalizing s with
  | nil => rfl
  | cons e es ih => exact ih (step s e)

end TA
end SuperRelay
