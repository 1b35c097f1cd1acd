import SuperRelay.TA.Invariant

/-!
# SuperRelay TA: well-formed requests and a succeeding host

**Requests.**  The parameter types and parameters each command checks for,
built as a client of the TA builds them: the key identifier as a memory
reference over the caller's memory with its declared size, the key type as a
value, and output buffers of the size the TA asks for.

**Host.**  `Host.succeeding` answers every primitive with success, at a given
clock, with given attributes, digest and signature.

**Results.**  A well-formed request succeeds on every state that meets the
command's own conditions, with the outcome spelled out:
* `generateKey_succeeds`: room left, identifier size in range, no live match;
* `signMessage_succeeds`: the identifier resolves, from a state satisfying the
  invariant;
* `listKeys_succeeds`, `healthCheck_succeeds`: always.
-/

namespace SuperRelay
namespace TA

/-- Caller memory holding the bytes `l`, then zeros. -/
def callerBytes (l : List UInt8) : Nat → UInt8 := fun j => l.getD j 0

/-- A parameter used as a memory reference. -/
def TEEParam.ofMemref (buffer : Nat → UInt8) (size : UInt32) : TEEParam := ⟨⟨buffer, size⟩, ⟨0, 0⟩⟩

/-- A parameter used as a value. -/
def TEEParam.ofValue (a : UInt32) : TEEParam := ⟨⟨fun _ => 0, 0⟩, ⟨a, 0⟩⟩

/-- The four parameters `p0`, `p1`, `p2`, `p3`. -/
def params4 (p0 p1 p2 p3 : TEEParam) : Params := fun j =>
  if j.val = 0 then p0 else if j.val = 1 then p1 else if j.val = 2 then p2 else p3

section Params4

variable (p0 p1 p2 p3 : TEEParam)

@[simp] theorem params4_zero : params4 p0 p1 p2 p3 0 = p0 := rfl
@[simp] theorem params4_one : params4 p0 p1 p2 p3 1 = p1 := rfl
@[simp] theorem params4_two : params4 p0 p1 p2 p3 2 = p2 := rfl

end Params4

@[simp] theorem TEEParam.ofMemref_memref (buffer : Nat → UInt8) (size : UInt32) :
    (TEEParam.ofMemref buffer size).memref = ⟨buffer, size⟩ := rfl

@[simp] theorem TEEParam.ofValue_value (a : UInt32) : (TEEParam.ofValue a).value = ⟨a, 0⟩ := rfl

/-- An unused parameter. -/
def unusedParam : TEEParam := .ofValue 0

/-- An output buffer of `size` bytes. -/
def outputParam (size : UInt32) : TEEParam := .ofMemref (fun _ => 0) size

/-- The `exp_param_types` of `cmd_generate_key`. -/
def generateKeyParamTypes : UInt32 :=
  teeParamTypes teeParamTypeMemrefInput teeParamTypeValueInput teeParamTypeMemrefOutput
    teeParamTypeNone

/-- A `generate_key` request for the identifier at `keyId`, declared `size`
bytes long, of type `keyType`. -/
def generateKeyParams (keyId : Nat → UInt8) (size keyType : UInt32) : Params :=
  params4 (.ofMemref keyId size) (.ofValue keyType) (outputParam srEthereumAddressSize) unusedParam

/-- The `exp_param_types` of `cmd_sign_message`. -/
def signMessageParamTypes : UInt32 :=
  teeParamTypes teeParamTypeMemrefInput teeParamTypeMemrefInput teeParamTypeMemrefOutput
    teeParamTypeNone

/-- A `sign_message` request for the identifier at `keyId` and the 32-byte hash
at `messageHash`. -/
def signMessageParams (keyId : Nat → UInt8) (size : UInt32) (messageHash : Nat → UInt8) :
    Params :=
  params4 (.ofMemref keyId size) (.ofMemref messageHash srMessageHashSize)
    (outputParam sizeofSrSignatureResult) unusedParam

/-- The `exp_param_types` of `cmd_get_public_key`. -/
def getPublicKeyParamTypes : UInt32 :=
  teeParamTypes teeParamTypeMemrefInput teeParamTypeMemrefOutput teeParamTypeNone
    teeParamTypeNone

/-- A `get_public_key` request for the identifier at `keyId`. -/
def getPublicKeyParams (keyId : Nat → UInt8) (size : UInt32) : Params :=
  params4 (.ofMemref keyId size) (outputParam sizeofSrPublicKeyResult) unusedParam unusedParam

/-- The `exp_param_types` of `cmd_list_keys`, `cmd_get_version` and
`cmd_health_check`. -/
def outputOnlyParamTypes : UInt32 :=
  teeParamTypes teeParamTypeMemrefOutput teeParamTypeNone teeParamTypeNone teeParamTypeNone

/-- A request whose one parameter is an output buffer of `size` bytes. -/
def outputOnlyParams (size : UInt32) : Params :=
  params4 (outputParam size) unusedParam unusedParam unusedParam

/-- A host whose primitives all succeed, at clock `now`: key generation hands
back the private value `d` and the coordinates `x` and `y`, the digest of a
public key `pk` is `digest pk`, and signing hands back `sig`. -/
def Host.succeeding (now : UInt32) (d x y : AttrBuffer 32) (digest : Bytes 64 → Bytes 32)
    (sig : AttrBuffer 64) : Host where
  systemTime := now
  allocateTransientObject := .ok ()
  generateKey := .ok ()
  getObjectBufferAttribute
    | .privateValue => .ok d
    | .publicValueX => .ok x
    | .publicValueY => .ok y
  digestDoFinal pk := .ok (digest pk)
  populateTransientObject _ _ := .ok ()
  allocateOperation := .ok ()
  setOperationKey := .ok ()
  asymmetricSignDigest _ _ _ := .ok sig

/-- A buffer of capacity `cap` filled with the byte `b`. -/
def AttrBuffer.filled (cap : Nat) (b : UInt8) : AttrBuffer cap := ⟨List.replicate cap b, by simp⟩

/-- A succeeding host at clock `now` whose attributes and signature are full
buffers, the private value full of the byte `b`, and whose digest is zero. -/
def Host.filledPrivate (now : UInt32) (b : UInt8) : Host :=
  Host.succeeding now (.filled 32 b) (.filled 32 2) (.filled 32 3) (fun _ => Bytes.zero 32)
    (.filled 64 4)

/-- The succeeding host at clock `now` with the private value full of ones. -/
def Host.filled (now : UInt32) : Host := Host.filledPrivate now 1

/-- The call `generate_key` with a well-formed request. -/
def generateKeyRequest (h : Host) (keyId : Nat → UInt8) (size keyType : UInt32) : Event :=
  .invoke h taSuperRelayCmdGenerateKey generateKeyParamTypes (generateKeyParams keyId size keyType)

/-- The call `sign_message` with a well-formed request. -/
def signMessageRequest (h : Host) (keyId : Nat → UInt8) (size : UInt32)
    (messageHash : Nat → UInt8) : Event :=
  .invoke h taSuperRelayCmdSignMessage signMessageParamTypes
    (signMessageParams keyId size messageHash)

/-- The call `get_public_key` with a well-formed request. -/
def getPublicKeyRequest (h : Host) (keyId : Nat → UInt8) (size : UInt32) : Event :=
  .invoke h taSuperRelayCmdGetPublicKey getPublicKeyParamTypes (getPublicKeyParams keyId size)

/-- The call `list_keys` with a well-formed request. -/
def listKeysRequest (h : Host) : Event :=
  .invoke h taSuperRelayCmdListKeys outputOnlyParamTypes (outputOnlyParams sizeofSrKeyListResult)

/-- The call `generate_key` with an output buffer one byte short of an address. -/
def shortBufferGenerateKeyRequest (h : Host) (keyId : Nat → UInt8) (size keyType : UInt32) :
    Event :=
  .invoke h taSuperRelayCmdGenerateKey generateKeyParamTypes
    (params4 (.ofMemref keyId size) (.ofValue keyType) (outputParam 19) unusedParam)

/-- A session at clocks 1 to 8: it generates `A`, signs with it, generates `B`,
fails to generate `A` again, fails to generate `C` into a short buffer (after
staging its key), signs with `A` again, reads `B`'s public key and the key
list, and closes. -/
def sampleSession : List Event :=
  [.openSession,
   generateKeyRequest (Host.filled 1) (callerBytes [65]) 1 srKeyTypeEcdsaSecp256k1,
   signMessageRequest (Host.filled 2) (callerBytes [65]) 1 (callerBytes [7]),
   generateKeyRequest (Host.filled 3) (callerBytes [66]) 1 srKeyTypeEcdsaSecp256k1,
   generateKeyRequest (Host.filled 4) (callerBytes [65]) 1 srKeyTypeEcdsaSecp256k1,
   shortBufferGenerateKeyRequest (Host.filled 5) (callerBytes [67]) 1 srKeyTypeEcdsaSecp256k1,
   signMessageRequest (Host.filled 6) (callerBytes [65]) 1 (callerBytes [7]),
   getPublicKeyRequest (Host.filled 7) (callerBytes [66]) 1,
   listKeysRequest (Host.filled 8),
   .closeSession]

theorem TAState.Inv.slot_wf_of_lt {s : TAState} (hi : s.Inv) {i : Nat}
    (h : i < s.keyCount.toNat) : (s.slot i).Wf := by
  have h16 : i < 16 := h.trans_le hi.keyCount_le
  rw [show s.slot i = s.keyStorage ⟨i, h16⟩ from TAState.slot_val s ⟨i, h16⟩]
  exact hi.slot_wf ⟨i, h16⟩ h

section Progress

variable {s : TAState} {now : UInt32} {d x y : AttrBuffer 32} {digest : Bytes 64 → Bytes 32}
  {sig : AttrBuffer 64}

/-- A well-formed `generate_key` request for a secp256k1 key succeeds when the
store has room, the identifier size is in range and no live key matches. -/
theorem generateKey_succeeds (keyId : Nat → UInt8) {size : UInt32}
    (hc : s.keyCount < srMaxKeys) (h0 : size ≠ 0) (hn : size < srMaxKeyIdSize)
    (hf : findKeyIndex s keyId = none) :
    let h := Host.succeeding now d x y digest sig
    let ps := generateKeyParams keyId size srKeyTypeEcdsaSecp256k1
    taInvokeCommandEntryPoint h taSuperRelayCmdGenerateKey generateKeyParamTypes ps s =
      ⟨teeSuccess, .ethereumAddress (generatedEntry h ps d x y).info.ethereumAddress,
        s.publish (generatedEntry h ps d x y)⟩ := by
  intro h ps
  rw [invoke_generateKey, cmdGenerateKey, generateKeyParamTypes, if_neg (not_not.2 rfl),
    if_neg (UInt32.not_le.2 hc)]
  simp only [ps, generateKeyParams, params4_zero, params4_one, TEEParam.ofMemref_memref,
    TEEParam.ofValue_value]
  rw [if_neg fun h' => h'.elim h0 (UInt32.not_le.2 hn), if_neg (by decide), hf]
  rfl

/-- A well-formed `sign_message` request whose identifier resolves to slot `i`
succeeds, and touches that slot. -/
theorem signMessage_succeeds (hi : s.Inv) (keyId : Nat → UInt8) {size : UInt32}
    (messageHash : Nat → UInt8) {i : Nat} (h0 : size ≠ 0) (hn : size < srMaxKeyIdSize)
    (hf : findKeyIndex s keyId = some i) :
    taInvokeCommandEntryPoint (Host.succeeding now d x y digest sig) taSuperRelayCmdSignMessage
        signMessageParamTypes (signMessageParams keyId size messageHash) s =
      ⟨teeSuccess, .signatureResult ⟨(Bytes.zero 64).write 0 sig.bytes, sig.len, 0⟩,
        s.touchSlot i now⟩ := by
  have hw := hi.slot_wf_of_lt (findKeyIndex_lt hf)
  rw [invoke_signMessage, cmdSignMessage, signMessageParamTypes, if_neg (not_not.2 rfl)]
  simp only [signMessageParams, params4_zero, params4_one, params4_two, TEEParam.ofMemref_memref,
    outputParam]
  rw [if_neg fun h' => h'.elim h0 (UInt32.not_le.2 hn), if_neg (by decide), if_neg (by decide), hf]
  dsimp only [signWithSlot]
  rw [if_neg (not_not.2 hw.status)]
  rw [signByKeyType, if_pos hw.keyType]
  rfl

theorem listKeys_succeeds (h : Host) :
    (taInvokeCommandEntryPoint h taSuperRelayCmdListKeys outputOnlyParamTypes
      (outputOnlyParams sizeofSrKeyListResult) s).res = teeSuccess := rfl

theorem healthCheck_succeeds (h : Host) :
    (taInvokeCommandEntryPoint h taSuperRelayCmdHealthCheck outputOnlyParamTypes
      (outputOnlyParams sizeofSrHealthResult) s).res = teeSuccess := rfl

end Progress

end TA
end SuperRelay
