import SuperRelay.TA.Requests
import SuperRelay.TA.Store

/-!
# SuperRelay TA: private keys never reach the caller

A two-run statement.  `SamePublic s₁ s₂` says that the globals agree except in
the `private_key` bytes and `private_key_len` of live slots.

**Results.**  For every command other than `sign_message`, two such states
give the same return code, write the same output, and are left in the same
relation (`invoke_hides_private_keys`).  `sign_message` hands the private key
only to the host, in `TEE_PopulateTransientObject` and
`TEE_AsymmetricSignDigest`: when the host's answers to those two calls agree,
so does everything else.  The signing call's answer alone is not enough
(`sign_depends_on_populate`): a host whose `TEE_PopulateTransientObject`
refuses some private values tells two such states apart.

Two generations of the same request on hosts that differ only in the private
value they hand back lead to related states (`SamePublic.generateKey`), so the
relation holds between reachable states that really differ.

Over whole runs (`run_hides_private_keys`): when no host of the run lets its
answers to those two calls depend on the private key, every call of the two
runs shows the caller the same thing.
-/

namespace SuperRelay
namespace TA

/-- The slot with its private key and length cleared. -/
def SrKeyEntry.erasePrivate (e : SrKeyEntry) : SrKeyEntry :=
  { e with privateKey := Bytes.zero 32, privateKeyLen := 0 }

/-- The globals `s₁` and `s₂` differ at most in the private key bytes and
lengths of their live slots. -/
structure SamePublic (s₁ s₂ : TAState) : Prop where
  keys : s₁.keys = s₂.keys
  keyCount : s₁.keyCount = s₂.keyCount
  sessionCount : s₁.sessionCount = s₂.sessionCount
  operationCount : s₁.operationCount = s₂.operationCount
  startTime : s₁.startTime = s₂.startTime
  slot_live : ∀ j : Fin 16, j.val < s₁.keyCount.toNat →
    (s₁.keyStorage j).erasePrivate = (s₂.keyStorage j).erasePrivate
  slot_free : ∀ j : Fin 16, s₁.keyCount.toNat ≤ j.val → s₁.keyStorage j = s₂.keyStorage j

namespace SamePublic

variable {s₁ s₂ : TAState}

theorem refl (s : TAState) : SamePublic s s :=
  ⟨rfl, rfl, rfl, rfl, rfl, fun _ _ => rfl, fun _ _ => rfl⟩

/-- Every slot agrees apart from its private key. -/
theorem slot (hs : SamePublic s₁ s₂) (j : Nat) :
    (s₁.slot j).erasePrivate = (s₂.slot j).erasePrivate := by
  unfold TAState.slot arrayGet
  split_ifs with h16
  · by_cases hj : j < s₁.keyCount.toNat
    · exact hs.slot_live ⟨j, h16⟩ hj
    · rw [hs.slot_free ⟨j, h16⟩ (by simp; omega)]
  · rfl

/-- The public fields of every slot agree. -/
theorem slot_public (hs : SamePublic s₁ s₂) (j : Nat) :
    (s₁.slot j).keyId = (s₂.slot j).keyId ∧ (s₁.slot j).keyType = (s₂.slot j).keyType ∧
      (s₁.slot j).publicKey = (s₂.slot j).publicKey ∧
      (s₁.slot j).publicKeyLen = (s₂.slot j).publicKeyLen ∧ (s₁.slot j).info = (s₂.slot j).info := by
  have := hs.slot j
  simpa only [SrKeyEntry.erasePrivate, SrKeyEntry.mk.injEq, true_and] using this

theorem findKeyIndex (hs : SamePublic s₁ s₂) (buf : Nat → UInt8) :
    findKeyIndex s₁ buf = findKeyIndex s₂ buf := by
  simp only [TA.findKeyIndex, keyIdMatches, fun j => (hs.slot_public j).1, hs.keyCount]

theorem stage (hs : SamePublic s₁ s₂) (e : SrKeyEntry) :
    SamePublic { s₁ with keyStorage := arraySet s₁.keyStorage s₁.keyCount.toNat e }
      { s₂ with keyStorage := arraySet s₂.keyStorage s₂.keyCount.toNat e } := by
  refine ⟨hs.keys, hs.keyCount, hs.sessionCount, hs.operationCount, hs.startTime,
    fun j hj => ?_, fun j hj => ?_⟩ <;>
  · simp only [arraySet_apply, ← hs.keyCount] at hj ⊢
    split_ifs with h
    · rfl
    · first
        | exact hs.slot_live j hj
        | exact hs.slot_free j hj

/-- Publishing two slots that agree apart from their private keys keeps the
relation. -/
theorem publish (hs : SamePublic s₁ s₂) (hc : s₁.keyCount < srMaxKeys) {e₁ e₂ : SrKeyEntry}
    (he : e₁.erasePrivate = e₂.erasePrivate) :
    SamePublic (s₁.publish e₁) (s₂.publish e₂) := by
  have hk := publish_keyCount_toNat s₁ e₁ hc
  have hinfo' := congrArg SrKeyEntry.info he
  have hinfo : e₁.info = e₂.info := hinfo'
  refine ⟨by simp [TAState.publish, hs.keys, hs.keyCount, hinfo], by simp [hs.keyCount],
    by simp [hs.sessionCount], by simp [hs.operationCount], by simp [hs.startTime],
    fun j hj => ?_, fun j hj => ?_⟩
  all_goals rw [hk] at hj
  all_goals simp only [TAState.publish, arraySet_apply, ← hs.keyCount]
  all_goals split_ifs with h
  · exact he
  · exact hs.slot_live j (by omega)
  · omega
  · exact hs.slot_free j (by omega)

theorem touchSlot (hs : SamePublic s₁ s₂) (i : Nat) (now : UInt32) :
    SamePublic (s₁.touchSlot i now) (s₂.touchSlot i now) := by
  have hinfo := (hs.slot_public i).2.2.2.2
  have hslot : ({ s₁.slot i with info := (s₁.slot i).info.touch now } : SrKeyEntry).erasePrivate =
      ({ s₂.slot i with info := (s₂.slot i).info.touch now } : SrKeyEntry).erasePrivate := by
    show { (s₁.slot i).erasePrivate with info := (s₁.slot i).info.touch now } =
      { (s₂.slot i).erasePrivate with info := (s₂.slot i).info.touch now }
    rw [hs.slot i, hinfo]
  refine ⟨by simp [TAState.touchSlot, hs.keys, hinfo], hs.keyCount, hs.sessionCount,
    by simp [hs.operationCount], hs.startTime, fun j hj => ?_, fun j hj => ?_⟩
  all_goals simp only [TAState.touchSlot, arraySet_apply] at hj ⊢
  all_goals split_ifs with h
  · exact hslot
  · exact hs.slot_live j hj
  · have := hs.slot_free j hj
    subst h
    simp only [TAState.slot, arrayGet_val] at hslot ⊢
    rw [this]
  · exact hs.slot_free j hj

theorem countOp (hs : SamePublic s₁ s₂) : SamePublic s₁.countOp s₂.countOp :=
  ⟨hs.keys, hs.keyCount, hs.sessionCount, by simp [hs.operationCount], hs.startTime,
    hs.slot_live, hs.slot_free⟩

end SamePublic

/-- Two outcomes agree on the return code and the output, and their globals
differ at most in the private keys of live slots. -/
def Outcome.SamePublic (o₁ o₂ : Outcome) : Prop :=
  o₁.res = o₂.res ∧ o₁.written = o₂.written ∧ TA.SamePublic o₁.state o₂.state

/-- Both branches of one test keep the relation, so the test does. -/
theorem Outcome.SamePublic.ite {c : Prop} [Decidable c] {a₁ a₂ b₁ b₂ : Outcome}
    (ha : c → a₁.SamePublic a₂) (hb : ¬c → b₁.SamePublic b₂) :
    (if c then a₁ else b₁).SamePublic (if c then a₂ else b₂) := by
  by_cases h : c
  · rw [if_pos h, if_pos h]
    exact ha h
  · rw [if_neg h, if_neg h]
    exact hb h

section Commands

variable {h : Host} {pt : UInt32} {ps : Params} {s₁ s₂ : TAState}

theorem reject_samePublic (hs : SamePublic s₁ s₂) (r : TEEResult) :
    (reject r s₁).SamePublic (reject r s₂) :=
  ⟨rfl, rfl, hs⟩

theorem finishGenerateKey_samePublic (hs : SamePublic s₁ s₂) (hc : s₁.keyCount < srMaxKeys)
    (g : TEEResult × SrKeyEntry) :
    (finishGenerateKey ps s₁ g).SamePublic (finishGenerateKey ps s₂ g) :=
  .ite (fun _ => reject_samePublic (hs.stage g.2) _) fun _ =>
    .ite (fun _ => reject_samePublic (hs.stage g.2) _) fun _ => ⟨rfl, rfl, hs.publish hc rfl⟩

theorem cmdGenerateKey_samePublic (hs : SamePublic s₁ s₂) :
    (cmdGenerateKey h pt ps s₁).SamePublic (cmdGenerateKey h pt ps s₂) := by
  unfold cmdGenerateKey
  rw [hs.findKeyIndex, ← hs.keyCount]
  refine .ite (fun _ => reject_samePublic hs _) fun _ =>
    .ite (fun _ => reject_samePublic hs _) fun hc => ?_
  exact .ite (fun _ => reject_samePublic hs _) fun _ => .ite (fun _ => reject_samePublic hs _)
    fun _ => .ite (fun _ => reject_samePublic hs _) fun _ =>
      finishGenerateKey_samePublic hs (UInt32.not_le.1 hc) _

theorem signWithSlot_samePublic (hs : SamePublic s₁ s₂) (i : Nat)
    (hk : keyResponses h (s₁.slot i) (messageHashOf ps) =
      keyResponses h (s₂.slot i) (messageHashOf ps)) :
    (signWithSlot h ps s₁ i).SamePublic (signWithSlot h ps s₂ i) := by
  obtain ⟨-, htype, -, -, hinfo⟩ := hs.slot_public i
  have hsig : signByKeyType h (s₁.slot i) (messageHashOf ps) =
      signByKeyType h (s₂.slot i) (messageHashOf ps) := by
    unfold signByKeyType
    rw [htype, signMessageEcdsa_congr _ hk]
  have hst : ((s₂.slot i).info.status ≠ srKeyStatusActive) =
      ((s₁.slot i).info.status ≠ srKeyStatusActive) := by
    rw [hinfo]
  dsimp only [signWithSlot]
  simp only [hsig, hst]
  exact .ite (fun _ => reject_samePublic hs _) fun _ =>
    .ite (fun _ => ⟨rfl, rfl, hs.touchSlot i h.systemTime⟩) fun _ => ⟨rfl, rfl, hs⟩

theorem cmdSignMessage_samePublic (hs : SamePublic s₁ s₂)
    (hk : ∀ i, findKeyIndex s₁ (ps 0).memref.buffer = some i →
      keyResponses h (s₁.slot i) (messageHashOf ps) = keyResponses h (s₂.slot i) (messageHashOf ps)) :
    (cmdSignMessage h pt ps s₁).SamePublic (cmdSignMessage h pt ps s₂) := by
  unfold cmdSignMessage
  rw [← hs.findKeyIndex]
  refine .ite (fun _ => reject_samePublic hs _) fun _ => .ite (fun _ => reject_samePublic hs _)
    fun _ => .ite (fun _ => reject_samePublic hs _) fun _ =>
      .ite (fun _ => reject_samePublic hs _) fun _ => ?_
  cases hf : findKeyIndex s₁ (ps 0).memref.buffer with
  | none => exact reject_samePublic hs _
  | some i => exact signWithSlot_samePublic hs i (hk i hf)

theorem cmdGetPublicKey_samePublic (hs : SamePublic s₁ s₂) :
    (cmdGetPublicKey pt ps s₁).SamePublic (cmdGetPublicKey pt ps s₂) := by
  unfold cmdGetPublicKey
  rw [← hs.findKeyIndex]
  refine .ite (fun _ => reject_samePublic hs _) fun _ => .ite (fun _ => reject_samePublic hs _)
    fun _ => .ite (fun _ => reject_samePublic hs _) fun _ => ?_
  cases findKeyIndex s₁ (ps 0).memref.buffer with
  | none => exact reject_samePublic hs _
  | some i =>
      obtain ⟨-, -, hpk, hlen, hinfo⟩ := hs.slot_public i
      exact ⟨rfl, by simp only [publicKeyOf, hpk, hlen, hinfo], hs.countOp⟩

theorem cmdListKeys_samePublic (hs : SamePublic s₁ s₂) :
    (cmdListKeys pt ps s₁).SamePublic (cmdListKeys pt ps s₂) :=
  .ite (fun _ => reject_samePublic hs _) fun _ => .ite (fun _ => reject_samePublic hs _) fun _ =>
    ⟨rfl, by rw [hs.keys, hs.keyCount], hs.countOp⟩

theorem cmdHealthCheck_samePublic (hs : SamePublic s₁ s₂) :
    (cmdHealthCheck h pt ps s₁).SamePublic (cmdHealthCheck h pt ps s₂) :=
  .ite (fun _ => reject_samePublic hs _) fun _ => .ite (fun _ => reject_samePublic hs _) fun _ =>
    ⟨rfl, by rw [hs.sessionCount, hs.operationCount, hs.keyCount, hs.startTime], hs⟩

theorem cmdGetVersion_samePublic (hs : SamePublic s₁ s₂) :
    (cmdGetVersion pt ps s₁).SamePublic (cmdGetVersion pt ps s₂) :=
  .ite (fun _ => reject_samePublic hs _) fun _ => .ite (fun _ => reject_samePublic hs _) fun _ =>
    ⟨rfl, rfl, hs⟩

theorem taInvokeCommandEntryPoint_samePublic (hs : SamePublic s₁ s₂) (c : UInt32)
    (hsign : c = taSuperRelayCmdSignMessage → ∀ i, findKeyIndex s₁ (ps 0).memref.buffer = some i →
      keyResponses h (s₁.slot i) (messageHashOf ps) = keyResponses h (s₂.slot i) (messageHashOf ps)) :
    (taInvokeCommandEntryPoint h c pt ps s₁).SamePublic (taInvokeCommandEntryPoint h c pt ps s₂) :=
  .ite (fun _ => cmdGenerateKey_samePublic hs) fun _ =>
    .ite (fun hc => cmdSignMessage_samePublic hs (hsign hc)) fun _ =>
    .ite (fun _ => cmdGetPublicKey_samePublic hs) fun _ =>
    .ite (fun _ => cmdListKeys_samePublic hs) fun _ =>
    .ite (fun _ => cmdGetVersion_samePublic hs) fun _ =>
    .ite (fun _ => cmdHealthCheck_samePublic hs) fun _ =>
    .ite (fun _ => reject_samePublic hs _) fun _ => reject_samePublic hs _

end Commands

/-- Generating from related states, on two succeeding hosts that differ only in
the private value they hand back, leaves related states. -/
theorem SamePublic.generateKey {s₁ s₂ : TAState} (hs : SamePublic s₁ s₂) (keyId : Nat → UInt8)
    {size : UInt32} (hc : s₁.keyCount < srMaxKeys) (h0 : size ≠ 0) (hn : size < srMaxKeyIdSize)
    (hf : TA.findKeyIndex s₁ keyId = none) (now : UInt32) (d₁ d₂ x y : AttrBuffer 32)
    (digest : Bytes 64 → Bytes 32) (sig : AttrBuffer 64) :
    SamePublic
      (step s₁ (generateKeyRequest (.succeeding now d₁ x y digest sig) keyId size
        srKeyTypeEcdsaSecp256k1))
      (step s₂ (generateKeyRequest (.succeeding now d₂ x y digest sig) keyId size
        srKeyTypeEcdsaSecp256k1)) := by
  have hc₂ : s₂.keyCount < srMaxKeys := hs.keyCount ▸ hc
  have hf₂ : TA.findKeyIndex s₂ keyId = none := (hs.findKeyIndex keyId).symm.trans hf
  show SamePublic (taInvokeCommandEntryPoint _ _ _ _ s₁).state
    (taInvokeCommandEntryPoint _ _ _ _ s₂).state
  rw [generateKey_succeeds keyId hc h0 hn hf, generateKey_succeeds keyId hc₂ h0 hn hf₂]
  exact hs.publish hc rfl

/-- Private key material never reaches the caller: two states that differ only
in the private keys of live slots give the same return code and output for
every call, and stay so related, provided, for `sign_message`, the host
answers alike the two calls that receive the private key of the resolved slot:
`TEE_PopulateTransientObject` and `TEE_AsymmetricSignDigest`, the latter over
the first 32 bytes of the second parameter. -/
theorem invoke_hides_private_keys {s₁ s₂ : TAState} (hs : SamePublic s₁ s₂) (h : Host)
    (c pt : UInt32) (ps : Params)
    (hsign : c = taSuperRelayCmdSignMessage → ∀ i, findKeyIndex s₁ (ps 0).memref.buffer = some i →
      h.populateTransientObject (s₁.slot i).privateKey (s₁.slot i).privateKeyLen =
          h.populateTransientObject (s₂.slot i).privateKey (s₂.slot i).privateKeyLen ∧
        h.asymmetricSignDigest (s₁.slot i).privateKey (s₁.slot i).privateKeyLen
            (fun j => (ps 1).memref.buffer j.val) =
          h.asymmetricSignDigest (s₂.slot i).privateKey (s₂.slot i).privateKeyLen
            (fun j => (ps 1).memref.buffer j.val)) :
    (taInvokeCommandEntryPoint h c pt ps s₁).res = (taInvokeCommandEntryPoint h c pt ps s₂).res ∧
    (taInvokeCommandEntryPoint h c pt ps s₁).written =
      (taInvokeCommandEntryPoint h c pt ps s₂).written ∧
    SamePublic (taInvokeCommandEntryPoint h c pt ps s₁).state
      (taInvokeCommandEntryPoint h c pt ps s₂).state :=
  taInvokeCommandEntryPoint_samePublic hs c fun hc i hf =>
    Prod.ext (hsign hc i hf).1 (hsign hc i hf).2

/-- The globals after `A` is generated from `TA_CreateEntryPoint` on a host whose
private value is full of the byte `b`. -/
def generatedA (b : UInt8) : TAState :=
  run (taCreateEntryPoint 0)
    [generateKeyRequest (Host.filledPrivate 0 b) (callerBytes [65]) 1 srKeyTypeEcdsaSecp256k1]

theorem generatedA_samePublic (b₁ b₂ : UInt8) : SamePublic (generatedA b₁) (generatedA b₂) :=
  (SamePublic.refl _).generateKey (callerBytes [65]) (by decide) (by decide) (by decide)
    (by decide) 0 _ _ _ _ _ _

theorem invoke_hides_private_keys_sign :
    SamePublic (generatedA 1) (generatedA 9) ∧
    ((generatedA 1).slot 0).privateKey 0 ≠ ((generatedA 9).slot 0).privateKey 0 ∧
    (taSuperRelayCmdSignMessage = taSuperRelayCmdSignMessage → ∀ i,
      findKeyIndex (generatedA 1) (signMessageParams (callerBytes [65]) 1 (callerBytes [7]) 0).memref.buffer =
        some i →
      (Host.filled 1).populateTransientObject ((generatedA 1).slot i).privateKey
          ((generatedA 1).slot i).privateKeyLen =
        (Host.filled 1).populateTransientObject ((generatedA 9).slot i).privateKey
          ((generatedA 9).slot i).privateKeyLen ∧
      (Host.filled 1).asymmetricSignDigest ((generatedA 1).slot i).privateKey
          ((generatedA 1).slot i).privateKeyLen
          (fun j => (signMessageParams (callerBytes [65]) 1 (callerBytes [7]) 1).memref.buffer j.val) =
        (Host.filled 1).asymmetricSignDigest ((generatedA 9).slot i).privateKey
          ((generatedA 9).slot i).privateKeyLen
          (fun j => (signMessageParams (callerBytes [65]) 1 (callerBytes [7]) 1).memref.buffer j.val)) ∧
    (taInvokeCommandEntryPoint (Host.filled 1) taSuperRelayCmdSignMessage signMessageParamTypes
        (signMessageParams (callerBytes [65]) 1 (callerBytes [7])) (generatedA 1)).res =
      (taInvokeCommandEntryPoint (Host.filled 1) taSuperRelayCmdSignMessage signMessageParamTypes
        (signMessageParams (callerBytes [65]) 1 (callerBytes [7])) (generatedA 9)).res ∧
    (taInvokeCommandEntryPoint (Host.filled 1) taSuperRelayCmdSignMessage signMessageParamTypes
        (signMessageParams (callerBytes [65]) 1 (callerBytes [7])) (generatedA 1)).written =
      (taInvokeCommandEntryPoint (Host.filled 1) taSuperRelayCmdSignMessage signMessageParamTypes
        (signMessageParams (callerBytes [65]) 1 (callerBytes [7])) (generatedA 9)).written ∧
    SamePublic
      (taInvokeCommandEntryPoint (Host.filled 1) taSuperRelayCmdSignMessage signMessageParamTypes
        (signMessageParams (callerBytes [65]) 1 (callerBytes [7])) (generatedA 1)).state
      (taInvokeCommandEntryPoint (Host.filled 1) taSuperRelayCmdSignMessage signMessageParamTypes
        (signMessageParams (callerBytes [65]) 1 (callerBytes [7])) (generatedA 9)).state :=
  ⟨generatedA_samePublic 1 9, by decide, fun _ _ _ => ⟨rfl, rfl⟩,
    invoke_hides_private_keys (generatedA_samePublic 1 9) _ _ _ _ fun _ _ _ => ⟨rfl, rfl⟩⟩

/-- A host whose `TEE_PopulateTransientObject` refuses a private value whose
first byte is 9, and which otherwise answers as `Host.filled`. -/
def Host.refusingNines (now : UInt32) : Host :=
  { Host.filled now with
    populateTransientObject := fun d _ =>
      if d 0 = 9 then .error ⟨teeErrorBadParameters, teeErrorBadParameters_ne⟩ else .ok () }

/-- Two reachable states that differ only in slot 0's private key, and a host
whose signing call answers alike whatever key it is given: `sign_message`
succeeds on one and fails on the other, since the host's
`TEE_PopulateTransientObject` also receives the key. -/
theorem sign_depends_on_populate :
    SamePublic (generatedA 1) (generatedA 9) ∧
    (∀ d₁ d₂ n₁ n₂ m, (Host.refusingNines 1).asymmetricSignDigest d₁ n₁ m =
      (Host.refusingNines 1).asymmetricSignDigest d₂ n₂ m) ∧
    (taInvokeCommandEntryPoint (Host.refusingNines 1) taSuperRelayCmdSignMessage
      signMessageParamTypes (signMessageParams (callerBytes [65]) 1 (callerBytes [7]))
      (generatedA 1)).res = teeSuccess ∧
    (taInvokeCommandEntryPoint (Host.refusingNines 1) taSuperRelayCmdSignMessage
      signMessageParamTypes (signMessageParams (callerBytes [65]) 1 (callerBytes [7]))
      (generatedA 9)).res = teeErrorBadParameters :=
  ⟨generatedA_samePublic 1 9, fun _ _ _ _ _ => rfl, by decide, by decide⟩

/-- The host's answers to the two calls that receive a private key do not
depend on that key. -/
def Host.IgnoresPrivateKeys (h : Host) : Prop :=
  ∀ e₁ e₂ : SrKeyEntry, e₁.erasePrivate = e₂.erasePrivate →
    ∀ m, keyResponses h e₁ m = keyResponses h e₂ m

/-- A command's host ignores private keys; a session call has no host. -/
def Event.IgnoresPrivateKeys : Event → Prop
  | .invoke h _ _ _ => h.IgnoresPrivateKeys
  | _ => True

/-- What the caller sees of a call: for a command, its return code and what it
wrote; `TA_OpenSessionEntryPoint` always succeeds and the close returns
nothing. -/
def observe (s : TAState) : Event → Option (TEEResult × Written)
  | .invoke h c pt ps =>
      some ((taInvokeCommandEntryPoint h c pt ps s).res,
        (taInvokeCommandEntryPoint h c pt ps s).written)
  | _ => none

namespace SamePublic

variable {s₁ s₂ : TAState}

theorem openSession (hs : SamePublic s₁ s₂) :
    SamePublic (taOpenSessionEntryPoint s₁) (taOpenSessionEntryPoint s₂) :=
  ⟨hs.keys, hs.keyCount, by simp [taOpenSessionEntryPoint, hs.sessionCount], hs.operationCount,
    hs.startTime, hs.slot_live, hs.slot_free⟩

theorem closeSession (hs : SamePublic s₁ s₂) :
    SamePublic (taCloseSessionEntryPoint s₁) (taCloseSessionEntryPoint s₂) := by
  unfold taCloseSessionEntryPoint
  rw [hs.sessionCount]
  split_ifs
  · exact ⟨hs.keys, hs.keyCount, rfl, hs.operationCount, hs.startTime, hs.slot_live, hs.slot_free⟩
  · exact hs

/-- One call shows the same thing in both runs and keeps them related. -/
theorem step (hs : SamePublic s₁ s₂) {ev : Event} (hev : ev.IgnoresPrivateKeys) :
    observe s₁ ev = observe s₂ ev ∧ SamePublic (TA.step s₁ ev) (TA.step s₂ ev) := by
  cases ev with
  | openSession => exact ⟨rfl, hs.openSession⟩
  | closeSession => exact ⟨rfl, hs.closeSession⟩
  | invoke h c pt ps =>
      obtain ⟨hr, hw, hst⟩ : (taInvokeCommandEntryPoint h c pt ps s₁).SamePublic
          (taInvokeCommandEntryPoint h c pt ps s₂) :=
        taInvokeCommandEntryPoint_samePublic hs c fun _ i _ => hev _ _ (hs.slot i) _
      exact ⟨by simp only [observe, hr, hw], hst⟩

end SamePublic

/-- Private key material never reaches the caller over a whole run: from two
states that differ only in the private keys of live slots, the same calls show
the caller the same return codes and outputs, one by one, and end in states
that still differ only there, as long as no host's answers depend on the
private key. -/
theorem run_hides_private_keys {s₁ s₂ : TAState} (hs : SamePublic s₁ s₂) (evs : List Event)
    (hh : ∀ ev ∈ evs, ev.IgnoresPrivateKeys) :
    (calls s₁ evs).map (fun c => observe c.1 c.2) = (calls s₂ evs).map (fun c => observe c.1 c.2) ∧
    SamePublic (run s₁ evs) (run s₂ evs) := by
  induction evs generalizing s₁ s₂ with
  | nil => exact ⟨rfl, hs⟩
  | cons ev evs ih =>
      obtain ⟨hobs, hs'⟩ := hs.step (hh ev (.head _))
      obtain ⟨hrest, hend⟩ := ih hs' fun e he => hh e (.tail _ he)
      exact ⟨by simp only [calls, List.map_cons, hobs, hrest], hend⟩

theorem run_hides_private_keys_session :
    SamePublic (generatedA 1) (generatedA 9) ∧
    ((generatedA 1).slot 0).privateKey 0 ≠ ((generatedA 9).slot 0).privateKey 0 ∧
    (∀ ev ∈ [signMessageRequest (Host.filled 1) (callerBytes [65]) 1 (callerBytes [7]),
        getPublicKeyRequest (Host.filled 2) (callerBytes [65]) 1, listKeysRequest (Host.filled 3)],
      ev.IgnoresPrivateKeys) ∧
    (calls (generatedA 1) [signMessageRequest (Host.filled 1) (callerBytes [65]) 1 (callerBytes [7]),
        getPublicKeyRequest (Host.filled 2) (callerBytes [65]) 1, listKeysRequest (Host.filled 3)]).map
        (fun c => observe c.1 c.2) =
      (calls (generatedA 9) [signMessageRequest (Host.filled 1) (callerBytes [65]) 1 (callerBytes [7]),
        getPublicKeyRequest (Host.filled 2) (callerBytes [65]) 1, listKeysRequest (Host.filled 3)]).map
        (fun c => observe c.1 c.2) ∧
    SamePublic
      (run (generatedA 1) [signMessageRequest (Host.filled 1) (callerBytes [65]) 1 (callerBytes [7]),
        getPublicKeyRequest (Host.filled 2) (callerBytes [65]) 1, listKeysRequest (Host.filled 3)])
      (run (generatedA 9) [signMessageRequest (Host.filled 1) (callerBytes [65]) 1 (callerBytes [7]),
        getPublicKeyRequest (Host.filled 2) (callerBytes [65]) 1, listKeysRequest (Host.filled 3)]) :=
  have hh : ∀ ev ∈ [signMessageRequest (Host.filled 1) (callerBytes [65]) 1 (callerBytes [7]),
      getPublicKeyRequest (Host.filled 2) (callerBytes [65]) 1, listKeysRequest (Host.filled 3)],
      ev.IgnoresPrivateKeys := by
    simp only [List.mem_cons, List.mem_singleton, List.not_mem_nil, or_false]
    rintro ev (rfl | rfl | rfl) <;> exact fun _ _ _ _ => rfl
  ⟨generatedA_samePublic 1 9, by decide, hh, run_hides_private_keys (generatedA_samePublic 1 9) _ hh⟩

end TA
end SuperRelay
