import SuperRelay.TA.Lookup

/-!
# SuperRelay TA: the generated key pair round trip

**Input.**  A successful `generate_key` call anywhere in a run, with the
coordinates `X` and `Y` the host handed back (each at most 32 bytes) and any
answer of the digest.

**Algorithm.**  `generate_secp256k1_keypair` writes `X` at offset 0 and `Y` at
offset 32 of the zeroed public key, each left-aligned, sets
`public_key_len = |X| + |Y|`, and derives the address from the 64 bytes;
`derive_ethereum_address` writes twenty zero bytes when the digest fails.
`get_public_key` copies `public_key_len` bytes of the stored key, and
`sign_message_ecdsa` hands the stored private value and its length to the
host's signing call.

**Specification.**  The documented address is bytes 12..31 of the digest of
`X32 ‖ Y32` (`paddedPublicKey`), the two coordinates as 32-byte big-endian
integers.  A big-endian integer with a leading zero byte comes back shorter
than 32 bytes, and the TA does not pad it on the left.

**Results.**
* `storedPublicKey_padded`: with 32-byte coordinates the stored key is
  `X32 ‖ Y32` and its length 64.
* `generated_address_round_trip`: the address `generate_key` writes is bytes
  12..31 of the digest of the stored, left-aligned key (zeros when the digest
  fails), and every later `get_public_key` that resolves to the new slot
  returns the stored key, its length and that same address; the generating
  buffer resolves there when it is NUL-terminated within its declared size.
* `generateKey_hashes_unpadded_coordinate`: with a 31-byte `X` the TA hashes
  `X ‖ 0 ‖ Y`, `get_public_key` returns 63 bytes, and the address recomputed
  from them differs from the one `generate_key` wrote.
* `sign_uses_generated_key`: every later successful `sign_message` that
  resolves to the new slot signs with the private value of that generation.
-/

namespace SuperRelay
namespace TA

/-- The public key `generate_secp256k1_keypair` stores for the coordinates `x`
and `y`: each left-aligned in its half of a zeroed array. -/
def storedPublicKey (x y : AttrBuffer 32) : Bytes 64 :=
  ((Bytes.zero 64).write 0 x.bytes).write 32 y.bytes

/-- The 64-byte key the documented address rule hashes: `X` and `Y` as 32-byte
big-endian integers, each padded with zero bytes on the left. -/
def paddedPublicKey (x y : AttrBuffer 32) : Bytes 64 :=
  Bytes.ofList (List.replicate (32 - x.bytes.length) 0 ++ x.bytes ++
    List.replicate (32 - y.bytes.length) 0 ++ y.bytes)

/-- With 32-byte coordinates the stored key is `X32 ‖ Y32`, 64 bytes long. -/
theorem storedPublicKey_padded {x y : AttrBuffer 32} (hx : x.bytes.length = 32)
    (hy : y.bytes.length = 32) :
    storedPublicKey x y = paddedPublicKey x y ∧ x.len + y.len = 64 := by
  refine ⟨funext fun j => ?_, by simp [AttrBuffer.len, hx, hy]⟩
  simp only [storedPublicKey, paddedPublicKey, hx, hy, Nat.sub_self, List.replicate_zero,
    List.nil_append, List.append_nil, Bytes.write, Bytes.zero_apply, Bytes.ofList_apply,
    List.getD_eq_getElem?_getD]
  by_cases hj : 32 ≤ j.val
  · rw [if_pos hj, List.getElem?_append_right (by omega), hx,
      List.getElem?_eq_getElem (by omega : j.val - 32 < y.bytes.length)]
    rfl
  · rw [if_neg hj, if_pos (Nat.zero_le _), List.getElem?_append_left (by omega), Nat.sub_zero]

/-- The address of a successful `generate_key` is bytes 12..31 of the digest of
the stored, left-aligned key, or twenty zero bytes when the digest fails; every
later `get_public_key` resolved to the new slot returns that key (the first
`|X| + |Y|` bytes of it), its length and the same address; and the generating
buffer resolves to the slot whenever it has a NUL at or before its declared
size. -/
theorem generated_address_round_trip (now : UInt32) (pre : List Event) (h : Host) (pt : UInt32)
    (ps : Params)
    (hres : (taInvokeCommandEntryPoint h taSuperRelayCmdGenerateKey pt ps
      (run (taCreateEntryPoint now) pre)).res = teeSuccess) :
    let s := run (taCreateEntryPoint now) pre
    ∃ (x y : AttrBuffer 32) (a : Bytes 20),
      h.getObjectBufferAttribute .publicValueX = .ok x ∧
      h.getObjectBufferAttribute .publicValueY = .ok y ∧
      (taInvokeCommandEntryPoint h taSuperRelayCmdGenerateKey pt ps s).written = .ethereumAddress a ∧
      (∀ hash, h.digestDoFinal (storedPublicKey x y) = .ok hash → a = addressOfDigest hash) ∧
      (∀ err, h.digestDoFinal (storedPublicKey x y) = .error err → a = Bytes.zero 20) ∧
      (x.bytes.length = 32 → y.bytes.length = 32 →
        storedPublicKey x y = paddedPublicKey x y ∧ x.len + y.len = 64) ∧
      ∀ (post : List Event) (h' : Host) (pt' : UInt32) (ps' : Params),
        let s' := run (step s (.invoke h taSuperRelayCmdGenerateKey pt ps)) post
        ((∃ k ≤ (ps 0).memref.size.toNat, (ps 0).memref.buffer k = 0) →
          findKeyIndex s' (ps 0).memref.buffer = some s.keyCount.toNat) ∧
        (findKeyIndex s' (ps' 0).memref.buffer = some s.keyCount.toNat →
          (taInvokeCommandEntryPoint h' taSuperRelayCmdGetPublicKey pt' ps' s').res = teeSuccess →
          (taInvokeCommandEntryPoint h' taSuperRelayCmdGetPublicKey pt' ps' s').written =
            .publicKeyResult ⟨arrayCopy (Bytes.zero 64) (storedPublicKey x y) (x.len + y.len).toNat,
              x.len + y.len, a⟩) := by
  intro s
  have hi : s.Inv := (taCreateEntryPoint_inv now).run pre
  obtain ⟨d, x, y, -, hx, hy, hw, hslot, hlt⟩ := generateKey_publish hres
  refine ⟨x, y, _, hx, hy, hw, fun _ hd => deriveEthereumAddress_of_ok hd,
    fun _ hd => deriveEthereumAddress_of_error hd, storedPublicKey_padded,
    fun post h' pt' ps' => ⟨fun hterm => findKeyIndex_generated hi hres hterm post,
      fun hf hget => ?_⟩⟩
  have hpart := slot_publicPart_run (hi.step _) hlt post
  rw [hslot] at hpart
  rw [invoke_getPublicKey] at hget ⊢
  obtain ⟨i, hi₁, hpub⟩ := cmdGetPublicKey_ok hget
  rw [hf] at hi₁
  cases hi₁
  rw [hpub]
  simp only [SrKeyEntry.publicPart, Prod.mk.injEq] at hpart
  obtain ⟨-, hpk, hlen, haddr⟩ := hpart
  simp only [publicKeyOf, hpk, hlen, haddr]
  rfl

/-- A 31-byte `X` coordinate: a big-endian integer whose leading byte is zero,
which `TEE_GetObjectBufferAttribute` leaves out. -/
def shortX : AttrBuffer 32 := ⟨List.replicate 31 2, by simp⟩

/-- A digest that adds the two halves of its input byte by byte, so that each of
its bytes 12..31 reads one byte of `X` and one of `Y`. -/
def foldDigest (pk : Bytes 64) : Bytes 32 := fun j => pk ⟨j.val, by omega⟩ + pk ⟨j.val + 32, by omega⟩

/-- A succeeding host that hands back `shortX` and a 32-byte `Y`, and digests with
`foldDigest`. -/
def Host.shortCoordinate : Host :=
  Host.succeeding 0 (.filled 32 1) shortX (.filled 32 3) foldDigest (.filled 64 4)

theorem generated_address_round_trip_short :
    (taInvokeCommandEntryPoint Host.shortCoordinate taSuperRelayCmdGenerateKey generateKeyParamTypes
      (generateKeyParams (callerBytes [65]) 1 srKeyTypeEcdsaSecp256k1)
      (run (taCreateEntryPoint 0) [])).res = teeSuccess ∧
    ∃ (x y : AttrBuffer 32) (a : Bytes 20),
      Host.shortCoordinate.getObjectBufferAttribute .publicValueX = .ok x ∧
      Host.shortCoordinate.getObjectBufferAttribute .publicValueY = .ok y ∧
      (taInvokeCommandEntryPoint Host.shortCoordinate taSuperRelayCmdGenerateKey generateKeyParamTypes
        (generateKeyParams (callerBytes [65]) 1 srKeyTypeEcdsaSecp256k1)
        (run (taCreateEntryPoint 0) [])).written = .ethereumAddress a ∧
      (∀ hash, Host.shortCoordinate.digestDoFinal (storedPublicKey x y) = .ok hash →
        a = addressOfDigest hash) ∧
      (∀ err, Host.shortCoordinate.digestDoFinal (storedPublicKey x y) = .error err →
        a = Bytes.zero 20) ∧
      (x.bytes.length = 32 → y.bytes.length = 32 →
        storedPublicKey x y = paddedPublicKey x y ∧ x.len + y.len = 64) ∧
      ∀ (post : List Event) (h' : Host) (pt' : UInt32) (ps' : Params),
        ((∃ k ≤ (generateKeyParams (callerBytes [65]) 1 srKeyTypeEcdsaSecp256k1 0).memref.size.toNat,
            (generateKeyParams (callerBytes [65]) 1 srKeyTypeEcdsaSecp256k1 0).memref.buffer k = 0) →
          findKeyIndex (run (step (run (taCreateEntryPoint 0) [])
              (generateKeyRequest Host.shortCoordinate (callerBytes [65]) 1 srKeyTypeEcdsaSecp256k1))
              post)
            (generateKeyParams (callerBytes [65]) 1 srKeyTypeEcdsaSecp256k1 0).memref.buffer =
            some (run (taCreateEntryPoint 0) []).keyCount.toNat) ∧
        (findKeyIndex (run (step (run (taCreateEntryPoint 0) [])
              (generateKeyRequest Host.shortCoordinate (callerBytes [65]) 1 srKeyTypeEcdsaSecp256k1))
              post) (ps' 0).memref.buffer = some (run (taCreateEntryPoint 0) []).keyCount.toNat →
          (taInvokeCommandEntryPoint h' taSuperRelayCmdGetPublicKey pt' ps'
            (run (step (run (taCreateEntryPoint 0) [])
              (generateKeyRequest Host.shortCoordinate (callerBytes [65]) 1 srKeyTypeEcdsaSecp256k1))
              post)).res = teeSuccess →
          (taInvokeCommandEntryPoint h' taSuperRelayCmdGetPublicKey pt' ps'
            (run (step (run (taCreateEntryPoint 0) [])
              (generateKeyRequest Host.shortCoordinate (callerBytes [65]) 1 srKeyTypeEcdsaSecp256k1))
              post)).written =
            .publicKeyResult ⟨arrayCopy (Bytes.zero 64) (storedPublicKey x y) (x.len + y.len).toNat,
              x.len + y.len, a⟩) :=
  ⟨by decide, generated_address_round_trip 0 [] _ _ _ (by decide)⟩

/-- With a 31-byte `X`, `generate_key` succeeds and hashes `X ‖ 0 ‖ Y` where the
documented rule hashes `X32 ‖ Y32`, so the address it writes is not the
documented one; `get_public_key` then returns 63 bytes, which are not
`X32 ‖ Y32` and lose `Y`'s last byte, and the address recomputed from them by
the documented rule differs from the one `generate_key` wrote. -/
theorem generateKey_hashes_unpadded_coordinate :
    (taInvokeCommandEntryPoint Host.shortCoordinate taSuperRelayCmdGenerateKey generateKeyParamTypes
      (generateKeyParams (callerBytes [65]) 1 srKeyTypeEcdsaSecp256k1) (taCreateEntryPoint 0)).res =
        teeSuccess ∧
    (taInvokeCommandEntryPoint Host.shortCoordinate taSuperRelayCmdGenerateKey generateKeyParamTypes
      (generateKeyParams (callerBytes [65]) 1 srKeyTypeEcdsaSecp256k1) (taCreateEntryPoint 0)).written =
        .ethereumAddress (addressOfDigest (foldDigest (storedPublicKey shortX (.filled 32 3)))) ∧
    addressOfDigest (foldDigest (storedPublicKey shortX (.filled 32 3))) ≠
      addressOfDigest (foldDigest (paddedPublicKey shortX (.filled 32 3))) ∧
    (taInvokeCommandEntryPoint Host.shortCoordinate taSuperRelayCmdGetPublicKey getPublicKeyParamTypes
      (getPublicKeyParams (callerBytes [65]) 1)
      (run (taCreateEntryPoint 0)
        [generateKeyRequest Host.shortCoordinate (callerBytes [65]) 1 srKeyTypeEcdsaSecp256k1])).written =
      .publicKeyResult ⟨arrayCopy (Bytes.zero 64) (storedPublicKey shortX (.filled 32 3)) 63, 63,
        addressOfDigest (foldDigest (storedPublicKey shortX (.filled 32 3)))⟩ ∧
    arrayCopy (Bytes.zero 64) (storedPublicKey shortX (.filled 32 3)) 63 ≠
      paddedPublicKey shortX (.filled 32 3) ∧
    addressOfDigest (foldDigest (arrayCopy (Bytes.zero 64) (storedPublicKey shortX (.filled 32 3)) 63)) ≠
      addressOfDigest (foldDigest (storedPublicKey shortX (.filled 32 3))) :=
  ⟨rfl, rfl, ne_of_apply_ne (· 19) (by decide), rfl, ne_of_apply_ne (· 0) (by decide),
    ne_of_apply_ne (· 19) (by decide)⟩

/-- A `sign_message` that succeeds and resolves to the slot a generate call
created signs with the private value the host handed that generate call, and
returns the signing host's signature with recovery id 0. -/
theorem sign_uses_generated_key (now : UInt32) (pre : List Event) (h : Host) (pt : UInt32)
    (ps : Params)
    (hres : (taInvokeCommandEntryPoint h taSuperRelayCmdGenerateKey pt ps
      (run (taCreateEntryPoint now) pre)).res = teeSuccess) :
    let s := run (taCreateEntryPoint now) pre
    ∃ d : AttrBuffer 32, h.getObjectBufferAttribute .privateValue = .ok d ∧
      ∀ (post : List Event) (h' : Host) (pt' : UInt32) (ps' : Params),
        let s' := run (step s (.invoke h taSuperRelayCmdGenerateKey pt ps)) post
        findKeyIndex s' (ps' 0).memref.buffer = some s.keyCount.toNat →
        (taInvokeCommandEntryPoint h' taSuperRelayCmdSignMessage pt' ps' s').res = teeSuccess →
        ∃ sig : AttrBuffer 64,
          h'.asymmetricSignDigest ((Bytes.zero 32).write 0 d.bytes) d.len (fun j => (ps' 1).memref.buffer j.val) =
            .ok sig ∧
          (taInvokeCommandEntryPoint h' taSuperRelayCmdSignMessage pt' ps' s').written =
            .signatureResult ⟨(Bytes.zero 64).write 0 sig.bytes, sig.len, 0⟩ := by
  intro s
  have hi : s.Inv := (taCreateEntryPoint_inv now).run pre
  obtain ⟨d, x, y, hd, -, -, -, hslot, hlt⟩ := generateKey_publish hres
  refine ⟨d, hd, fun post h' pt' ps' hf hsign => ?_⟩
  have hpriv := slot_run_of_touch (fun e => (e.privateKey, e.privateKeyLen)) (fun _ _ => rfl)
    (hi.step _) hlt post
  rw [hslot] at hpriv
  obtain ⟨hkey, hlen⟩ := Prod.mk.inj hpriv
  have hw := ((hi.step _).run post).slot_wf_of_lt (findKeyIndex_lt hf)
  rw [invoke_signMessage] at hsign ⊢
  obtain ⟨i, hi₁, hok, hsout⟩ := cmdSignMessage_ok hsign
  rw [hf] at hi₁
  cases hi₁
  rw [hw.signByKeyType] at hok hsout
  obtain ⟨sig, hsig, hr⟩ := signMessageEcdsa_ok hok
  refine ⟨sig, ?_, by rw [hsout, hr]; rfl⟩
  rw [hkey, hlen] at hsig
  exact hsig

theorem sign_uses_generated_key_first :
    (taInvokeCommandEntryPoint (Host.filled 0) taSuperRelayCmdGenerateKey generateKeyParamTypes
      (generateKeyParams (callerBytes [65]) 1 srKeyTypeEcdsaSecp256k1)
      (run (taCreateEntryPoint 0) [])).res = teeSuccess ∧
    ∃ d : AttrBuffer 32, (Host.filled 0).getObjectBufferAttribute .privateValue = .ok d ∧
      ∀ (post : List Event) (h' : Host) (pt' : UInt32) (ps' : Params),
        findKeyIndex (run (step (run (taCreateEntryPoint 0) [])
            (generateKeyRequest (Host.filled 0) (callerBytes [65]) 1 srKeyTypeEcdsaSecp256k1)) post)
          (ps' 0).memref.buffer = some (run (taCreateEntryPoint 0) []).keyCount.toNat →
        (taInvokeCommandEntryPoint h' taSuperRelayCmdSignMessage pt' ps'
          (run (step (run (taCreateEntryPoint 0) [])
            (generateKeyRequest (Host.filled 0) (callerBytes [65]) 1 srKeyTypeEcdsaSecp256k1))
            post)).res = teeSuccess →
        ∃ sig : AttrBuffer 64,
          h'.asymmetricSignDigest ((Bytes.zero 32).write 0 d.bytes) d.len (fun j => (ps' 1).memref.buffer j.val) =
            .ok sig ∧
          (taInvokeCommandEntryPoint h' taSuperRelayCmdSignMessage pt' ps'
            (run (step (run (taCreateEntryPoint 0) [])
              (generateKeyRequest (Host.filled 0) (callerBytes [65]) 1 srKeyTypeEcdsaSecp256k1))
              post)).written =
            .signatureResult ⟨(Bytes.zero 64).write 0 sig.bytes, sig.len, 0⟩ :=
  ⟨by decide, sign_uses_generated_key 0 [] _ _ _ (by decide)⟩

end TA
end SuperRelay
