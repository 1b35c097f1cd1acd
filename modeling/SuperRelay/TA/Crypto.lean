import SuperRelay.TA.State

/-!
# SuperRelay TA: key generation, address derivation and signing

The three cryptographic helpers of `super_relay_ta.c`, each a sequence of host
calls with an early exit at the first failure.

**Generation.**  `generateSecp256k1Keypair` fills a slot in place: the private
value into `private_key`, the coordinates `X` and `Y` into `public_key` at
offsets 0 and 32, each left-aligned as the host hands it back, then the
address.  A failure part way leaves the slot as far as it got.

**Address.**  `deriveEthereumAddress` keeps bytes 12..31 of the digest of the
64-byte public key (`addressOfDigest`), or writes twenty zero bytes when the
digest fails (`deriveEthereumAddress_of_ok`, `deriveEthereumAddress_of_error`).

**Signing.**  `signMessageEcdsa` passes the stored private value to the host
and packages the signature with a recovery id of 0.

**Results.**
* `generateSecp256k1Keypair_ok`: a successful generation got all three
  attributes from the host and left exactly `keypairEntry`.
* `signMessageEcdsa_ok`: a successful signing got the signature from the host,
  over the stored private value, and packaged it.
* `signMessageEcdsa_congr`: signing depends on the private key only through the
  host's answers to the two calls that receive it.
-/

namespace SuperRelay
namespace TA

/-- The function `derive_ethereum_address`. -/
def deriveEthereumAddress (h : Host) (publicKey : Bytes 64) : Bytes 20 :=
  match h.digestDoFinal publicKey with
  | .error _ => Bytes.zero 20
  | .ok hash => fun j => hash ⟨j.val + 12, by omega⟩

/-- Bytes 12..31 of a digest: the documented rule for an Ethereum address. -/
def addressOfDigest (hash : Bytes 32) : Bytes 20 := fun j => hash ⟨j.val + 12, by omega⟩

/-- When the digest succeeds, the address is bytes 12..31 of it. -/
theorem deriveEthereumAddress_of_ok {h : Host} {publicKey : Bytes 64} {hash : Bytes 32}
    (hd : h.digestDoFinal publicKey = .ok hash) :
    deriveEthereumAddress h publicKey = addressOfDigest hash := by
  rw [deriveEthereumAddress, hd]
  rfl

/-- When the digest fails, the address is twenty zero bytes. -/
theorem deriveEthereumAddress_of_error {h : Host} {publicKey : Bytes 64} {err : ProviderError}
    (hd : h.digestDoFinal publicKey = .error err) :
    deriveEthereumAddress h publicKey = Bytes.zero 20 := by
  rw [deriveEthereumAddress, hd]

/-- The function `generate_secp256k1_keypair`: the return code and the slot it
leaves. -/
def generateSecp256k1Keypair (h : Host) (e : SrKeyEntry) : TEEResult × SrKeyEntry :=
  match h.allocateTransientObject with
  | .error err => (err.code, e)
  | .ok () =>
  match h.generateKey with
  | .error err => (err.code, e)
  | .ok () =>
  match h.getObjectBufferAttribute .privateValue with
  | .error err => (err.code, e)
  | .ok d =>
    let e := { e with privateKey := e.privateKey.write 0 d.bytes, privateKeyLen := d.len }
    match h.getObjectBufferAttribute .publicValueX with
    | .error err => (err.code, e)
    | .ok x =>
      let e := { e with publicKey := e.publicKey.write 0 x.bytes }
      match h.getObjectBufferAttribute .publicValueY with
      | .error err => (err.code, e)
      | .ok y =>
        let e := { e with publicKey := e.publicKey.write 32 y.bytes,
                          publicKeyLen := x.len + y.len }
        (teeSuccess,
          { e with info := { e.info with
              ethereumAddress := deriveEthereumAddress h e.publicKey } })

/-- The function `sign_message_ecdsa`: the return code and the result structure
it leaves. -/
def signMessageEcdsa (h : Host) (e : SrKeyEntry) (messageHash : Bytes 32)
    (r : SrSignatureResult) : TEEResult × SrSignatureResult :=
  match h.allocateTransientObject with
  | .error err => (err.code, r)
  | .ok () =>
  match h.populateTransientObject e.privateKey e.privateKeyLen with
  | .error err => (err.code, r)
  | .ok () =>
  match h.allocateOperation with
  | .error err => (err.code, r)
  | .ok () =>
  match h.setOperationKey with
  | .error err => (err.code, r)
  | .ok () =>
  match h.asymmetricSignDigest e.privateKey e.privateKeyLen messageHash with
  | .error err => (err.code, r)
  | .ok sig =>
    (teeSuccess,
      { r with signature := r.signature.write 0 sig.bytes, signatureLen := sig.len,
               recoveryId := 0 })

/-- The slot a successful `generate_secp256k1_keypair` leaves, for the private
value `d` and the coordinates `x` and `y` the host handed back. -/
def keypairEntry (h : Host) (e : SrKeyEntry) (d x y : AttrBuffer 32) : SrKeyEntry :=
  let pk := (e.publicKey.write 0 x.bytes).write 32 y.bytes
  { e with privateKey := e.privateKey.write 0 d.bytes, privateKeyLen := d.len,
           publicKey := pk, publicKeyLen := x.len + y.len,
           info := { e.info with ethereumAddress := deriveEthereumAddress h pk } }

theorem generateSecp256k1Keypair_ok {h : Host} {e : SrKeyEntry}
    (hres : (generateSecp256k1Keypair h e).1 = teeSuccess) :
    ∃ d x y, h.getObjectBufferAttribute .privateValue = .ok d ∧
      h.getObjectBufferAttribute .publicValueX = .ok x ∧
      h.getObjectBufferAttribute .publicValueY = .ok y ∧
      (generateSecp256k1Keypair h e).2 = keypairEntry h e d x y := by
  unfold generateSecp256k1Keypair at hres ⊢
  split at hres
  · exact absurd hres (ProviderError.ne_success _)
  split at hres
  · exact absurd hres (ProviderError.ne_success _)
  split at hres
  · exact absurd hres (ProviderError.ne_success _)
  rename_i d hd
  split at hres
  · exact absurd hres (ProviderError.ne_success _)
  rename_i x hx
  split at hres
  · exact absurd hres (ProviderError.ne_success _)
  rename_i y hy
  exact ⟨d, x, y, hd, hx, hy, rfl⟩

theorem signMessageEcdsa_ok {h : Host} {e : SrKeyEntry} {m : Bytes 32} {r : SrSignatureResult}
    (hres : (signMessageEcdsa h e m r).1 = teeSuccess) :
    ∃ sig, h.asymmetricSignDigest e.privateKey e.privateKeyLen m = .ok sig ∧
      (signMessageEcdsa h e m r).2 =
        { r with signature := r.signature.write 0 sig.bytes, signatureLen := sig.len,
                 recoveryId := 0 } := by
  unfold signMessageEcdsa at hres ⊢
  split at hres
  · exact absurd hres (ProviderError.ne_success _)
  split at hres
  · exact absurd hres (ProviderError.ne_success _)
  split at hres
  · exact absurd hres (ProviderError.ne_success _)
  split at hres
  · exact absurd hres (ProviderError.ne_success _)
  split at hres
  · exact absurd hres (ProviderError.ne_success _)
  rename_i sig hsig
  exact ⟨sig, hsig, rfl⟩

/-- The host's answers to the two calls of `sign_message_ecdsa` that receive the
stored private key. -/
def keyResponses (h : Host) (e : SrKeyEntry) (messageHash : Bytes 32) :
    Except ProviderError Unit × Except ProviderError (AttrBuffer 64) :=
  (h.populateTransientObject e.privateKey e.privateKeyLen,
    h.asymmetricSignDigest e.privateKey e.privateKeyLen messageHash)

theorem signMessageEcdsa_congr {h : Host} {e₁ e₂ : SrKeyEntry} {m : Bytes 32}
    (r : SrSignatureResult)
    (hk : keyResponses h e₁ m = keyResponses h e₂ m) :
    signMessageEcdsa h e₁ m r = signMessageEcdsa h e₂ m r := by
  obtain ⟨hp, hs⟩ := Prod.mk.inj hk
  simp only [signMessageEcdsa, hp, hs]

end TA
end SuperRelay
