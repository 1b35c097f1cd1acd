import SuperRelay.TA.StepCases

/-!
# SuperRelay TA: the invariant of the key store

**Invariant.**  `TAState.Inv` says that at most `SR_MAX_KEYS` slots are live,
that `g_keys` mirrors the metadata of the live slots and is zero past them,
and that every live slot is well formed (`SrKeyEntry.Wf`): its identifier is the
zero-padded C string of fewer than 64 caller bytes, copied into its metadata, it is a secp256k1 key, it is
active, and its key lengths fit their arrays.

**Proof.**  A failed call changes only the staging slot, which the invariant
does not mention; each successful shape (`Effect`) keeps it; so every call
does (`TAState.Inv.step`), and so does every run from `TA_CreateEntryPoint`.

**Results.**
* `TAState.Inv.run`, `taCreateEntryPoint_inv`: every state a run from
  `TA_CreateEntryPoint` reaches satisfies the invariant.
* `findKeyIndex_lt`: a lookup only ever resolves to a live slot, so the
  access-denied and Ed25519 branches of `cmd_sign_message` are dead.
-/

namespace SuperRelay
namespace TA

@[simp] theorem srMaxKeys_toNat : srMaxKeys.toNat = 16 := rfl
@[simp] theorem srMaxKeyIdSize_toNat : srMaxKeyIdSize.toNat = 64 := rfl

/-- What every live slot satisfies. -/
structure SrKeyEntry.Wf (e : SrKeyEntry) : Prop where
  info_keyId : e.info.keyId = e.keyId
  keyId_nul : ∃ j : Fin 64, e.keyId j = 0
  /-- The identifier is one `cmd_generate_key` stores for fewer than 64 bytes. -/
  keyId_stored : ∃ (buf : Nat → UInt8) (n : Nat), n < 64 ∧ e.keyId = storedKeyId buf n
  keyType : e.keyType = srKeyTypeEcdsaSecp256k1
  info_keyType : e.info.keyType = srKeyTypeEcdsaSecp256k1
  status : e.info.status = srKeyStatusActive
  privateKeyLen_le : e.privateKeyLen.toNat ≤ 32
  publicKeyLen_le : e.publicKeyLen.toNat ≤ 64

/-- The invariant of the globals. -/
structure TAState.Inv (s : TAState) : Prop where
  keyCount_le : s.keyCount.toNat ≤ 16
  keys_live : ∀ j : Fin 16, j.val < s.keyCount.toNat → s.keys j = (s.keyStorage j).info
  keys_free : ∀ j : Fin 16, s.keyCount.toNat ≤ j.val → s.keys j = SrKeyInfo.zero
  slot_wf : ∀ j : Fin 16, j.val < s.keyCount.toNat → (s.keyStorage j).Wf

theorem SrKeyEntry.Wf.touch {e : SrKeyEntry} (he : e.Wf) (now : UInt32) :
    ({ e with info := e.info.touch now } : SrKeyEntry).Wf :=
  ⟨he.info_keyId, he.keyId_nul, he.keyId_stored, he.keyType, he.info_keyType, he.status,
    he.privateKeyLen_le, he.publicKeyLen_le⟩

/-- A well-formed slot signs through the ECDSA branch. -/
theorem SrKeyEntry.Wf.signByKeyType {e : SrKeyEntry} (he : e.Wf) (h : Host) (m : Bytes 32) :
    TA.signByKeyType h e m = signMessageEcdsa h e m SrSignatureResult.zero := by
  rw [TA.signByKeyType, if_pos he.keyType]

/-- The identifier `cmd_generate_key` stores is a NUL-terminated C string that
the copy into the metadata reproduces. -/
theorem storedKeyId_copy (buf : Nat → UInt8) {n : Nat} (hn : n < 64) :
    strncpy (Bytes.zero 64) (storedKeyId buf n).view 63 = storedKeyId buf n ∧
      storedKeyId buf n ⟨63, by omega⟩ = 0 := by
  have hl : (cString buf n).length ≤ 63 := (cString_length_le buf n).trans (by omega)
  rw [storedKeyId_eq]
  refine ⟨strncpy_ofList _ _ hl (cString_ne_zero buf n), ?_⟩
  show (cString buf n).getD 63 0 = 0
  rw [cString_getD, if_neg fun h => absurd h.1 (by omega)]

theorem generatedEntry_wf (h : Host) (ps : Params) (d x y : AttrBuffer 32)
    (hn : (ps 0).memref.size < srMaxKeyIdSize) :
    (generatedEntry h ps d x y).Wf := by
  have hn' : (ps 0).memref.size.toNat < 64 := hn
  obtain ⟨hcopy, hnul⟩ := storedKeyId_copy (ps 0).memref.buffer hn'
  refine ⟨hcopy, ⟨_, hnul⟩, ⟨_, _, hn', rfl⟩, rfl, rfl, rfl, ?_, ?_⟩
  · show d.len.toNat ≤ 32
    rw [d.len_toNat (by decide)]
    exact d.length_le
  · show (x.len + y.len).toNat ≤ 64
    rw [UInt32.toNat_add, x.len_toNat (by decide), y.len_toNat (by decide), UInt32.size]
    have := x.length_le
    have := y.length_le
    omega

theorem findKeyIndex_lt {s : TAState} {buf : Nat → UInt8} {i : Nat}
    (hi : findKeyIndex s buf = some i) : i < s.keyCount.toNat :=
  List.mem_range.1 (List.mem_of_find?_eq_some hi)

namespace TAState.Inv

variable {s : TAState}

theorem of_eqOffStaging {s' : TAState} (hs : EqOffStaging s s') (hi : s.Inv) : s'.Inv := by
  have hc : s'.keyCount.toNat = s.keyCount.toNat := by rw [hs.keyCount]
  refine ⟨hc ▸ hi.keyCount_le, fun j hj => ?_, fun j hj => ?_, fun j hj => ?_⟩
  · rw [hs.keys, hs.keyStorage j (by omega)]
    exact hi.keys_live j (by omega)
  · rw [hs.keys]
    exact hi.keys_free j (by omega)
  · rw [hs.keyStorage j (by omega)]
    exact hi.slot_wf j (by omega)

theorem publish {e : SrKeyEntry} (hi : s.Inv) (hc : s.keyCount < srMaxKeys) (he : e.Wf) :
    (s.publish e).Inv := by
  have hc' : s.keyCount.toNat < 16 := hc
  have hk : (s.keyCount + 1).toNat = s.keyCount.toNat + 1 := by
    rw [UInt32.toNat_add]
    exact Nat.mod_eq_of_lt (by simp [UInt32.size]; omega)
  refine ⟨by simp only [TAState.publish, hk]; omega, fun j hj => ?_, fun j hj => ?_, fun j hj => ?_⟩
  all_goals simp only [TAState.publish, hk, arraySet_apply] at hj ⊢
  · split_ifs with h
    · rfl
    · exact hi.keys_live j (by omega)
  · rw [if_neg (by omega)]
    exact hi.keys_free j (by omega)
  · split_ifs with h
    · exact he
    · exact hi.slot_wf j (by omega)

theorem touchSlot {i : Nat} (hi : s.Inv) (hl : i < s.keyCount.toNat) (now : UInt32) :
    (s.touchSlot i now).Inv := by
  refine ⟨hi.keyCount_le, fun j hj => ?_, fun j hj => ?_, fun j hj => ?_⟩
  all_goals simp only [TAState.touchSlot, arraySet_apply] at hj ⊢
  · split_ifs with h
    · rfl
    · exact hi.keys_live j hj
  · rw [if_neg (by omega)]
    exact hi.keys_free j hj
  · split_ifs with h
    · subst h
      simpa using (hi.slot_wf j hj).touch now
    · exact hi.slot_wf j hj

theorem step (hi : s.Inv) (ev : Event) : (step s ev).Inv := by
  refine of_eqOffStaging (step_effect s ev) ?_
  cases ev with
  | openSession => exact ⟨hi.keyCount_le, hi.keys_live, hi.keys_free, hi.slot_wf⟩
  | closeSession =>
      simp only [effect, Effect.apply, taCloseSessionEntryPoint]
      split_ifs
      · exact ⟨hi.keyCount_le, hi.keys_live, hi.keys_free, hi.slot_wf⟩
      · exact hi
  | invoke h c pt ps =>
      simp only [effect]
      split_ifs with hres hg
      · exact hi
      · subst hg
        rw [invoke_generateKey] at hres ⊢
        obtain ⟨hc, -, -, hn, -, d, x, y, -, -, -, he⟩ := cmdGenerateKey_ok (not_not.1 hres)
        rw [he, publish_slot_self s _ hc]
        exact hi.publish hc (generatedEntry_wf h ps d x y hn)
      · split
        · exact hi.touchSlot (findKeyIndex_lt (by assumption)) _
        · exact hi
      · exact ⟨hi.keyCount_le, hi.keys_live, hi.keys_free, hi.slot_wf⟩
      · exact hi

theorem run (hi : s.Inv) (evs : List Event) : (TA.run s evs).Inv := by
  induction evs generalizing s with
  | nil => exact hi
  | cons ev evs ih => exact ih (hi.step ev)

end TAState.Inv

theorem taCreateEntryPoint_inv (now : UInt32) : (taCreateEntryPoint now).Inv :=
  ⟨Nat.zero_le _, fun _ hj => absurd hj (Nat.not_lt_zero _), fun _ _ => rfl,
    fun _ hj => absurd hj (Nat.not_lt_zero _)⟩

end TA
end SuperRelay
