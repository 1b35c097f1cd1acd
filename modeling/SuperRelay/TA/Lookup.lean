import SuperRelay.TA.History

/-!
# SuperRelay TA: key lookup

`find_key_index` compares each live identifier with the caller's buffer under
`strncmp(.., .., SR_MAX_KEY_ID_SIZE)`, reading the buffer itself and not the
C string of its declared size, while `cmd_generate_key` stores that C string
(`strncpy` of `key_id_len` bytes and a NUL at `key_id_len`).

**Results.**
* `cString_matches_self`: the stored identifier matches the buffer it came
  from when the buffer has a NUL at or before its declared size.
* `slot_publicPart_run`: the identifier and public material of a live slot
  never change.
* `live_key_persists`: a live key stays live, and only its `last_used_time`
  and `usage_count` ever change.
* `findKeyIndex_generated`: a later lookup with the same terminated buffer
  resolves to the slot the generate call created.
* `findKeyIndex_exact`: for a buffer with a NUL within its declared size the
  lookup is exact: it resolves to the first live slot storing the C string of
  the declared bytes, and two such buffers that agree on those bytes resolve
  alike.
* `run_keyIds_distinct`: when every generate call hands over a terminated
  buffer, the live identifiers are pairwise distinct.
* `live_keys_sign`: under the same condition every live key can be looked up
  by its own identifier and signs.
* `generateKey_duplicates_unterminated_id`, `findKeyIndex_reads_past_size`:
  without a NUL in the buffer the two readings part; the same identifier can
  be created twice, and two buffers that agree on their declared bytes can
  resolve differently.
-/

namespace SuperRelay
namespace TA

theorem ofList_view_of_lt {l : List UInt8} {j : Nat} (hj : j < 64) :
    (Bytes.ofList l : Bytes 64).view j = l.getD j 0 :=
  Bytes.view_val (Bytes.ofList l) ⟨j, hj⟩

/-- The identifier stored for `n` bytes of `buf` matches `buf` under
`strncmp` when the buffer has a NUL at or before index `n`. -/
theorem cString_matches_self {buf : Nat → UInt8} {n : Nat} (hn : n < 64)
    (hterm : ∃ k ≤ n, buf k = 0) :
    strncmp (Bytes.ofList (cString buf n) : Bytes 64).view buf 64 = 0 := by
  rw [strncmp_eq_zero_iff]
  intro j hj hlive
  have hlead : ∀ k < j, k < n ∧ buf k ≠ 0 := fun k hk => by
    have := hlive k hk
    rw [ofList_view_of_lt (by omega), cString_getD] at this
    split_ifs at this with hc
    · exact ⟨hc.1, hc.2 k le_rfl⟩
    · exact absurd rfl this
  rw [ofList_view_of_lt hj, cString_getD]
  split_ifs with hc
  · rfl
  · obtain ⟨k, hk, hz⟩ := hterm
    rcases Nat.lt_or_ge k j with hkj | hkj
    · exact absurd hz (hlead k hkj).2
    · by_cases hjn : j < n
      · push_neg at hc
        obtain ⟨k', hk', hz'⟩ := hc hjn
        rcases Nat.lt_or_eq_of_le hk' with hk' | rfl
        · exact absurd hz' (hlead k' hk').2
        · exact hz'.symm
      · have hjk : j = k := by
          rcases Nat.eq_zero_or_pos j with rfl | hpos
          · omega
          · have := (hlead (j - 1) (by omega)).1
            omega
        exact hjk ▸ hz.symm

/-- Under `strncmp(s1, s2, n) == 0` the two strings agree at every index up to
which `s2` has no NUL. -/
theorem strncmp_agree_of_right {s1 s2 : Nat → UInt8} {n : Nat} (h : strncmp s1 s2 n = 0) :
    ∀ j < n, (∀ k ≤ j, s2 k ≠ 0) → s1 j = s2 j := by
  have hz := (strncmp_eq_zero_iff s1 s2 n).1 h
  intro j
  induction j using Nat.strong_induction_on with
  | _ j ih =>
    intro hj hb
    refine hz j hj fun k hk => ?_
    rw [ih k hk (by omega) fun k' hk' => hb k' (by omega)]
    exact hb k hk.le

/-- A stored identifier matches a buffer with a NUL at or before its declared
size `n` exactly when it is the identifier that buffer is stored as. -/
theorem storedKeyId_matches_iff {buf b : Nat → UInt8} {m n : Nat} (hn : n < 64)
    (hterm : ∃ k ≤ n, b k = 0) :
    strncmp (storedKeyId buf m).view b 64 = 0 ↔ storedKeyId buf m = storedKeyId b n := by
  rw [storedKeyId_eq, storedKeyId_eq]
  refine ⟨fun h => funext fun j => ?_, fun h => h ▸ cString_matches_self hn hterm⟩
  have hA : ∀ k < 64, (Bytes.ofList (cString buf m) : Bytes 64).view k =
      if k < m ∧ ∀ k' ≤ k, buf k' ≠ 0 then buf k else 0 := fun k hk => by
    rw [ofList_view_of_lt hk, cString_getD]
  rw [Bytes.ofList_apply, Bytes.ofList_apply, cString_getD, cString_getD]
  by_cases hb : j.val < n ∧ ∀ k ≤ j.val, b k ≠ 0
  · rw [if_pos hb, ← cString_getD, ← ofList_view_of_lt j.isLt]
    exact strncmp_agree_of_right h j j.isLt hb.2
  · rw [if_neg hb, if_neg]
    rintro ⟨hjm, hbuf⟩
    have hA' : ∀ k ≤ j.val, (Bytes.ofList (cString buf m) : Bytes 64).view k = buf k :=
      fun k hk => by rw [hA k (by omega), if_pos ⟨by omega, fun k' hk' => hbuf k' (by omega)⟩]
    have hsame : ∀ k ≤ j.val, buf k = b k := fun k hk =>
      (hA' k hk).symm.trans ((strncmp_eq_zero_iff _ _ _).1 h k (by omega) fun k' hk' => by
        rw [hA' k' (by omega)]
        exact hbuf k' (by omega))
    obtain ⟨k0, hk0, hz⟩ := hterm
    refine hb ⟨Nat.lt_of_not_le fun hnj => hbuf k0 (by omega) ((hsame k0 (by omega)).trans hz),
      fun k hk => ?_⟩
    rw [← hsame k hk]
    exact hbuf k hk

/-- The stored identifier reads only the declared bytes of the buffer. -/
theorem storedKeyId_congr {b b' : Nat → UInt8} {n : Nat} (h : ∀ k < n, b' k = b k) :
    storedKeyId b' n = storedKeyId b n := by
  have hcopy : strncpy (Bytes.zero 64) b' n = strncpy (Bytes.zero 64) b n := funext fun j => by
    by_cases hj : j.val < n
    · have hz : (∃ k < j.val, b' k = 0) ↔ ∃ k < j.val, b k = 0 :=
        exists_congr fun k => and_congr_right fun hk => by rw [h k (by omega)]
      simp only [strncpy, if_pos hj, hz, h j hj]
    · simp only [strncpy, if_neg hj]
  rw [storedKeyId, storedKeyId, hcopy]

/-- The parts of a slot that stay fixed once it is live: the identifier, the
public key with its length, and the address. -/
def SrKeyEntry.publicPart (e : SrKeyEntry) : Bytes 64 × Bytes 64 × UInt32 × Bytes 20 :=
  (e.keyId, e.publicKey, e.publicKeyLen, e.info.ethereumAddress)

/-- A field that a signature's touch leaves alone keeps its value on a live
slot for the rest of the run. -/
theorem slot_run_of_touch {β : Type} (f : SrKeyEntry → β) (hf : ∀ e now, f (e.touch now) = f e)
    {s : TAState} (hi : s.Inv) {j : Nat} (hj : j < s.keyCount.toNat) (evs : List Event) :
    f ((run s evs).slot j) = f (s.slot j) := by
  induction evs generalizing s with
  | nil => rfl
  | cons ev evs ih =>
      rw [run_cons, ih (hi.step ev) (hj.trans_le (keyCount_le_step hi ev)),
        slot_step_live hi ev hj]
      split_ifs
      · exact hf _ _
      · rfl

/-- No call changes the identifier or the public material of a live slot. -/
theorem slot_publicPart_run {s : TAState} (hi : s.Inv) {j : Nat} (hj : j < s.keyCount.toNat)
    (evs : List Event) : ((run s evs).slot j).publicPart = (s.slot j).publicPart :=
  slot_run_of_touch SrKeyEntry.publicPart (fun _ _ => rfl) hi hj evs

/-- Once a key is live it stays live and is never rewritten: for the rest of
any run its slot differs from what it was only in `last_used_time` and
`usage_count`. -/
theorem live_key_persists (now : UInt32) (pre post : List Event) {j : Nat}
    (hj : j < (run (taCreateEntryPoint now) pre).keyCount.toNat) :
    j < (run (taCreateEntryPoint now) (pre ++ post)).keyCount.toNat ∧
    ∃ (t : UInt64) (u : UInt32), (run (taCreateEntryPoint now) (pre ++ post)).slot j =
      { (run (taCreateEntryPoint now) pre).slot j with
        info := { ((run (taCreateEntryPoint now) pre).slot j).info with
          lastUsedTime := t, usageCount := u } } := by
  have hi := (taCreateEntryPoint_inv now).run pre
  have hf := slot_run_of_touch
    (fun e => ({ e with info := { e.info with lastUsedTime := 0, usageCount := 0 } } : SrKeyEntry))
    (fun _ _ => rfl) hi hj post
  rw [run_append]
  exact ⟨hj.trans_le (keyCount_le_run hi post), _, _, congrArg (fun e =>
    ({ e with info := { e.info with
      lastUsedTime := ((run (run (taCreateEntryPoint now) pre) post).slot j).info.lastUsedTime,
      usageCount := ((run (run (taCreateEntryPoint now) pre) post).slot j).info.usageCount } } :
        SrKeyEntry)) hf⟩

theorem live_key_persists_after_sign :
    0 < (run (taCreateEntryPoint 0)
      [generateKeyRequest (Host.filled 0) (callerBytes [65]) 1 srKeyTypeEcdsaSecp256k1]).keyCount.toNat ∧
    0 < (run (taCreateEntryPoint 0)
      ([generateKeyRequest (Host.filled 0) (callerBytes [65]) 1 srKeyTypeEcdsaSecp256k1] ++
        [signMessageRequest (Host.filled 1) (callerBytes [65]) 1 (callerBytes [])])).keyCount.toNat ∧
    ∃ (t : UInt64) (u : UInt32), (run (taCreateEntryPoint 0)
      ([generateKeyRequest (Host.filled 0) (callerBytes [65]) 1 srKeyTypeEcdsaSecp256k1] ++
        [signMessageRequest (Host.filled 1) (callerBytes [65]) 1 (callerBytes [])])).slot 0 =
      { (run (taCreateEntryPoint 0)
          [generateKeyRequest (Host.filled 0) (callerBytes [65]) 1 srKeyTypeEcdsaSecp256k1]).slot 0 with
        info := { ((run (taCreateEntryPoint 0)
          [generateKeyRequest (Host.filled 0) (callerBytes [65]) 1 srKeyTypeEcdsaSecp256k1]).slot 0).info with
            lastUsedTime := t, usageCount := u } } :=
  ⟨by decide, live_key_persists 0 _ _ (by decide)⟩

theorem findKeyIndex_eq_none_iff {s : TAState} {buf : Nat → UInt8} :
    findKeyIndex s buf = none ↔ ∀ j < s.keyCount.toNat, keyIdMatches buf (s.slot j) = false := by
  simp [findKeyIndex]

theorem findKeyIndex_eq_some_iff {s : TAState} {buf : Nat → UInt8} {i : Nat} :
    findKeyIndex s buf = some i ↔
      keyIdMatches buf (s.slot i) ∧ i < s.keyCount.toNat ∧
        ∀ j < i, keyIdMatches buf (s.slot j) = false := by
  simp [findKeyIndex]

/-- Whether a slot matches depends on its identifier alone. -/
theorem keyIdMatches_congr {buf : Nat → UInt8} {e e' : SrKeyEntry} (he : e.keyId = e'.keyId) :
    keyIdMatches buf e = keyIdMatches buf e' := by
  rw [keyIdMatches, keyIdMatches, he]

/-- The slot a generate call fills matches the buffer it came from, when the
buffer has a NUL at or before its declared size. -/
theorem keyIdMatches_generatedEntry {h : Host} {ps : Params} {d x y : AttrBuffer 32}
    (hn : (ps 0).memref.size < srMaxKeyIdSize)
    (hterm : ∃ k ≤ (ps 0).memref.size.toNat, (ps 0).memref.buffer k = 0) :
    keyIdMatches (ps 0).memref.buffer (generatedEntry h ps d x y) = true := by
  have hn' : (ps 0).memref.size.toNat < 64 := hn
  refine decide_eq_true ?_
  rw [show (generatedEntry h ps d x y).keyId = Bytes.ofList (cString _ _) from storedKeyId_eq _ _]
  exact cString_matches_self hn' hterm

/-- A successful generate call publishes, at index `g_key_count`, the slot built
from the host's attributes, and writes that slot's address. -/
theorem generateKey_publish {s : TAState} {h : Host} {pt : UInt32} {ps : Params}
    (hres : (taInvokeCommandEntryPoint h taSuperRelayCmdGenerateKey pt ps s).res = teeSuccess) :
    ∃ d x y, h.getObjectBufferAttribute .privateValue = .ok d ∧
      h.getObjectBufferAttribute .publicValueX = .ok x ∧
      h.getObjectBufferAttribute .publicValueY = .ok y ∧
      (taInvokeCommandEntryPoint h taSuperRelayCmdGenerateKey pt ps s).written =
        .ethereumAddress (generatedEntry h ps d x y).info.ethereumAddress ∧
      (step s (.invoke h taSuperRelayCmdGenerateKey pt ps)).slot s.keyCount.toNat =
        generatedEntry h ps d x y ∧
      s.keyCount.toNat < (step s (.invoke h taSuperRelayCmdGenerateKey pt ps)).keyCount.toNat := by
  rw [invoke_generateKey] at hres ⊢
  obtain ⟨hc, -, -, -, -, d, x, y, hd, hx, hy, hout⟩ := cmdGenerateKey_ok hres
  have hstep : step s (.invoke h taSuperRelayCmdGenerateKey pt ps) =
      s.publish (generatedEntry h ps d x y) := by
    show (cmdGenerateKey h pt ps s).state = _
    rw [hout]
  refine ⟨d, x, y, hd, hx, hy, by rw [hout], by rw [hstep, publish_slot_self s _ hc], ?_⟩
  rw [hstep, publish_keyCount_toNat s _ hc]
  exact Nat.lt_succ_self _

/-- A later lookup with the buffer of a successful generate call, when that
buffer has a NUL at or before its declared size, resolves to the slot the call
created. -/
theorem findKeyIndex_generated {s : TAState} (hi : s.Inv) {h : Host} {pt : UInt32} {ps : Params}
    (hres : (taInvokeCommandEntryPoint h taSuperRelayCmdGenerateKey pt ps s).res = teeSuccess)
    (hterm : ∃ k ≤ (ps 0).memref.size.toNat, (ps 0).memref.buffer k = 0) (evs : List Event) :
    findKeyIndex (run (step s (.invoke h taSuperRelayCmdGenerateKey pt ps)) evs)
      (ps 0).memref.buffer = some s.keyCount.toNat := by
  obtain ⟨d, x, y, -, -, -, -, hslot, hlt⟩ := generateKey_publish hres
  rw [invoke_generateKey] at hres
  obtain ⟨-, -, -, hn, hf, -⟩ := cmdGenerateKey_ok hres
  have hi' := hi.step (.invoke h taSuperRelayCmdGenerateKey pt ps)
  rw [findKeyIndex_eq_some_iff]
  refine ⟨?_, hlt.trans_le (keyCount_le_run hi' evs), fun j hj => ?_⟩
  · rw [keyIdMatches_congr (slot_run_of_touch SrKeyEntry.keyId (fun _ _ => rfl) hi' hlt evs), hslot]
    exact keyIdMatches_generatedEntry hn hterm
  · have hold : ((run (step s (.invoke h taSuperRelayCmdGenerateKey pt ps)) evs).slot j).keyId =
        (s.slot j).keyId := slot_run_of_touch SrKeyEntry.keyId (fun _ _ => rfl) hi hj (_ :: evs)
    rw [keyIdMatches_congr hold]
    exact findKeyIndex_eq_none_iff.1 hf j hj

/-- In a state satisfying the invariant, a buffer with a NUL at or before its
declared size `n` matches a live slot exactly when the slot holds the
identifier that buffer is stored as. -/
theorem keyIdMatches_iff_stored {s : TAState} (hi : s.Inv) {b : Nat → UInt8} {n : Nat}
    (hn : n < 64) (hterm : ∃ k ≤ n, b k = 0) {i : Nat} (hlt : i < s.keyCount.toNat) :
    keyIdMatches b (s.slot i) = true ↔ (s.slot i).keyId = storedKeyId b n := by
  obtain ⟨buf, m, -, hk⟩ := (hi.slot_wf_of_lt hlt).keyId_stored
  rw [keyIdMatches, decide_eq_true_iff, hk]
  exact storedKeyId_matches_iff hn hterm

theorem findKeyIndex_eq_some_iff_stored {s : TAState} (hi : s.Inv) {b : Nat → UInt8} {n : Nat}
    (hn : n < 64) (hterm : ∃ k ≤ n, b k = 0) (i : Nat) :
    findKeyIndex s b = some i ↔
      i < s.keyCount.toNat ∧ (s.slot i).keyId = storedKeyId b n ∧
        ∀ j < i, (s.slot j).keyId ≠ storedKeyId b n := by
  have hm := fun {j} (hj : j < s.keyCount.toNat) => keyIdMatches_iff_stored hi hn hterm hj
  rw [findKeyIndex_eq_some_iff]
  constructor
  · rintro ⟨hmi, hlt, hbefore⟩
    refine ⟨hlt, (hm hlt).1 hmi, fun j hj heq => ?_⟩
    have := (hm (hj.trans hlt)).2 heq
    rw [hbefore j hj] at this
    exact Bool.false_ne_true this
  · rintro ⟨hlt, hk, hbefore⟩
    exact ⟨(hm hlt).2 hk, hlt, fun j hj =>
      Bool.eq_false_iff.2 fun hmj => hbefore j hj ((hm (hj.trans hlt)).1 hmj)⟩

/-- For a buffer with a NUL at or before its declared size `n`, a lookup in
any reachable state resolves to the first live slot whose identifier is the C
string of the buffer's first `n` bytes, and two such buffers that agree on
those bytes resolve alike. -/
theorem findKeyIndex_exact (now : UInt32) (evs : List Event) {b : Nat → UInt8} {n : Nat}
    (hn : n < 64) (hterm : ∃ k ≤ n, b k = 0) :
    (∀ i, findKeyIndex (run (taCreateEntryPoint now) evs) b = some i ↔
      i < (run (taCreateEntryPoint now) evs).keyCount.toNat ∧
      ((run (taCreateEntryPoint now) evs).slot i).keyId = storedKeyId b n ∧
      ∀ j < i, ((run (taCreateEntryPoint now) evs).slot j).keyId ≠ storedKeyId b n) ∧
    ∀ b' : Nat → UInt8, (∀ k < n, b' k = b k) → (∃ k ≤ n, b' k = 0) →
      findKeyIndex (run (taCreateEntryPoint now) evs) b' =
        findKeyIndex (run (taCreateEntryPoint now) evs) b := by
  have hi := (taCreateEntryPoint_inv now).run evs
  refine ⟨findKeyIndex_eq_some_iff_stored hi hn hterm, fun b' hb' hterm' => Option.ext fun i => ?_⟩
  rw [Option.mem_def, Option.mem_def, findKeyIndex_eq_some_iff_stored hi hn hterm',
    findKeyIndex_eq_some_iff_stored hi hn hterm, storedKeyId_congr hb']

theorem findKeyIndex_exact_sample :
    findKeyIndex (run (taCreateEntryPoint 0) sampleSession) (callerBytes [66]) = some 1 ∧
    (∀ i, findKeyIndex (run (taCreateEntryPoint 0) sampleSession) (callerBytes [66]) = some i ↔
      i < (run (taCreateEntryPoint 0) sampleSession).keyCount.toNat ∧
      ((run (taCreateEntryPoint 0) sampleSession).slot i).keyId = storedKeyId (callerBytes [66]) 1 ∧
      ∀ j < i, ((run (taCreateEntryPoint 0) sampleSession).slot j).keyId ≠
        storedKeyId (callerBytes [66]) 1) ∧
    ∀ b' : Nat → UInt8, (∀ k < 1, b' k = callerBytes [66] k) → (∃ k ≤ 1, b' k = 0) →
      findKeyIndex (run (taCreateEntryPoint 0) sampleSession) b' =
        findKeyIndex (run (taCreateEntryPoint 0) sampleSession) (callerBytes [66]) :=
  ⟨by decide, findKeyIndex_exact 0 sampleSession (by decide) ⟨1, le_rfl, rfl⟩⟩

/-- The caller hands `generate_key` an identifier buffer with a NUL at or
before its declared size. -/
def Event.TerminatedId : Event → Prop
  | .invoke _ c _ ps =>
      c = taSuperRelayCmdGenerateKey → ∃ k ≤ (ps 0).memref.size.toNat, (ps 0).memref.buffer k = 0
  | _ => True

instance (ev : Event) : Decidable ev.TerminatedId :=
  match ev with
  | .invoke _ c _ ps =>
      if hc : c = taSuperRelayCmdGenerateKey then
        decidable_of_iff (∃ k ≤ (ps 0).memref.size.toNat, (ps 0).memref.buffer k = 0)
          ⟨fun h _ => h, fun h => h hc⟩
      else isTrue fun h => absurd h hc
  | .openSession => isTrue trivial
  | .closeSession => isTrue trivial

/-- The identifiers of the live slots, in order. -/
def Store.keyIds (st : Store) : List (Bytes 64) := st.records.map SrKeyEntry.keyId

theorem Store.keyIds_touch (st : Store) (i : Nat) (now : UInt32) :
    (st.apply (.signed i now)).keyIds = st.keyIds := by
  apply List.ext_getElem?
  intro j
  simp only [Store.keyIds, Store.apply, List.getElem?_map, List.getElem?_modify]
  cases st.records[j]? <;> split_ifs <;> rfl

/-- One call keeps the live identifiers pairwise distinct, provided a
`generate_key` call comes with a terminated buffer: the generated identifier
matches that buffer, and the lookup found no live slot matching it. -/
theorem keyIds_nodup_step {s : TAState} (hi : s.Inv) (hd : s.store.keyIds.Nodup) {ev : Event}
    (ht : ev.TerminatedId) : (step s ev).store.keyIds.Nodup := by
  rw [store_step hi]
  cases he : effect s ev with
  | generated e =>
      obtain ⟨h, pt, ps, d, x, y, rfl, -, hn, rfl, hout⟩ := effect_generated he
      have hres : (cmdGenerateKey h pt ps s).res = teeSuccess := by
        rw [← invoke_generateKey, hout]
      have hfresh := findKeyIndex_eq_none_iff.1 (cmdGenerateKey_ok hres).2.2.2.2.1
      have hnew := keyIdMatches_generatedEntry (h := h) (d := d) (x := x) (y := y) hn (ht rfl)
      simp only [Store.keyIds, Store.apply, List.map_append, List.map_singleton,
        List.nodup_append, List.nodup_singleton, List.disjoint_singleton]
      refine ⟨hd, trivial, ?_⟩
      simp only [TAState.store, List.map_map, List.mem_map, List.mem_range, Function.comp,
        not_exists, not_and]
      intro j hj heq
      rw [keyIdMatches_congr heq.symm, hfresh j hj] at hnew
      exact Bool.false_ne_true hnew
  | signed i now => rwa [Store.keyIds_touch]
  | none | openSession | closeSession | counted => exact hd

theorem keyIds_nodup_run {s : TAState} (hi : s.Inv) (hd : s.store.keyIds.Nodup) {evs : List Event}
    (ht : ∀ ev ∈ evs, ev.TerminatedId) : (run s evs).store.keyIds.Nodup := by
  induction evs generalizing s with
  | nil => exact hd
  | cons ev evs ih =>
      exact ih (hi.step ev) (keyIds_nodup_step hi hd (ht ev (.head _)))
        fun e he => ht e (.tail _ he)

/-- When every `generate_key` of a run comes with a terminated identifier
buffer, the identifiers of the live slots are pairwise distinct. -/
theorem run_keyIds_distinct (now : UInt32) (evs : List Event)
    (ht : ∀ ev ∈ evs, ev.TerminatedId) :
    (run (taCreateEntryPoint now) evs).store.keyIds.Nodup :=
  keyIds_nodup_run (taCreateEntryPoint_inv now) List.nodup_nil ht

theorem run_keyIds_distinct_two :
    (run (taCreateEntryPoint 0)
      [generateKeyRequest (Host.filled 0) (callerBytes [65]) 1 srKeyTypeEcdsaSecp256k1,
       generateKeyRequest (Host.filled 0) (callerBytes [66]) 1 srKeyTypeEcdsaSecp256k1]).store.keyIds.Nodup :=
  run_keyIds_distinct 0 _ (by decide)

/-- Storing a stored identifier again, read as a 63-byte buffer, gives it back. -/
theorem storedKeyId_restore (buf : Nat → UInt8) {m : Nat} (hm : m < 64) :
    storedKeyId (storedKeyId buf m).view 63 = storedKeyId buf m := by
  obtain ⟨hcopy, hnul⟩ := storedKeyId_copy buf hm
  funext j
  rw [storedKeyId, hcopy, arraySet_apply]
  split_ifs with hj
  · rw [← hnul]
    exact congrArg _ (Fin.ext hj).symm
  · rfl

/-- With distinct live identifiers, two live slots holding the same identifier
are the same slot. -/
theorem keyId_inj_of_nodup {s : TAState} (hd : s.store.keyIds.Nodup) {i j : Nat}
    (hi : i < s.keyCount.toNat) (hj : j < s.keyCount.toNat)
    (h : (s.slot i).keyId = (s.slot j).keyId) : i = j := by
  have hlen : s.store.keyIds.length = s.keyCount.toNat := by
    simp [Store.keyIds, TAState.store]
  have hget : ∀ k (hk : k < s.store.keyIds.length),
      s.store.keyIds.get ⟨k, hk⟩ = (s.slot k).keyId := fun k hk => by
    simp [Store.keyIds, TAState.store]
  have hinj := hd.get_inj_iff (i := ⟨i, hlen ▸ hi⟩) (j := ⟨j, hlen ▸ hj⟩)
  rw [hget, hget] at hinj
  exact congrArg Fin.val (hinj.1 h)

/-- When every `generate_key` of a run comes with a terminated identifier
buffer, every live key stays usable: its stored identifier, handed back as a
buffer of declared size 63, resolves to that slot alone, and a well-formed
`sign_message` with it succeeds on a succeeding host and touches exactly that
slot. -/
theorem live_keys_sign (now : UInt32) (evs : List Event) (ht : ∀ ev ∈ evs, ev.TerminatedId)
    {i : Nat} (hlt : i < (run (taCreateEntryPoint now) evs).keyCount.toNat) (clock : UInt32)
    (d x y : AttrBuffer 32) (digest : Bytes 64 → Bytes 32) (sig : AttrBuffer 64)
    (messageHash : Nat → UInt8) :
    findKeyIndex (run (taCreateEntryPoint now) evs)
        ((run (taCreateEntryPoint now) evs).slot i).keyId.view = some i ∧
      taInvokeCommandEntryPoint (Host.succeeding clock d x y digest sig) taSuperRelayCmdSignMessage
          signMessageParamTypes
          (signMessageParams ((run (taCreateEntryPoint now) evs).slot i).keyId.view 63 messageHash)
          (run (taCreateEntryPoint now) evs) =
        ⟨teeSuccess, .signatureResult ⟨(Bytes.zero 64).write 0 sig.bytes, sig.len, 0⟩,
          (run (taCreateEntryPoint now) evs).touchSlot i clock⟩ := by
  have hi := (taCreateEntryPoint_inv now).run evs
  have hd := keyIds_nodup_run (taCreateEntryPoint_inv now) List.nodup_nil ht
  obtain ⟨buf, m, hm, hk⟩ := (hi.slot_wf_of_lt hlt).keyId_stored
  have hnul : ((run (taCreateEntryPoint now) evs).slot i).keyId.view 63 = 0 := by
    rw [hk]
    exact (Bytes.view_val _ ⟨63, by omega⟩).trans (storedKeyId_copy buf hm).2
  have hf : findKeyIndex (run (taCreateEntryPoint now) evs)
      ((run (taCreateEntryPoint now) evs).slot i).keyId.view = some i := by
    rw [findKeyIndex_eq_some_iff_stored hi (by decide) ⟨63, le_rfl, hnul⟩, hk,
      storedKeyId_restore buf hm, ← hk]
    exact ⟨hlt, rfl, fun j hj heq => Nat.ne_of_lt hj (keyId_inj_of_nodup hd (hj.trans hlt) hlt heq)⟩
  exact ⟨hf, signMessage_succeeds hi _ messageHash (by decide) (by decide) hf⟩

theorem live_keys_sign_sample :
    (∀ ev ∈ sampleSession, ev.TerminatedId) ∧
    1 < (run (taCreateEntryPoint 0) sampleSession).keyCount.toNat ∧
    findKeyIndex (run (taCreateEntryPoint 0) sampleSession)
        ((run (taCreateEntryPoint 0) sampleSession).slot 1).keyId.view = some 1 ∧
      taInvokeCommandEntryPoint (Host.filled 9) taSuperRelayCmdSignMessage signMessageParamTypes
          (signMessageParams ((run (taCreateEntryPoint 0) sampleSession).slot 1).keyId.view 63
            (callerBytes [7]))
          (run (taCreateEntryPoint 0) sampleSession) =
        ⟨teeSuccess, .signatureResult ⟨(Bytes.zero 64).write 0 (AttrBuffer.filled 64 4).bytes,
            (AttrBuffer.filled 64 4).len, 0⟩,
          (run (taCreateEntryPoint 0) sampleSession).touchSlot 1 9⟩ :=
  ⟨by decide, by decide,
    live_keys_sign 0 sampleSession (by decide) (by decide) 9 _ _ _ _ _ (callerBytes [7])⟩

/-- The identifier bytes `AB` declared one byte long, sent twice: both
`generate_key` calls succeed, and two live keys share the identifier `A`. -/
theorem generateKey_duplicates_unterminated_id :
    (taInvokeCommandEntryPoint (Host.filled 0) taSuperRelayCmdGenerateKey generateKeyParamTypes
      (generateKeyParams (callerBytes [65, 66]) 1 srKeyTypeEcdsaSecp256k1)
      (run (taCreateEntryPoint 0)
        [generateKeyRequest (Host.filled 0) (callerBytes [65, 66]) 1 srKeyTypeEcdsaSecp256k1])).res =
      teeSuccess ∧
    (run (taCreateEntryPoint 0)
      [generateKeyRequest (Host.filled 0) (callerBytes [65, 66]) 1 srKeyTypeEcdsaSecp256k1,
       generateKeyRequest (Host.filled 0) (callerBytes [65, 66]) 1 srKeyTypeEcdsaSecp256k1]).keyCount =
      2 ∧
    strncmp
      ((run (taCreateEntryPoint 0)
        [generateKeyRequest (Host.filled 0) (callerBytes [65, 66]) 1 srKeyTypeEcdsaSecp256k1,
         generateKeyRequest (Host.filled 0) (callerBytes [65, 66]) 1 srKeyTypeEcdsaSecp256k1]).keyStorage
        0).keyId.view
      ((run (taCreateEntryPoint 0)
        [generateKeyRequest (Host.filled 0) (callerBytes [65, 66]) 1 srKeyTypeEcdsaSecp256k1,
         generateKeyRequest (Host.filled 0) (callerBytes [65, 66]) 1 srKeyTypeEcdsaSecp256k1]).keyStorage
        1).keyId.view 64 = 0 := by
  decide

/-- With the key `A` live, the buffers `A NUL` and `A x`, each declared one byte
long, agree on that byte; `find_key_index` resolves the first and not the
second, and `get_public_key` answers them differently. -/
theorem findKeyIndex_reads_past_size :
    callerBytes [65, 0] 0 = callerBytes [65, 120] 0 ∧
    findKeyIndex (run (taCreateEntryPoint 0)
      [generateKeyRequest (Host.filled 0) (callerBytes [65]) 1 srKeyTypeEcdsaSecp256k1])
      (callerBytes [65, 0]) = some 0 ∧
    findKeyIndex (run (taCreateEntryPoint 0)
      [generateKeyRequest (Host.filled 0) (callerBytes [65]) 1 srKeyTypeEcdsaSecp256k1])
      (callerBytes [65, 120]) = none ∧
    (taInvokeCommandEntryPoint (Host.filled 0) taSuperRelayCmdGetPublicKey getPublicKeyParamTypes
      (getPublicKeyParams (callerBytes [65, 0]) 1) (run (taCreateEntryPoint 0)
        [generateKeyRequest (Host.filled 0) (callerBytes [65]) 1 srKeyTypeEcdsaSecp256k1])).res =
      teeSuccess ∧
    (taInvokeCommandEntryPoint (Host.filled 0) taSuperRelayCmdGetPublicKey getPublicKeyParamTypes
      (getPublicKeyParams (callerBytes [65, 120]) 1) (run (taCreateEntryPoint 0)
        [generateKeyRequest (Host.filled 0) (callerBytes [65]) 1 srKeyTypeEcdsaSecp256k1])).res =
      srErrorKeyNotFound := by
  decide

end TA
end SuperRelay
