import SuperRelay.TA.Commands

/-!
# SuperRelay TA: what one call can do

Every later invariant is derived from the lemmas here, never by unfolding a
command again.

**Shapes.**  A successful call changes the globals in one of four ways:
`publish` (a generated key becomes live), `touchSlot` (a signature updates one
key's usage), `countOp` (a read is counted), or not at all.  A failed call
changes nothing but, for `cmd_generate_key`, the staging slot
`g_key_storage[g_key_count]`: `EqOffStaging` says so.

**Results.**
* `cmdGenerateKey_ok`, `cmdSignMessage_ok`, ...: each command's successful
  outcome, with the checks it passed and the host answers it used.
* `cmdGenerateKey_fail`, ...: each command's failed outcome.
* `effect` names the shape of a call, and `step_effect` says that the call
  does exactly that outside the staging slot; `effect_eq_generated` and
  `effect_eq_signed` read back which call a shape came from.
-/

namespace SuperRelay
namespace TA

/-- The globals after `cmd_generate_key` published `e` from the staging slot. -/
def TAState.publish (s : TAState) (e : SrKeyEntry) : TAState :=
  { s with keyStorage := arraySet s.keyStorage s.keyCount.toNat e,
           keys := arraySet s.keys s.keyCount.toNat e.info,
           keyCount := s.keyCount + 1,
           operationCount := s.operationCount + 1 }

/-- The globals after `cmd_sign_message` signed with slot `i` at clock `now`. -/
def TAState.touchSlot (s : TAState) (i : Nat) (now : UInt32) : TAState :=
  { s with keyStorage := arraySet s.keyStorage i { s.slot i with info := (s.slot i).info.touch now },
           keys := arraySet s.keys i ((s.slot i).info.touch now),
           operationCount := s.operationCount + 1 }

/-- The globals after a counted read. -/
def TAState.countOp (s : TAState) : TAState :=
  { s with operationCount := s.operationCount + 1 }

section Fields

variable (s : TAState) (e : SrKeyEntry) (i : Nat) (now : UInt32)

@[simp] theorem publish_keyCount : (s.publish e).keyCount = s.keyCount + 1 := rfl
@[simp] theorem publish_sessionCount : (s.publish e).sessionCount = s.sessionCount := rfl
@[simp] theorem publish_operationCount :
    (s.publish e).operationCount = s.operationCount + 1 := rfl
@[simp] theorem publish_startTime : (s.publish e).startTime = s.startTime := rfl
@[simp] theorem touchSlot_keyCount : (s.touchSlot i now).keyCount = s.keyCount := rfl
@[simp] theorem touchSlot_sessionCount : (s.touchSlot i now).sessionCount = s.sessionCount := rfl
@[simp] theorem touchSlot_operationCount :
    (s.touchSlot i now).operationCount = s.operationCount + 1 := rfl
@[simp] theorem touchSlot_startTime : (s.touchSlot i now).startTime = s.startTime := rfl
@[simp] theorem countOp_keyCount : s.countOp.keyCount = s.keyCount := rfl
@[simp] theorem countOp_keyStorage : s.countOp.keyStorage = s.keyStorage := rfl
@[simp] theorem countOp_keys : s.countOp.keys = s.keys := rfl
@[simp] theorem countOp_operationCount : s.countOp.operationCount = s.operationCount + 1 := rfl

end Fields

theorem publish_slot_of_ne (s : TAState) (e : SrKeyEntry) {j : Nat}
    (hj : j ≠ s.keyCount.toNat) : (s.publish e).slot j = s.slot j := by
  unfold TAState.slot arrayGet
  split_ifs
  exacts [arraySet_of_ne _ _ hj, rfl]

theorem touchSlot_slot_of_ne (s : TAState) {i j : Nat} (now : UInt32) (hj : j ≠ i) :
    (s.touchSlot i now).slot j = s.slot j := by
  unfold TAState.slot arrayGet
  split_ifs
  exacts [arraySet_of_ne _ _ hj, rfl]

theorem touchSlot_slot_self (s : TAState) {i : Nat} (now : UInt32) (hi : i < 16) :
    (s.touchSlot i now).slot i = { s.slot i with info := (s.slot i).info.touch now } := by
  simp [TAState.touchSlot, TAState.slot, arrayGet, hi]

/-- The globals `s'` agree with `s` everywhere but the staging slot
`g_key_storage[g_key_count]`. -/
structure EqOffStaging (s s' : TAState) : Prop where
  keys : s'.keys = s.keys
  keyCount : s'.keyCount = s.keyCount
  sessionCount : s'.sessionCount = s.sessionCount
  operationCount : s'.operationCount = s.operationCount
  startTime : s'.startTime = s.startTime
  keyStorage : ∀ j : Fin 16, j.val ≠ s.keyCount.toNat → s'.keyStorage j = s.keyStorage j

theorem EqOffStaging.refl (s : TAState) : EqOffStaging s s :=
  ⟨rfl, rfl, rfl, rfl, rfl, fun _ _ => rfl⟩

theorem EqOffStaging.stage (s : TAState) (e : SrKeyEntry) :
    EqOffStaging s { s with keyStorage := arraySet s.keyStorage s.keyCount.toNat e } :=
  ⟨rfl, rfl, rfl, rfl, rfl, fun _ hj => arraySet_of_ne _ _ hj⟩

/-- A test whose branches each fail only off the staging slot does too. -/
theorem EqOffStaging.ite {c : Prop} [Decidable c] {s : TAState} {a b : Outcome}
    (ha : c → a.res ≠ teeSuccess → EqOffStaging s a.state)
    (hb : ¬c → b.res ≠ teeSuccess → EqOffStaging s b.state) :
    (if c then a else b).res ≠ teeSuccess → EqOffStaging s (if c then a else b).state := by
  by_cases hc : c
  · rw [if_pos hc]
    exact ha hc
  · rw [if_neg hc]
    exact hb hc

@[simp] theorem reject_res (r : TEEResult) (s : TAState) : (reject r s).res = r := rfl
@[simp] theorem reject_written (r : TEEResult) (s : TAState) :
    (reject r s).written = .nothing := rfl
@[simp] theorem reject_state (r : TEEResult) (s : TAState) : (reject r s).state = s := rfl

/-- A success out of a test whose taken branch returns an error early came
from the other branch. -/
theorem reject_ite_success {c : Prop} [Decidable c] {r : TEEResult} {s : TAState} {b : Outcome}
    (hres : (if c then reject r s else b).res = teeSuccess) (hr : r ≠ teeSuccess) :
    ¬c ∧ b.res = teeSuccess := by
  by_cases hc : c
  · rw [if_pos hc] at hres
    exact absurd hres hr
  · rw [if_neg hc] at hres
    exact ⟨hc, hres⟩

section Generate

variable {h : Host} {pt : UInt32} {ps : Params} {s : TAState}

theorem generateByKeyType_ok {t : UInt32} {e : SrKeyEntry}
    (hres : (generateByKeyType h t e).1 = teeSuccess) :
    t = srKeyTypeEcdsaSecp256k1 ∧ generateByKeyType h t e = generateSecp256k1Keypair h e := by
  unfold generateByKeyType at hres ⊢
  split_ifs at hres ⊢ with h0
  · exact ⟨h0, rfl⟩
  · exact absurd hres teeErrorNotImplemented_ne
  · exact absurd hres teeErrorNotSupported_ne

theorem finishGenerateKey_fail {g : TEEResult × SrKeyEntry}
    (hres : (finishGenerateKey ps s g).res ≠ teeSuccess) :
    EqOffStaging s (finishGenerateKey ps s g).state := by
  unfold finishGenerateKey at hres ⊢
  split_ifs at hres ⊢ <;> first | exact EqOffStaging.stage s _ | exact absurd rfl hres

theorem cmdGenerateKey_fail (hres : (cmdGenerateKey h pt ps s).res ≠ teeSuccess) :
    EqOffStaging s (cmdGenerateKey h pt ps s).state :=
  EqOffStaging.ite (fun _ _ => .refl s) (fun _ => EqOffStaging.ite (fun _ _ => .refl s) fun _ =>
    EqOffStaging.ite (fun _ _ => .refl s) fun _ => EqOffStaging.ite (fun _ _ => .refl s) fun _ =>
    EqOffStaging.ite (fun _ _ => .refl s) fun _ => finishGenerateKey_fail) hres

theorem finishGenerateKey_ok {g : TEEResult × SrKeyEntry}
    (hres : (finishGenerateKey ps s g).res = teeSuccess) :
    g.1 = teeSuccess ∧
      finishGenerateKey ps s g =
        ⟨teeSuccess, .ethereumAddress g.2.info.ethereumAddress, s.publish g.2⟩ := by
  unfold finishGenerateKey at hres ⊢
  split_ifs at hres ⊢ with h1 h2
  · exact absurd hres h1
  · exact absurd hres teeErrorShortBuffer_ne
  · exact ⟨not_not.1 h1, rfl⟩

/-- The slot a successful `cmd_generate_key` publishes. -/
def generatedEntry (h : Host) (ps : Params) (d x y : AttrBuffer 32) : SrKeyEntry :=
  keypairEntry h (newKeyEntry (ps 0).memref.buffer (ps 0).memref.size
    srKeyTypeEcdsaSecp256k1 h.systemTime) d x y

theorem cmdGenerateKey_ok (hres : (cmdGenerateKey h pt ps s).res = teeSuccess) :
    s.keyCount < srMaxKeys ∧ (ps 1).value.a = srKeyTypeEcdsaSecp256k1 ∧
    (ps 0).memref.size ≠ 0 ∧ (ps 0).memref.size < srMaxKeyIdSize ∧
    findKeyIndex s (ps 0).memref.buffer = none ∧
    ∃ d x y, h.getObjectBufferAttribute .privateValue = .ok d ∧
      h.getObjectBufferAttribute .publicValueX = .ok x ∧
      h.getObjectBufferAttribute .publicValueY = .ok y ∧
      cmdGenerateKey h pt ps s =
        ⟨teeSuccess, .ethereumAddress (generatedEntry h ps d x y).info.ethereumAddress,
          s.publish (generatedEntry h ps d x y)⟩ := by
  unfold cmdGenerateKey at hres ⊢
  obtain ⟨h1, hres⟩ := reject_ite_success hres teeErrorBadParameters_ne
  obtain ⟨h2, hres⟩ := reject_ite_success hres teeErrorStorageNoSpace_ne
  obtain ⟨h3, hres⟩ := reject_ite_success hres teeErrorBadParameters_ne
  obtain ⟨h4, hres⟩ := reject_ite_success hres teeErrorBadParameters_ne
  obtain ⟨h5, hres⟩ := reject_ite_success hres srErrorKeyAlreadyExists_ne
  rw [if_neg h1, if_neg h2, if_neg h3, if_neg h4, if_neg h5]
  obtain ⟨hg, he⟩ := finishGenerateKey_ok hres
  obtain ⟨ht, hgen⟩ := generateByKeyType_ok hg
  rw [hgen] at hg
  obtain ⟨d, x, y, hd, hx, hy, hk⟩ := generateSecp256k1Keypair_ok hg
  refine ⟨UInt32.not_le.1 h2, ht, fun h => h3 (Or.inl h), UInt32.not_le.1 fun h => h3 (Or.inr h),
    Option.not_isSome_iff_eq_none.1 h5, d, x, y, hd, hx, hy, ?_⟩
  rw [he, hgen, hk, generatedEntry, ht]

end Generate

section Sign

variable {h : Host} {pt : UInt32} {ps : Params} {s : TAState}

theorem signWithSlot_fail {i : Nat} (hres : (signWithSlot h ps s i).res ≠ teeSuccess) :
    (signWithSlot h ps s i).state = s := by
  dsimp only [signWithSlot] at hres ⊢
  split_ifs at hres ⊢ <;> first | rfl | exact absurd rfl hres

theorem cmdSignMessage_fail (hres : (cmdSignMessage h pt ps s).res ≠ teeSuccess) :
    EqOffStaging s (cmdSignMessage h pt ps s).state :=
  EqOffStaging.ite (fun _ _ => .refl s) (fun _ => EqOffStaging.ite (fun _ _ => .refl s) fun _ =>
    EqOffStaging.ite (fun _ _ => .refl s) fun _ => EqOffStaging.ite (fun _ _ => .refl s) fun _ => by
      split
      · exact fun _ => .refl s
      · intro hr
        rw [signWithSlot_fail hr]
        exact .refl s) hres

theorem signWithSlot_ok {i : Nat} (hres : (signWithSlot h ps s i).res = teeSuccess) :
    (signByKeyType h (s.slot i) (messageHashOf ps)).1 = teeSuccess ∧
      signWithSlot h ps s i =
        ⟨teeSuccess, .signatureResult (signByKeyType h (s.slot i) (messageHashOf ps)).2,
          s.touchSlot i h.systemTime⟩ := by
  dsimp only [signWithSlot] at hres ⊢
  split_ifs at hres ⊢ with h1 h2
  · exact absurd hres teeErrorAccessDenied_ne
  · exact ⟨h2, rfl⟩
  · exact absurd hres h2

theorem cmdSignMessage_ok (hres : (cmdSignMessage h pt ps s).res = teeSuccess) :
    ∃ i, findKeyIndex s (ps 0).memref.buffer = some i ∧
      (signByKeyType h (s.slot i) (messageHashOf ps)).1 = teeSuccess ∧
      cmdSignMessage h pt ps s =
        ⟨teeSuccess, .signatureResult (signByKeyType h (s.slot i) (messageHashOf ps)).2,
          s.touchSlot i h.systemTime⟩ := by
  unfold cmdSignMessage at hres ⊢
  obtain ⟨h1, hres⟩ := reject_ite_success hres teeErrorBadParameters_ne
  obtain ⟨h2, hres⟩ := reject_ite_success hres teeErrorBadParameters_ne
  obtain ⟨h3, hres⟩ := reject_ite_success hres teeErrorBadParameters_ne
  obtain ⟨h4, hres⟩ := reject_ite_success hres teeErrorShortBuffer_ne
  rw [if_neg h1, if_neg h2, if_neg h3, if_neg h4]
  split at hres
  · exact absurd hres srErrorKeyNotFound_ne
  · rename_i i hi
    obtain ⟨hr, he⟩ := signWithSlot_ok hres
    exact ⟨i, hi, hr, by simp only [hi, he]⟩

end Sign

section Reads

variable {pt : UInt32} {ps : Params} {s : TAState}

theorem cmdGetPublicKey_fail (hres : (cmdGetPublicKey pt ps s).res ≠ teeSuccess) :
    EqOffStaging s (cmdGetPublicKey pt ps s).state :=
  EqOffStaging.ite (fun _ _ => .refl s) (fun _ => EqOffStaging.ite (fun _ _ => .refl s) fun _ =>
    EqOffStaging.ite (fun _ _ => .refl s) fun _ => by
      split
      · exact fun _ => .refl s
      · exact fun hr => absurd rfl hr) hres

theorem cmdGetPublicKey_ok (hres : (cmdGetPublicKey pt ps s).res = teeSuccess) :
    ∃ i, findKeyIndex s (ps 0).memref.buffer = some i ∧
      cmdGetPublicKey pt ps s = publicKeyOf s i := by
  unfold cmdGetPublicKey at hres ⊢
  obtain ⟨h1, hres⟩ := reject_ite_success hres teeErrorBadParameters_ne
  obtain ⟨h2, hres⟩ := reject_ite_success hres teeErrorBadParameters_ne
  obtain ⟨h3, hres⟩ := reject_ite_success hres teeErrorShortBuffer_ne
  rw [if_neg h1, if_neg h2, if_neg h3]
  split at hres
  · exact absurd hres srErrorKeyNotFound_ne
  · rename_i i hi
    exact ⟨i, hi, by simp only [hi]⟩

theorem cmdListKeys_fail (hres : (cmdListKeys pt ps s).res ≠ teeSuccess) :
    EqOffStaging s (cmdListKeys pt ps s).state :=
  EqOffStaging.ite (fun _ _ => .refl s) (fun _ => EqOffStaging.ite (fun _ _ => .refl s) fun _ hr =>
    absurd rfl hr) hres

theorem cmdListKeys_ok (hres : (cmdListKeys pt ps s).res = teeSuccess) :
    cmdListKeys pt ps s =
      ⟨teeSuccess,
        .keyListResult ⟨s.keyCount, arrayCopy (fun _ => SrKeyInfo.zero) s.keys s.keyCount.toNat⟩,
        s.countOp⟩ := by
  unfold cmdListKeys at hres ⊢
  split_ifs at hres ⊢
  · exact absurd hres teeErrorBadParameters_ne
  · exact absurd hres teeErrorShortBuffer_ne
  · rfl

theorem cmdGetVersion_state : (cmdGetVersion pt ps s).state = s := by
  unfold cmdGetVersion
  split_ifs <;> rfl

theorem cmdHealthCheck_state (h : Host) : (cmdHealthCheck h pt ps s).state = s := by
  unfold cmdHealthCheck
  split_ifs <;> rfl

end Reads

section Invoke

variable {h : Host} {c pt : UInt32} {ps : Params} {s : TAState}

theorem taInvokeCommandEntryPoint_fail
    (hres : (taInvokeCommandEntryPoint h c pt ps s).res ≠ teeSuccess) :
    EqOffStaging s (taInvokeCommandEntryPoint h c pt ps s).state := by
  have keep : ∀ {o : Outcome}, o.state = s → EqOffStaging s o.state := fun ho =>
    ho ▸ EqOffStaging.refl s
  exact EqOffStaging.ite (fun _ => cmdGenerateKey_fail) (fun _ =>
    EqOffStaging.ite (fun _ => cmdSignMessage_fail) fun _ =>
    EqOffStaging.ite (fun _ => cmdGetPublicKey_fail) fun _ =>
    EqOffStaging.ite (fun _ => cmdListKeys_fail) fun _ =>
    EqOffStaging.ite (fun _ _ => keep cmdGetVersion_state) fun _ =>
    EqOffStaging.ite (fun _ _ => keep (cmdHealthCheck_state h)) fun _ =>
    EqOffStaging.ite (fun _ _ => .refl s) fun _ _ => .refl s) hres

/-- The shape of what one call does to the globals outside the staging slot. -/
inductive Effect
  | none
  | openSession
  | closeSession
  /-- A successful `get_public_key` or `list_keys`. -/
  | counted
  /-- A successful `generate_key`, and the slot it published. -/
  | generated (e : SrKeyEntry)
  /-- A successful `sign_message` with slot `i`, at clock `now`. -/
  | signed (i : Nat) (now : UInt32)

/-- The shape of the call `ev` met in state `s`. -/
def effect (s : TAState) : Event → Effect
  | .openSession => .openSession
  | .closeSession => .closeSession
  | .invoke h c pt ps =>
      if (taInvokeCommandEntryPoint h c pt ps s).res ≠ teeSuccess then .none
      else if c = taSuperRelayCmdGenerateKey then
        .generated ((taInvokeCommandEntryPoint h c pt ps s).state.slot s.keyCount.toNat)
      else if c = taSuperRelayCmdSignMessage then
        match findKeyIndex s (ps 0).memref.buffer with
        | some i => .signed i h.systemTime
        | none => .none
      else if c = taSuperRelayCmdGetPublicKey ∨ c = taSuperRelayCmdListKeys then .counted
      else .none

/-- A call of the generation shape was a successful `generate_key`, and the
shape carries the slot it left at index `g_key_count`. -/
theorem effect_eq_generated {s : TAState} {h : Host} {c pt : UInt32} {ps : Params}
    {e : SrKeyEntry} (he : effect s (.invoke h c pt ps) = .generated e) :
    (taInvokeCommandEntryPoint h c pt ps s).res = teeSuccess ∧ c = taSuperRelayCmdGenerateKey ∧
      e = (taInvokeCommandEntryPoint h c pt ps s).state.slot s.keyCount.toNat := by
  simp only [effect] at he
  split_ifs at he with hres hg <;> (try split at he) <;> cases he
  exact ⟨not_not.1 hres, hg, rfl⟩

/-- A call of the signing shape was a successful `sign_message` resolved to the
slot it names, at the clock it carries. -/
theorem effect_eq_signed {s : TAState} {h : Host} {c pt : UInt32} {ps : Params} {i : Nat}
    {now : UInt32} (he : effect s (.invoke h c pt ps) = .signed i now) :
    (taInvokeCommandEntryPoint h c pt ps s).res = teeSuccess ∧ c = taSuperRelayCmdSignMessage ∧
      findKeyIndex s (ps 0).memref.buffer = some i ∧ now = h.systemTime := by
  simp only [effect] at he
  split_ifs at he with hres hg hsg
  split at he
  · cases he
    exact ⟨not_not.1 hres, hsg, by assumption, rfl⟩
  · cases he

/-- The globals after a call of shape `eff`. -/
def Effect.apply (s : TAState) : Effect → TAState
  | .none => s
  | .openSession => taOpenSessionEntryPoint s
  | .closeSession => taCloseSessionEntryPoint s
  | .counted => s.countOp
  | .generated e => s.publish e
  | .signed i now => s.touchSlot i now

theorem publish_slot_self (s : TAState) (e : SrKeyEntry) (hc : s.keyCount < srMaxKeys) :
    (s.publish e).slot s.keyCount.toNat = e := by
  have : s.keyCount.toNat < 16 := hc
  simp [TAState.publish, TAState.slot, this]

theorem publish_keyCount_toNat (s : TAState) (e : SrKeyEntry) (hc : s.keyCount < srMaxKeys) :
    (s.publish e).keyCount.toNat = s.keyCount.toNat + 1 := by
  have : s.keyCount.toNat < 16 := hc
  rw [publish_keyCount, UInt32.toNat_add]
  exact Nat.mod_eq_of_lt (by simp [UInt32.size]; omega)

theorem invoke_generateKey :
    taInvokeCommandEntryPoint h taSuperRelayCmdGenerateKey pt ps s = cmdGenerateKey h pt ps s :=
  rfl

theorem invoke_signMessage :
    taInvokeCommandEntryPoint h taSuperRelayCmdSignMessage pt ps s = cmdSignMessage h pt ps s :=
  rfl

theorem invoke_getPublicKey :
    taInvokeCommandEntryPoint h taSuperRelayCmdGetPublicKey pt ps s = cmdGetPublicKey pt ps s :=
  rfl

theorem invoke_listKeys :
    taInvokeCommandEntryPoint h taSuperRelayCmdListKeys pt ps s = cmdListKeys pt ps s :=
  rfl

/-- The commands other than the four that reach the key store leave the globals
as they were. -/
theorem invoke_other_state
    (hc : c ≠ taSuperRelayCmdGenerateKey ∧ c ≠ taSuperRelayCmdSignMessage ∧
      c ≠ taSuperRelayCmdGetPublicKey ∧ c ≠ taSuperRelayCmdListKeys) :
    (taInvokeCommandEntryPoint h c pt ps s).state = s := by
  obtain ⟨h1, h2, h3, h4⟩ := hc
  unfold taInvokeCommandEntryPoint
  rw [if_neg h1, if_neg h2, if_neg h3, if_neg h4]
  split_ifs
  · exact cmdGetVersion_state
  · exact cmdHealthCheck_state h
  all_goals rfl

theorem step_effect (s : TAState) (ev : Event) :
    EqOffStaging ((effect s ev).apply s) (step s ev) := by
  cases ev with
  | openSession => exact EqOffStaging.refl _
  | closeSession => exact EqOffStaging.refl _
  | invoke h c pt ps =>
      by_cases hres : (taInvokeCommandEntryPoint h c pt ps s).res = teeSuccess
      swap
      · simp only [effect, step, hres, ne_eq, not_false_eq_true, if_true]
        exact taInvokeCommandEntryPoint_fail hres
      simp only [effect, step, hres, ne_eq, not_true_eq_false, if_false]
      by_cases hg : c = taSuperRelayCmdGenerateKey
      · subst hg
        rw [if_pos rfl, invoke_generateKey] at *
        obtain ⟨hc, -, -, -, -, d, x, y, -, -, -, he⟩ := cmdGenerateKey_ok hres
        rw [he, publish_slot_self s _ hc]
        exact EqOffStaging.refl _
      rw [if_neg hg]
      by_cases hsg : c = taSuperRelayCmdSignMessage
      · subst hsg
        rw [if_pos rfl, invoke_signMessage] at *
        obtain ⟨i, hi, -, he⟩ := cmdSignMessage_ok hres
        rw [he, hi]
        exact EqOffStaging.refl _
      rw [if_neg hsg]
      by_cases hp : c = taSuperRelayCmdGetPublicKey
      · subst hp
        rw [if_pos (Or.inl rfl), invoke_getPublicKey] at *
        obtain ⟨i, -, he⟩ := cmdGetPublicKey_ok hres
        rw [he]
        exact EqOffStaging.refl _
      by_cases hl : c = taSuperRelayCmdListKeys
      · subst hl
        rw [if_pos (Or.inr rfl), invoke_listKeys] at *
        rw [cmdListKeys_ok hres]
        exact EqOffStaging.refl _
      rw [if_neg (by rintro (h | h) <;> contradiction), invoke_other_state ⟨hg, hsg, hp, hl⟩]
      exact EqOffStaging.refl _

end Invoke

end TA
end SuperRelay
