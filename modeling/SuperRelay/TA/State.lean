import SuperRelay.TA.Memory

/-!
# SuperRelay TA: the header, the key records and the global state

This module transcribes `super_relay_ta.h` and the globals of
`super_relay_ta.c`.

**Key records.**  `SrKeyInfo` is the public metadata of a key, the record
`list_keys` hands out.  `SrKeyEntry` is the TA's internal slot: the metadata,
the key type, and the raw private and public key bytes with their lengths.

**State.**  `TAState` holds the globals `g_keys`, `g_key_count`,
`g_session_count`, `g_operation_count`, `g_start_time` and `g_key_storage`.
Both arrays have `SR_MAX_KEYS = 16` entries; the first `g_key_count` slots of
`g_key_storage` are the live keys, and `g_keys` is meant to mirror their
metadata.

**Results.**  Each command writes at most one output memory reference.
`Written` records which result structure it wrote there, field by field; the
`reserved` padding bytes of the result structures are always zero (`memset`)
and are left out.  The `sizeof` values are those of the ARM procedure-call
standard, where `uint64_t` is 8-byte aligned.
-/

namespace SuperRelay
namespace TA

/-- Sizes and bounds of `super_relay_ta.h`. -/
def srMaxKeyIdSize : UInt32 := 64
def srMaxKeys : UInt32 := 16
def srMessageHashSize : UInt32 := 32
def srEthereumAddressSize : UInt32 := 20

/-- Values of `sr_key_type_t` and `sr_key_status_t`. -/
def srKeyTypeEcdsaSecp256k1 : UInt32 := 0
def srKeyTypeEd25519 : UInt32 := 1
def srKeyTypeMax : UInt32 := 2
def srKeyStatusActive : UInt32 := 0

/-- Result codes of `super_relay_ta.h` that the TA returns. -/
def srSuccess : UInt32 := 0x00000000
def srErrorKeyNotFound : TEEResult := 0x00000004
def srErrorKeyAlreadyExists : TEEResult := 0x00000005

@[simp] theorem srErrorKeyNotFound_ne : srErrorKeyNotFound ≠ teeSuccess := by decide
@[simp] theorem srErrorKeyAlreadyExists_ne : srErrorKeyAlreadyExists ≠ teeSuccess := by decide

/-- Command identifiers. -/
def taSuperRelayCmdGenerateKey : UInt32 := 0
def taSuperRelayCmdImportKey : UInt32 := 1
def taSuperRelayCmdSignMessage : UInt32 := 2
def taSuperRelayCmdGetPublicKey : UInt32 := 3
def taSuperRelayCmdDeleteKey : UInt32 := 4
def taSuperRelayCmdListKeys : UInt32 := 5
def taSuperRelayCmdGetVersion : UInt32 := 6
def taSuperRelayCmdHealthCheck : UInt32 := 7

/-- The structure `sr_key_info_t`: the public metadata of one key. -/
structure SrKeyInfo where
  keyId : Bytes 64
  keyType : UInt32
  status : UInt32
  createdTime : UInt64
  lastUsedTime : UInt64
  usageCount : UInt32
  ethereumAddress : Bytes 20
  deriving DecidableEq

/-- The record `memset` leaves. -/
def SrKeyInfo.zero : SrKeyInfo :=
  ⟨Bytes.zero 64, 0, 0, 0, 0, 0, Bytes.zero 20⟩

/-- The structure `sr_key_entry_t`: one slot of the key storage. -/
structure SrKeyEntry where
  keyId : Bytes 64
  keyType : UInt32
  privateKey : Bytes 32
  publicKey : Bytes 64
  privateKeyLen : UInt32
  publicKeyLen : UInt32
  info : SrKeyInfo
  deriving DecidableEq

/-- The slot `memset` leaves. -/
def SrKeyEntry.zero : SrKeyEntry :=
  ⟨Bytes.zero 64, 0, Bytes.zero 32, Bytes.zero 64, 0, 0, SrKeyInfo.zero⟩

/-- The structure `sr_signature_result_t`. -/
structure SrSignatureResult where
  signature : Bytes 64
  signatureLen : UInt32
  recoveryId : UInt8
  deriving DecidableEq

/-- The result `memset` leaves. -/
def SrSignatureResult.zero : SrSignatureResult := ⟨Bytes.zero 64, 0, 0⟩

/-- The structure `sr_public_key_result_t`. -/
structure SrPublicKeyResult where
  publicKey : Bytes 64
  publicKeyLen : UInt32
  ethereumAddress : Bytes 20
  deriving DecidableEq

/-- The structure `sr_key_list_result_t`. -/
structure SrKeyListResult where
  keyCount : UInt32
  keys : Fin 16 → SrKeyInfo
  deriving DecidableEq

/-- The structure `sr_version_info_t`. -/
structure SrVersionInfo where
  major : UInt32
  minor : UInt32
  patch : UInt32
  buildInfo : Bytes 64
  deriving DecidableEq

/-- The structure `sr_health_result_t`. -/
structure SrHealthResult where
  status : UInt32
  activeSessions : UInt32
  totalOperations : UInt32
  storageUsage : UInt32
  uptime : UInt64
  deriving DecidableEq

/-- Values of `sizeof` for the structures the TA checks buffers against. -/
def sizeofSrSignatureResult : UInt32 := 72
def sizeofSrPublicKeyResult : UInt32 := 96
def sizeofSrKeyListResult : UInt32 := 1800
def sizeofSrVersionInfo : UInt32 := 76
def sizeofSrHealthResult : UInt32 := 24
def sizeofSrKeyEntry : UInt32 := 288

/-- The globals of the TA. -/
structure TAState where
  /-- The array `g_keys`. -/
  keys : Fin 16 → SrKeyInfo
  keyCount : UInt32
  sessionCount : UInt32
  operationCount : UInt32
  startTime : UInt64
  /-- The array `g_key_storage`. -/
  keyStorage : Fin 16 → SrKeyEntry

/-- What a command wrote into its output memory reference. -/
inductive Written
  | nothing
  /-- Twenty address bytes, with the reference's size set to 20. -/
  | ethereumAddress (address : Bytes 20)
  | signatureResult (r : SrSignatureResult)
  | publicKeyResult (r : SrPublicKeyResult)
  | keyListResult (r : SrKeyListResult)
  | versionInfo (r : SrVersionInfo)
  | healthResult (r : SrHealthResult)
  deriving DecidableEq

/-- The return code of a command, what it wrote, and the globals after it. -/
structure Outcome where
  res : TEEResult
  written : Written
  state : TAState

/-- The slot `g_key_storage[i]`. -/
def TAState.slot (s : TAState) (i : Nat) : SrKeyEntry :=
  arrayGet s.keyStorage i SrKeyEntry.zero

@[simp] theorem TAState.slot_val (s : TAState) (j : Fin 16) :
    s.slot j.val = s.keyStorage j :=
  arrayGet_val _ _ _

end TA
end SuperRelay
