import Mathlib.Data.Fintype.Basic
import Mathlib.Data.String.Basic
import Mathlib.Data.UInt

/-!
# SuperRelay TA: the GlobalPlatform interface

The trusted application is compiled against `tee_internal_api.h`, which the
repository includes but does not contain.  This module fixes the part of that
interface the TA uses.

**Constants.**  Result codes and parameter-type codes are the values of the
GlobalPlatform TEE Internal Core API.  The TA only compares against them.

**Parameters.**  A `TEE_Param` is a union; both of its readings are kept.  A
memory reference is the caller's memory from the start of the buffer on,
together with the declared size: bytes at the declared size and beyond are
whatever follows the buffer, and nothing stops the TA from reading them.

**Caller memory.**  Two assumptions stand behind this reading, and the model
does not check them.  The caller's memory does not change while a command runs:
the TA reads its input buffers more than once, and a concurrent writer in the
normal world could make those reads disagree.  The memory references of one
command do not overlap: each is its own function, so a byte written through one
output buffer is never read back through another parameter.

**Host.**  Every primitive the TA calls during one command (the clock, key
generation, attribute extraction, the digest, signing) is a field of `Host`.
A call either succeeds with its output or fails with a code other than
`TEE_SUCCESS`, and `TEE_GetObjectBufferAttribute` never hands back more bytes
than the capacity it was given.
-/

namespace SuperRelay
namespace TA

/-- A fixed-size C byte array `uint8_t a[n]` (or `char a[n]`). -/
abbrev Bytes (n : Nat) := Fin n → UInt8

/-- The array after `memset(a, 0, n)`. -/
def Bytes.zero (n : Nat) : Bytes n := fun _ => 0

@[simp] theorem Bytes.zero_apply {n : Nat} (j : Fin n) : Bytes.zero n j = 0 := rfl

/-- The result code `TEE_Result`. -/
abbrev TEEResult := UInt32

/-- GlobalPlatform result codes the TA returns. -/
def teeSuccess : TEEResult := 0x00000000
def teeErrorAccessDenied : TEEResult := 0xFFFF0001
def teeErrorBadParameters : TEEResult := 0xFFFF0006
def teeErrorNotImplemented : TEEResult := 0xFFFF0009
def teeErrorNotSupported : TEEResult := 0xFFFF000A
def teeErrorShortBuffer : TEEResult := 0xFFFF0010
def teeErrorStorageNoSpace : TEEResult := 0xFFFF3041

/-- GlobalPlatform parameter-type codes. -/
def teeParamTypeNone : UInt32 := 0
def teeParamTypeValueInput : UInt32 := 1
def teeParamTypeMemrefInput : UInt32 := 5
def teeParamTypeMemrefOutput : UInt32 := 6

/-- The macro `TEE_PARAM_TYPES(t0, t1, t2, t3)`: one nibble per parameter. -/
def teeParamTypes (t0 t1 t2 t3 : UInt32) : UInt32 :=
  t0 ||| (t1 <<< 4) ||| (t2 <<< 8) ||| (t3 <<< 12)

/-- A memory reference: the caller's memory from the buffer's start on, and the
declared size. -/
structure Memref where
  buffer : Nat → UInt8
  size : UInt32

/-- A value parameter. -/
structure Value where
  a : UInt32
  b : UInt32

/-- The union `TEE_Param`, read either as a memory reference or as a value pair. -/
structure TEEParam where
  memref : Memref
  value : Value

/-- The four parameters of a command. -/
abbrev Params := Fin 4 → TEEParam

/-- The failure code of a primitive call. -/
structure ProviderError where
  code : TEEResult
  ne_success : code ≠ teeSuccess

/-- What a successful `TEE_GetObjectBufferAttribute` (or sign) writes into a
buffer of capacity `cap`: at most `cap` bytes, from the buffer's start. -/
structure AttrBuffer (cap : Nat) where
  bytes : List UInt8
  length_le : bytes.length ≤ cap

/-- The length the call writes back into its `*len` argument. -/
def AttrBuffer.len {cap : Nat} (d : AttrBuffer cap) : UInt32 :=
  UInt32.ofNat d.bytes.length

/-- The ECC attributes the TA extracts from a generated keypair. -/
inductive EccAttribute
  | privateValue
  | publicValueX
  | publicValueY
  deriving DecidableEq

/-- The host's answers to every primitive the TA calls during one command. -/
structure Host where
  /-- The `seconds` field that `TEE_GetSystemTime` fills in. -/
  systemTime : UInt32
  allocateTransientObject : Except ProviderError Unit
  generateKey : Except ProviderError Unit
  /-- The answer of `TEE_GetObjectBufferAttribute` for a 32-byte buffer. -/
  getObjectBufferAttribute : EccAttribute → Except ProviderError (AttrBuffer 32)
  /-- The SHA-256 digest of a 64-byte input. -/
  digestDoFinal : Bytes 64 → Except ProviderError (Bytes 32)
  /-- The answer of `TEE_PopulateTransientObject` for a private value and its length. -/
  populateTransientObject : Bytes 32 → UInt32 → Except ProviderError Unit
  allocateOperation : Except ProviderError Unit
  setOperationKey : Except ProviderError Unit
  /-- The answer of `TEE_AsymmetricSignDigest` under the populated key, over a
  32-byte digest, into a 64-byte buffer. -/
  asymmetricSignDigest :
    Bytes 32 → UInt32 → Bytes 32 → Except ProviderError (AttrBuffer 64)

@[simp] theorem teeErrorAccessDenied_ne : teeErrorAccessDenied ≠ teeSuccess := by decide
@[simp] theorem teeErrorBadParameters_ne : teeErrorBadParameters ≠ teeSuccess := by decide
@[simp] theorem teeErrorNotImplemented_ne : teeErrorNotImplemented ≠ teeSuccess := by decide
@[simp] theorem teeErrorNotSupported_ne : teeErrorNotSupported ≠ teeSuccess := by decide
@[simp] theorem teeErrorShortBuffer_ne : teeErrorShortBuffer ≠ teeSuccess := by decide
@[simp] theorem teeErrorStorageNoSpace_ne : teeErrorStorageNoSpace ≠ teeSuccess := by decide

theorem u32_lt_iff {a b : UInt32} : a < b ↔ a.toNat < b.toNat := Iff.rfl

theorem u32_le_iff {a b : UInt32} : a ≤ b ↔ a.toNat ≤ b.toNat := Iff.rfl

theorem u64_le_iff {a b : UInt64} : a ≤ b ↔ a.toNat ≤ b.toNat := Iff.rfl

theorem u32_toNat_ofNat (n : Nat) : (UInt32.ofNat n).toNat = n % 2 ^ 32 :=
  BitVec.toNat_ofNat n 32

@[simp] theorem u32_toUInt64_toNat (a : UInt32) : a.toUInt64.toNat = a.toNat := rfl

theorem AttrBuffer.len_toNat {cap : Nat} (d : AttrBuffer cap) (h : cap < 2 ^ 32) :
    d.len.toNat = d.bytes.length := by
  rw [AttrBuffer.len, u32_toNat_ofNat]
  exact Nat.mod_eq_of_lt (lt_of_le_of_lt d.length_le h)

end TA
end SuperRelay
