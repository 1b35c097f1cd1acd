import SuperRelay.TA.Tee

/-!
# SuperRelay TA: C memory primitives

The TA keeps its state in fixed C arrays and moves key identifiers around with
`strncpy` and `strncmp`.  This module gives those primitives their C meaning.

**Arrays.**  An array of `m` elements is a function on `Fin m`.  A read past the
end returns a default and a write past the end writes nothing; the TA's own
checks keep every index it uses in range.

**Strings.**  `strncmp` is the C loop: it walks both strings, stops at the
first difference or at a NUL of the first string, and gives up after `n`
bytes.  `strncpy` copies up to the first NUL of the source and pads with NULs.
`cString buf n` is the C string held in the first `n` bytes of `buf`.

**Results.**
* `strncmp_eq_zero_iff`: `strncmp` returns `0` exactly when the strings agree
  up to and including the first NUL of the first one, within `n` bytes.
* `storedKeyId_eq`: clearing an array, `strncpy`-ing `n` bytes into it and
  writing a terminator at `n` leaves the C string of those bytes, zero-padded.
* `strncpy_ofList`: copying such a padded string back out reproduces it.
-/

namespace SuperRelay
namespace TA

section Arrays

variable {α : Type} {m : Nat}

/-- Reading `a[i]`; past the end of the array, the default `d`. -/
def arrayGet (a : Fin m → α) (i : Nat) (d : α) : α :=
  if h : i < m then a ⟨i, h⟩ else d

/-- Writing `a[i] = v`; an index past the end writes nothing. -/
def arraySet (a : Fin m → α) (i : Nat) (v : α) : Fin m → α :=
  fun j => if j.val = i then v else a j

@[simp] theorem arrayGet_val (a : Fin m → α) (j : Fin m) (d : α) :
    arrayGet a j.val d = a j := by
  simp [arrayGet, j.isLt]

@[simp] theorem arraySet_apply (a : Fin m → α) (i : Nat) (v : α) (j : Fin m) :
    arraySet a i v j = if j.val = i then v else a j := rfl

theorem arraySet_of_ne (a : Fin m → α) {i : Nat} (v : α) {j : Fin m} (h : j.val ≠ i) :
    arraySet a i v j = a j := if_neg h

/-- The call `memcpy(dst, src, n * sizeof *dst)`: the first `n` elements of
`src` over those of `dst`. -/
def arrayCopy (dst src : Fin m → α) (n : Nat) : Fin m → α :=
  fun j => if j.val < n then src j else dst j

@[simp] theorem arrayCopy_apply (dst src : Fin m → α) (n : Nat) (j : Fin m) :
    arrayCopy dst src n j = if j.val < n then src j else dst j := rfl

@[simp] theorem arrayGet_arraySet_self (a : Fin m → α) {i : Nat} (v d : α) (h : i < m) :
    arrayGet (arraySet a i v) i d = v := by
  simp [arrayGet, h]

end Arrays

/-- A byte array read as C memory; bytes past its end read as `0`. -/
def Bytes.view {m : Nat} (a : Bytes m) : Nat → UInt8 :=
  fun j => arrayGet a j 0

/-- A byte list laid out from the start of an array, the rest zero. -/
def Bytes.ofList {m : Nat} (l : List UInt8) : Bytes m :=
  fun j => l.getD j.val 0

@[simp] theorem Bytes.view_val {m : Nat} (a : Bytes m) (j : Fin m) :
    a.view j.val = a j :=
  arrayGet_val a j 0

@[simp] theorem Bytes.ofList_apply {m : Nat} (l : List UInt8) (j : Fin m) :
    (Bytes.ofList l : Bytes m) j = l.getD j.val 0 := rfl

/-- The bytes of `l` written into `a` from offset `off` on, as a primitive
writes its output into a buffer. -/
def Bytes.write {m : Nat} (a : Bytes m) (off : Nat) (l : List UInt8) : Bytes m :=
  fun j => if off ≤ j.val then l[j.val - off]?.getD (a j) else a j

/-- The function `strncmp(s1, s2, n)`: the difference of the first differing
bytes among the first `n`, or `0` once a NUL of `s1` is matched. -/
def strncmp : (Nat → UInt8) → (Nat → UInt8) → Nat → Int
  | _, _, 0 => 0
  | s1, s2, n + 1 =>
      if s1 0 ≠ s2 0 then ((s1 0).toNat : Int) - (s2 0).toNat
      else if s1 0 = 0 then 0
      else strncmp (fun j => s1 (j + 1)) (fun j => s2 (j + 1)) n

/-- The function `strncpy(dst, src, n)`: the bytes of `src` before its first
NUL, then NULs, `n` bytes in all; the rest of `dst` is untouched. -/
def strncpy {m : Nat} (dst : Bytes m) (src : Nat → UInt8) (n : Nat) : Bytes m :=
  fun j =>
    if j.val < n then (if ∃ k < j.val, src k = 0 then 0 else src j.val) else dst j

/-- The C string in the first `n` bytes of `buf`: the bytes before the first
NUL, or all `n` of them. -/
def cString (buf : Nat → UInt8) : Nat → List UInt8
  | 0 => []
  | n + 1 => if buf 0 = 0 then [] else buf 0 :: cString (fun j => buf (j + 1)) n

theorem strncmp_succ (s1 s2 : Nat → UInt8) (n : Nat) :
    strncmp s1 s2 (n + 1) =
      if s1 0 ≠ s2 0 then ((s1 0).toNat : Int) - (s2 0).toNat
      else if s1 0 = 0 then 0
      else strncmp (fun j => s1 (j + 1)) (fun j => s2 (j + 1)) n := rfl

theorem strncmp_eq_zero_iff (s1 s2 : Nat → UInt8) (n : Nat) :
    strncmp s1 s2 n = 0 ↔ ∀ j < n, (∀ k < j, s1 k ≠ 0) → s1 j = s2 j := by
  induction n generalizing s1 s2 with
  | zero => exact iff_of_true rfl fun j hj => absurd hj (Nat.not_lt_zero j)
  | succ n ih =>
      rw [strncmp_succ]
      by_cases hd : s1 0 = s2 0
      · rw [if_neg (not_not.2 hd)]
        by_cases hz : s1 0 = 0
        · rw [if_pos hz]
          refine iff_of_true rfl ?_
          rintro (_ | j) _ hk
          · exact hd
          · exact absurd hz (hk 0 (Nat.succ_pos j))
        · rw [if_neg hz, ih]
          constructor
          · rintro h (_ | j) hj hk
            · exact hd
            · exact h j (by omega) fun k hk' => hk (k + 1) (by omega)
          · intro h j hj hk
            refine h (j + 1) (by omega) fun k hk' => ?_
            cases k with
            | zero => exact hz
            | succ k => exact hk k (by omega)
      · have hne : ((s1 0).toNat : Int) - (s2 0).toNat ≠ 0 := by
          intro h
          exact hd (UInt8.toNat.inj (by omega))
        rw [if_pos hd]
        exact iff_of_false hne fun h => hd (h 0 (Nat.succ_pos n) fun _ hk => absurd hk (Nat.not_lt_zero _))

theorem cString_getD (buf : Nat → UInt8) (n j : Nat) :
    (cString buf n).getD j 0 = if j < n ∧ ∀ k ≤ j, buf k ≠ 0 then buf j else 0 := by
  induction n generalizing buf j with
  | zero =>
      simp [cString]
  | succ n ih =>
      by_cases hz : buf 0 = 0
      · have : ¬ ∀ k ≤ j, buf k ≠ 0 := fun h => h 0 (Nat.zero_le j) hz
        simp [cString, hz, this]
      · cases j with
        | zero =>
            rw [cString, if_neg hz, List.getD_cons_zero,
              if_pos ⟨Nat.succ_pos n, fun k hk => by rwa [Nat.le_zero.1 hk]⟩]
        | succ j =>
            simp only [cString, hz, if_false, List.getD_cons_succ, ih]
            congr 1
            apply propext
            constructor
            · rintro ⟨hj, hk⟩
              refine ⟨by omega, fun k hk' => ?_⟩
              cases k with
              | zero => exact hz
              | succ k => exact hk k (by omega)
            · rintro ⟨hj, hk⟩
              exact ⟨by omega, fun k hk' => hk (k + 1) (by omega)⟩

theorem cString_length_le (buf : Nat → UInt8) (n : Nat) :
    (cString buf n).length ≤ n := by
  induction n generalizing buf with
  | zero => simp [cString]
  | succ n ih =>
      unfold cString
      split
      · simp
      · simpa using ih _

theorem cString_ne_zero (buf : Nat → UInt8) (n : Nat) :
    ∀ x ∈ cString buf n, x ≠ 0 := by
  induction n generalizing buf with
  | zero => simp [cString]
  | succ n ih =>
      unfold cString
      split
      · simp
      · rintro x (_ | ⟨_, hx⟩)
        · assumption
        · exact ih _ x hx

/-- The key identifier `cmd_generate_key` stores: the array cleared, `n` bytes
copied with `strncpy`, and a NUL written at index `n`. -/
def storedKeyId (buf : Nat → UInt8) (n : Nat) : Bytes 64 :=
  arraySet (strncpy (Bytes.zero 64) buf n) n 0

theorem storedKeyId_eq (buf : Nat → UInt8) (n : Nat) :
    storedKeyId buf n = Bytes.ofList (cString buf n) := by
  funext j
  simp only [storedKeyId, arraySet_apply, strncpy, Bytes.zero_apply, Bytes.ofList_apply,
    cString_getD]
  rcases Nat.lt_or_ge j.val n with hj | hj
  · rw [if_neg (by omega), if_pos hj]
    by_cases hall : ∀ k ≤ j.val, buf k ≠ 0
    · rw [if_neg fun ⟨k, hk, hz⟩ => hall k hk.le hz, if_pos ⟨hj, hall⟩]
    · rw [if_neg (show ¬ (j.val < n ∧ ∀ k ≤ j.val, buf k ≠ 0) from fun h => hall h.2)]
      push_neg at hall
      obtain ⟨k, hk, hz⟩ := hall
      split
      · rfl
      · rename_i hnone
        push_neg at hnone
        rcases Nat.lt_or_eq_of_le hk with hk | rfl
        · exact absurd hz (hnone k hk)
        · exact hz
  · rw [if_neg (by omega : ¬ (j.val < n ∧ _))]
    split
    · rfl
    · rw [if_neg (by omega)]

theorem strncpy_ofList {m : Nat} (l : List UInt8) (n : Nat)
    (hl : l.length ≤ n)
    (hnz : ∀ x ∈ l, x ≠ 0) :
    strncpy (Bytes.zero m) (Bytes.ofList l : Bytes m).view n = Bytes.ofList l := by
  funext j
  have hget : ∀ k, k < m → (Bytes.ofList l : Bytes m).view k = l.getD k 0 := fun k hk =>
    Bytes.view_val (Bytes.ofList l) ⟨k, hk⟩
  simp only [strncpy, Bytes.zero_apply, Bytes.ofList_apply, Bytes.view_val]
  split
  · split
    · rename_i h
      obtain ⟨k, hk, hz⟩ := h
      rw [hget k (by omega)] at hz
      by_cases hkl : k < l.length
      · exact absurd (by simpa [List.getD_eq_getElem?_getD, hkl] using hz)
          (hnz _ (List.getElem_mem hkl))
      · simp [List.getD_eq_getElem?_getD, List.getElem?_eq_none (by omega : l.length ≤ j.val)]
    · rfl
  · simp [List.getD_eq_getElem?_getD, List.getElem?_eq_none (by omega : l.length ≤ j.val)]

end TA
end SuperRelay
