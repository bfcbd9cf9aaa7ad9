import GoBFD.Go.Slice
import Mathlib.Data.Nat.Bitwise

/-!
# GoBFD.Go.BigEndian

`encoding/binary.BigEndian` for 32-bit and 16-bit words: `PutUint32` writes
the four bytes of a word, most significant first, into the front of a slice,
and `Uint32` reads them back; `PutUint16` and `Uint16` do the same with two
bytes.  All four panic on a slice shorter than the word (the standard
library's early bounds checks `_ = b[3]` and `_ = b[1]`).

The two round trips (`uint32_bytes`, `bytes_uint32`) go through `toNat` and
`omega`, with the one bitwise fact that OR-ing a value below `2 ^ i` into a
multiple of `2 ^ i` is addition.
-/

namespace Go

/-- The four bytes of a word, most significant first: `byte(v >> 24)`,
`byte(v >> 16)`, `byte(v >> 8)`, `byte(v)`. -/
def bytesBE (v : UInt32) : List UInt8 :=
  [(v >>> 24).toUInt8, (v >>> 16).toUInt8, (v >>> 8).toUInt8, v.toUInt8]

/-- The word whose big-endian bytes are `b₀ b₁ b₂ b₃`:
`uint32(b[3]) | uint32(b[2])<<8 | uint32(b[1])<<16 | uint32(b[0])<<24`. -/
def wordBE (b₀ b₁ b₂ b₃ : UInt8) : UInt32 :=
  b₃.toUInt32 ||| b₂.toUInt32 <<< 8 ||| b₁.toUInt32 <<< 16 ||| b₀.toUInt32 <<< 24

/-- `binary.BigEndian.PutUint32(b, v)`. -/
def putUint32 (b : List UInt8) (v : UInt32) : Result ε (List UInt8) :=
  if 4 ≤ b.length then .ok (bytesBE v ++ b.drop 4) else .error .panic

/-- `binary.BigEndian.Uint32(b)`. -/
def uint32 (b : List UInt8) : Result ε UInt32 :=
  match b with
  | b₀ :: b₁ :: b₂ :: b₃ :: _ => .ok (wordBE b₀ b₁ b₂ b₃)
  | _ => .error .panic

@[simp] theorem length_bytesBE (v : UInt32) : (bytesBE v).length = 4 := rfl

theorem putUint32_of_le {b : List UInt8} (h : 4 ≤ b.length) (v : UInt32) :
    (putUint32 b v : Result ε (List UInt8)) = .ok (bytesBE v ++ b.drop 4) := by
  simp [putUint32, h]

/-- `PutUint32(b[lo:hi], v)` on a four-byte window overwrites it with the
word's bytes. -/
theorem within_putUint32 {s : List UInt8} {lo hi : Nat} (h₁ : hi = lo + 4) (h₂ : hi ≤ s.length)
    (v : UInt32) :
    (within s lo hi (putUint32 · v) : Result ε (List UInt8)) = .ok (overwrite s lo (bytesBE v)) := by
  subst h₁
  -- the window the callback sees is exactly four bytes long
  have hwin : ((s.drop lo).take (lo + 4 - lo)).length = 4 := by
    simp only [List.length_take, List.length_drop]
    omega
  apply within_eq_overwrite (by omega) h₂
  · rw [putUint32_of_le hwin.ge, List.drop_eq_nil_of_le hwin.le, List.append_nil]
  · simp only [length_bytesBE]
    omega

/-- `PutUint32` right after the written prefix extends it by the word's bytes. -/
theorem within_putUint32_front {s w : List UInt8} {lo hi : Nat} (h₁ : lo = w.length)
    (h₂ : hi = lo + 4) (h₃ : hi ≤ s.length) (v : UInt32) :
    (within (overwrite s 0 w) lo hi (putUint32 · v) : Result ε (List UInt8)) =
      .ok (overwrite s 0 (w ++ bytesBE v)) := by
  have hlen : (overwrite s 0 w).length = s.length := length_overwrite (by omega)
  rw [within_putUint32 h₂ (by omega), overwrite_overwrite (by simp [h₁]) (by simp; omega)]

theorem uint32_bytesBE_append (v : UInt32) (rest : List UInt8) :
    (uint32 (bytesBE v ++ rest) : Result ε UInt32) =
      .ok (wordBE (v >>> 24).toUInt8 (v >>> 16).toUInt8 (v >>> 8).toUInt8 v.toUInt8) := rfl

/-! ## The round trips -/

/-- OR-ing a value below `2 ^ i` into a multiple of `2 ^ i` adds it. -/
theorem or_shiftLeft_of_lt {a : Nat} {i : Nat} (h : a < 2 ^ i) (b : Nat) :
    a ||| b <<< i = b <<< i + a := by
  rw [Nat.or_comm, Nat.shiftLeft_add_eq_or_of_lt h]

private theorem shift_amounts :
    UInt32.toNat 8 % 32 = 8 ∧ UInt32.toNat 16 % 32 = 16 ∧ UInt32.toNat 24 % 32 = 24 :=
  ⟨rfl, rfl, rfl⟩

/-- The value of a word assembled from four bytes. -/
theorem toNat_wordBE (b₀ b₁ b₂ b₃ : UInt8) :
    (wordBE b₀ b₁ b₂ b₃).toNat =
      b₀.toNat * 2 ^ 24 + b₁.toNat * 2 ^ 16 + b₂.toNat * 2 ^ 8 + b₃.toNat := by
  have h₀ := b₀.toNat_lt
  have h₁ := b₁.toNat_lt
  have h₂ := b₂.toNat_lt
  have h₃ := b₃.toNat_lt
  simp only [wordBE, UInt32.toNat_or, UInt32.toNat_shiftLeft, UInt8.toNat_toUInt32,
    shift_amounts]
  -- each shifted byte stays below `2 ^ 32`, so the wrap-around does nothing
  rw [Nat.mod_eq_of_lt (by omega), Nat.mod_eq_of_lt (by omega), Nat.mod_eq_of_lt (by omega)]
  rw [or_shiftLeft_of_lt (i := 8) h₃, or_shiftLeft_of_lt (i := 16) (by omega),
    or_shiftLeft_of_lt (i := 24) (by omega)]
  simp only [Nat.shiftLeft_eq]
  omega

/-- Reading back the bytes of a word gives the word. -/
theorem wordBE_bytesBE (v : UInt32) :
    wordBE (v >>> 24).toUInt8 (v >>> 16).toUInt8 (v >>> 8).toUInt8 v.toUInt8 = v := by
  apply UInt32.toNat_inj.mp
  have hv := v.toNat_lt
  rw [toNat_wordBE]
  simp only [UInt32.toNat_toUInt8, UInt32.toNat_shiftRight, shift_amounts,
    Nat.shiftRight_eq_div_pow]
  omega

/-- Writing out a word read from four bytes gives the bytes. -/
theorem bytesBE_wordBE (b₀ b₁ b₂ b₃ : UInt8) :
    bytesBE (wordBE b₀ b₁ b₂ b₃) = [b₀, b₁, b₂, b₃] := by
  have h₀ := b₀.toNat_lt
  have h₁ := b₁.toNat_lt
  have h₂ := b₂.toNat_lt
  have h₃ := b₃.toNat_lt
  have hv := toNat_wordBE b₀ b₁ b₂ b₃
  simp only [bytesBE, List.cons.injEq, and_true]
  refine ⟨?_, ?_, ?_, ?_⟩ <;> apply UInt8.toNat_inj.mp <;>
    simp only [UInt32.toNat_toUInt8, UInt32.toNat_shiftRight, hv, Nat.shiftRight_eq_div_pow,
      shift_amounts] <;> omega

/-- `Uint32` undoes `PutUint32`. -/
theorem uint32_putUint32 (v : UInt32) (rest : List UInt8) :
    (uint32 (bytesBE v ++ rest) : Result ε UInt32) = .ok v := by
  rw [uint32_bytesBE_append, wordBE_bytesBE]

/-! ## 16-bit words -/

/-- The two bytes of a 16-bit word, most significant first: `byte(v >> 8)`,
`byte(v)`. -/
def bytesBE16 (v : UInt16) : List UInt8 :=
  [(v >>> 8).toUInt8, v.toUInt8]

/-- The 16-bit word whose big-endian bytes are `b₀ b₁`:
`uint16(b[1]) | uint16(b[0])<<8`. -/
def wordBE16 (b₀ b₁ : UInt8) : UInt16 :=
  b₁.toUInt16 ||| b₀.toUInt16 <<< 8

/-- `binary.BigEndian.PutUint16(b, v)`. -/
def putUint16 (b : List UInt8) (v : UInt16) : Result ε (List UInt8) :=
  if 2 ≤ b.length then .ok (bytesBE16 v ++ b.drop 2) else .error .panic

/-- `binary.BigEndian.Uint16(b)`. -/
def uint16 (b : List UInt8) : Result ε UInt16 :=
  match b with
  | b₀ :: b₁ :: _ => .ok (wordBE16 b₀ b₁)
  | _ => .error .panic

@[simp] theorem length_bytesBE16 (v : UInt16) : (bytesBE16 v).length = 2 := rfl

@[simp] theorem bytesBE16_zero : bytesBE16 0 = [0, 0] := rfl

theorem putUint16_of_le {b : List UInt8} (h : 2 ≤ b.length) (v : UInt16) :
    (putUint16 b v : Result ε (List UInt8)) = .ok (bytesBE16 v ++ b.drop 2) := by
  simp [putUint16, h]

/-- `PutUint16(b[lo:hi], v)` on a two-byte window overwrites it with the
word's bytes. -/
theorem within_putUint16 {s : List UInt8} {lo hi : Nat} (h₁ : hi = lo + 2) (h₂ : hi ≤ s.length)
    (v : UInt16) :
    (within s lo hi (putUint16 · v) : Result ε (List UInt8)) = .ok (overwrite s lo (bytesBE16 v)) := by
  subst h₁
  have hwin : ((s.drop lo).take (lo + 2 - lo)).length = 2 := by
    simp only [List.length_take, List.length_drop]
    omega
  apply within_eq_overwrite (by omega) h₂
  · rw [putUint16_of_le hwin.ge, List.drop_eq_nil_of_le hwin.le, List.append_nil]
  · simp only [length_bytesBE16]
    omega

/-- `PutUint16` right after the written prefix extends it by the word's bytes. -/
theorem within_putUint16_front {s w : List UInt8} {lo hi : Nat} (h₁ : lo = w.length)
    (h₂ : hi = lo + 2) (h₃ : hi ≤ s.length) (v : UInt16) :
    (within (overwrite s 0 w) lo hi (putUint16 · v) : Result ε (List UInt8)) =
      .ok (overwrite s 0 (w ++ bytesBE16 v)) := by
  have hlen : (overwrite s 0 w).length = s.length := length_overwrite (by omega)
  rw [within_putUint16 h₂ (by omega), overwrite_overwrite (by simp [h₁]) (by simp; omega)]

/-- `PutUint16` inside the written prefix rewrites two of its bytes. -/
theorem within_putUint16_inside {s w : List UInt8} {lo hi : Nat} (h₁ : hi = lo + 2)
    (h₂ : hi ≤ w.length) (h₃ : w.length ≤ s.length) (v : UInt16) :
    (within (overwrite s 0 w) lo hi (putUint16 · v) : Result ε (List UInt8)) =
      .ok (overwrite s 0 (overwrite w lo (bytesBE16 v))) := by
  have hlen : (overwrite s 0 w).length = s.length := length_overwrite (by omega)
  rw [within_putUint16 h₁ (by omega), overwrite_zero_overwrite (by simp; omega)]

/-- The value of a 16-bit word assembled from two bytes. -/
theorem toNat_wordBE16 (b₀ b₁ : UInt8) : (wordBE16 b₀ b₁).toNat = b₀.toNat * 2 ^ 8 + b₁.toNat := by
  have h₀ := b₀.toNat_lt
  have h₁ := b₁.toNat_lt
  have h8 : UInt16.toNat 8 % 16 = 8 := rfl
  simp only [wordBE16, UInt16.toNat_or, UInt16.toNat_shiftLeft, UInt8.toNat_toUInt16, h8]
  -- the shifted byte stays below `2 ^ 16`, so the wrap-around does nothing
  rw [Nat.mod_eq_of_lt (by rw [Nat.shiftLeft_eq]; omega), or_shiftLeft_of_lt h₁, Nat.shiftLeft_eq]

/-- Reading back the bytes of a 16-bit word gives the word. -/
theorem wordBE16_bytesBE16 (v : UInt16) : wordBE16 (v >>> 8).toUInt8 v.toUInt8 = v := by
  apply UInt16.toNat_inj.mp
  have hv := v.toNat_lt
  have h8 : UInt16.toNat 8 % 16 = 8 := rfl
  rw [toNat_wordBE16]
  simp only [UInt16.toNat_toUInt8, UInt16.toNat_shiftRight, h8, Nat.shiftRight_eq_div_pow]
  omega

/-- `Uint16` undoes `PutUint16`. -/
theorem uint16_putUint16 (v : UInt16) (rest : List UInt8) :
    (uint16 (bytesBE16 v ++ rest) : Result ε UInt16) = .ok v := by
  show (Except.ok (wordBE16 (v >>> 8).toUInt8 v.toUInt8) : Result ε UInt16) = .ok v
  rw [wordBE16_bytesBE16]

end Go
