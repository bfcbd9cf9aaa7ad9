import Mathlib

/-!
# GoBFD.Inet.Checksum

The Internet checksum of RFC 1071 over 16-bit words: one's complement
addition with end-around carry (`addc`), the one's complement sum of a
sequence of words (`onesSum`), and the big-endian words of a byte string
(`words`, a last odd byte padded with a zero byte).

The value the end-around carry leaves is fixed by the plain sum of the
words: it is its `residue`, zero for zero and otherwise the representative
of the sum modulo `0xFFFF` in `1 … 0xFFFF` (`onesSum_eq_residue`).  Folding
the carries out of a wide accumulator, as implementations do once after
summing, keeps the residue (`residue_mod_add_div`), and a checksum field
that holds the complement of the residue brings the sum of the whole to
`0xFFFF` (`residue_add_complement`), which is what a receiver checks.
-/

namespace Inet

/-- The end-around-carry normal form of a sum: zero for zero, otherwise the
representative modulo `0xFFFF` in `1 … 0xFFFF`. -/
def residue (n : Nat) : Nat :=
  if n = 0 then 0 else (n - 1) % 0xFFFF + 1

/-- One's complement addition of two 16-bit words: the carry out of the top
bit is added back at the bottom. -/
def addc (a b : Nat) : Nat :=
  if a + b < 0x10000 then a + b else a + b - 0xFFFF

/-- The one's complement sum of a sequence of 16-bit words. -/
def onesSum (ws : List Nat) : Nat :=
  ws.foldl addc 0

/-- The big-endian 16-bit words of a byte string, a last odd byte padded
with a zero byte. -/
def words : List UInt8 → List Nat
  | b₀ :: b₁ :: rest => (b₀.toNat * 0x100 + b₁.toNat) :: words rest
  | [b] => [b.toNat * 0x100]
  | [] => []

/-! ## The residue -/

theorem residue_le (n : Nat) : residue n ≤ 0xFFFF := by
  unfold residue
  split <;> omega

theorem residue_of_le {n : Nat} (h : n ≤ 0xFFFF) : residue n = n := by
  unfold residue
  split <;> omega

/-- Only the residue of a partial sum matters to what is added after it. -/
theorem residue_add_residue (a b : Nat) : residue (residue a + b) = residue (a + b) := by
  unfold residue
  split_ifs <;> omega

/-- Folding the carries out of a wide accumulator keeps its residue:
`0x10000` is one modulo `0xFFFF`. -/
theorem residue_mod_add_div (n : Nat) : residue (n % 0x10000 + n / 0x10000) = residue n := by
  unfold residue
  split_ifs <;> omega

/-- A checksum field holding the complement of the residue brings the sum
to `0xFFFF`, also when the rest sums to zero. -/
theorem residue_add_complement (n : Nat) : residue (n + (0xFFFF - residue n)) = 0xFFFF := by
  unfold residue
  split_ifs <;> omega

/-! ## The one's complement sum -/

theorem addc_eq_residue {a b : Nat} (ha : a ≤ 0xFFFF) (hb : b ≤ 0xFFFF) :
    addc a b = residue (a + b) := by
  unfold addc residue
  split_ifs <;> omega

/-- Adding words one by one with end-around carry, from the residue of `n`,
ends at the residue of `n` plus their plain sum. -/
theorem foldl_addc_residue {ws : List Nat} (hws : ∀ w ∈ ws, w ≤ 0xFFFF) (n : Nat) :
    ws.foldl addc (residue n) = residue (n + ws.sum) := by
  induction ws generalizing n with
  | nil => simp
  | cons w ws ih =>
    have hw : w ≤ 0xFFFF := hws w List.mem_cons_self
    rw [List.foldl_cons, addc_eq_residue (residue_le n) hw, residue_add_residue,
      ih (fun v hv => hws v (List.mem_cons_of_mem w hv)), List.sum_cons, Nat.add_assoc]

theorem onesSum_eq_residue {ws : List Nat} (hws : ∀ w ∈ ws, w ≤ 0xFFFF) :
    onesSum ws = residue ws.sum := by
  have h := foldl_addc_residue hws 0
  rw [Nat.zero_add] at h
  exact h

/-! ## Words of a byte string -/

theorem le_of_mem_words {bs : List UInt8} : ∀ w ∈ words bs, w ≤ 0xFFFF := by
  induction bs using words.induct with
  | case1 b₀ b₁ rest ih =>
    intro w hw
    rcases List.mem_cons.mp hw with rfl | hw
    · have h₀ := b₀.toNat_lt
      have h₁ := b₁.toNat_lt
      omega
    · exact ih w hw
  | case2 b =>
    intro w hw
    rw [words, List.mem_singleton] at hw
    have h := b.toNat_lt
    omega
  | case3 => simp [words]

/-- Each word stands for at most two bytes. -/
theorem sum_words_le (bs : List UInt8) : (words bs).sum ≤ 0xFFFF * bs.length := by
  induction bs using words.induct with
  | case1 b₀ b₁ rest ih =>
    have h₀ := b₀.toNat_lt
    have h₁ := b₁.toNat_lt
    simp only [words, List.sum_cons, List.length_cons]
    omega
  | case2 b =>
    have h := b.toNat_lt
    simp only [words, List.sum_cons, List.sum_nil, List.length_singleton]
    omega
  | case3 => simp [words]

/-- An even-length prefix splits the words at its end. -/
theorem words_append {a : List UInt8} (h : a.length % 2 = 0) (b : List UInt8) :
    words (a ++ b) = words a ++ words b := by
  induction a using words.induct with
  | case1 b₀ b₁ rest ih =>
    simp only [List.cons_append, words, List.length_cons] at h ⊢
    rw [ih (by omega)]
  | case2 b' => simp at h
  | case3 => rfl

/-- The one's complement sum of a byte string's words is the residue of
their plain sum. -/
theorem onesSum_words (bs : List UInt8) : onesSum (words bs) = residue (words bs).sum :=
  onesSum_eq_residue le_of_mem_words

end Inet
