import Mathlib

/-!
# GoBFD.Go.Stdlib

The parts of Go's standard library and builtin types that the modelled
code calls: `strings.TrimSpace` and `strings.HasPrefix`, the address type
of `net/netip`, and the `float64` arithmetic of the flap dampener.

`netip.Addr` enters as a parameter.  `NetIP Addr` holds `ParseAddr`,
`Addr.String`, `Addr.IsValid` and the zero value `Addr{}`, and `NetIP4 Addr`
the four-byte form of IPv4 addresses; `NetIP.Lawful` and `NetIP4.Lawful`
state what the package documents about them and the proofs use.  `ipv4`
is one lawful instance, for dotted-quad text: `ParseAddr` on IPv4 text, with
the checks of the package's `parseIPv4`, and `String` in dotted-decimal
form, with `ipv4Bytes` its four-byte form.  It is what the model runs on
when a concrete configuration is evaluated; IPv6 text does not parse in it.

`int64`, and `int` and `time.Duration` with it, wrap on overflow.  Models
keep exact values as `Int` and apply `int64` where the code's arithmetic
may leave the range; `InInt64` says that it does not.

`float64` enters the same way.  `Float64 F` holds the constants,
operations and comparisons the code applies to its carrier `F`, with
`math.Pow` in the one form the code calls it.  `ieee754` is Go's own
`float64`, Lean's `Float`.  Its operations do not reduce in proofs, so
concrete runs use `exact`, rational arithmetic, which agrees with binary64
on the small integer sums and comparisons those runs make.
-/

namespace Go

/-! ## strings.TrimSpace -/

/-- `unicode.IsSpace`: the Latin-1 spaces and the other characters of
Unicode's White_Space property. -/
def isSpace (c : Char) : Bool :=
  c = '\t' || c = '\n' || c = '\x0b' || c = '\x0c' || c = '\r' || c = ' ' ||
    c = '\x85' || c = '\xa0' || c = '\u1680' || ('\u2000' ≤ c && c ≤ '\u200a') ||
    c = '\u2028' || c = '\u2029' || c = '\u202f' || c = '\u205f' || c = '\u3000'

/-- `strings.TrimSpace(s)`: `s` without its leading and trailing spaces. -/
def trimSpace (s : String) : String :=
  String.ofList ((s.toList.dropWhile isSpace).reverse.dropWhile isSpace).reverse

/-- `strings.HasPrefix(s, prefix)`. -/
def hasPrefix (s pre : String) : Bool := pre.toList.isPrefixOf s.toList

/-- `s[len(prefix):]` after a matched prefix.  Go slices bytes; for the
ASCII prefixes the code uses, the byte count is the character count and
the cut falls between characters. -/
def dropPrefix (s pre : String) : String := String.ofList (s.toList.drop pre.length)

theorem hasPrefix_append (pre s : String) : hasPrefix (pre ++ s) pre = true := by
  rw [hasPrefix, String.toList_append, List.isPrefixOf_iff_prefix]
  exact List.prefix_append _ _

theorem dropPrefix_append (pre s : String) : dropPrefix (pre ++ s) pre = s := by
  rw [dropPrefix, String.toList_append, ← String.length_toList, List.drop_left,
    String.ofList_toList]

/-! ## net/netip -/

/-- The functions of `net/netip` over its address type `Addr`. -/
structure NetIP (Addr : Type) where
  /-- `netip.ParseAddr(s)`; `none` is a returned error. -/
  parseAddr : String → Option Addr
  /-- `Addr.String()`. -/
  string : Addr → String
  /-- `Addr.IsValid()`. -/
  isValid : Addr → Bool
  /-- The zero value `netip.Addr{}`. -/
  zero : Addr

/-- What the package documents: the zero `Addr` is the one invalid address,
printed as `"invalid IP"`, and `ParseAddr` returns valid addresses only. -/
structure NetIP.Lawful {Addr : Type} (ip : NetIP Addr) : Prop where
  isValid_zero : ip.isValid ip.zero = false
  string_zero : ip.string ip.zero = "invalid IP"
  isValid_parseAddr : ∀ s a, ip.parseAddr s = some a → ip.isValid a = true

/-- The four-byte form of IPv4 addresses in `net/netip`: `Addr.Is4`,
`Addr.As4` and `netip.AddrFrom4`.  `As4` panics on an address that is
neither IPv4 nor IPv4-mapped IPv6; the modelled code calls it only after
`Is4`, so its value elsewhere is left open. -/
structure NetIP4 (Addr : Type) where
  is4 : Addr → Bool
  as4 : Addr → Vector UInt8 4
  addrFrom4 : Vector UInt8 4 → Addr

/-- What the package documents: `AddrFrom4` builds an IPv4 address with the
given bytes, and an IPv4 address is the one built from its bytes (IPv4
addresses carry no zone). -/
structure NetIP4.Lawful {Addr : Type} (ip4 : NetIP4 Addr) : Prop where
  is4_addrFrom4 : ∀ b, ip4.is4 (ip4.addrFrom4 b) = true
  as4_addrFrom4 : ∀ b, ip4.as4 (ip4.addrFrom4 b) = b
  addrFrom4_as4 : ∀ a, ip4.is4 a = true → ip4.addrFrom4 (ip4.as4 a) = a

/-! ## Dotted-quad addresses -/

/-- The loop of `parseIPv4` over the characters still to read: `fields`
holds the octets read, `val` the value of the current one and `digLen` its
number of digits.  A dot needs a digit before it (which rules out a dot at
the start and two dots in a row) and a character after it. -/
def parseIPv4Loop : List Char → List UInt8 → Nat → Nat → Option (List UInt8)
  | [], fields, val, _ => if fields.length < 3 then none else some (fields ++ [val.toUInt8])
  | c :: cs, fields, val, digLen =>
    if c.isDigit then
      -- a leading zero, or a value above 255, is an error
      if digLen = 1 ∧ val = 0 then none
      else if val * 10 + (c.toNat - '0'.toNat) > 255 then none
      else parseIPv4Loop cs fields (val * 10 + (c.toNat - '0'.toNat)) (digLen + 1)
    else if c = '.' then
      if digLen = 0 ∨ cs = [] then none
      else if fields.length = 3 then none
      else parseIPv4Loop cs (fields ++ [val.toUInt8]) 0 0
    else none

/-- `ParseAddr` restricted to IPv4: the first `.`, `:` or `%` decides the
form, and only the dotted quad is accepted here. -/
def parseIPv4Addr (s : String) : Option (Option (List UInt8)) :=
  match s.toList.find? (fun c => c = '.' ∨ c = ':' ∨ c = '%') with
  | some '.' => (parseIPv4Loop s.toList [] 0 0).map some
  | _ => none

/-- `Addr.String()` of an IPv4 address, and of the zero `Addr`. -/
def ipv4String : Option (List UInt8) → String
  | none => "invalid IP"
  | some octets => ".".intercalate (octets.map fun o => toString o.toNat)

/-- The IPv4 instance: an address is its octets, `none` being `Addr{}`. -/
def ipv4 : NetIP (Option (List UInt8)) where
  parseAddr := parseIPv4Addr
  string := ipv4String
  isValid := Option.isSome
  zero := none

example : ipv4.parseAddr "10.0.0.1" = some (some [10, 0, 0, 1]) := by decide
example : ipv4.parseAddr "10.0.0.01" = none := by decide
example : ipv4.string (some [192, 168, 1, 254]) = "192.168.1.254" := by decide

theorem ipv4_lawful : ipv4.Lawful where
  isValid_zero := rfl
  string_zero := rfl
  isValid_parseAddr := by
    intro s a h
    simp only [ipv4, parseIPv4Addr] at h
    split at h
    · obtain ⟨os, -, rfl⟩ := Option.map_eq_some_iff.mp h
      rfl
    · cases h

/-- The four-byte form on the same addresses. -/
def ipv4Bytes : NetIP4 (Option (List UInt8)) where
  is4
    | some [_, _, _, _] => true
    | _ => false
  as4
    | some [b₀, b₁, b₂, b₃] => #v[b₀, b₁, b₂, b₃]
    | _ => #v[0, 0, 0, 0]
  addrFrom4 b := some b.toList

theorem ipv4Bytes_lawful : ipv4Bytes.Lawful where
  is4_addrFrom4 := by
    intro b
    obtain ⟨⟨l⟩, hl⟩ := b
    match l, hl with
    | [_, _, _, _], _ => rfl
  as4_addrFrom4 := by
    intro b
    obtain ⟨⟨l⟩, hl⟩ := b
    match l, hl with
    | [_, _, _, _], _ => rfl
  addrFrom4_as4 := by
    intro a ha
    match a, ha with
    | some [_, _, _, _], _ => rfl

/-! ## float64 -/

/-- The `float64` constants, operations and comparisons the modelled code
uses, over the carrier `F`.  Comparisons return Go's `bool`. -/
structure Float64 (F : Type) where
  /-- An untyped integer constant converted to `float64`. -/
  ofNat : Nat → F
  add : F → F → F
  mul : F → F → F
  lt : F → F → Bool
  le : F → F → Bool
  /-- `==`. -/
  beq : F → F → Bool
  /-- The constant `0.001`. -/
  milli : F
  /-- `math.Pow(0.5, float64(a) / float64(b))` for two `int64` values. -/
  halfPow : Int → Int → F

/-- Go's `float64`: IEEE 754 binary64, which is Lean's `Float`. -/
def ieee754 : Float64 Float where
  ofNat n := Float.ofNat n
  add a b := a + b
  mul a b := a * b
  lt a b := decide (a < b)
  le a b := decide (a ≤ b)
  beq a b := a == b
  milli := 0.001
  halfPow a b := Float.pow 0.5 (Float.ofInt a / Float.ofInt b)

/-- Exact rational arithmetic, with the value of `math.Pow` given. -/
def exact (halfPow : Int → Int → Rat) : Float64 Rat where
  ofNat n := (n : Rat)
  add a b := a + b
  mul a b := a * b
  lt a b := decide (a < b)
  le a b := decide (a ≤ b)
  beq a b := decide (a = b)
  milli := 1 / 1000
  halfPow := halfPow

/-! ## int64 arithmetic -/

/-- The `int64` that a Go operation leaves of its exact result: two's
complement wraparound into `[-2^63, 2^63)`. -/
def int64 (x : Int) : Int := x.bmod (2 ^ 64)

/-- The exact result fits `int64`: the operation does not overflow. -/
def InInt64 (x : Int) : Prop := -2 ^ 63 ≤ x ∧ x < 2 ^ 63

instance (x : Int) : Decidable (InInt64 x) := inferInstanceAs (Decidable (_ ∧ _))

/-- Half the modulus, on either side of zero. -/
theorem half_two_pow_64 : ((2 ^ 64 : Nat) : Int) / 2 = 2 ^ 63 ∧ (((2 ^ 64 : Nat) : Int) + 1) / 2 = 2 ^ 63 :=
  ⟨by decide, by decide⟩

theorem int64_of_inInt64 {x : Int} (h : InInt64 x) : int64 x = x := by
  obtain ⟨hlo, hhi⟩ := half_two_pow_64
  exact Int.bmod_eq_of_le (by rw [hlo]; exact h.1) (by rw [hhi]; exact h.2)

theorem inInt64_int64 (x : Int) : InInt64 (int64 x) := by
  obtain ⟨hlo, hhi⟩ := half_two_pow_64
  have hle := Int.le_bmod (x := x) (m := 2 ^ 64) (by decide)
  have hlt := Int.bmod_lt (x := x) (m := 2 ^ 64) (by decide)
  rw [hlo] at hle
  rw [hhi] at hlt
  exact ⟨hle, hlt⟩

end Go
