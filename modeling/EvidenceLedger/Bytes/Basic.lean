/-!
# Byte strings

A byte string is a list of bytes. Text becomes bytes through UTF-8 and comes back only if
the bytes are valid UTF-8. Words are read from bytes and written to them in either order.

`Octets n` is a byte string of exactly `n` bytes: digests, seeds, public keys and signatures
have a fixed size, and carrying it in the type keeps every length check at the border.
-/

namespace EvidenceLedger

abbrev Bytes := List UInt8

namespace Bytes

/-- The UTF-8 encoding of `s`. -/
def ofString (s : String) : Bytes :=
  s.toUTF8.data.toList

/-- The text whose UTF-8 encoding is `bytes`, if there is one. -/
def toString? (bytes : Bytes) : Option String :=
  String.fromUTF8? ⟨bytes.toArray⟩

/-- The number whose digits to base 256 are `bytes`, the least significant one first. -/
def littleEndian (bytes : Bytes) : Nat :=
  bytes.foldr (fun b n => b.toNat + 256 * n) 0

/-- The number whose digits to base 256 are `bytes`, the most significant one first. -/
def bigEndian (bytes : Bytes) : Nat :=
  bytes.foldl (fun n b => 256 * n + b.toNat) 0

/-- The `width` least significant digits of `n` to base 256, the least significant one
first. -/
def ofLittleEndian (width n : Nat) : Bytes :=
  match width with
  | 0 => []
  | width + 1 => UInt8.ofNat (n % 256) :: ofLittleEndian width (n / 256)

/-- The `width` least significant digits of `n` to base 256, the most significant one
first. -/
def ofBigEndian (width n : Nat) : Bytes :=
  (ofLittleEndian width n).reverse

@[simp] theorem littleEndian_nil : littleEndian [] = 0 := rfl

@[simp] theorem littleEndian_cons (b : UInt8) (bytes : Bytes) :
    littleEndian (b :: bytes) = b.toNat + 256 * littleEndian bytes := rfl

@[simp] theorem length_ofLittleEndian (width n : Nat) :
    (ofLittleEndian width n).length = width := by
  induction width generalizing n with
  | zero => rfl
  | succ width ih => simp [ofLittleEndian, ih]

@[simp] theorem length_ofBigEndian (width n : Nat) : (ofBigEndian width n).length = width := by
  simp [ofBigEndian]

end Bytes

structure Octets (n : Nat) where
  bytes : Bytes
  length_eq : bytes.length = n
deriving DecidableEq

namespace Octets

/-- The byte string as one of `n` bytes, if it has that many. -/
def ofBytes? (n : Nat) (bytes : Bytes) : Option (Octets n) :=
  if h : bytes.length = n then some ⟨bytes, h⟩ else none

theorem ext {n : Nat} {a b : Octets n} (h : a.bytes = b.bytes) : a = b := by
  cases a
  cases b
  simp_all

@[simp] theorem ofBytes?_bytes {n : Nat} (o : Octets n) : ofBytes? n o.bytes = some o := by
  simp [ofBytes?, o.length_eq]

end Octets

end EvidenceLedger
