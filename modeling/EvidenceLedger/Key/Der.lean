import EvidenceLedger.Bytes.Basic

/-!
# Tagged elements

The distinguished encoding that key files use: a tag byte, the length of the contents, the
contents. A length has one form only, the shortest: one byte below 128, else a byte that
says how many length bytes follow, the most significant of them not zero.

Only tags of one byte occur. `readAll?` is the usual way in: one element and nothing after
it.
-/

namespace EvidenceLedger.Der

/-- An element: what it is and what is in it. -/
structure Element where
  tag : UInt8
  content : Bytes
deriving DecidableEq

def integerTag : UInt8 := 0x02

def bitStringTag : UInt8 := 0x03

def octetStringTag : UInt8 := 0x04

def identifierTag : UInt8 := 0x06

def sequenceTag : UInt8 := 0x30

/-- The tags of the universal class that are known. -/
def universalTags : List UInt8 :=
  [0x01, 0x02, 0x03, 0x04, 0x05, 0x06, 0x09, 0x0A, 0x0C, 0x12, 0x13, 0x14, 0x15, 0x16, 0x17, 0x18,
    0x1A, 0x1E, 0x30, 0x31]

/-- Does the tag say that its meaning comes from the element around it? -/
def isContextual (tag : UInt8) : Bool :=
  tag &&& 0xC0 == 0x80

/-- Does the tag say that the contents are themselves elements? -/
def isConstructed (tag : UInt8) : Bool :=
  tag &&& 0x20 == 0x20

def tagNumber (tag : UInt8) : UInt8 :=
  tag &&& 0x1F

/-- Is the byte a tag? The number 31 announces a longer tag, which is not read. -/
def isTag (tag : UInt8) : Bool :=
  tagNumber tag != 0x1F && (0x40 ≤ tag || universalTags.contains tag)

/-- The base-256 digits of `n`, the most significant first and not zero. -/
def minimalBytes (n : Nat) : Bytes :=
  if n < 0x100 then [UInt8.ofNat n]
  else if n < 0x10000 then Bytes.ofBigEndian 2 n
  else if n < 0x1000000 then Bytes.ofBigEndian 3 n
  else Bytes.ofBigEndian 4 n

/-- The shortest form of a length below 2³². -/
def lengthBytes (n : Nat) : Bytes :=
  if n < 0x80 then [UInt8.ofNat n]
  else
    let digits := minimalBytes n
    UInt8.ofNat (0x80 + digits.length) :: digits

def Element.toBytes (e : Element) : Bytes :=
  e.tag :: lengthBytes e.content.length ++ e.content

/-- A length in its shortest form, and what follows it. -/
def readLength? : Bytes → Option (Nat × Bytes)
  | [] => none
  | first :: rest =>
    if first < 0x80 then some (first.toNat, rest)
    else
      let count := first.toNat - 0x80
      let digits := rest.take count
      let n := Bytes.bigEndian digits
      if count ≤ 4 && digits.length == count && first :: digits == lengthBytes n then
        some (n, rest.drop count)
      else none

/-- The element that the bytes begin with, and what follows it. -/
def read? : Bytes → Option (Element × Bytes)
  | [] => none
  | tag :: rest =>
    if isTag tag then
      match readLength? rest with
      | none => none
      | some (n, rest) =>
        if n ≤ rest.length then some (⟨tag, rest.take n⟩, rest.drop n) else none
    else none

/-- The contents of the element with the given tag that the bytes begin with, and what
follows it. -/
def expect? (tag : UInt8) (bytes : Bytes) : Option (Bytes × Bytes) :=
  match read? bytes with
  | some (e, rest) => if e.tag = tag then some (e.content, rest) else none
  | none => none

/-- The contents of the element with the given tag that makes up all of the bytes. -/
def readAll? (tag : UInt8) (bytes : Bytes) : Option Bytes :=
  match expect? tag bytes with
  | some (content, []) => some content
  | _ => none

theorem length_of_read? {bytes rest : Bytes} {e : Element} (h : read? bytes = some (e, rest)) :
    rest.length < bytes.length := by
  unfold read? at h
  split at h
  · simp at h
  · next tag tail =>
    split at h
    · split at h
      · simp at h
      · next n after hl =>
        split at h
        · simp only [Option.some.injEq, Prod.mk.injEq] at h
          have hlen : after.length ≤ tail.length := by
            unfold readLength? at hl
            split at hl
            · simp at hl
            · split at hl
              · simp only [Option.some.injEq, Prod.mk.injEq] at hl
                rw [← hl.2]
                simp
              · simp only at hl
                split at hl
                · simp only [Option.some.injEq, Prod.mk.injEq] at hl
                  rw [← hl.2]
                  simp
                  omega
                · simp at hl
          rw [← h.2]
          simp
          omega
        · simp at h
    · simp at h

end EvidenceLedger.Der
