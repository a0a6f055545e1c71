import EvidenceLedger.Bytes.Basic

/-!
# The SHA-2 family

SHA-256 and SHA-512 are one construction over words of two sizes. A `Scheme` fixes the word
and its constants; the padding, the message schedule and the rounds are written once.

The message is followed by a one bit, by zeros, and by its length in bits, so that it fills
whole blocks of sixteen words. Each block is expanded into one word a round, the newest word
first in the list, and the rounds fold it into eight running words.
-/

namespace EvidenceLedger.Sha2

/-- The eight running words of a hash. -/
structure State (W : Type) where
  a : W
  b : W
  c : W
  d : W
  e : W
  f : W
  g : W
  h : W

/-- The word size and the constants of one hash function of the family. -/
structure Scheme (W : Type) where
  /-- Bytes in a word. -/
  wordSize : Nat
  ofNat : Nat → W
  toNat : W → Nat
  /-- One constant a round. -/
  constants : List W
  /-- The running words before the first block. -/
  initial : State W
  add : W → W → W
  xor : W → W → W
  and : W → W → W
  not : W → W
  /-- The rotations of the running words `a` and `e` in a round. -/
  bigSigma0 : W → W
  bigSigma1 : W → W
  /-- The rotations and shifts of the message schedule. -/
  smallSigma0 : W → W
  smallSigma1 : W → W

namespace Scheme

variable {W : Type} (s : Scheme W)

def blockSize : Nat :=
  16 * s.wordSize

/-- The message filled up to whole blocks. -/
def pad (message : Bytes) : Bytes :=
  let used := message.length + 1 + 2 * s.wordSize
  let zeros := (s.blockSize - used % s.blockSize) % s.blockSize
  message ++ 0x80 :: List.replicate zeros 0 ++
    Bytes.ofBigEndian (2 * s.wordSize) (8 * message.length)

/-- The first `count` words of a byte string. -/
def words (count : Nat) (bytes : Bytes) : List W :=
  match count with
  | 0 => []
  | count + 1 =>
    s.ofNat (Bytes.bigEndian (bytes.take s.wordSize)) :: words count (bytes.drop s.wordSize)

/-- Put `count` more words in front of a schedule, whose newest word comes first. -/
def extend (count : Nat) (schedule : List W) : List W :=
  match count with
  | 0 => schedule
  | count + 1 =>
    let back (i : Nat) : W := schedule.getD i (s.ofNat 0)
    let next := s.add (s.add (s.smallSigma1 (back 1)) (back 6))
      (s.add (s.smallSigma0 (back 14)) (back 15))
    extend count (next :: schedule)

/-- One word a round, the first round's word first. -/
def schedule (block : Bytes) : List W :=
  (s.extend (s.constants.length - 16) (s.words 16 block).reverse).reverse

/-- One round, with its constant and its word of the schedule. -/
def round (v : State W) (constant word : W) : State W :=
  let choice := s.xor (s.and v.e v.f) (s.and (s.not v.e) v.g)
  let majority := s.xor (s.xor (s.and v.a v.b) (s.and v.a v.c)) (s.and v.b v.c)
  let t1 := s.add (s.add (s.add v.h (s.bigSigma1 v.e)) (s.add choice constant)) word
  let t2 := s.add (s.bigSigma0 v.a) majority
  { a := s.add t1 t2, b := v.a, c := v.b, d := v.c
    e := s.add v.d t1, f := v.e, g := v.f, h := v.g }

/-- Fold one block into the running words. -/
def absorb (v : State W) (block : Bytes) : State W :=
  let r := (s.constants.zip (s.schedule block)).foldl (fun u kw => s.round u kw.1 kw.2) v
  { a := s.add v.a r.a, b := s.add v.b r.b, c := s.add v.c r.c, d := s.add v.d r.d
    e := s.add v.e r.e, f := s.add v.f r.f, g := s.add v.g r.g, h := s.add v.h r.h }

/-- Fold the first `count` blocks of a byte string into the running words. -/
def absorbAll (count : Nat) (v : State W) (bytes : Bytes) : State W :=
  match count with
  | 0 => v
  | count + 1 => absorbAll count (s.absorb v (bytes.take s.blockSize)) (bytes.drop s.blockSize)

def output (v : State W) : Bytes :=
  [v.a, v.b, v.c, v.d, v.e, v.f, v.g, v.h].flatMap
    fun w => Bytes.ofBigEndian s.wordSize (s.toNat w)

def hash (message : Bytes) : Bytes :=
  let padded := s.pad message
  s.output (s.absorbAll (padded.length / s.blockSize) s.initial padded)

@[simp] theorem length_output (v : State W) : (s.output v).length = 8 * s.wordSize := by
  simp [output]
  omega

@[simp] theorem length_hash (message : Bytes) : (s.hash message).length = 8 * s.wordSize := by
  simp [hash]

end Scheme

end EvidenceLedger.Sha2
