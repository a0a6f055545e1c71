import EvidenceLedger.Bytes.Basic
import EvidenceLedger.Curve.Field

/-!
# Points of the curve

The twisted Edwards curve `-x² + y² = 1 + d x² y²`. A point is held in extended
coordinates: `x = X/Z`, `y = Y/Z` and `T = XY/Z`, for which one addition formula serves all
pairs of points, the neutral one and doublings included.

On the wire a point is the 32 bytes of `y`, the least significant first, whose spare top
bit says whether `x` is odd. Reading is lenient in two ways: `y` may be given unreduced,
and the spare bit may be set where `x` is zero.
-/

namespace EvidenceLedger.Curve

/-- A point in extended coordinates. -/
structure Point where
  x : Field
  y : Field
  z : Field
  t : Field

namespace Point

def coefficient : Field :=
  Field.ofNat 0x52036cee2b6ffe738cc740797779e89800700a4d4141d8ab75eb4dca135978a3

def ofAffine (x y : Field) : Point :=
  { x, y, z := Field.ofNat 1, t := x * y }

/-- The neutral point. -/
def zero : Point :=
  ofAffine (Field.ofNat 0) (Field.ofNat 1)

/-- The base point, which generates the subgroup of prime order. -/
def base : Point :=
  ofAffine
    (Field.ofNat 0x216936d3cd6e53fec0a4e231fdd6dc5c692cc7609525a7b2c9562d608f25d51a)
    (Field.ofNat 0x6666666666666666666666666666666666666666666666666666666666666658)

def add (p q : Point) : Point :=
  let a := (p.y - p.x) * (q.y - q.x)
  let b := (p.y + p.x) * (q.y + q.x)
  let c := p.t * (coefficient + coefficient) * q.t
  let d := (p.z + p.z) * q.z
  let e := b - a
  let f := d - c
  let g := d + c
  let h := b + a
  { x := e * f, y := g * h, z := f * g, t := e * h }

def neg (p : Point) : Point :=
  { p with x := -p.x, t := -p.t }

/-- The multiple `n · p`, by doubling. -/
def multiple (n : Nat) (p : Point) : Point :=
  if n = 0 then zero
  else
    let rest := multiple (n / 2) (add p p)
    if n % 2 = 1 then add p rest else rest
termination_by n

/-- The wire form: `y`, with the oddness of `x` in the spare bit. -/
def toBytes (p : Point) : Bytes :=
  let inverse := p.z.inverse
  let x := p.x * inverse
  let y := p.y * inverse
  Bytes.ofLittleEndian 32 (y.val + if x.isOdd then Nat.pow 2 255 else 0)

def ofBytes? (bytes : Octets 32) : Option Point :=
  let n := Bytes.littleEndian bytes.bytes
  let y := Field.ofNat (n % Nat.pow 2 255)
  let yy := y * y
  let odd := n / Nat.pow 2 255 == 1
  (Field.ratioRoot? (yy - Field.ofNat 1) (coefficient * yy + Field.ofNat 1)).map fun root =>
    ofAffine (if odd then -root else root) y

@[simp] theorem length_toBytes (p : Point) : p.toBytes.length = 32 := by
  simp [toBytes]

end Point

end EvidenceLedger.Curve
