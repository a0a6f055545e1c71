/-!
# The field of the curve

The integers modulo the prime `2^255 - 19`. Roots are taken by a power: the prime leaves
the remainder 5 modulo 8, so a square has the root `a^((p+3)/8)` or that times a root of
minus one.
-/

namespace EvidenceLedger.Curve

def prime : Nat :=
  Nat.pow 2 255 - 19

theorem prime_pos : 0 < prime := by decide

/-- The integers modulo `prime`. -/
abbrev Field := Fin prime

namespace Field

def ofNat (n : Nat) : Field :=
  ⟨n % prime, Nat.mod_lt n prime_pos⟩

/-- The power `base ^ exponent`, by squaring. -/
def power (base : Field) (exponent : Nat) : Field :=
  if exponent = 0 then ofNat 1
  else
    let rest := power (base * base) (exponent / 2)
    if exponent % 2 = 1 then base * rest else rest
termination_by exponent

/-- The inverse of `a`, and zero for zero. -/
def inverse (a : Field) : Field :=
  power a (prime - 2)

/-- Is the least representative of `a` odd? Exactly one of `a` and `-a` is, unless `a` is
zero. -/
def isOdd (a : Field) : Bool :=
  a.val % 2 == 1

/-- A root of minus one. -/
def rootOfMinusOne : Field :=
  ofNat 0x2b8324804fc1df0b2b4d00993dfbd7a72f431806ad2fe478c4ee1b274a0ea0b0

/-- The root of `u / v` that is not odd, if `u / v` is a square. -/
def ratioRoot? (u v : Field) : Option Field :=
  let v3 := v * v * v
  let guess := u * v3 * power (u * v3 * v3 * v) ((prime - 5) / 8)
  let found :=
    if v * guess * guess = u then some guess
    else if v * guess * guess = -u then some (guess * rootOfMinusOne)
    else none
  found.map fun root => if root.isOdd then -root else root

end Field

end EvidenceLedger.Curve
