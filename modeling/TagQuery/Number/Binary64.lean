/-!
# Binary floating point

The numbers that queries compare are binary floating-point numbers of 64 bits. A number written in
decimal denotes a fraction, and reading it means choosing the representable number nearest to that
fraction, the one with an even last bit if two are equally near. Everything up to the bits is
computed in exact arithmetic, so there is no intermediate rounding.

A finite number is `m · 2 ^ e` with `m < 2 ^ 53`; the exponents start at `-1074`, where alone `m`
may be below `2 ^ 52`. With `e` counted from that start, the bits of the number are
`e · 2 ^ 52 + m`: the leading bit of `m` carries into the exponent field, which is why a rounding
that reaches `2 ^ 53` needs no correction, and why everything too large ends at the bits of
infinity.
-/

namespace TagQuery.Binary64

/-- The integer nearest to `a / b`, the even one if two are. -/
def roundDiv (a b : Nat) : Nat :=
  let q := a / b
  let r := a % b
  if 2 * r < b then q else if b < 2 * r then q + 1 else q + q % 2

/-- The bits of infinity. -/
def infinityBits : Nat := 0x7FF0000000000000

/-- How many powers of two above the smallest exponent the number nearest to `num / den` has its
last bit: the least count for which the quotient in units of that bit is below `2 ^ 53`. -/
def scaleOf (num den : Nat) : Nat :=
  let estimate : Int := (Nat.log2 num : Int) - Nat.log2 den
  let reaches : Bool :=
    if 0 ≤ estimate then den * Nat.pow 2 estimate.toNat ≤ num
    else den ≤ num * Nat.pow 2 (-estimate).toNat
  ((if reaches then estimate - 52 else estimate - 53) + 1074).toNat

/-- The bits of the number nearest to `num / den`, without a sign. -/
def nearestBits (num den : Nat) : Nat :=
  if num = 0 then 0
  else
    let scale := scaleOf num den
    let m :=
      if scale ≤ 1074 then roundDiv (num * Nat.pow 2 (1074 - scale)) den
      else roundDiv num (den * Nat.pow 2 (scale - 1074))
    min (scale * Nat.pow 2 52 + m) infinityBits

/-- The bits of the number nearest to `significand · 10 ^ exponent`, without a sign. Exponents far
out of range are decided without writing the power down. -/
def decimalBits (significand : Nat) (exponent : Int) : Nat :=
  if significand = 0 then 0
  else if 400 < exponent then infinityBits
  else if exponent + Nat.log2 significand < -1200 then 0
  else if 0 ≤ exponent then nearestBits (significand * Nat.pow 10 exponent.toNat) 1
  else nearestBits significand (Nat.pow 10 (-exponent).toNat)

/-- The number with a sign and the bits of its magnitude. -/
def withSign (negative : Bool) (bits : Nat) : Float :=
  .ofBits (.ofNat (if negative then Nat.pow 2 63 + bits else bits))

/-- The number nearest to `± significand · 10 ^ exponent`. -/
def ofDecimal (negative : Bool) (significand : Nat) (exponent : Int) : Float :=
  withSign negative (decimalBits significand exponent)

end TagQuery.Binary64
