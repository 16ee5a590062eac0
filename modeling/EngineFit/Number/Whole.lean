import EngineFit.Number.Shortest

/-!
# The whole part of a double

A finite double is `± m * 2^q` exactly, so its whole part, truncated toward zero, is `m * 2^q`
for `q ≥ 0` and the quotient `m / 2^(-q)` otherwise, with the sign of the double. Infinities
and NaN have no whole part; `Whole.ofFloat` says which of the three a double is.
-/

namespace EngineFit
namespace Number

/-- The whole part of a double, or why it has none. -/
inductive Whole where
  | int (n : Int)
  | infinite
  | notANumber
deriving DecidableEq, Repr

/-- The whole part of a double, truncated toward zero. -/
def Whole.ofFloat (x : Float) : Whole :=
  if x.isNaN then .notANumber
  else if x.isInf then .infinite
  else
    let bits := x.toBits
    let b := Binary.ofBits bits
    let magnitude : Nat :=
      if b.q ≥ 0 then b.m * Nat.pow 2 b.q.toNat else b.m / Nat.pow 2 (-b.q).toNat
    .int (if bits >>> 63 == 1 then -(magnitude : Int) else magnitude)

end Number
end EngineFit
