import EngineFit.Number.Shortest

/-!
# Quotients rounded to a double, and fixed decimal places

A quotient of naturals becomes the double nearest to it, a half going to the even significand;
a quotient at or beyond `2^1024` after rounding has no double. A double is written with a fixed
number of decimal places by rounding its exact binary value, a half going to the even last digit.
-/

namespace EngineFit
namespace Number

/-- The integer nearest to `num / den`, a half going to the even neighbour (`den > 0`). -/
def roundHalfEven (num den : Nat) : Nat :=
  let q := num / den
  let r := num % den
  if 2 * r > den then q + 1
  else if 2 * r < den then q
  else if q % 2 == 0 then q else q + 1

/-- `a * 2^t / b` rounded to the nearest integer, a half going to even. -/
def roundScaled (a b : Nat) (t : Int) : Nat :=
  roundHalfEven (a * Nat.pow 2 t.toNat) (b * Nat.pow 2 (-t).toNat)

/-- The exponent `E` with `2^E ≤ a / b < 2^(E+1)`, for `a, b > 0`. -/
def binaryExponent (a b : Nat) : Int :=
  let n : Int := (Nat.log2 a : Int) - (Nat.log2 b : Int)
  -- a / b lies in [2^(n-1), 2^(n+1))
  if a * Nat.pow 2 (-n).toNat ≥ b * Nat.pow 2 n.toNat then n else n - 1

/-- The double nearest to `a / b`, as a magnitude; `none` when it is too large for a double. -/
def nearestBinary (a b : Nat) : Option Binary :=
  if a = 0 ∨ b = 0 then some ⟨0, 0, false⟩
  else
    let e := binaryExponent a b
    if e < -1022 then
      let m := roundScaled a b 1074
      some ⟨m, -1074, false⟩
    else
      let m := roundScaled a b (52 - e)
      let (m, e) := if m = Nat.pow 2 53 then (Nat.pow 2 52, e + 1) else (m, e)
      if e > 1023 then none
      else some ⟨m, e - 52, m == Nat.pow 2 52 && e > -1022⟩

/-- The value of `x` with `places` decimal places, rounded half to even, as text. -/
def Binary.fixed (x : Binary) (places : Nat) : String :=
  let scaled := roundScaled (x.m * Nat.pow 10 places) 1 x.q
  let s := toString scaled
  let s := String.ofList (List.replicate (places + 1 - s.length) '0') ++ s
  if places = 0 then s
  else
    let whole := s.length - places
    String.ofList (s.toList.take whole) ++ "." ++ String.ofList (s.toList.drop whole)

end Number
end EngineFit
