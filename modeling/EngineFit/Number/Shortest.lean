/-!
# Shortest decimal digits of a binary64 value

A finite double stands for the interval of reals that round to it: from halfway to its lower
neighbour to halfway to its upper neighbour, both ends included exactly when the significand is
even. Its shortest decimal is the decimal with the fewest significant digits in that interval;
of two such decimals the nearer one, and of two equally near the one with an even last digit.

The search runs over the digit counts `1, 2, …, 17`. For `n` digits it tests the two
neighbours of the value on the grid `10^(k - n)`, where `10^k` is the least power of ten above
the value; every test compares naturals exactly. A point of a grid in the interval implies that
one of the value's two neighbours on that grid lies in it, so the first grid with a hit has the
fewest digits. Seventeen digits always suffice; the exact expansion stands behind the search.
-/

namespace EngineFit
namespace Number

/-- A finite non-negative binary64 magnitude `m * 2^q`. -/
structure Binary where
  m : Nat
  q : Int
  /-- The gap to the value below is half the gap to the value above: `m` is the least
  normal significand and a smaller exponent exists. -/
  narrowBelow : Bool

/-- The magnitude of a finite double, from its bits (the sign bit is ignored). -/
def Binary.ofBits (b : UInt64) : Binary :=
  let e := ((b >>> 52) &&& 0x7FF).toNat
  let f := (b &&& 0xFFFFFFFFFFFFF).toNat
  if e == 0 then ⟨f, -1074, false⟩ else ⟨Nat.pow 2 52 + f, (e : Int) - 1075, f == 0 && e > 1⟩

/-- A decimal `digits * 10^exp`. -/
structure Dec where
  digits : Nat
  exp : Int
deriving Repr, DecidableEq

/-- Compares `a * 10^i` with `n * 2^j`, exactly. -/
def cmpScaled (a : Nat) (i : Int) (n : Nat) (j : Int) : Ordering :=
  compare (a * Nat.pow 10 i.toNat * Nat.pow 2 (-j).toNat) (n * Nat.pow 2 j.toNat * Nat.pow 10 (-i).toNat)

/-- Whether the decimal `d` lies in the interval of reals that round to `x`. -/
def Binary.readsBack (x : Binary) (d : Dec) : Bool :=
  let lo := if x.narrowBelow then 4 * x.m - 1 else 4 * x.m - 2
  let hi := 4 * x.m + 2
  let incl := x.m % 2 == 0
  let cl := cmpScaled d.digits d.exp lo (x.q - 2)
  let ch := cmpScaled d.digits d.exp hi (x.q - 2)
  (cl == .gt || (incl && cl == .eq)) && (ch == .lt || (incl && ch == .eq))

/-- Whether `m * 2^q < 10^k`. -/
def belowPow10 (m : Nat) (q : Int) (k : Int) : Bool :=
  cmpScaled 1 k m q == .gt

/-- Number of binary digits of `n`. -/
def bitLength (n : Nat) : Nat :=
  if n = 0 then 0 else Nat.log2 n + 1

/-- Moves an estimate of the scale up until `m * 2^q < 10^k`, within `fuel` steps. -/
def scaleUp (m : Nat) (q : Int) : Nat → Int → Int
  | 0, k => k
  | fuel + 1, k => if belowPow10 m q k then k else scaleUp m q fuel (k + 1)

/-- Moves an estimate of the scale down while `m * 2^q < 10^(k-1)`, within `fuel` steps. -/
def scaleDown (m : Nat) (q : Int) : Nat → Int → Int
  | 0, k => k
  | fuel + 1, k => if belowPow10 m q (k - 1) then scaleDown m q fuel (k - 1) else k

/-- The least `k` with `m * 2^q < 10^k`, for `m > 0`: an estimate from the binary length,
corrected by exact comparisons. -/
def scale (m : Nat) (q : Int) : Int :=
  let bits : Int := (bitLength m : Int) + q
  let guess := (bits * 30103) / 100000
  scaleDown m q 4 (scaleUp m q 4 guess)

/-- `⌊m * 2^q / 10^e⌋`. -/
def floorOnGrid (m : Nat) (q : Int) (e : Int) : Nat :=
  (m * Nat.pow 2 q.toNat * Nat.pow 10 (-e).toNat) / (Nat.pow 2 (-q).toNat * Nat.pow 10 e.toNat)

/-- Removes trailing zeros of the digits into the exponent (at most `fuel` of them). -/
def Dec.trim : Nat → Dec → Dec
  | 0, d => d
  | fuel + 1, d =>
    if d.digits ≠ 0 ∧ d.digits % 10 = 0 then Dec.trim fuel ⟨d.digits / 10, d.exp + 1⟩ else d

/-- Of two candidates in the interval, the nearer to `m * 2^q`; on a tie the even one. -/
def nearer (m : Nat) (q : Int) (lo hi : Dec) : Dec :=
  -- compare 2 * value with lo + hi = (2 * lo.digits + 1) * 10^e
  match cmpScaled (2 * lo.digits + 1) lo.exp (2 * m) q with
  | .gt => lo
  | .lt => hi
  | .eq => if lo.digits % 2 == 0 then lo else hi

/-- The shortest decimal for `n` digits, if one of the two grid neighbours reads back. -/
def atDigits (x : Binary) (k : Int) (n : Nat) : Option Dec :=
  let e := k - n
  let f := floorOnGrid x.m x.q e
  let lo : Dec := ⟨f, e⟩
  let hi : Dec := ⟨f + 1, e⟩
  match x.readsBack lo, x.readsBack hi with
  | true, true => some (nearer x.m x.q lo hi)
  | true, false => some lo
  | false, true => some hi
  | false, false => none

/-- The first digit count in `ns` that gives a decimal. -/
def firstHit (x : Binary) (k : Int) : List Nat → Option Dec
  | [] => none
  | n :: ns =>
    match atDigits x k n with
    | some d => some d
    | none => firstHit x k ns

/-- The exact decimal value of `m * 2^q`. -/
def Binary.exact (x : Binary) : Dec :=
  if x.q ≥ 0 then ⟨x.m * Nat.pow 2 x.q.toNat, 0⟩
  else ⟨x.m * Nat.pow 5 (-x.q).toNat, x.q⟩

/-- The shortest decimal that reads back as `x`, trailing zeros removed; zero is `0 * 10^0`. -/
def Binary.shortest (x : Binary) : Dec :=
  if x.m = 0 then ⟨0, 0⟩
  else
    let k := scale x.m x.q
    let d := (firstHit x k (List.range' 1 17)).getD x.exact
    Dec.trim 400 d

end Number
end EngineFit
