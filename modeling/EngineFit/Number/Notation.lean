import EngineFit.Number.Shortest

/-!
# Writing a double as text

A finite double is written with its shortest decimal digits. A `Notation` decides the rest:
where positional notation gives way to an exponent, how the exponent looks, whether an integral
value keeps a `.0`, and how infinities and NaN are spelled. The point position `p` counts the
digits before the decimal point: the value is `0.d₁d₂… × 10^p`.
-/

namespace EngineFit
namespace Number

/-- The layout rules of a decimal text for doubles. -/
structure Notation where
  /-- Positional notation is used when `lowest ≤ p ≤ highest`. -/
  lowest : Int
  highest : Int
  /-- Least number of exponent digits. -/
  expDigits : Nat
  /-- Spelling of positive infinity (negative infinity takes a `-` in front). -/
  infinity : String
  /-- Spelling of NaN. -/
  nan : String

/-- The common layout: positional from `0.0001` up to sixteen integral digits, `e+XX` or `e-XX`
outside, a `.0` on integral values, `inf` and `nan`. -/
def Notation.standard : Notation := ⟨-3, 16, 2, "inf", "nan"⟩

/-- The same layout, with the infinities and NaN spelled as JSON readers accept them. -/
def Notation.json : Notation := ⟨-3, 16, 2, "Infinity", "NaN"⟩

/-- `n` copies of the zero digit. -/
def zeros (n : Nat) : String :=
  String.ofList (List.replicate n '0')

/-- Decimal digits of a natural, at least `width` of them. -/
def padNat (width n : Nat) : String :=
  let s := toString n
  zeros (width - s.length) ++ s

/-- Lays out digits `ds` (no trailing zeros, nonempty) with point position `p`. -/
def Notation.layout (nt : Notation) (ds : String) (p : Int) : String :=
  let n := ds.length
  if nt.lowest ≤ p ∧ p ≤ nt.highest then
    if p ≤ 0 then "0." ++ zeros (-p).toNat ++ ds
    else if p ≥ n then ds ++ zeros (p.toNat - n) ++ ".0"
    else
      String.ofList (ds.toList.take p.toNat) ++ "." ++ String.ofList (ds.toList.drop p.toNat)
  else
    let e := p - 1
    let mant :=
      match ds.toList with
      | [d] => String.singleton d
      | d :: rest => String.singleton d ++ "." ++ String.ofList rest
      | [] => "0"
    let sign := if e < 0 then "-" else "+"
    mant ++ "e" ++ sign ++ padNat nt.expDigits e.natAbs

/-- The text of a double. -/
def Notation.render (nt : Notation) (x : Float) : String :=
  let bits := x.toBits
  let negative := bits >>> 63 == 1
  let sign := if negative then "-" else ""
  let e := ((bits >>> 52) &&& 0x7FF).toNat
  if e == 0x7FF then
    if (bits &&& 0xFFFFFFFFFFFFF) != 0 then nt.nan else sign ++ nt.infinity
  else
    let d := (Binary.ofBits bits).shortest
    if d.digits = 0 then sign ++ "0.0"
    else
      let ds := toString d.digits
      sign ++ nt.layout ds (d.exp + ds.length)

end Number
end EngineFit
