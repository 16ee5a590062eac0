/-!
# Lenient base64

Base64 text stands for bytes: each character of the alphabet `A`–`Z`, `a`–`z`, `0`–`9`, `+`,
`/` carries six bits, and every four characters make three bytes. Decoding here is lenient:
characters outside the alphabet are skipped, and `=` ends the text once it completes a group of
four (after at least two characters of the group); an `=` before that is skipped too. The text
is rejected when it ends inside a group, that is when a group has one, two or three characters
and no padding completed it.

Encoding is strict: every three bytes make four characters, and a last group of one or two
bytes is padded with `=` to four. `base64Lines` cuts the text into lines of 76 characters, the
layout of base64 in mail and in YAML binary scalars.
-/

namespace EngineFit
namespace Text

/-- The six bits a character of the base64 alphabet carries. -/
def base64Value (c : Char) : Option Nat :=
  if 'A' ≤ c ∧ c ≤ 'Z' then some (c.toNat - 65)
  else if 'a' ≤ c ∧ c ≤ 'z' then some (c.toNat - 71)
  else if '0' ≤ c ∧ c ≤ '9' then some (c.toNat + 4)
  else if c = '+' then some 62
  else if c = '/' then some 63
  else none

/-- Decodes the rest of a base64 text. `quad` characters of the current group are read, with
`left` the bits of them not yet written; `pads` counts the `=` since the last character of the
alphabet; `acc` holds the bytes so far, last first. -/
def decodeBase64From : List Char → Nat → Nat → Nat → List UInt8 → Option (List UInt8)
  | [], quad, _, _, acc => if quad = 0 then some acc.reverse else none
  | c :: rest, quad, left, pads, acc =>
    if c = '=' then
      if quad ≥ 2 then
        if quad + (pads + 1) ≥ 4 then some acc.reverse
        else decodeBase64From rest quad left (pads + 1) acc
      else decodeBase64From rest quad left pads acc
    else
      match base64Value c with
      | none => decodeBase64From rest quad left pads acc
      | some v =>
        match quad with
        | 0 => decodeBase64From rest 1 v 0 acc
        | 1 => decodeBase64From rest 2 (v % 16) 0 (UInt8.ofNat (left * 4 + v / 16) :: acc)
        | 2 => decodeBase64From rest 3 (v % 4) 0 (UInt8.ofNat (left * 16 + v / 4) :: acc)
        | _ => decodeBase64From rest 0 0 0 (UInt8.ofNat (left * 64 + v) :: acc)

/-- The bytes a base64 text stands for, or `none` when it ends inside a group. -/
def decodeBase64 (text : String) : Option (List UInt8) :=
  decodeBase64From text.toList 0 0 0 []

/-- The base64 character of six bits. -/
def base64Char (n : Nat) : Char :=
  if n < 26 then Char.ofNat (65 + n)
  else if n < 52 then Char.ofNat (71 + n)
  else if n < 62 then Char.ofNat (n - 4)
  else if n = 62 then '+'
  else '/'

/-- The base64 characters of bytes, padded to whole groups of four. -/
def encodeBase64 : List UInt8 → List Char
  | a :: b :: c :: rest =>
    let n := a.toNat * 65536 + b.toNat * 256 + c.toNat
    [base64Char (n / 262144), base64Char (n / 4096 % 64), base64Char (n / 64 % 64),
      base64Char (n % 64)] ++ encodeBase64 rest
  | [a, b] =>
    let n := a.toNat * 65536 + b.toNat * 256
    [base64Char (n / 262144), base64Char (n / 4096 % 64), base64Char (n / 64 % 64), '=']
  | [a] =>
    let n := a.toNat * 65536
    [base64Char (n / 262144), base64Char (n / 4096 % 64), '=', '=']
  | [] => []

/-- Cuts characters into lines of `width` (at least one), the last one shorter. -/
def chunks (width : Nat) (cs : List Char) : List String :=
  if cs.length ≤ width ∨ width = 0 then (if cs.isEmpty then [] else [String.ofList cs])
  else String.ofList (cs.take width) :: chunks width (cs.drop width)
termination_by cs.length
decreasing_by simp only [List.length_drop]; omega

/-- The base64 text of bytes in lines of 76 characters. -/
def base64Lines (bs : List UInt8) : List String :=
  chunks 76 (encodeBase64 bs)

end Text
end EngineFit
