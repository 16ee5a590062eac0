import EngineFit.Text.Surrogate

/-!
# Strict UTF-8

Bytes decode as UTF-8 when every character is in its shortest form, no surrogate is encoded and
nothing lies above U+10FFFF. `decodeUtf8` decodes, or names the first offending bytes and why
they offend:

* an *invalid start byte* is a continuation byte, `0xC0`, `0xC1` or `0xF5`-`0xFF` where a
  character should begin (one byte);
* an *invalid continuation byte* ends a sequence too early: the bytes from the start byte up to
  the offending one, not included, are reported; a second byte that makes an overlong form, a
  surrogate or a code point above U+10FFFF counts as invalid continuation;
* an *unexpected end of data* is a sequence cut off by the end of the bytes, all of whose bytes
  are a valid beginning; all of them are reported.

`unifyNewlines` then reads a decoded text the way text files are read: a carriage return,
alone or before a line feed, becomes a line feed.
-/

namespace EngineFit
namespace Text

/-- Why bytes are not UTF-8. -/
inductive Utf8Fault where
  | invalidStart
  | invalidContinuation
  | unexpectedEnd
deriving DecidableEq, Repr

/-- The wording of a UTF-8 fault. -/
def Utf8Fault.text : Utf8Fault → String
  | .invalidStart => "invalid start byte"
  | .invalidContinuation => "invalid continuation byte"
  | .unexpectedEnd => "unexpected end of data"

/-- The first offending bytes of a text that is not UTF-8: their offset, their count (at least
one), the first of them, and the fault. -/
structure Utf8Error where
  start : Nat
  count : Nat
  byte : UInt8
  fault : Utf8Fault
deriving DecidableEq, Repr

/-- Two lower-case hexadecimal digits of a byte. -/
def byteHex (b : UInt8) : String :=
  let s := String.ofList (Nat.toDigits 16 b.toNat)
  if s.length < 2 then "0" ++ s else s

/-- The wording of a UTF-8 error, naming the codec, the offending byte or bytes and where they
are. -/
def Utf8Error.message (e : Utf8Error) : String :=
  if e.count = 1 then
    "'utf-8' codec can't decode byte 0x" ++ byteHex e.byte ++ " in position " ++
      toString e.start ++ ": " ++ e.fault.text
  else
    "'utf-8' codec can't decode bytes in position " ++ toString e.start ++ "-" ++
      toString (e.start + e.count - 1) ++ ": " ++ e.fault.text

/-- Whether a byte continues a multi-byte character. -/
def isContinuation (b : UInt8) : Bool := b &&& 0xC0 == 0x80

/-- The low six bits of a continuation byte. -/
def low6 (b : UInt8) : Nat := (b &&& 0x3F).toNat

/-- Whether the second byte of a three-byte sequence is allowed after the first: no overlong
form after `0xE0`, no surrogate after `0xED`. -/
def secondOfThree (b0 b1 : UInt8) : Bool :=
  isContinuation b1 && !(b0 == 0xE0 && b1 < 0xA0) && !(b0 == 0xED && b1 ≥ 0xA0)

/-- Whether the second byte of a four-byte sequence is allowed after the first: no overlong
form after `0xF0`, nothing above U+10FFFF after `0xF4`. -/
def secondOfFour (b0 b1 : UInt8) : Bool :=
  isContinuation b1 && !(b0 == 0xF0 && b1 < 0x90) && !(b0 == 0xF4 && b1 ≥ 0x90)

/-- Decodes bytes from offset `pos`, the characters so far in reverse in `acc`. -/
def decodeFrom : List UInt8 → Nat → List Char → Except Utf8Error (List Char)
  | [], _, acc => .ok acc.reverse
  | b0 :: rest, pos, acc =>
    let bad (count : Nat) (f : Utf8Fault) : Except Utf8Error (List Char) :=
      .error ⟨pos, count, b0, f⟩
    if b0 < 0x80 then decodeFrom rest (pos + 1) (Char.ofNat b0.toNat :: acc)
    else if b0 < 0xC2 then bad 1 .invalidStart
    else if b0 < 0xE0 then
      match rest with
      | [] => bad 1 .unexpectedEnd
      | b1 :: rest' =>
        if !isContinuation b1 then bad 1 .invalidContinuation
        else
          let c := Char.ofNat ((b0 &&& 0x1F).toNat * 64 + low6 b1)
          decodeFrom rest' (pos + 2) (c :: acc)
    else if b0 < 0xF0 then
      match rest with
      | [] => bad 1 .unexpectedEnd
      | [b1] => if secondOfThree b0 b1 then bad 2 .unexpectedEnd else bad 1 .invalidContinuation
      | b1 :: b2 :: rest' =>
        if !secondOfThree b0 b1 then bad 1 .invalidContinuation
        else if !isContinuation b2 then bad 2 .invalidContinuation
        else
          let c := Char.ofNat ((b0 &&& 0x0F).toNat * 4096 + low6 b1 * 64 + low6 b2)
          decodeFrom rest' (pos + 3) (c :: acc)
    else if b0 < 0xF5 then
      match rest with
      | [] => bad 1 .unexpectedEnd
      | [b1] => if secondOfFour b0 b1 then bad 2 .unexpectedEnd else bad 1 .invalidContinuation
      | [b1, b2] =>
        if !secondOfFour b0 b1 then bad 1 .invalidContinuation
        else if !isContinuation b2 then bad 2 .invalidContinuation
        else bad 3 .unexpectedEnd
      | b1 :: b2 :: b3 :: rest' =>
        if !secondOfFour b0 b1 then bad 1 .invalidContinuation
        else if !isContinuation b2 then bad 2 .invalidContinuation
        else if !isContinuation b3 then bad 3 .invalidContinuation
        else
          let n := (b0 &&& 0x07).toNat * 262144 + low6 b1 * 4096 + low6 b2 * 64 + low6 b3
          decodeFrom rest' (pos + 4) ((spell n).reverse ++ acc)
    else bad 1 .invalidStart

/-- The text that bytes encode in UTF-8, held as code points (`Text.spell`), or the first
offending bytes. -/
def decodeUtf8 (bytes : List UInt8) : Except Utf8Error String :=
  String.ofList <$> decodeFrom bytes 0 []

/-- The UTF-8 bytes of a code point; a surrogate takes the three bytes of its code. -/
def utf8Of (n : Nat) : List UInt8 :=
  if n < 0x80 then [n.toUInt8]
  else if n < 0x800 then [(0xC0 + n / 64).toUInt8, (0x80 + n % 64).toUInt8]
  else if n < 0x10000 then
    [(0xE0 + n / 4096).toUInt8, (0x80 + n / 64 % 64).toUInt8, (0x80 + n % 64).toUInt8]
  else
    [(0xF0 + n / 262144).toUInt8, (0x80 + n / 4096 % 64).toUInt8, (0x80 + n / 64 % 64).toUInt8,
      (0x80 + n % 64).toUInt8]

/-- The UTF-8 bytes of a text's code points. -/
def utf8Bytes (s : String) : List UInt8 :=
  (codes s).flatMap utf8Of

/-- The first surrogate of a text, which UTF-8 cannot encode, with its position in code
points. -/
def firstSurrogate? (s : String) : Option (Nat × Nat) :=
  ((codes s).zipIdx.find? fun (n, _) => isSurrogateCode n).map fun (n, i) => (n, i)

/-- Line ends as text files are read: each carriage return, alone or before a line feed,
becomes one line feed. -/
def unifyNewlinesOf : List Char → List Char
  | [] => []
  | '\r' :: '\n' :: cs => '\n' :: unifyNewlinesOf cs
  | '\r' :: cs => '\n' :: unifyNewlinesOf cs
  | c :: cs => c :: unifyNewlinesOf cs

/-- A text with every line end a line feed. -/
def unifyNewlines (s : String) : String :=
  String.ofList (unifyNewlinesOf s.toList)

end Text
end EngineFit
