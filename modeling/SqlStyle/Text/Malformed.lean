import SqlStyle.Text.Quoted

/-! # Bytes that are no text

Where bytes make no sense in an encoding, the first sequence of them that is malformed is named,
with its place and what is wrong with it. -/

namespace SqlStyle

/-- What is wrong with a sequence of bytes. -/
inductive ByteFlaw where
  /-- Its first byte starts nothing. -/
  | invalidStart
  /-- A byte does not go on what is before it. -/
  | invalidContinuation
  /-- The bytes end within it. -/
  | unexpectedEnd
  /-- The byte is above the ASCII ones. -/
  | aboveAscii
  /-- The byte stands for no character. -/
  | unassigned
  /-- The bytes end within a unit of two. -/
  | truncated
  /-- The second half of a pair has no first one. -/
  | strayHalf
  /-- The first half of a pair has no second one. -/
  | brokenPair
deriving Repr, DecidableEq

def ByteFlaw.message : ByteFlaw → String
  | invalidStart => "invalid start byte"
  | invalidContinuation => "invalid continuation byte"
  | unexpectedEnd => "unexpected end of data"
  | aboveAscii => "ordinal not in range(128)"
  | unassigned => "character maps to <undefined>"
  | truncated => "truncated data"
  | strayHalf => "illegal encoding"
  | brokenPair => "illegal UTF-16 surrogate"

/-- A malformed sequence: the bytes of it that are possible, at least one, and where they start. -/
structure Malformed where
  /-- What messages call the encoding. -/
  codec : String
  start : Nat
  bytes : List UInt8
  flaw : ByteFlaw
deriving Repr, DecidableEq

def Malformed.message (m : Malformed) : String :=
  let last := m.start + m.bytes.length - 1
  let place := match m.bytes with
    | [b] =>
      let digits := String.ofList (Text.hexDigits 2 b.toNat)
      s!"byte 0x{digits} in position {m.start}"
    | _ => s!"bytes in position {m.start}-{last}"
  s!"'{m.codec}' codec can't decode {place}: {m.flaw.message}"

end SqlStyle
