import SqlStyle.Text.Malformed

/-! # Text from bytes

Bytes are read as UTF-8. Where they make no sense, the first sequence that is malformed is named
with its place and what is wrong with it: a sequence is followed as far as its bytes are possible
ones. -/

namespace SqlStyle.Utf8

/-- What messages call the encoding. -/
def codec : String := "utf-8"

/-- The bounds of the bytes that go on after a first byte, if it starts a sequence. -/
def continuations? (first : Nat) : Option (List (Nat × Nat)) :=
  let any := (0x80, 0xBF)
  if first < 0x80 then some []
  else if first < 0xC2 then none
  else if first < 0xE0 then some [any]
  else if first < 0xF0 then
    some [if first = 0xE0 then (0xA0, 0xBF) else if first = 0xED then (0x80, 0x9F) else any, any]
  else if first < 0xF5 then
    some [if first = 0xF0 then (0x90, 0xBF) else if first = 0xF4 then
      (0x80, 0x8F) else any, any, any]
  else none

/-- What keeps bytes from going on within bounds, with the bytes up to there. -/
def flaw? (taken : List UInt8) : List (Nat × Nat) → List UInt8 → Option (List UInt8 × ByteFlaw)
  | [], _ => none
  | _ :: _, [] => some (taken, .unexpectedEnd)
  | (least, most) :: bounds, b :: bytes =>
    if least ≤ b.toNat ∧ b.toNat ≤ most then flaw? (taken ++ [b]) bounds bytes
    else some (taken, .invalidContinuation)

/-- The first malformed sequence of bytes, the first of them at index `start`. -/
def malformed? (start : Nat) (bytes : List UInt8) : Option Malformed :=
  match bytes with
  | [] => none
  | first :: rest =>
    match continuations? first.toNat with
    | none => some ⟨codec, start, [first], .invalidStart⟩
    | some bounds =>
      match flaw? [first] bounds rest with
      | some (taken, flaw) => some ⟨codec, start, taken, flaw⟩
      | none => malformed? (start + 1 + bounds.length) (rest.drop bounds.length)
termination_by bytes.length
decreasing_by
  simp only [List.length_cons, List.length_drop]
  omega

/-- The text that bytes hold. -/
def decode (bytes : ByteArray) : Except Malformed String :=
  match String.fromUTF8? bytes with
  | some s => .ok s
  | none => .error ((malformed? 0 bytes.toList).getD ⟨codec, 0, [], .invalidStart⟩)

end SqlStyle.Utf8
