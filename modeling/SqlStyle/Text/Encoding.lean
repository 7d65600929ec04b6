import SqlStyle.Text.Class
import SqlStyle.Text.Utf8

/-! # Encodings

The encodings that a file of text can be said to have, and the text its bytes hold in each. An
encoding goes by several names, in which letter case and the marks between letters do not matter. -/

namespace SqlStyle

/-- The order of the two bytes of a unit. -/
inductive ByteOrder where
  | little
  | big
deriving Repr, DecidableEq

inductive Encoding where
  | utf8
  /-- UTF-8 with a mark in front that is no part of the text, or without one. -/
  | markedUtf8
  | ascii
  | latin1
  | windows1252
  /-- UTF-16 in a given order, or in the one that the mark in front of the text tells. -/
  | utf16 (order : Option ByteOrder)
deriving Repr, DecidableEq

/-- Why bytes are no text of an encoding. -/
inductive DecodeError where
  | malformed (m : Malformed)
  /-- No mark tells the order of bytes. -/
  | unmarked
deriving Repr, DecidableEq

def DecodeError.message : DecodeError → String
  | malformed m => m.message
  | unmarked => "UTF-16 stream does not start with BOM"

namespace Encoding

/-! ## Names -/

/-- The names of encodings in their plainest spelling. -/
def names : List (Encoding × List String) :=
  [(utf8, ["utf_8", "u8", "utf", "utf8", "utf8_ucs2", "utf8_ucs4", "cp65001"]),
    (markedUtf8, ["utf_8_sig"]),
    (ascii, ["ascii", "646", "ansi_x3.4_1968", "ansi_x3.4_1986", "ansi_x3_4_1968", "cp367",
      "csascii", "ibm367", "iso646_us", "iso_646.irv_1991", "iso_ir_6", "us", "us_ascii"]),
    (latin1, ["latin_1", "8859", "cp819", "csisolatin1", "ibm819", "iso8859",
      "iso8859_1", "iso_8859_1", "iso_8859_1_1987", "iso_ir_100", "l1", "latin", "latin1"]),
    (windows1252, ["cp1252", "1252", "windows_1252"]),
    (utf16 none, ["utf_16", "u16", "utf16"]),
    (utf16 (some .little), ["utf_16_le", "utf_16le", "unicodelittleunmarked"]),
    (utf16 (some .big), ["utf_16_be", "utf_16be", "unicodebigunmarked"])]

/-- A name in its plainest spelling: small letters, digits and dots, single underscores for all
else. -/
def plainName (s : String) : String :=
  let isKept (c : Char) : Bool := c.isAlphanum || c == '.'
  "_".intercalate ((Text.words (!isKept ·) s.toList).map fun cs =>
    (String.ofList cs).map Char.toLower)

/-- The encoding with a name. -/
def ofName? (s : String) : Option Encoding :=
  if s.toList.all (·.toNat < 128) then
    (names.find? fun e => e.2.contains (plainName s)).map Prod.fst
  else none

/-! ## Single bytes -/

/-- The characters that bytes stand for one by one, the first byte at index `i`. -/
def eachByte (codec : String) (flaw : ByteFlaw) (char? : Nat → Option Char) :
    Nat → List UInt8 → Except Malformed (List Char)
  | _, [] => .ok []
  | i, b :: rest =>
    match char? b.toNat with
    | none => .error ⟨codec, i, [b], flaw⟩
    | some c => (eachByte codec flaw char? (i + 1) rest).map (c :: ·)

/-- The code points of the bytes from `0x80` to `0x9F` on Windows; zero marks the ones without. -/
def windowsPoints : List Nat :=
  [0x20AC, 0, 0x201A, 0x192, 0x201E, 0x2026, 0x2020, 0x2021, 0x2C6, 0x2030, 0x160, 0x2039, 0x152,
    0, 0x17D, 0, 0, 0x2018, 0x2019, 0x201C, 0x201D, 0x2022, 0x2013, 0x2014, 0x2DC, 0x2122, 0x161,
    0x203A, 0x153, 0, 0x17E, 0x178]

/-- The character of a byte on Windows. -/
def windowsChar? (n : Nat) : Option Char :=
  if n < 0x80 ∨ 0xA0 ≤ n then some (Char.ofNat n)
  else (windowsPoints[n - 0x80]?.filter (· ≠ 0)).map Char.ofNat

/-! ## Units of two bytes -/

/-- The value of a unit. -/
def unit (order : ByteOrder) (a b : UInt8) : Nat :=
  match order with
  | .little => b.toNat * 256 + a.toNat
  | .big => a.toNat * 256 + b.toNat

def codecOf : ByteOrder → String
  | .little => "utf-16-le"
  | .big => "utf-16-be"

def isFirstHalf (n : Nat) : Bool := 0xD800 ≤ n && n < 0xDC00

def isSecondHalf (n : Nat) : Bool := 0xDC00 ≤ n && n < 0xE000

/-- The characters of units, the first byte at index `i`. -/
def units (order : ByteOrder) : Nat → List UInt8 → Except Malformed (List Char)
  | _, [] => .ok []
  | i, [b] => .error ⟨codecOf order, i, [b], .truncated⟩
  | i, a :: b :: rest =>
    let n := unit order a b
    if isFirstHalf n then
      match rest with
      | c :: d :: more =>
        let m := unit order c d
        if isSecondHalf m then
          (units order (i + 4) more).map
            (Char.ofNat (0x10000 + (n - 0xD800) * 0x400 + (m - 0xDC00)) :: ·)
        else .error ⟨codecOf order, i, [a, b], .brokenPair⟩
      | _ => .error ⟨codecOf order, i, a :: b :: rest, .unexpectedEnd⟩
    else if isSecondHalf n then .error ⟨codecOf order, i, [a, b], .strayHalf⟩
    else (units order (i + 2) rest).map (Char.ofNat n :: ·)

/-- The characters of units whose order a mark in front tells. -/
def markedUnits (bytes : List UInt8) : Except DecodeError (List Char) :=
  match bytes with
  | 0xFF :: 0xFE :: rest => (units .little 2 rest).mapError .malformed
  | 0xFE :: 0xFF :: rest => (units .big 2 rest).mapError .malformed
  | _ =>
    match units .little 0 bytes with
    | .error m => .error (.malformed m)
    | .ok [] => .ok []
    | .ok _ => .error .unmarked

/-! ## Text -/

/-- The mark of UTF-8. -/
def mark : List UInt8 := [0xEF, 0xBB, 0xBF]

/-- Bytes of UTF-8 without the mark. Bytes that end within it hold nothing. -/
def withoutMark (bytes : List UInt8) : List UInt8 :=
  if mark.isPrefixOf bytes then bytes.drop mark.length
  else if bytes.isPrefixOf mark then []
  else bytes

/-- The text that bytes hold in an encoding. -/
def decode (e : Encoding) (bytes : ByteArray) : Except DecodeError String :=
  let cs := bytes.toList
  match e with
  | utf8 => (Utf8.decode bytes).mapError .malformed
  | markedUtf8 => (Utf8.decode ⟨(withoutMark cs).toArray⟩).mapError .malformed
  | ascii =>
    let asciiChar? (n : Nat) := if n < 128 then some (Char.ofNat n) else none
    ((eachByte "ascii" .aboveAscii asciiChar? 0 cs).map String.ofList).mapError .malformed
  | latin1 => .ok (String.ofList (cs.map fun b => Char.ofNat b.toNat))
  | windows1252 =>
    ((eachByte "charmap" .unassigned windowsChar? 0 cs).map String.ofList).mapError .malformed
  | utf16 (some order) => ((units order 0 cs).map String.ofList).mapError .malformed
  | utf16 none => (markedUnits cs).map String.ofList

end Encoding

end SqlStyle
