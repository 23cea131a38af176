/-
# Encoding.Decode -- a file's octets as text

Every charset reads every input, with one exception: UTF-16 without a byte order
mark is refused as soon as there is a whole unit to read.  What is malformed is
marked by the replacement character.  `read` then unifies the line breaks.
-/
import LineCensus.Encoding.Name
import LineCensus.Encoding.Utf8
import LineCensus.Text.Lines

set_option autoImplicit false

namespace LineCensus

/-- Stands for what could not be decoded. -/
def replacement : Char := Char.ofNat 0xFFFD

/-- The mark at the head of a file that says how its units are written. -/
def utf8Mark : List UInt8 := [0xEF, 0xBB, 0xBF]

/-- Units of sixteen bits; `high` is a high surrogate that waits for its other
half, and `done` what is decoded, last character first. -/
def utf16From (bigEndian : Bool) (high : Option Nat) (done : Text) : List UInt8 → Text
  | [] => (if high.isSome then replacement :: done else done).reverse
  | [_] => (replacement :: done).reverse
  | a :: b :: rest =>
      let unit := if bigEndian then a.toNat * 256 + b.toNat else b.toNat * 256 + a.toNat
      let isLow := 0xDC00 ≤ unit && unit < 0xE000
      match high with
      | some h =>
          if isLow then
            let point := 0x10000 + (h - 0xD800) * 0x400 + (unit - 0xDC00)
            utf16From bigEndian none (Char.ofNat point :: done) rest
          else if 0xD800 ≤ unit && unit < 0xDC00 then
            utf16From bigEndian (some unit) (replacement :: done) rest
          else utf16From bigEndian none (Char.ofNat unit :: replacement :: done) rest
      | none =>
          if isLow then utf16From bigEndian none (replacement :: done) rest
          else if 0xD800 ≤ unit && unit < 0xDC00 then utf16From bigEndian (some unit) done rest
          else utf16From bigEndian none (Char.ofNat unit :: done) rest

/-- The characters of Windows 1252 from 0x80 to 0x9F; zero where there is
none. -/
def windows1252Points : List Nat :=
  [0x20AC, 0, 0x201A, 0x0192, 0x201E, 0x2026, 0x2020, 0x2021, 0x02C6, 0x2030, 0x0160, 0x2039,
    0x0152, 0, 0x017D, 0, 0, 0x2018, 0x2019, 0x201C, 0x201D, 0x2022, 0x2013, 0x2014, 0x02DC,
    0x2122, 0x0161, 0x203A, 0x0153, 0, 0x017E, 0x0178]

def windows1252Char (octet : UInt8) : Char :=
  let b := octet.toNat
  if b < 0x80 ∨ 0xA0 ≤ b then Char.ofNat b
  else match windows1252Points[b - 0x80]? with
    | some 0 => replacement
    | some point => Char.ofNat point
    | none => replacement

namespace Charset

/-- A file without its mark, where a file that ends inside the mark is empty. -/
def dropUtf8Mark (octets : List UInt8) : List UInt8 :=
  if octets.length < 3 ∧ octets.isPrefixOf utf8Mark then []
  else if utf8Mark.isPrefixOf octets then octets.drop 3
  else octets

def decodeUtf8 (octets : List UInt8) : Text :=
  (Utf8.decode octets).map (·.getD replacement)

/-- UTF-16 in the order that its byte order mark announces. -/
def decodeMarked? : List UInt8 → Option Text
  | [] => some []
  | [_] => some [replacement]
  | a :: b :: rest =>
      if a = 0xFF ∧ b = 0xFE then some (utf16From false none [] rest)
      else if a = 0xFE ∧ b = 0xFF then some (utf16From true none [] rest)
      else none

/-- The text of a file, or nothing if its byte order mark is missing. -/
def decode? (charset : Charset) (octets : List UInt8) : Option Text :=
  match charset with
  | .utf8 => some (decodeUtf8 octets)
  | .utf8Signed => some (decodeUtf8 (dropUtf8Mark octets))
  | .utf16 => decodeMarked? octets
  | .utf16Little => some (utf16From false none [] octets)
  | .utf16Big => some (utf16From true none [] octets)
  | .latin1 => some (octets.map fun b => Char.ofNat b.toNat)
  | .ascii => some (octets.map fun b => if b < 0x80 then Char.ofNat b.toNat else replacement)
  | .windows1252 => some (octets.map windows1252Char)

/-- The text of a file with its line breaks unified. -/
def read? (charset : Charset) (octets : List UInt8) : Option Text :=
  (charset.decode? octets).map Text.unifyBreaks

end Charset
end LineCensus
