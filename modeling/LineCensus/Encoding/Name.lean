/-
# Encoding.Name -- the names under which encodings are known

Names are compared by their ASCII letters, digits and points: case does not
matter, any run of other characters counts as one separator, and separators at
the ends do not count.  A point may stand for a separator in the common names
but not in the formal one.

Some names belong to conversions that are not text encodings; they are known,
but no text can be read with them.

The tables hold a part of the codec registry only.  Codecs that are registered and
missing here, among them utf-32, utf-7, idna, punycode and most of the code pages,
count as unknown: a setting that names one is refused here though the registry knows
it.  What is said elsewhere about known and unknown names is said of these tables.
-/

set_option autoImplicit false

namespace LineCensus

/-- Encodings of text. -/
inductive Charset where
  | utf8
  | utf8Signed
  | utf16
  | utf16Little
  | utf16Big
  | latin1
  | ascii
  | windows1252
  deriving DecidableEq

/-- What a known name stands for. -/
inductive Codec where
  | charset (charset : Charset)
  | conversion
  deriving DecidableEq

namespace Codec

def isNameChar (c : Char) : Bool :=
  c.isAlphanum || c == '.'

/-- The letters of a name as they are compared.  `separated` says that a
separator is due before the next letter, `started` that there was one. -/
def canonicalFrom (started separated : Bool) : List Char → List Char
  | [] => []
  | c :: rest =>
      if isNameChar c then
        if separated && started then '_' :: c.toLower :: canonicalFrom true false rest
        else c.toLower :: canonicalFrom true false rest
      else canonicalFrom started true rest

def canonical (name : String) : String :=
  String.ofList (canonicalFrom false false name.toList)

/-- Formal names. -/
def formalNames : List (String × Codec) :=
  [("utf_8", .charset .utf8), ("utf_8_sig", .charset .utf8Signed), ("utf_16", .charset .utf16),
    ("utf_16_le", .charset .utf16Little), ("utf_16_be", .charset .utf16Big),
    ("latin_1", .charset .latin1), ("iso8859_1", .charset .latin1), ("ascii", .charset .ascii),
    ("cp1252", .charset .windows1252), ("hex_codec", .conversion), ("rot_13", .conversion),
    ("base64_codec", .conversion), ("zlib_codec", .conversion), ("bz2_codec", .conversion)]

def commonNamesOf (codec : Codec) (names : List String) : List (String × Codec) :=
  names.map (·, codec)

/-- Common names. -/
def commonNames : List (String × Codec) :=
  commonNamesOf (.charset .utf8) ["u8", "utf", "utf8", "utf8_ucs2", "utf8_ucs4", "cp65001"]
    ++ commonNamesOf (.charset .utf16) ["u16", "utf16"]
    ++ commonNamesOf (.charset .utf16Little) ["unicodelittleunmarked", "utf_16le"]
    ++ commonNamesOf (.charset .utf16Big) ["unicodebigunmarked", "utf_16be"]
    ++ commonNamesOf (.charset .latin1)
      ["8859", "cp819", "csisolatin1", "ibm819", "iso8859", "iso8859_1", "iso_8859_1",
        "iso_8859_1_1987", "iso_ir_100", "l1", "latin", "latin1"]
    ++ commonNamesOf (.charset .ascii)
      ["646", "ansi_x3.4_1968", "ansi_x3_4_1968", "ansi_x3.4_1986", "cp367", "csascii", "ibm367",
        "iso646_us", "iso_646.irv_1991", "iso_ir_6", "us", "us_ascii"]
    ++ commonNamesOf (.charset .windows1252) ["1252", "windows_1252"]
    ++ commonNamesOf .conversion
      ["hex", "rot13", "base64", "base_64", "zip", "zlib", "bz2"]

def withoutPoints (name : String) : String :=
  name.map fun c => if c = '.' then '_' else c

/-- The codec of a name. -/
def find? (name : String) : Option Codec :=
  let key := canonical name
  (commonNames.lookup key).or ((commonNames.lookup (withoutPoints key)).or (formalNames.lookup key))

end Codec
end LineCensus
