/-
# Encoding.Utf8 -- octets into characters

The decoder keeps the sequence it is inside of: how many octets are missing,
which range the next one must lie in, and the value so far.  An octet outside
that range ends the sequence as malformed and is read again as a first octet, so
a malformed stretch is reported once for its longest part that could have begun
a character.

The result has an entry for every character and every malformed stretch, so one
decoder serves readers that refuse malformed text and readers that mark it.
-/
import LineCensus.Text.Blank

set_option autoImplicit false

namespace LineCensus
namespace Utf8

/-- A sequence that has begun. -/
structure Pending where
  missing : Nat
  lowest : UInt8
  highest : UInt8
  value : Nat

/-- What is decoded, last entry first, and the sequence that is open. -/
structure State where
  pending : Option Pending := none
  done : List (Option Char) := []

/-- Read an octet as the first of a character. -/
def begin (done : List (Option Char)) (octet : UInt8) : State :=
  let b := octet.toNat
  if b < 0x80 then { done := some (Char.ofNat b) :: done }
  else if b < 0xC2 then { done := none :: done }
  else if b < 0xE0 then { pending := some ⟨1, 0x80, 0xBF, b - 0xC0⟩, done }
  else if b < 0xF0 then
    let lowest := if b = 0xE0 then 0xA0 else 0x80
    let highest := if b = 0xED then 0x9F else 0xBF
    { pending := some ⟨2, lowest, highest, b - 0xE0⟩, done }
  else if b < 0xF5 then
    let lowest := if b = 0xF0 then 0x90 else 0x80
    let highest := if b = 0xF4 then 0x8F else 0xBF
    { pending := some ⟨3, lowest, highest, b - 0xF0⟩, done }
  else { done := none :: done }

def step (state : State) (octet : UInt8) : State :=
  match state.pending with
  | none => begin state.done octet
  | some p =>
      if p.lowest ≤ octet ∧ octet ≤ p.highest then
        let value := p.value * 64 + octet.toNat % 64
        if p.missing ≤ 1 then { done := some (Char.ofNat value) :: state.done }
        else { pending := some ⟨p.missing - 1, 0x80, 0xBF, value⟩, done := state.done }
      else begin (none :: state.done) octet

/-- The end of the input ends an open sequence as malformed. -/
def State.finish (state : State) : List (Option Char) :=
  (if state.pending.isSome then none :: state.done else state.done).reverse

/-- Characters, and `none` for every malformed stretch. -/
def decode (octets : List UInt8) : List (Option Char) :=
  (octets.foldl step {}).finish

/-- The text of well-formed input, and nothing of any other. -/
def decodeStrict? (octets : List UInt8) : Option Text :=
  let decoded := decode octets
  if decoded.all Option.isSome then some (decoded.filterMap id) else none

/-- The octets of a text. -/
def octetCount (text : Text) : Nat :=
  text.foldl (fun count c => count + c.utf8Size) 0

end Utf8
end LineCensus
