/-
# Json.Reader -- values from JSON text

A text is read character by character into tokens, and token by token into a
value.  What is still open while a value is read is a list of frames, innermost
first; a value that is complete is handed to the frame around it.

Fields keep their order.  A whole number may have any length; a number with a
point or an exponent is the double closest to it.  Two escapes that are halves of
one character are joined, and a half alone is refused.
-/
import LineCensus.Json.Basic
import LineCensus.Text.DigitRun

set_option autoImplicit false

namespace LineCensus
namespace Json

/-! ## Tokens -/

inductive Token where
  /-- A bracket, a comma or a colon. -/
  | mark (c : Char)
  | text (s : String)
  /-- A number, a truth value or null. -/
  | scalar (value : Json)

def marks : List Char := ['[', ']', '\x7b', '\x7d', ',', ':']

def isFiller (c : Char) : Bool := c == ' ' || c == '\n' || c == '\t' || c == '\r'

/-- Whether digits write a whole part: not empty, and no zero in front of
digits. -/
def isWholePart (digits : Text) : Bool :=
  match digits with
  | [] => false
  | '0' :: rest => rest.isEmpty
  | _ => true

/-- Whether a text is empty or a mark with digits behind it. -/
def isFraction (text : Text) : Bool :=
  match text with
  | [] => true
  | '.' :: digits => !digits.isEmpty && digits.all Char.isDigit
  | _ => false

def isExponent (text : Text) : Bool :=
  match text with
  | [] => true
  | e :: rest =>
      let digits := match rest with
        | '+' :: digits => digits
        | '-' :: digits => digits
        | digits => digits
      (e == 'e' || e == 'E') && !digits.isEmpty && digits.all Char.isDigit

/-- Whether a word begins with a minus, and what follows it. -/
def splitMinus : Text → Bool × Text
  | '-' :: rest => (true, rest)
  | rest => (false, rest)

/-- The number that a word writes. -/
def number? (word : Text) : Option Json :=
  let (negative, body) := splitMinus word
  let whole := body.takeWhile Char.isDigit
  let rest := body.drop whole.length
  if !isWholePart whole then none
  else if rest.isEmpty then
    let n : Int := Binary64.digitsValue whole
    some (.whole (if negative then -n else n))
  else
    let places := rest.takeWhile fun c => c != 'e' && c != 'E'
    if isFraction places && isExponent (rest.drop places.length) then
      (Binary64.ofText? word).map .real
    else none

/-- The value that a word writes. -/
def scalar? (word : Text) : Option Json :=
  if word = "null".toList then some .null
  else if word = "true".toList then some (.flag true)
  else if word = "false".toList then some (.flag false)
  else number? word

/-- The character behind a backslash, for those that are no number. -/
def escaped? (c : Char) : Option Char :=
  if c = '"' ∨ c = '\\' ∨ c = '/' then some c
  else if c = 'n' then some '\n'
  else if c = 'r' then some '\r'
  else if c = 't' then some '\t'
  else if c = 'f' then some '\x0c'
  else if c = 'b' then some '\x08'
  else none

/-- Where the reading of tokens stands.  What is read of a token is in reverse; `half`
is a first half of a character that waits for the second. -/
inductive Mode where
  | between
  | word (read : Text)
  | quoted (half : Option Nat) (read : Text)
  | escape (half : Option Nat) (read : Text)
  | unit (half : Option Nat) (digits read : Text)

/-- A unit of sixteen bits in a text. -/
def takeUnit (half : Option Nat) (unit : Nat) (read : Text) : Option Mode :=
  match half with
  | some first =>
      if 0xDC00 ≤ unit ∧ unit < 0xE000 then
        some (.quoted none
          (Char.ofNat (0x10000 + (first - 0xD800) * 0x400 + (unit - 0xDC00)) :: read))
      else none
  | none =>
      if 0xD800 ≤ unit ∧ unit < 0xDC00 then some (.quoted (some unit) read)
      else if 0xDC00 ≤ unit ∧ unit < 0xE000 then none
      else some (.quoted none (Char.ofNat unit :: read))

/-- The tokens that a character between tokens completes, and the mode after
it. -/
def startToken (c : Char) : Option (List Token × Mode) :=
  if isFiller c then some ([], .between)
  else if marks.contains c then some ([.mark c], .between)
  else if c = '"' then some ([], .quoted none [])
  else some ([], .word [c])

/-- A character that follows a word's character. -/
def isWordChar (c : Char) : Bool :=
  !isFiller c && !marks.contains c && c != '"'

/-- The tokens that a character completes, and the mode after it. -/
def readChar (mode : Mode) (c : Char) : Option (List Token × Mode) :=
  match mode with
  | .between => startToken c
  | .word read =>
      if isWordChar c then some ([], .word (c :: read))
      else do
        let value ← scalar? read.reverse
        let (tokens, mode) ← startToken c
        return (.scalar value :: tokens, mode)
  | .quoted half read =>
      if c = '\\' then some ([], .escape half read)
      else if half.isSome ∨ c.toNat < 32 then none
      else if c = '"' then some ([.text (String.ofList read.reverse)], .between)
      else some ([], .quoted none (c :: read))
  | .escape half read =>
      if c = 'u' then some ([], .unit half [] read)
      else if half.isSome then none
      else (escaped? c).map fun e => ([], .quoted none (e :: read))
  | .unit half digits read =>
      if !isHexDigit c then none
      else if digits.length < 3 then some ([], .unit half (digits ++ [c]) read)
      else (takeUnit half (hexValue (digits ++ [c])) read).map fun mode => ([], mode)

/-! ## Values -/

/-- An array or an object that is not complete; what it holds so far is in reverse. -/
inductive Frame where
  | array (done : List Json)
  /-- An object that waits for the value of a key. -/
  | object (done : List (String × Json)) (key : String)

/-- What may come next. -/
inductive State where
  | value (frames : List Frame)
  /-- The first item of an array, or its end. -/
  | firstItem (frames : List Frame)
  /-- A comma or the end of an array. -/
  | afterItem (done : List Json) (frames : List Frame)
  /-- The first key of an object, or its end. -/
  | firstKey (frames : List Frame)
  | key (done : List (String × Json)) (frames : List Frame)
  | colon (done : List (String × Json)) (key : String) (frames : List Frame)
  /-- A comma or the end of an object. -/
  | afterField (done : List (String × Json)) (frames : List Frame)
  | complete (value : Json)

/-- Hand a value to the frame around it. -/
def deliver (value : Json) : List Frame → State
  | [] => .complete value
  | .array done :: frames => .afterItem (value :: done) frames
  | .object done key :: frames => .afterField ((key, value) :: done) frames

/-- Begin a value. -/
def beginValue (frames : List Frame) : Token → Option State
  | .scalar value => some (deliver value frames)
  | .text s => some (deliver (.text s) frames)
  | .mark c =>
      if c = '[' then some (.firstItem frames)
      else if c = '\x7b' then some (.firstKey frames)
      else none

/-- Take a token. -/
def readToken : State → Token → Option State
  | .value frames, token => beginValue frames token
  | .firstItem frames, .mark ']' => some (deliver (.array []) frames)
  | .firstItem frames, token => beginValue (.array [] :: frames) token
  | .afterItem done frames, .mark ',' => some (.value (.array done :: frames))
  | .afterItem done frames, .mark ']' => some (deliver (.array done.reverse) frames)
  | .firstKey frames, .mark '\x7d' => some (deliver (.object []) frames)
  | .firstKey frames, .text key => some (.colon [] key frames)
  | .key done frames, .text key => some (.colon done key frames)
  | .colon done key frames, .mark ':' => some (.value (.object done key :: frames))
  | .afterField done frames, .mark ',' => some (.key done frames)
  | .afterField done frames, .mark '\x7d' => some (deliver (.object done.reverse) frames)
  | _, _ => none

/-- Read a text behind what is read already. -/
def readFrom (mode : Mode) (state : State) : Text → Option (Mode × State)
  | [] => some (mode, state)
  | c :: rest => do
      let (tokens, mode) ← readChar mode c
      readFrom mode (← tokens.foldlM readToken state) rest

/-- The value that a text writes. -/
def ofText? (text : Text) : Option Json := do
  match ← readFrom .between (.value []) (text ++ [' ']) with
  | (.between, .complete value) => some value
  | _ => none

end Json
end LineCensus
