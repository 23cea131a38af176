/-
# Proofs.JsonText -- a JSON text is read back as its value

A value is read back from its text by induction on it: behind every value its end is told
from what follows, and what an array or an object holds so far is in the frame around the
value that is read (`Json.traceFrom_render`).  The words of the text are the tokens of the
numbers, truth values and nulls in order, so a double stands there with its shortest token.
-/
import LineCensus.Proofs.JsonTokens
import LineCensus.Report.Format

set_option autoImplicit false

namespace LineCensus
namespace Json

/-! ## Scalars -/

mutual

/-- The nulls, truth values and numbers, in order. -/
def scalars : Json → List Json
  | .text _ => []
  | .array items => scalarsOfItems items
  | .object fields => scalarsOfFields fields
  | value => [value]

def scalarsOfItems : List Json → List Json
  | [] => []
  | item :: rest => scalars item ++ scalarsOfItems rest

def scalarsOfFields : List (String × Json) → List Json
  | [] => []
  | (_, value) :: rest => scalars value ++ scalarsOfFields rest

end

def real? : Json → Option Binary64
  | .real x => some x
  | _ => none

/-- Whether all doubles among scalars are finite. -/
def AreFinite (scalars : List Json) : Prop :=
  ∀ x ∈ scalars.filterMap real?, x.isFinite = true

instance (scalars : List Json) : Decidable (AreFinite scalars) :=
  inferInstanceAs (Decidable (∀ x ∈ scalars.filterMap real?, x.isFinite = true))

/-- A word that writes a scalar; for a double it is the shortest. -/
def IsToken : Json → Text → Prop
  | .real (.signed negative rank), word =>
      scalar? word = some (.real (.signed negative rank)) ∧
        Binary64.IsShortestToken negative rank word
  | value, word => scalar? word = some value

theorem areFinite_append {before behind : List Json} :
    AreFinite (before ++ behind) ↔ AreFinite before ∧ AreFinite behind := by
  simp only [AreFinite, List.filterMap_append, List.mem_append, or_imp, forall_and]

/-- A finite double is written by a word, and it is the shortest. -/
theorem isWord_of_isFinite {x : Binary64} (finite : x.isFinite = true) :
    IsWord (realToken x) (.real x) ∧ IsToken (.real x) (realToken x) := by
  cases x with
  | nan => cases finite
  | signed negative rank =>
      have below : rank < Binary64.infiniteRank := of_decide_eq_true finite
      have isWord := isWord_real negative below
      refine ⟨isWord, isWord.writes, ?_⟩
      rw [realToken, if_neg (Nat.not_le_of_lt below)]
      exact Binary64.isShortestToken_text negative below

/-! ## Between tokens -/

/-- States that take a value, for the frames that it is handed to. -/
inductive Awaits : State → List Frame → Prop
  | value (frames : List Frame) : Awaits (.value frames) frames
  | firstItem (frames : List Frame) : Awaits (.firstItem frames) (.array [] :: frames)

/-- States that take a key, for the fields and the frames that it is kept with. -/
inductive AwaitsKey : State → List (String × Json) → List Frame → Prop
  | firstKey (frames : List Frame) : AwaitsKey (.firstKey frames) [] frames
  | key (done : List (String × Json)) (frames : List Frame) :
      AwaitsKey (.key done frames) done frames

/-- What stands behind a word and is no part of it. -/
def EndsWord (rest : Text) : Prop :=
  ∃ c more, rest = c :: more ∧ isWordChar c = false

section Between

variable {state : State} {frames : List Frame} {words : List Text} {rest : Text}

namespace Awaits

variable (awaits : Awaits state frames)
include awaits

theorem readToken_scalar (value : Json) :
    readToken state (.scalar value) = some (deliver value frames) := by
  cases awaits <;> rfl

theorem readToken_text (s : String) :
    readToken state (.text s) = some (deliver (.text s) frames) := by
  cases awaits <;> rfl

theorem readToken_openArray : readToken state (.mark '[') = some (.firstItem frames) := by
  cases awaits <;> rfl

theorem readToken_openObject : readToken state (.mark '\x7b') = some (.firstKey frames) := by
  cases awaits <;> rfl

/-- A word is handed to the frame around it. -/
theorem traceFrom_isWord {word : Text} {value : Json} (isWord : IsWord word value)
    (ends : EndsWord rest) :
    traceFrom .between state words (word ++ rest) =
      traceFrom .between (deliver value frames) (word :: words) rest := by
  obtain ⟨c, more, rfl, separates⟩ := ends
  exact traceFrom_word isWord separates (awaits.readToken_scalar value)

end Awaits

theorem traceFrom_mark {c : Char} {state' : State}
    (mark : startToken c = some ([.mark c], .between))
    (taken : readToken state (.mark c) = some state') :
    traceFrom .between state words (c :: rest) = traceFrom .between state' words rest :=
  traceFrom_cons (mark : readChar .between c = some ([.mark c], .between)) (by simp [taken])

/-- A key is read up to its value. -/
theorem traceFrom_key {key : String} {done : List (String × Json)}
    (awaits : AwaitsKey state done frames) :
    traceFrom .between state words (textToken key ++ ':' :: ' ' :: rest) =
      traceFrom .between (.value (.object done key :: frames)) words rest := by
  have taken : readToken state (.text key) = some (.colon done key frames) := by
    cases awaits <;> rfl
  rw [traceFrom_textToken taken, traceFrom_mark rfl rfl,
    traceFrom_step (by rfl : readChar .between ' ' = some ([], .between))]

theorem traceFrom_fillers {fillers : Text} (areFillers : ∀ c ∈ fillers, isFiller c = true) :
    traceFrom .between state words (fillers ++ rest) =
      traceFrom .between state words rest := by
  induction fillers with
  | nil => rfl
  | cons c fillers ih =>
      have skips : readChar .between c = some ([], .between) := by
        rw [readChar, startToken, if_pos (areFillers c List.mem_cons_self)]
      rw [List.cons_append, traceFrom_step skips,
        ih fun d member => areFillers d (List.mem_cons_of_mem c member)]

theorem isFiller_of_mem_breakAt {level : Nat} {c : Char} (member : c ∈ breakAt level) :
    isFiller c = true := by
  rcases List.mem_cons.1 member with rfl | blank
  · rfl
  · rw [List.eq_of_mem_replicate blank]
    rfl

theorem traceFrom_breakAt (level : Nat) :
    traceFrom .between state words (breakAt level ++ rest) =
      traceFrom .between state words rest :=
  traceFrom_fillers fun _ => isFiller_of_mem_breakAt

theorem endsWord_cons {c : Char} (separates : isWordChar c = false) : EndsWord (c :: rest) :=
  ⟨c, rest, rfl, separates⟩

theorem endsWord_breakAt (level : Nat) : EndsWord (breakAt level ++ rest) :=
  endsWord_cons (by decide)

theorem endsWord_renderItems (level : Nat) (items : List Json) (ends : EndsWord rest) :
    EndsWord (renderItems level items ++ rest) := by
  cases items with
  | nil => exact ends
  | cons item items => exact endsWord_cons (by decide)

theorem endsWord_renderFields (level : Nat) (fields : List (String × Json))
    (ends : EndsWord rest) : EndsWord (renderFields level fields ++ rest) := by
  cases fields with
  | nil => exact ends
  | cons field fields => exact endsWord_cons (by decide)

end Between

/-! ## Values -/

/-- The words of scalars, the last one first. -/
def wordsBack (scalars : List Json) : List Text :=
  (scalars.map (render 0)).reverse

theorem wordsBack_append (before behind : List Json) (words : List Text) :
    wordsBack (before ++ behind) ++ words = wordsBack behind ++ (wordsBack before ++ words) := by
  simp [wordsBack]

-- The induction is on the value.  It goes through because the frames are arbitrary: inside an
-- array or an object they are longer by the one that holds what was read of it.
mutual

/-- A value is read back from its text, up to what follows it. -/
theorem traceFrom_render (level : Nat) (value : Json) (finite : AreFinite value.scalars)
    {state : State} {frames : List Frame} (awaits : Awaits state frames) {rest : Text}
    (ends : EndsWord rest) (words : List Text) :
    traceFrom .between state words (render level value ++ rest) =
      traceFrom .between (deliver value frames) (wordsBack value.scalars ++ words) rest := by
  match value with
  | .null => exact awaits.traceFrom_isWord isWord_null ends
  | .flag b => exact awaits.traceFrom_isWord (isWord_flag b) ends
  | .whole n => exact awaits.traceFrom_isWord (isWord_whole n) ends
  | .real x =>
      have isFinite := finite x List.mem_cons_self
      exact awaits.traceFrom_isWord (isWord_of_isFinite isFinite).1 ends
  | .text s => exact traceFrom_textToken (awaits.readToken_text s)
  | .array [] =>
      rw [render, List.cons_append, List.singleton_append,
        traceFrom_mark rfl awaits.readToken_openArray, traceFrom_mark rfl rfl]
      rfl
  | .array (item :: items) =>
      obtain ⟨finiteItem, finiteItems⟩ := areFinite_append.1 finite
      simp only [render, List.cons_append, List.append_assoc, List.nil_append]
      rw [traceFrom_mark rfl awaits.readToken_openArray, traceFrom_breakAt,
        traceFrom_render (level + 1) item finiteItem (.firstItem frames)
          (endsWord_renderItems _ _ (endsWord_breakAt level)),
        deliver,
        traceFrom_renderItems (level + 1) items finiteItems (endsWord_breakAt level),
        traceFrom_breakAt, traceFrom_mark rfl rfl, List.reverse_append, List.reverse_reverse,
        ← wordsBack_append]
      rfl
  | .object [] =>
      rw [render, List.cons_append, List.singleton_append,
        traceFrom_mark rfl awaits.readToken_openObject, traceFrom_mark rfl rfl]
      rfl
  | .object ((key, value) :: fields) =>
      obtain ⟨finiteValue, finiteFields⟩ := areFinite_append.1 finite
      simp only [render, List.cons_append, List.append_assoc, List.nil_append]
      rw [traceFrom_mark rfl awaits.readToken_openObject, traceFrom_breakAt,
        traceFrom_key (.firstKey frames),
        traceFrom_render (level + 1) value finiteValue (.value _)
          (endsWord_renderFields _ _ (endsWord_breakAt level)),
        deliver,
        traceFrom_renderFields (level + 1) fields finiteFields (endsWord_breakAt level),
        traceFrom_breakAt, traceFrom_mark rfl rfl, List.reverse_append, List.reverse_reverse,
        ← wordsBack_append]
      rfl

theorem traceFrom_renderItems (level : Nat) (items : List Json)
    (finite : AreFinite (scalarsOfItems items)) {done : List Json} {frames : List Frame}
    {rest : Text} (ends : EndsWord rest) (words : List Text) :
    traceFrom .between (.afterItem done frames) words (renderItems level items ++ rest) =
      traceFrom .between (.afterItem (items.reverse ++ done) frames)
        (wordsBack (scalarsOfItems items) ++ words) rest := by
  match items with
  | [] => rfl
  | item :: items =>
      obtain ⟨finiteItem, finiteItems⟩ := areFinite_append.1 finite
      simp only [renderItems, List.cons_append, List.append_assoc]
      rw [traceFrom_mark rfl rfl, traceFrom_breakAt,
        traceFrom_render level item finiteItem (.value _) (endsWord_renderItems _ _ ends),
        deliver, traceFrom_renderItems level items finiteItems ends, ← wordsBack_append,
        List.reverse_cons, List.append_assoc]
      rfl

theorem traceFrom_renderFields (level : Nat) (fields : List (String × Json))
    (finite : AreFinite (scalarsOfFields fields)) {done : List (String × Json)}
    {frames : List Frame} {rest : Text} (ends : EndsWord rest) (words : List Text) :
    traceFrom .between (.afterField done frames) words (renderFields level fields ++ rest) =
      traceFrom .between (.afterField (fields.reverse ++ done) frames)
        (wordsBack (scalarsOfFields fields) ++ words) rest := by
  match fields with
  | [] => rfl
  | (key, value) :: fields =>
      obtain ⟨finiteValue, finiteFields⟩ := areFinite_append.1 finite
      simp only [renderFields, List.cons_append, List.append_assoc]
      rw [traceFrom_mark rfl rfl, traceFrom_breakAt,
        traceFrom_key (.key done frames),
        traceFrom_render level value finiteValue (.value _) (endsWord_renderFields _ _ ends),
        deliver, traceFrom_renderFields level fields finiteFields ends, ← wordsBack_append,
        List.reverse_cons, List.append_assoc]
      rfl

end

/-- The text of a value is read as the value, and its words are the tokens of the scalars. -/
theorem ofText?_toText {value : Json} (finite : AreFinite value.scalars) :
    ofText? value.toText.toList = some value ∧
      wordsOf? value.toText.toList = some (value.scalars.map (render 0)) := by
  have blank : EndsWord [' '] := endsWord_cons rfl
  have traced : traceFrom .between (.value []) [] (render 0 value ++ [' ']) =
      some (.between, .complete value, wordsBack value.scalars) := by
    rw [traceFrom_render 0 value finite (.value []) blank, List.append_nil,
      traceFrom_step (by rfl : readChar .between ' ' = some ([], .between))]
    rfl
  constructor
  · rw [ofText?, readFrom_eq_trace _ _ [], toText, String.toList_ofList, traced]
    rfl
  · rw [wordsOf?, toText, String.toList_ofList, traced]
    simp [wordsBack]

/-! ## What the text consists of -/

theorem isAscii_breakAt (level : Nat) : IsAscii (breakAt level) := by
  refine isAscii_cons.2 ⟨by decide, fun c blank => ?_⟩
  rw [List.eq_of_mem_replicate blank]
  decide

mutual

theorem isAscii_render (level : Nat) (value : Json) (finite : AreFinite value.scalars) :
    IsAscii (render level value) := by
  match value with
  | .null => exact isWord_null.ascii
  | .flag b => exact (isWord_flag b).ascii
  | .whole n => exact (isWord_whole n).ascii
  | .real x => exact (isWord_of_isFinite (finite x List.mem_cons_self)).1.ascii
  | .text s => exact isAscii_textToken s
  | .array [] => simp [render]
  | .array (item :: items) =>
      obtain ⟨finiteItem, finiteItems⟩ := areFinite_append.1 finite
      simp [render, isAscii_breakAt, isAscii_render (level + 1) item finiteItem,
        isAscii_renderItems (level + 1) items finiteItems]
  | .object [] => simp [render]
  | .object ((key, value) :: fields) =>
      obtain ⟨finiteValue, finiteFields⟩ := areFinite_append.1 finite
      simp [render, isAscii_breakAt, isAscii_textToken,
        isAscii_render (level + 1) value finiteValue,
        isAscii_renderFields (level + 1) fields finiteFields]

theorem isAscii_renderItems (level : Nat) (items : List Json)
    (finite : AreFinite (scalarsOfItems items)) : IsAscii (renderItems level items) := by
  match items with
  | [] => exact isAscii_nil
  | item :: items =>
      obtain ⟨finiteItem, finiteItems⟩ := areFinite_append.1 finite
      simp [renderItems, isAscii_breakAt, isAscii_render level item finiteItem,
        isAscii_renderItems level items finiteItems]

theorem isAscii_renderFields (level : Nat) (fields : List (String × Json))
    (finite : AreFinite (scalarsOfFields fields)) : IsAscii (renderFields level fields) := by
  match fields with
  | [] => exact isAscii_nil
  | (key, value) :: fields =>
      obtain ⟨finiteValue, finiteFields⟩ := areFinite_append.1 finite
      simp [renderFields, isAscii_breakAt, isAscii_textToken,
        isAscii_render level value finiteValue, isAscii_renderFields level fields finiteFields]

end

mutual

theorem isToken_scalars (value : Json) (finite : AreFinite value.scalars) :
    ∀ scalar ∈ value.scalars, IsToken scalar (render 0 scalar) := by
  match value with
  | .null => exact List.forall_mem_singleton.2 isWord_null.writes
  | .flag b => exact List.forall_mem_singleton.2 (isWord_flag b).writes
  | .whole n => exact List.forall_mem_singleton.2 (isWord_whole n).writes
  | .real x =>
      have isFinite := finite x List.mem_cons_self
      exact List.forall_mem_singleton.2 (isWord_of_isFinite isFinite).2
  | .text s => exact List.forall_mem_nil _
  | .array items => exact isToken_scalarsOfItems items finite
  | .object fields => exact isToken_scalarsOfFields fields finite

theorem isToken_scalarsOfItems (items : List Json) (finite : AreFinite (scalarsOfItems items)) :
    ∀ scalar ∈ scalarsOfItems items, IsToken scalar (render 0 scalar) := by
  match items with
  | [] => exact List.forall_mem_nil _
  | item :: items =>
      obtain ⟨finiteItem, finiteItems⟩ := areFinite_append.1 finite
      exact List.forall_mem_append.2
        ⟨isToken_scalars item finiteItem, isToken_scalarsOfItems items finiteItems⟩

theorem isToken_scalarsOfFields (fields : List (String × Json))
    (finite : AreFinite (scalarsOfFields fields)) :
    ∀ scalar ∈ scalarsOfFields fields, IsToken scalar (render 0 scalar) := by
  match fields with
  | [] => exact List.forall_mem_nil _
  | (_, value) :: fields =>
      obtain ⟨finiteValue, finiteFields⟩ := areFinite_append.1 finite
      exact List.forall_mem_append.2
        ⟨isToken_scalars value finiteValue, isToken_scalarsOfFields fields finiteFields⟩

end

end Json

/-! ## Reports -/

theorem isShort_iff {n : Int} : isShort n = true ↔ n.natAbs < 10 ^ digitLimit := by
  have power (k : Nat) : tenTo k = 10 ^ k := rfl
  rw [isShort, decide_eq_true_iff, power]

namespace ReportFormat

/-- **A report is read back from its text.**  If its doubles are finite and its whole numbers
have at most as many digits as can be written, the text is ASCII and is read as the value of
the report; one by one its words are tokens of the scalars there, those of doubles the
shortest. -/
theorem json_text_reads_back (report : Report) (finite : Json.AreFinite report.toJson.scalars)
    (short : ∀ n ∈ report.toJson.wholes, n.natAbs < 10 ^ digitLimit) :
    ∃ text words, ReportFormat.json.text report = .ok text ∧ Json.IsAscii text.toList ∧
      Json.ofText? text.toList = some report.toJson ∧
      Json.wordsOf? text.toList = some words ∧
      List.Forall₂ Json.IsToken report.toJson.scalars words := by
  have writable : report.toJson.isWritable = true := by
    rw [Json.isWritable, List.all_eq_true]
    intro n member
    rw [isShort_iff]
    exact short n member
  have written : ReportFormat.json.text report = .ok report.toJson.toText := by
    rw [text, textWithin, Report.jsonText, if_pos writable]
  obtain ⟨reads, words⟩ := Json.ofText?_toText finite
  refine ⟨report.toJson.toText, _, written, ?_, reads, words, ?_⟩
  · rw [Json.toText, String.toList_ofList]
    exact Json.isAscii_render 0 report.toJson finite
  · exact List.forall₂_map_right_iff.2
      (List.forall₂_same.2 (Json.isToken_scalars report.toJson finite))

/-- A path beyond sixteen bits, a key with a quote and a line break, and one tenth. -/
theorem json_text_reads_back_escaped :
    let tenth := Binary64.ofDecimal false 1 (-1)
    let report : Report :=
      { files :=
          { types := [("\"\n", 2)]
            largest := [{ path := "lib/𝄞\\.rb", size := 102, kib := .real tenth }] } }
    Json.AreFinite report.toJson.scalars ∧
      (∀ n ∈ report.toJson.wholes, n.natAbs < 10 ^ digitLimit) ∧
      ∃ text words, ReportFormat.json.text report = .ok text ∧ Json.IsAscii text.toList ∧
        Json.ofText? text.toList = some report.toJson ∧
        Json.wordsOf? text.toList = some words ∧
        List.Forall₂ Json.IsToken report.toJson.scalars words := by
  intro tenth report
  have finite : Json.AreFinite report.toJson.scalars := by decide +kernel
  have short : ∀ n ∈ report.toJson.wholes, n.natAbs < 10 ^ digitLimit := by decide +kernel
  exact ⟨finite, short, json_text_reads_back report finite short⟩

/-- A report with a whole number of one digit too many has no text. -/
theorem not_every_finite_report_has_json :
    ¬ ∀ report : Report, Json.AreFinite report.toJson.scalars →
      ∃ text, ReportFormat.json.text report = .ok text ∧
        Json.ofText? text.toList = some report.toJson := by
  intro all
  obtain ⟨text, written, -⟩ := all { code := { lines := { code := tenTo digitLimit } } }
    (by decide +kernel)
  have refused : ReportFormat.json.text { code := { lines := { code := tenTo digitLimit } } } =
      .error (.refused .tooLongToWrite) := by
    rw [ReportFormat.text, textWithin, Report.jsonText]
    exact if_neg (by decide +kernel)
  rw [refused] at written
  cases written

end ReportFormat
end LineCensus
