/-
# Proofs.Reading -- what comes of the files of a batch

A file is measured if its text can be read and passed over with a reason if not; the
one fault of reading that ends a batch is UTF-16 without a byte order mark.

* `Charset.read?_eq_none_iff`: that is the only input a charset does not read.
* `Source.readLines_cases`: what comes of one file, `LacksMark` being that fault.
* `batch_accounts`: a batch in which no file lacks its mark gives one outcome for each
  path (`ComesOf`), and any other ends with the fault.
-/
import LineCensus.Proofs.Checking
import LineCensus.Proofs.Collection

set_option autoImplicit false

namespace LineCensus

/-! ## Charsets -/

namespace Charset

/-- Octets that begin with a mark that says in which order units are written. -/
def StartsWithMark (octets : List UInt8) : Prop :=
  octets.take 2 = [0xFF, 0xFE] ∨ octets.take 2 = [0xFE, 0xFF]

theorem decodeMarked?_eq_none_iff (octets : List UInt8) :
    decodeMarked? octets = none ↔ 2 ≤ octets.length ∧ ¬ StartsWithMark octets := by
  obtain _ | ⟨a, _ | ⟨b, rest⟩⟩ := octets
  · simp [decodeMarked?]
  · simp [decodeMarked?]
  have either : StartsWithMark (a :: b :: rest) ↔
      (a = 0xFF ∧ b = 0xFE) ∨ (a = 0xFE ∧ b = 0xFF) := by
    simp [StartsWithMark]
  rw [decodeMarked?, either]
  split
  · rename_i little
    simp [little]
  split
  · rename_i big
    simp [big]
  · rename_i notLittle notBig
    simp [notLittle, notBig]

theorem read?_eq_none_iff (charset : Charset) (octets : List UInt8) :
    charset.read? octets = none ↔
      charset = .utf16 ∧ 2 ≤ octets.length ∧ ¬ StartsWithMark octets := by
  rw [read?, Option.map_eq_none_iff]
  cases charset with
  | utf16 => simp only [decode?, decodeMarked?_eq_none_iff, true_and]
  | _ => simp [decode?]

end Charset

/-! ## One file -/

/-- The file of a path is to be read as UTF-16, has a whole unit, and does not begin
with a byte order mark. -/
structure LacksMark (disk : Disk) (encoding path : String) : Prop where
  reachable : Disk.hasNul path = false
  charset : Codec.find? encoding = some (.charset .utf16)
  unmarked : ∃ content, disk.content path = .ok content ∧ 2 ≤ content.data.toList.length ∧
    ¬ Charset.StartsWithMark content.data.toList

theorem SkipCause.reason_ne_empty (cause : SkipCause) : cause.reason ≠ "" := by
  cases cause with
  | missing => decide
  | notAFile => decide
  | unreadable problem =>
      intro empty
      obtain ⟨noHead, -⟩ := String.append_eq_empty_iff.1 empty
      revert noHead
      decide

theorem charset_eq_ok_iff {name : String} {read : Charset} :
    charset name = .ok read ↔ Codec.find? name = some (.charset read) := by
  unfold charset
  rcases Codec.find? name with _ | ⟨found⟩ | _ <;> simp

namespace Disk

variable {disk : Disk} {encoding path : String}

/-- Only a regular file that is there has a content. -/
theorem isFile_of_content {content : ByteArray} (reachable : hasNul path = false)
    (holds : disk.content path = .ok content) :
    disk.exists? path = true ∧ disk.isFile path = true := by
  unfold Disk.content at holds
  unfold exists? isFile
  rw [reachable]
  split at holds
  · rename_i found
    rw [found]
    exact ⟨rfl, rfl⟩
  · cases holds
  · cases holds

theorem isFile_of_readText {text : Text} (reads : disk.readText encoding path = .ok text) :
    disk.exists? path = true ∧ disk.isFile path = true := by
  unfold readText at reads
  split at reads
  · cases reads
  split at reads
  · cases reads
  rename_i reachable
  split at reads
  · cases reads
  · rename_i content holds
    exact isFile_of_content (by simpa using reachable) holds

/-- Once names without NUL are given, the one fault of reading is a lacking mark. -/
theorem readText_fault_iff (named : hasNul encoding = false) (reachable : hasNul path = false)
    (fault : Fault) :
    disk.readText encoding path = .error (.fault fault) ↔
      fault = .noByteOrderMark ∧ LacksMark disk encoding path := by
  rw [readText, named, reachable]
  simp only [Bool.false_eq_true, if_false]
  constructor
  · intro fails
    -- What fails before the octets are decoded is a problem, never a fault.
    split at fails
    · cases fails
    rename_i content holds
    split at fails
    · cases fails
    rename_i read found
    split at fails
    · cases fails
    rename_i unreadable
    cases fails
    obtain ⟨rfl, wholeUnit, unmarked⟩ := (Charset.read?_eq_none_iff _ _).1 unreadable
    exact ⟨rfl, reachable, charset_eq_ok_iff.1 found, content, holds, wholeUnit, unmarked⟩
  · rintro ⟨rfl, -, found, content, holds, unmarked⟩
    have unreadable := (Charset.read?_eq_none_iff _ _).2 ⟨rfl, unmarked⟩
    simp only [holds, charset_eq_ok_iff.2 found, unreadable]

end Disk

namespace Source

variable {disk : Disk} {encoding path : String}

theorem readLines_of_lacksMark (named : Disk.hasNul encoding = false)
    (lacks : LacksMark disk encoding path) :
    readLines disk encoding path = .error .noByteOrderMark := by
  obtain ⟨content, holds, -⟩ := lacks.unmarked
  obtain ⟨isThere, isFile⟩ := Disk.isFile_of_content lacks.reachable holds
  have fails := (Disk.readText_fault_iff named lacks.reachable .noByteOrderMark).2 ⟨rfl, lacks⟩
  rw [readLines, isThere, isFile, fails]
  rfl

/-- The lines of a file are read, or there is a cause for passing it over. -/
theorem readLines_of_not_lacksMark (named : Disk.hasNul encoding = false)
    (marked : ¬ LacksMark disk encoding path) :
    (∃ text, disk.readText encoding path = .ok text ∧
        readLines disk encoding path = .ok (.ok text.lines)) ∨
      ∃ cause, (∀ text, disk.readText encoding path ≠ .ok text) ∧
        readLines disk encoding path = .ok (.error cause) := by
  unfold readLines
  split
  · rename_i absent
    refine .inr ⟨.missing, fun text reads => ?_, rfl⟩
    rw [(Disk.isFile_of_readText reads).1] at absent
    cases absent
  split
  · rename_i notAFile
    refine .inr ⟨.notAFile, fun text reads => ?_, rfl⟩
    rw [(Disk.isFile_of_readText reads).2] at notAFile
    cases notAFile
  rename_i isThere _
  -- A path with a NUL character leads nowhere, so it was passed over above.
  have reachable : Disk.hasNul path = false := by
    cases nul : Disk.hasNul path with
    | false => rfl
    | true => simp [Disk.exists?, nul] at isThere
  cases outcome : disk.readText encoding path with
  | ok text => exact .inl ⟨text, rfl, rfl⟩
  | error failure =>
      cases failure with
      | problem problem => exact .inr ⟨.unreadable problem, nofun, rfl⟩
      | fault fault =>
          exact absurd ((Disk.readText_fault_iff named reachable fault).1 outcome).2 marked

end Source

/-! ## A batch -/

/-- What may come of a file: the measure of its text, or, if no text can be read, a
reason for passing it over. -/
inductive ComesOf (disk : Disk) (encoding path : String) : Outcome → Prop where
  | measured (text : Text) (reads : disk.readText encoding path = .ok text) :
      ComesOf disk encoding path (.ok (FileMeasure.ofLines path (text.lines.map Line.classify)))
  | passedOver (reason : String) (given : reason ≠ "")
      (unread : ∀ text, disk.readText encoding path ≠ .ok text) :
      ComesOf disk encoding path (.error ⟨path, reason⟩)

namespace Corpus

variable {disk : Disk} {settings : Settings}

theorem measure_of_lacksMark (named : Disk.hasNul settings.encoding = false) {path : String}
    (lacks : LacksMark disk settings.encoding path) :
    (measure disk settings path).result = .error .noByteOrderMark := by
  rw [measure, Source.scan, Logged.bind_result, Logged.bind_result, Logged.ofExcept,
    Source.readLines_of_lacksMark named lacks]
  rfl

theorem measure_of_not_lacksMark (named : Disk.hasNul settings.encoding = false) {path : String}
    (marked : ¬ LacksMark disk settings.encoding path) :
    ∃ outcome, (measure disk settings path).result = .ok outcome ∧
      ComesOf disk settings.encoding path outcome := by
  rw [measure, Source.scan, Logged.bind_result, Logged.bind_result, Logged.ofExcept]
  rcases Source.readLines_of_not_lacksMark named marked with
    ⟨text, reads, lines⟩ | ⟨cause, unread, passed⟩
  · rw [lines]
    exact ⟨_, rfl, .measured text reads⟩
  · rw [passed]
    exact ⟨_, rfl, .passedOver cause.reason cause.reason_ne_empty unread⟩

end Corpus

/-- **A batch gives one outcome for each path, in order: its measure, or a reason why
it has no text -- unless some file is to be read as UTF-16 and lacks its byte order
mark, which ends the batch with a fault.** -/
theorem batch_accounts {draft : Draft} {settings : Settings}
    (accepted : draft.check = .ok settings) (disk : Disk) (workers : Workers)
    (paths : List String) :
    ((∀ path ∈ paths, ¬ LacksMark disk settings.encoding path) →
      ∃ outcomes : List Outcome,
        (Corpus.collect disk settings workers none paths).result =
          .ok (Collection.ofOutcomes outcomes) ∧
        List.Forall₂ (ComesOf disk settings.encoding) paths outcomes) ∧
    ((∃ path ∈ paths, LacksMark disk settings.encoding path) →
      (Corpus.collect disk settings workers none paths).result = .error .noByteOrderMark) := by
  obtain ⟨named, -⟩ := Draft.namesCodec_of_check accepted
  rw [Corpus.collect_result, Corpus.outcomesOf, Corpus.beforeCancel]
  refine ⟨fun marked => ?_, fun lacking => ?_⟩
  · obtain ⟨outcomes, all, comeOf⟩ := mapM_ok_of_forall
      fun path member => Corpus.measure_of_not_lacksMark named (marked path member)
    refine ⟨outcomes, ?_, comeOf⟩
    rw [all]
    rfl
  · have aborts : (paths.mapM fun path => (Corpus.measure disk settings path).result) =
        .error .noByteOrderMark := by
      refine mapM_eq_error (fun path _ => ?_) ?_
      · by_cases lacks : LacksMark disk settings.encoding path
        · exact .inl (Corpus.measure_of_lacksMark named lacks)
        · obtain ⟨outcome, ok, -⟩ := Corpus.measure_of_not_lacksMark named lacks
          exact .inr ⟨outcome, ok⟩
      · obtain ⟨path, member, lacks⟩ := lacking
        exact ⟨path, member, Corpus.measure_of_lacksMark named lacks⟩
    rw [aborts]
    rfl

/-- A disk with one file, which has no byte order mark. -/
def unmarkedDisk : Disk where
  root := .folder [("a.rb", .file ⟨#[0x78, 0x0A]⟩ false)]
  currentFolder := "/"
  home := "/"

theorem batch_accounts_unmarkedDisk :
    Draft.check { encoding := .text "utf-16" } = .ok { encoding := "utf-16" } ∧
    (∃ outcomes : List Outcome,
      (Corpus.collect unmarkedDisk { encoding := "utf-16" } Schedule.inOrder none
          ["b.rb"]).result = .ok (Collection.ofOutcomes outcomes) ∧
      List.Forall₂ (ComesOf unmarkedDisk "utf-16") ["b.rb"] outcomes) ∧
    (Corpus.collect unmarkedDisk { encoding := "utf-16" } Schedule.inOrder none
        ["b.rb", "a.rb"]).result = .error .noByteOrderMark := by
  have accepted := Draft.check_of_namesCodec (show Disk.hasNul "utf-16" = false by decide +kernel)
    (by decide +kernel)
  have batch := batch_accounts accepted unmarkedDisk Schedule.inOrder
  refine ⟨accepted, (batch ["b.rb"]).1 ?_, (batch ["b.rb", "a.rb"]).2 ⟨"a.rb", ?_, ?_⟩⟩
  · intro path member lacks
    obtain ⟨content, holds, -⟩ := lacks.unmarked
    rw [List.mem_singleton.1 member] at holds
    have absent : (unmarkedDisk.content "b.rb").isOk = false := by decide +kernel
    rw [holds] at absent
    cases absent
  · exact List.mem_cons_of_mem _ (List.mem_singleton.2 rfl)
  · exact ⟨by decide +kernel, by decide +kernel, ⟨#[0x78, 0x0A]⟩, by decide +kernel, by decide,
      by simp [Charset.StartsWithMark]⟩

/-- A batch can end with a fault. -/
theorem not_every_batch_accounts :
    ¬ ∀ (draft : Draft) (settings : Settings), draft.check = .ok settings →
      ∀ (disk : Disk) (workers : Workers) (paths : List String),
        ∃ outcomes : List Outcome,
          (Corpus.collect disk settings workers none paths).result =
            .ok (Collection.ofOutcomes outcomes) ∧
          List.Forall₂ (ComesOf disk settings.encoding) paths outcomes := by
  intro always
  have accepted := Draft.check_of_namesCodec (show Disk.hasNul "utf-16" = false by decide +kernel)
    (by decide +kernel)
  obtain ⟨outcomes, ok, -⟩ := always _ _ accepted unmarkedDisk Schedule.inOrder ["a.rb"]
  have fails : (Corpus.collect unmarkedDisk { encoding := "utf-16" } Schedule.inOrder none
      ["a.rb"]).result.isOk = false := by decide +kernel
  rw [ok] at fails
  cases fails

end LineCensus
