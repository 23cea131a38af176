/-
# Proofs.Rows -- lines and rows of one text

A file that is a source has lines, and the same file as a manifest has rows.  Both are cut after
the same line feeds, but rows also at eight characters that lines hold like any other.  A text
has one piece more than there are breaks before its last character (`length_lines_eq`,
`length_rows_eq`), so the two numbers differ by the stray breaks before the last character
(`length_rows`), and `gemspec_lines` says so of what is reported of a package description.
-/
import LineCensus.Proofs.Balance
import LineCensus.Proofs.Breaks
import LineCensus.Proofs.Manifests

set_option autoImplicit false

namespace LineCensus

/-! ## Pieces of a text -/

namespace Text

/-- The breaks that rows end at and lines do not. -/
def strayBreaks : List Char :=
  ['\x0b', '\x0c', '\x1c', '\x1d', '\x1e', '\u0085', '\u2028', '\u2029']

theorem isRowBreak_iff {c : Char} :
    isRowBreak c = true ↔ c = '\n' ∨ c = '\r' ∨ c ∈ strayBreaks := by
  constructor
  · intro breaks
    have point : c.toNat ∈ [10, 11, 12, 13, 0x1C, 0x1D, 0x1E, 0x85, 0x2028, 0x2029] := by
      simp only [isRowBreak, Bool.or_eq_true, Bool.and_eq_true, decide_eq_true_eq,
        beq_iff_eq] at breaks
      simp only [List.mem_cons, List.not_mem_nil, or_false]
      omega
    have listed : ∀ point ∈ [10, 11, 12, 13, 0x1C, 0x1D, 0x1E, 0x85, 0x2028, 0x2029],
        Char.ofNat point = '\n' ∨ Char.ofNat point = '\r' ∨ Char.ofNat point ∈ strayBreaks := by
      decide
    have named := listed _ point
    rwa [Char.ofNat_toNat] at named
  · rintro (rfl | rfl | stray)
    · decide
    · decide
    · have all : strayBreaks.all isRowBreak = true := by decide
      exact List.all_eq_true.1 all c stray

/-- No carriage return is left when breaks are unified. -/
theorem return_not_mem_unifyBreaks (text : Text) : '\r' ∉ text.unifyBreaks := by
  have kept (afterReturn : Bool) (done : Text) (noReturn : '\r' ∉ done) :
      '\r' ∉ unifyBreaksFrom afterReturn done text := by
    induction text generalizing afterReturn done with
    | nil => simpa [unifyBreaksFrom] using noReturn
    | cons c rest ih =>
        rw [unifyBreaksFrom]
        split
        · exact ih true _ (by simp [noReturn])
        · rename_i other
          split
          · exact ih false done noReturn
          · exact ih false _ (by simp [noReturn, Ne.symm other])
  exact kept false [] (by simp)

variable {text : Text}

/-- There is one line more than there are line feeds before the last character. -/
theorem length_linesFrom (unempty : text ≠ []) (current : Text) (done : List Text) :
    (linesFrom current done text).length =
      done.length + text.dropLast.countP (· = '\n') + 1 := by
  induction text generalizing current done with
  | nil => exact absurd rfl unempty
  | cons c rest ih =>
      cases rest with
      | nil =>
          simp only [linesFrom]
          split <;> simp
      | cons d rest =>
          rw [linesFrom, List.dropLast_cons_cons, List.countP_cons]
          split
          · rw [ih (by simp)]
            simp [*]
            omega
          · rw [ih (by simp)]
            simp [*]

theorem length_lines_eq (unempty : text ≠ []) :
    text.lines.length = text.dropLast.countP (· = '\n') + 1 := by
  simpa [lines] using length_linesFrom unempty [] []

/-- There is one row more than there are breaks before the last character, if no carriage return
makes one break of two. -/
theorem length_rowsFrom (noReturn : '\r' ∉ text) (unempty : text ≠ []) (current : Text)
    (done : List Text) :
    (rowsFrom false current done text).length =
      done.length + text.dropLast.countP isRowBreak + 1 := by
  induction text generalizing current done with
  | nil => exact absurd rfl unempty
  | cons c rest ih =>
      have other := List.ne_of_not_mem_cons noReturn
      have noReturnRest := List.not_mem_of_not_mem_cons noReturn
      -- No return is read, so no line feed is passed over as the second half of a break.
      have alone : decide (c = '\r') = false := by simpa using Ne.symm other
      cases rest with
      | nil =>
          rw [rowsFrom, Bool.and_false, if_neg (by simp), alone]
          split <;> simp [rowsFrom]
      | cons d rest =>
          rw [rowsFrom, Bool.and_false, if_neg (by simp), alone, List.dropLast_cons_cons,
            List.countP_cons]
          split
          · rw [ih noReturnRest (by simp)]
            simp [*]
            omega
          · rw [ih noReturnRest (by simp)]
            simp [*]

theorem length_rows_eq (noReturn : '\r' ∉ text) (unempty : text ≠ []) :
    text.rows.length = text.dropLast.countP isRowBreak + 1 := by
  simpa [rows] using length_rowsFrom noReturn unempty [] []

/-- The breaks before the last character that rows end at and lines do not. -/
def strays (text : Text) : Nat :=
  text.dropLast.countP strayBreaks.contains

theorem countP_isRowBreak (noReturn : '\r' ∉ text) :
    text.countP isRowBreak = text.countP (· = '\n') + text.countP strayBreaks.contains := by
  induction text with
  | nil => rfl
  | cons c rest ih =>
      have other := List.ne_of_not_mem_cons noReturn
      have noReturnRest := List.not_mem_of_not_mem_cons noReturn
      rw [List.countP_cons, List.countP_cons, List.countP_cons, ih noReturnRest]
      by_cases feed : c = '\n'
      · subst feed
        simp [isRowBreak, strayBreaks]
        omega
      · have same : isRowBreak c = strayBreaks.contains c := by
          rw [Bool.eq_iff_iff, isRowBreak_iff, List.contains_iff_mem]
          simp [feed, Ne.symm other]
        simp [feed, same]
        omega

/-- **A text has one row more than lines for every stray break before its last character.** -/
theorem length_rows (noReturn : '\r' ∉ text) :
    text.rows.length = text.lines.length + text.strays := by
  by_cases empty : text = []
  · subst empty
    rfl
  · have noReturnBefore : '\r' ∉ text.dropLast := fun member =>
      noReturn (List.dropLast_subset text member)
    rw [length_rows_eq noReturn empty, length_lines_eq empty, countP_isRowBreak noReturnBefore,
      strays]
    omega

theorem strays_eq_zero_iff : text.strays = 0 ↔ ∀ c ∈ text.dropLast, c ∉ strayBreaks := by
  simp [strays, List.countP_eq_zero]

end Text

/-! ## Package descriptions -/

namespace ManifestSurvey

variable {disk : Disk} {encoding : String} {earlier later : List String} {path : String}
  {text : Text}

theorem lastText?_of_last {kind : ManifestKind}
    (here : textOf? disk encoding kind path = some text)
    (last : ∀ other ∈ later, textOf? disk encoding kind other = none) :
    lastText? disk encoding kind (earlier ++ path :: later) = some text := by
  have absent : later.reverse.findSome? (textOf? disk encoding kind) = none := by
    rw [List.findSome?_eq_none_iff]
    intro other member
    exact last other (List.mem_reverse.1 member)
  rw [lastText?, List.reverse_append, List.reverse_cons, List.append_assoc,
    List.findSome?_append, absent, Option.none_or, List.singleton_append, List.findSome?_cons, here]

/-- A survey keeps the facts of the last package description that can be read. -/
theorem gemspec_of_last (gives : GivesGemspec disk encoding path text)
    (last : ∀ other ∈ later, ∀ text, ¬ GivesGemspec disk encoding other text)
    {survey : ManifestSurvey}
    (returned : (ofPaths disk encoding (earlier ++ path :: later)).result = .ok survey) :
    survey.gemspec = some (GemspecFacts.ofText text) := by
  have given {other : String} {text : Text} :
      textOf? disk encoding .gemspec other = some text ↔ GivesGemspec disk encoding other text := by
    rw [textOf?_eq_some_iff, ManifestKind.ofPath?_eq_gemspec_iff, GivesGemspec]
  have nothing (other : String) (member : other ∈ later) :
      textOf? disk encoding .gemspec other = none := by
    rw [Option.eq_none_iff_forall_ne_some]
    intro text gives
    exact last other member text (given.1 gives)
  rw [(surveys_of_ofPaths returned).gemspec, lastText?_of_last (given.2 gives) nothing,
    Option.map_some]

end ManifestSurvey

/-- The facts of a package description count the lines of a measure, and one more for every stray
break of the text before its last character. -/
def CountsRows (text : Text) (measure : FileMeasure) (gemspec : Option GemspecFacts) : Prop :=
  ∃ facts, gemspec = some facts ∧ facts.lineCount = measure.totalLines + text.strays ∧
    (facts.lineCount = measure.totalLines ↔ ∀ c ∈ text.dropLast, c ∉ Text.strayBreaks)

theorem countsRows_ofText {text : Text} (noReturn : '\r' ∉ text) (path : String) :
    CountsRows text (FileMeasure.ofLines path (text.lines.map Line.classify))
      (some (GemspecFacts.ofText text)) := by
  have rows := Text.length_rows noReturn
  refine ⟨_, rfl, ?_, ?_⟩
  · simp [GemspecFacts.ofText, FileMeasure.ofLines, rows]
  · rw [← Text.strays_eq_zero_iff]
    simp only [GemspecFacts.ofText, FileMeasure.ofLines, List.length_map, rows]
    omega

/-- **The number of lines in the facts of a package description is that of its measure as a
source, if no stray break stands before the last character of its text, and else too large.** -/
theorem gemspec_lines {disk : Disk} {settings : Settings} {path : String} {octets : List UInt8}
    (plain : settings.encoding ∈ plainEncodings) (stores : disk.Stores path octets)
    (isGemspec : ".gemspec".toList <:+ (Path.basename path).toList) :
    ∃ (text : Text) (measure : FileMeasure),
      disk.readText settings.encoding path = .ok text ∧
      (Corpus.measure disk settings path).result = .ok (.ok measure) ∧
      (∃ survey, (ManifestSurvey.ofPaths disk settings.encoding [path]).result = .ok survey) ∧
      ∀ earlier later : List String,
        (∀ other ∈ later, ∀ text,
          ¬ ManifestSurvey.GivesGemspec disk settings.encoding other text) →
        (∀ survey, (ManifestSurvey.ofPaths disk settings.encoding
            (earlier ++ path :: later)).result = .ok survey →
          CountsRows text measure survey.gemspec) ∧
        ∀ workers cancelAfter sources report,
          (Report.analyze disk settings workers cancelAfter sources
            (earlier ++ path :: later)).result = .ok report →
          CountsRows text measure report.manifests.gemspec := by
  obtain ⟨named, charset, isPlain, found⟩ := charset_of_plainEncoding plain
  obtain ⟨decode, -, decodes⟩ := Charset.keepsAscii isPlain
  have reads : charset.read? octets = some (decode octets).unifyBreaks := by
    rw [Charset.read?, decodes, Option.map_some]
  have noReturn := Text.return_not_mem_unifyBreaks (decode octets)
  have readText := Disk.readText_of_stores stores named found reads
  refine ⟨(decode octets).unifyBreaks, _, readText,
    Corpus.measure_of_stores stores named found reads, ?_, ?_⟩
  · apply ManifestSurvey.exists_ofPaths
    intro other member fault
    rw [List.mem_singleton.1 member, readText]
    simp
  · intro earlier later last
    have counts {survey : ManifestSurvey} (returned : (ManifestSurvey.ofPaths disk
        settings.encoding (earlier ++ path :: later)).result = .ok survey) :
        CountsRows (decode octets).unifyBreaks (FileMeasure.ofLines path
          ((decode octets).unifyBreaks.lines.map Line.classify)) survey.gemspec := by
      rw [ManifestSurvey.gemspec_of_last ⟨isGemspec, readText⟩ last returned]
      exact countsRows_ofText noReturn path
    refine ⟨fun survey returned => counts returned, ?_⟩
    intro workers cancelAfter sources report analyzed
    obtain ⟨corpus, survey, listedSources, listedManifests, -, returned, -, -, composed⟩ :=
      Report.composed_of_analyze analyzed
    rw [(Report.composed_of_compose composed).survey]
    exact counts returned

/-- One line, with a form feed between its two letters. -/
def feedGemspec : List UInt8 :=
  [0x61, 0x0C, 0x62, lineFeed]

/-- A disk with that line as its only package description. -/
def feedGemspecDisk : Disk where
  root := .folder [("a.gemspec", .file ⟨feedGemspec.toArray⟩ false)]
  currentFolder := "/"
  home := "/"

theorem feedGemspec_stores : feedGemspecDisk.Stores "a.gemspec" feedGemspec := by
  refine ⟨by decide +kernel, ?_⟩
  have holds : (feedGemspecDisk.content "a.gemspec").toOption.map (·.data.toList) =
      some feedGemspec := by decide +kernel
  simpa only [Option.map_eq_some_iff, toOption_eq_some_iff] using holds

theorem gemspec_lines_feedGemspec :
    "utf-8" ∈ plainEncodings ∧ feedGemspecDisk.Stores "a.gemspec" feedGemspec ∧
    ".gemspec".toList <:+ (Path.basename "a.gemspec").toList ∧
    ∃ measure survey facts,
      (Corpus.measure feedGemspecDisk {} "a.gemspec").result = .ok (.ok measure) ∧
      (ManifestSurvey.ofPaths feedGemspecDisk "utf-8" ["a.gemspec"]).result = .ok survey ∧
      survey.gemspec = some facts ∧ facts.lineCount = measure.totalLines + 1 := by
  have plain : "utf-8" ∈ plainEncodings := by decide
  have isGemspec : ".gemspec".toList <:+ (Path.basename "a.gemspec").toList := by decide +kernel
  obtain ⟨text, measure, readText, measured, ⟨survey, surveyed⟩, counts⟩ :=
    @gemspec_lines feedGemspecDisk {} "a.gemspec" feedGemspec plain feedGemspec_stores isGemspec
  obtain ⟨facts, found, counted, -⟩ := (counts [] [] (by simp)).1 survey surveyed
  have spelled : (feedGemspecDisk.readText "utf-8" "a.gemspec").toOption =
      some "a\x0cb\n".toList := by decide +kernel
  obtain rfl := Except.ok.inj (readText.symm.trans (toOption_eq_some_iff.1 spelled))
  exact ⟨plain, feedGemspec_stores, isGemspec, measure, survey, facts, measured, surveyed, found,
    counted⟩

/-- A line count need not be that of the same file as a source. -/
theorem not_every_line_count_agrees :
    ¬ ∀ (disk : Disk) (settings : Settings) (path : String) (octets : List UInt8)
        (measure : FileMeasure) (survey : ManifestSurvey) (facts : GemspecFacts),
      settings.encoding ∈ plainEncodings → disk.Stores path octets →
      ".gemspec".toList <:+ (Path.basename path).toList →
      (Corpus.measure disk settings path).result = .ok (.ok measure) →
      (ManifestSurvey.ofPaths disk settings.encoding [path]).result = .ok survey →
      survey.gemspec = some facts → facts.lineCount = measure.totalLines := by
  intro agrees
  have oneLine : (((Corpus.measure feedGemspecDisk {} "a.gemspec").result.toOption.bind
      Except.toOption).map (·.totalLines)) = some 1 := by decide +kernel
  have twoRows : (((ManifestSurvey.ofPaths feedGemspecDisk "utf-8"
      ["a.gemspec"]).result.toOption.bind (·.gemspec)).map (·.lineCount)) = some 2 := by
    decide +kernel
  simp only [Option.map_eq_some_iff, Option.bind_eq_some_iff, toOption_eq_some_iff]
    at oneLine twoRows
  obtain ⟨measure, ⟨_, measured, rfl⟩, lines⟩ := oneLine
  obtain ⟨facts, ⟨survey, surveyed, found⟩, rows⟩ := twoRows
  have same := agrees feedGemspecDisk {} "a.gemspec" feedGemspec measure survey facts (by decide)
    feedGemspec_stores (by decide +kernel) measured surveyed found
  rw [rows, lines] at same
  exact absurd same (by decide)

end LineCensus
