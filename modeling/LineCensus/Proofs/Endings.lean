/-
# Proofs.Endings -- how a command ends when a path is missing

Roots are searched in order, and the first that cannot be searched ends the command.  If
that root is nowhere, the command is to end as an error of usage, with a message; but the
message is read as markup, and a path can write a tag.

* `Ending.errorText_literal`, `Ending.errorText_stray`: a path without an opening bracket is
  shown as it is, but for emoji, and one whose first tag closes a tag cannot be shown.
* `Discovery.ofRoots_stops`: the root that ends a search.
* `missing_path_ends`: the ending of a command, all cases.
-/
import LineCensus.Command.Run
import LineCensus.Proofs.Markup
import LineCensus.Proofs.Obstacles

set_option autoImplicit false

namespace LineCensus

variable {glyphs : Glyphs}

/-! ## Messages -/

namespace Ending

open Markup

/-- The tokens of the label that stands before every message. -/
def labelTokens : List Token :=
  [.plain [], .tag "red".toList, .plain "Error:".toList, .plain [], .tag "/red".toList]

theorem tokens_label (text : Text) :
    tokens ("[red]Error:[/red] ".toList ++ text) = labelTokens ++ tokensFrom 0 [] (' ' :: text) := by
  have opening : IsContent "red".toList := ⟨by decide, by decide⟩
  have closing : IsContent "/red".toList := ⟨by decide, by decide⟩
  have parts : "[red]Error:[/red] ".toList ++ text =
      '[' :: ("red".toList ++ ']' :: ("Error:".toList ++
        '[' :: ("/red".toList ++ ']' :: (' ' :: text)))) := rfl
  rw [parts, tokens, tokensFrom_tag opening, tokensFrom_upTo (by decide) (by decide),
    tokensFrom_tag closing]
  rfl

/-- The label closes the tag that it opens. -/
theorem page_label (glyphs : Glyphs) (rest : List Token) :
    page glyphs 0 [] (labelTokens ++ rest) = (page glyphs 6 [] rest).map fun after =>
      { text := "Error:".toList ++ after.text
        uses := { name := "red".toList, isSeen := true } :: after.uses } := by
  have opens : applyTag 0 [] "red".toList =
      .ok ([{ style := "red", parameters := none, start := 0 }], []) := rfl
  have closes : applyTag 6 [{ style := "red", parameters := none, start := 0 }] "/red".toList =
      .ok ([], [{ name := "red".toList, isSeen := true }]) := rfl
  have nothing : seen glyphs [] = [] := rfl
  have same : seen glyphs "Error:".toList = "Error:".toList := rfl
  have six : "Error:".toList.countP (· != '\n') = 6 := rfl
  simp only [labelTokens, List.cons_append, List.nil_append, page, nothing, List.countP_nil,
    Nat.zero_add, opens, ok_bind, same, six, Nat.add_zero, closes]
  cases page glyphs 6 [] rest <;> rfl

/-- What an error shows is what its text shows behind the label. -/
theorem errorText_of_page {error : ReportedError} {text : Text}
    (paged : page glyphs 6 [] (tokensFrom 0 [] (' ' :: error.text.toList)) = .ok { text }) :
    errorText glyphs error =
      .ok (Screen.textOf (terminalLines glyphs ("Error:".toList ++ text))) := by
  rw [errorText, String.toList_append, shownUndivided, tokens_label, page_label, paged]
  simp only [Except.map, ok_bind]
  -- The style of the label is looked up on a text of one line as well as on any other.
  cases isOneLine glyphs ("Error:".toList ++ text) <;> rfl

theorem errorText_of_fault {error : ReportedError} {fault : Fault}
    (paged : page glyphs 6 [] (tokensFrom 0 [] (' ' :: error.text.toList)) = .error fault) :
    errorText glyphs error = .error fault := by
  rw [errorText, String.toList_append, shownUndivided, tokens_label, page_label, paged]
  rfl

/-- The error of a path that is nowhere. -/
def missing (path : String) : ReportedError :=
  .invalidPath path Discovery.missingRoot

theorem missing_inj {path other : String} (same : missing path = missing other) : path = other :=
  (ReportedError.invalidPath.inj same).1

/-- What stands before the path in its message, and behind it: the path once more, and the
reason. -/
def lead : Text := "Invalid path: ".toList
def trail (path : String) : Text :=
  " (path=".toList ++ (path.toList ++ ", reason=path does not exist)".toList)

theorem toList_text_missing (path : String) :
    (missing path).text.toList = lead ++ (path.toList ++ trail path) := by
  have text : (missing path).text =
      "Invalid path: " ++ path ++ " (" ++
        ("path" ++ "=" ++ path ++ ", " ++ ("reason" ++ "=" ++ "path does not exist")) ++ ")" := by
    rfl
  refine (congrArg String.toList text).trans ?_
  simp only [String.toList_append, List.append_assoc]
  rfl

theorem not_mem_lead : '[' ∉ lead := by decide

theorem not_mem_trail {path : String} (noBracket : '[' ∉ path.toList) : '[' ∉ trail path := by
  unfold trail
  simp only [List.mem_append, not_or]
  exact ⟨by decide, noBracket, by decide⟩

/-- A path without an opening bracket is shown as it is, with emoji, except for control
characters that move the cursor. -/
theorem errorText_literal (glyphs : Glyphs) {path : String} (noBracket : '[' ∉ path.toList) :
    errorText glyphs (missing path) = .ok (Screen.textOf (terminalLines glyphs
      ("Error:".toList ++ seen glyphs (' ' :: (missing path).text.toList)))) := by
  have noBracketThere : '[' ∉ ' ' :: (missing path).text.toList := by
    simp only [toList_text_missing, List.mem_cons, List.mem_append, not_or]
    exact ⟨by decide, not_mem_lead, noBracket, not_mem_trail noBracket⟩
  apply errorText_of_page
  rw [tokensFrom_plain noBracketThere, List.append_nil, plainToken, List.reverse_reverse,
    unescape_of_not_mem noBracketThere, if_neg (by simp)]
  simp [page]

/-- A path whose first tag closes one. -/
def ClosesFirst (path : String) : Prop :=
  ∃ before name after : Text, path.toList = before ++ '[' :: ('/' :: name ++ ']' :: after) ∧
    '[' ∉ before ∧ before.getLast? ≠ some '\\' ∧ '[' ∉ name ∧ ']' ∉ name

/-- Such a path cannot be shown: no tag is open there. -/
theorem errorText_stray (glyphs : Glyphs) {path : String} (closes : ClosesFirst path) :
    ∃ fault, errorText glyphs (missing path) = .error fault := by
  obtain ⟨before, name, after, written, plain, unescaped, isName⟩ := closes
  have isContent : IsContent ('/' :: name) :=
    ⟨by simp [startsTag], by simp [isName], by simp [isName]⟩
  have stretch : '[' ∉ ' ' :: lead ++ before := by
    simp only [List.mem_append, List.mem_cons, not_or]
    exact ⟨⟨by decide, not_mem_lead⟩, plain⟩
  have unescapedStretch : (' ' :: lead ++ before).getLast? ≠ some '\\' := by
    cases last : before.getLast? with
    | none =>
        rw [List.getLast?_eq_none_iff.1 last]
        decide
    | some c =>
        rw [List.getLast?_append, last]
        rwa [last] at unescaped
  have whole : ' ' :: (missing path).text.toList =
      ' ' :: lead ++ before ++ '[' :: ('/' :: name ++ ']' :: (after ++ trail path)) := by
    rw [toList_text_missing, written]
    simp only [List.append_assoc, List.cons_append]
  have plainTokens :
      ∀ token ∈ plainToken (' ' :: lead ++ before).reverse ++ [.plain []],
        ∃ text, token = .plain text := by
    intro token member
    rcases List.mem_append.1 member with first | last
    · exact plain_of_mem_plainToken first
    · exact ⟨_, List.mem_singleton.1 last⟩
  obtain ⟨fault, fails⟩ :=
    page_stray glyphs plainTokens name (tokensFrom 0 [] (after ++ trail path)) 6
  refine ⟨fault, errorText_of_fault ?_⟩
  rw [whole, tokensFrom_upTo stretch unescapedStretch, tokensFrom_tag isContent, List.append_nil,
    ← fails, List.append_assoc, List.singleton_append]

end Ending

/-! ## Searches that stop -/

/-- A fault that is not reported in the program's own words. -/
def Fault.Unreported (fault : Fault) : Prop :=
  ∀ error, fault ≠ .reported error

namespace Discovery

variable {disk : Disk} {settings : Settings}

theorem unreported_of_ofRoot {root : String} {fault : Fault}
    (fails : (ofRoot disk settings root).result = .error fault) : fault.Unreported := by
  rintro error rfl
  rcases fault_of_ofRoot fails with nul | ⟨problem, notAllowed⟩ | deep | ⟨ofKind, -⟩
  · cases nul
  · cases notAllowed
  · cases deep
  · cases ofKind

/-- A root that cannot be searched is nowhere, which is reported, or stops the search
otherwise. -/
theorem ofPresentRoot_eq_error {root : String} {fault : Fault}
    (fails : (ofPresentRoot disk settings root).result = .error fault) :
    disk.isThere root = .ok false ∧ fault = .reported (Ending.missing root) ∨
      fault.Unreported := by
  rw [ofPresentRoot, Logged.bind_result, Logged.ofExcept] at fails
  cases asked : disk.isThere root with
  | error problem =>
      right
      rw [asked] at fails
      rintro error rfl
      cases fails
  | ok isThere =>
      rw [asked] at fails
      cases isThere with
      | false => exact .inl ⟨rfl, (Except.error.inj fails).symm⟩
      | true =>
          have searched : (ofRoot disk settings root).result = .error fault := fails
          exact .inr (unreported_of_ofRoot searched)

/-- The first root that cannot be searched, and why. -/
inductive StopsAt (disk : Disk) (settings : Settings) (root : String) (fault : Fault) :
    List String → Prop where
  | here {rest : List String} (fails : (ofPresentRoot disk settings root).result = .error fault) :
      StopsAt disk settings root fault (root :: rest)
  | later {earlier : String} {rest : List String} {found : Discovery}
      (searched : (ofPresentRoot disk settings earlier).result = .ok found)
      (stops : StopsAt disk settings root fault rest) :
      StopsAt disk settings root fault (earlier :: rest)

namespace StopsAt

variable {root : String} {fault : Fault} {roots : List String}

theorem fails (stops : StopsAt disk settings root fault roots) :
    (ofPresentRoot disk settings root).result = .error fault := by
  induction stops with
  | here fails => exact fails
  | later _ _ ih => exact ih

/-- What stops a search is its fault. -/
theorem ofRootsAfter_eq_error (stops : StopsAt disk settings root fault roots)
    (found : Discovery) : (ofRootsAfter disk settings found roots).result = .error fault := by
  induction stops generalizing found with
  | here fails =>
      rw [ofRootsAfter, Logged.bind_result, fails]
      rfl
  | later searched _ ih =>
      rw [ofRootsAfter, Logged.bind_result, searched]
      exact ih _

/-- A search is stopped by one fault. -/
theorem fault_eq {other : String} {otherFault : Fault}
    (stops : StopsAt disk settings root fault roots)
    (otherStops : StopsAt disk settings other otherFault roots) : fault = otherFault := by
  have fails := stops.ofRootsAfter_eq_error {}
  rw [otherStops.ofRootsAfter_eq_error] at fails
  exact (Except.error.inj fails).symm

end StopsAt

/-- A search that stops has a root that stops it. -/
theorem exists_stopsAt {roots : List String} {fault : Fault} {found : Discovery}
    (fails : (ofRootsAfter disk settings found roots).result = .error fault) :
    ∃ root, StopsAt disk settings root fault roots := by
  induction roots generalizing found with
  | nil => cases fails
  | cons first rest ih =>
      rw [ofRootsAfter, Logged.bind_result] at fails
      rcases bind_eq_error fails with here | ⟨found, searched, fails⟩
      · exact ⟨first, .here here⟩
      · obtain ⟨root, stops⟩ := ih fails
        exact ⟨root, .later searched stops⟩

/-- A root that is nowhere, or that cannot be asked about, cannot be searched. -/
theorem ofPresentRoot_fails (settings : Settings) {root : String}
    (absent : disk.exists? root = false) :
    ∃ fault, (ofPresentRoot disk settings root).result = .error fault := by
  have notThere : disk.isThere root ≠ .ok true := by
    intro asked
    unfold Disk.isThere at asked
    unfold Disk.exists? at absent
    split at asked
    · cases asked
    · rename_i noNul
      split at asked
      · rename_i node found
        rw [found] at absent
        simp [noNul, Except.isOk, Except.toBool] at absent
      · split at asked <;> cases asked
  rw [ofPresentRoot, Logged.bind_result, Logged.ofExcept]
  cases asked : disk.isThere root with
  | error problem => exact ⟨_, rfl⟩
  | ok isThere =>
      cases isThere with
      | false => exact ⟨_, rfl⟩
      | true => exact absurd asked notThere

/-- A search of several roots of which one is nowhere stops. -/
theorem ofRootsAfter_fails (settings : Settings) {roots : List String}
    (absent : ∃ root ∈ roots, disk.exists? root = false) (found : Discovery) :
    ∃ fault, (ofRootsAfter disk settings found roots).result = .error fault := by
  induction roots generalizing found with
  | nil =>
      obtain ⟨root, member, -⟩ := absent
      cases member
  | cons first rest ih =>
      rw [ofRootsAfter, Logged.bind_result]
      cases searched : (ofPresentRoot disk settings first).result with
      | error fault => exact ⟨fault, rfl⟩
      | ok here =>
          refine ih ?_ _
          obtain ⟨root, member, nowhere⟩ := absent
          rcases List.mem_cons.1 member with rfl | member
          · obtain ⟨fault, fails⟩ := ofPresentRoot_fails settings nowhere
            rw [searched] at fails
            cases fails
          · exact ⟨root, member, nowhere⟩

end Discovery

/-! ## Commands -/

/-- A command line that asks for an analysis and is in order but for its paths, the plain
ones of its `words`: its options can be used, and the settings load. -/
structure Analyzes (disk : Disk) (environment : List (String × String))
    (commandLine : List String) (words : Words AnalyzeOption) (settings : Settings) : Prop where
  named : ∃ outer arguments, Words.read false HelpOption.forms commandLine = .ok outer ∧
    Command.asksHelp .help outer = false ∧ outer.plain = Command.analyzeName :: arguments ∧
    Words.read true AnalyzeOption.forms arguments = .ok words
  noHelp : Command.asksHelp .help words = false
  configured : ∃ request, AnalyzeRequest.ofWords disk { words with plain := [] } = .ok request ∧
    Settings.load disk environment request.settingsFile request.overrides = .ok settings

namespace Analyzes

variable {disk : Disk} {environment : List (String × String)} {commandLine : List String}
  {words : Words AnalyzeOption} {settings : Settings}

/-- What is left of such a command line are its paths. -/
theorem ofArguments (analyzes : Analyzes disk environment commandLine words settings) :
    ∃ request : AnalyzeRequest,
      Command.ofArguments disk commandLine =
        (words.plain.mapM AnalyzeRequest.pathOf).map (fun paths =>
          .analyze { request with paths }) ∧
      Settings.load disk environment request.settingsFile request.overrides = .ok settings := by
  obtain ⟨⟨outer, arguments, outerRead, noOuterHelp, outerPlain, wordsRead⟩, noHelp, request,
    optionsRead, loads⟩ := analyzes
  unfold AnalyzeRequest.ofWords at optionsRead
  obtain ⟨chosen, folded, rest⟩ := bind_eq_ok optionsRead
  obtain rfl := Except.ok.inj rest
  refine ⟨chosen, ?_, loads⟩
  have outerWords : Command.readWords false HelpOption.forms commandLine = .ok outer := by
    rw [Command.readWords, outerRead]
    rfl
  have innerWords : Command.readWords true AnalyzeOption.forms arguments = .ok words := by
    rw [Command.readWords, wordsRead]
    rfl
  have ofWords : AnalyzeRequest.ofWords disk words =
      (words.plain.mapM AnalyzeRequest.pathOf).map fun paths => { chosen with paths } := by
    unfold AnalyzeRequest.ofWords
    rw [folded, ok_bind]
    cases words.plain.mapM AnalyzeRequest.pathOf <;> rfl
  rw [Command.ofArguments, outerWords, ok_bind, noOuterHelp, outerPlain]
  simp only [Bool.false_eq_true, if_false]
  rw [Command.ofName, if_pos rfl, innerWords, ok_bind, noHelp, ofWords]
  cases words.plain.mapM AnalyzeRequest.pathOf <;> rfl

theorem run_of_hasNul (analyzes : Analyzes disk environment commandLine words settings)
    (workers : Workers) (glyphs : Glyphs)
    (nul : ∃ word ∈ words.plain, Disk.hasNul word = true) :
    Command.run disk environment workers commandLine glyphs =
      Ending.ofRejection (.fault (.refused .nulInPath)) := by
  obtain ⟨request, reads, -⟩ := analyzes.ofArguments
  have refused (word : String) (nul : Disk.hasNul word = true) :
      AnalyzeRequest.pathOf word = .error (.fault (.refused .nulInPath)) := by
    rw [AnalyzeRequest.pathOf, if_pos nul]
  have paths : words.plain.mapM AnalyzeRequest.pathOf =
      .error (.fault (.refused .nulInPath)) := by
    refine mapM_eq_error (fun word _ => ?_) ?_
    · cases named : Disk.hasNul word with
      | true => exact .inl (refused word named)
      | false =>
          right
          exact ⟨Path.tidy word, by rw [AnalyzeRequest.pathOf, named]; rfl⟩
    · obtain ⟨word, member, nul⟩ := nul
      exact ⟨word, member, refused word nul⟩
  rw [Command.run, reads, paths]
  rfl

/-- A command without a NUL character in its paths searches them in order, and ends with the
fault that stops the search. -/
theorem run_of_absent (analyzes : Analyzes disk environment commandLine words settings)
    (workers : Workers) (glyphs : Glyphs) (noNul : ∀ word ∈ words.plain, Disk.hasNul word = false)
    (absent : ∃ word ∈ words.plain, disk.exists? (Path.tidy word) = false) :
    ∃ fault log,
      (Discovery.ofRoots disk settings (words.plain.map Path.tidy)).result = .error fault ∧
      Command.run disk environment workers commandLine glyphs =
        { Ending.ofFault glyphs settings.verbosity.level fault with log } := by
  obtain ⟨request, reads, loads⟩ := analyzes.ofArguments
  have paths : words.plain.mapM AnalyzeRequest.pathOf = .ok (words.plain.map Path.tidy) := by
    rw [mapM_eq_ok_iff, List.forall₂_map_right_iff, List.forall₂_same]
    intro word member
    rw [AnalyzeRequest.pathOf, noNul word member]
    rfl
  obtain ⟨word, member, nowhere⟩ := absent
  obtain ⟨fault, stopped⟩ := Discovery.ofRootsAfter_fails settings
    ⟨Path.tidy word, List.mem_map_of_mem member, nowhere⟩ {}
  have someWord : (words.plain.map Path.tidy).isEmpty = false := by
    rw [List.isEmpty_map]
    exact List.isEmpty_eq_false_iff_exists_mem.2 ⟨word, member⟩
  let asked : AnalyzeRequest := { request with paths := words.plain.map Path.tidy }
  have roots : asked.roots disk = words.plain.map Path.tidy := by
    rw [AnalyzeRequest.roots, someWord]
    rfl
  have fails : (AnalyzeRequest.report disk settings workers (asked.roots disk)).result =
      .error fault := by
    rw [roots, AnalyzeRequest.report, Logged.bind_result, Discovery.ofRoots, stopped]
    rfl
  have loadsToo : Settings.load disk environment asked.settingsFile asked.overrides =
      .ok settings := loads
  refine ⟨fault, (AnalyzeRequest.report disk settings workers (asked.roots disk)).log, stopped, ?_⟩
  rw [Command.run, reads, paths]
  show asked.run glyphs disk environment workers = _
  rw [AnalyzeRequest.run, loadsToo]
  simp only [fails, Except.bind]

end Analyzes

namespace Ending

theorem ofFault_missing (level : Int) {path text : String}
    (shown : errorText glyphs (missing path) = .ok text) :
    ofFault glyphs level (.reported (missing path)) =
      { exit := usageExit, errorOutput := text, level } := by
  rw [ofFault]
  simp only [shown]
  rfl

theorem ofFault_unshown (level : Int) {path : String} {fault : Fault}
    (unshown : errorText glyphs (missing path) = .error fault) :
    ofFault glyphs level (.reported (missing path)) =
      { exit := faultExit, level, fault := some fault } := by
  rw [ofFault]
  simp only [unshown]

theorem ofFault_of_unreported (level : Int) {fault : Fault} (unreported : fault.Unreported) :
    ofFault glyphs level fault = { exit := faultExit, level, fault := some fault } := by
  cases fault with
  | reported error => exact absurd rfl (unreported error)
  | _ => rfl

/-- How a command ends of whose paths, as they are written, one is nowhere. -/
structure EndsMissing (glyphs : Glyphs) (disk : Disk) (settings : Settings) (paths : List String)
    (ending : Ending) : Prop where
  silent : ending.output = ""
  /-- It is an error of usage, or a fault escapes. -/
  exit : ending.exit = usageExit ∧ ending.fault = none ∨
    ending.exit = faultExit ∧ ending.fault.isSome = true
  /-- It is an error of usage just if no path has a NUL character, the first root that cannot
  be searched is nowhere, and its message can be shown. -/
  usage : ending.exit = usageExit ↔
    (∀ path ∈ paths, Disk.hasNul path = false) ∧
    ∃ root text, Discovery.StopsAt disk settings root (.reported (missing root))
        (paths.map Path.tidy) ∧
      errorText glyphs (missing root) = .ok text
  shown : ending.exit = usageExit → ∃ root,
    Discovery.StopsAt disk settings root (.reported (missing root)) (paths.map Path.tidy) ∧
      errorText glyphs (missing root) = .ok ending.errorOutput
  /-- A message without an opening bracket can be shown. -/
  literal : (∀ path ∈ paths, Disk.hasNul path = false) → ∀ root,
    Discovery.StopsAt disk settings root (.reported (missing root)) (paths.map Path.tidy) →
      '[' ∉ root.toList → ending.exit = usageExit
  /-- One whose first tag closes a tag cannot. -/
  stray : ∀ root,
    Discovery.StopsAt disk settings root (.reported (missing root)) (paths.map Path.tidy) →
      ClosesFirst root → ending.exit = faultExit

variable {disk : Disk} {settings : Settings} {paths : List String} {ending : Ending}

theorem endsMissing_of_shown {root : String} (noNul : ∀ path ∈ paths, Disk.hasNul path = false)
    (stops : Discovery.StopsAt disk settings root (.reported (missing root))
      (paths.map Path.tidy))
    (shown : errorText glyphs (missing root) = .ok ending.errorOutput) (silent : ending.output = "")
    (exit : ending.exit = usageExit) (reported : ending.fault = none) :
    EndsMissing glyphs disk settings paths ending where
  silent := silent
  exit := .inl ⟨exit, reported⟩
  usage := ⟨fun _ => ⟨noNul, root, _, stops, shown⟩, fun _ => exit⟩
  shown := fun _ => ⟨root, stops, shown⟩
  literal := fun _ _ _ _ => exit
  stray := by
    intro other otherStops closes
    obtain ⟨fault, unshown⟩ := errorText_stray glyphs closes
    obtain rfl := missing_inj (Fault.reported.inj (otherStops.fault_eq stops))
    rw [shown] at unshown
    cases unshown

/-- A command from which a fault escapes: the message of its missing path cannot be
shown, or it has come to none. -/
theorem endsMissing_of_escape
    (unshown : (∀ path ∈ paths, Disk.hasNul path = false) → ∀ root,
      Discovery.StopsAt disk settings root (.reported (missing root)) (paths.map Path.tidy) →
        ∃ fault, errorText glyphs (missing root) = .error fault)
    (silent : ending.output = "") (exit : ending.exit = faultExit)
    (escapes : ending.fault.isSome = true) : EndsMissing glyphs disk settings paths ending where
  silent := silent
  exit := .inr ⟨exit, escapes⟩
  usage := by
    constructor
    · intro usage
      rw [exit] at usage
      cases usage
    · rintro ⟨noNul, root, text, stops, shown⟩
      obtain ⟨fault, fails⟩ := unshown noNul root stops
      rw [shown] at fails
      cases fails
  shown := by
    intro usage
    rw [exit] at usage
    cases usage
  literal := by
    intro noNul root stops noBracket
    obtain ⟨fault, fails⟩ := unshown noNul root stops
    rw [errorText_literal glyphs noBracket] at fails
    cases fails
  stray := fun _ _ _ => exit

end Ending

/-- **A missing path ends an analysis as an error of usage, without output, if its message
can be shown.** -/
theorem missing_path_ends {disk : Disk} {environment : List (String × String)}
    {commandLine : List String} {words : Words AnalyzeOption} {settings : Settings}
    (workers : Workers) (glyphs : Glyphs)
    (analyzes : Analyzes disk environment commandLine words settings)
    (absent : ∃ word ∈ words.plain, disk.exists? (Path.tidy word) = false) :
    Ending.EndsMissing glyphs disk settings words.plain
      (Command.run disk environment workers commandLine glyphs) := by
  by_cases nul : ∃ word ∈ words.plain, Disk.hasNul word = true
  · rw [analyzes.run_of_hasNul workers glyphs nul]
    obtain ⟨word, member, hasNul⟩ := nul
    refine Ending.endsMissing_of_escape (fun noNul => ?_) rfl rfl rfl
    rw [noNul word member] at hasNul
    cases hasNul
  · have noNul : ∀ word ∈ words.plain, Disk.hasNul word = false := by
      simpa using nul
    obtain ⟨fault, log, fails, ends⟩ := analyzes.run_of_absent workers glyphs noNul absent
    rw [ends]
    obtain ⟨root, stops⟩ := Discovery.exists_stopsAt fails
    rcases Discovery.ofPresentRoot_eq_error stops.fails with ⟨-, rfl⟩ | unreported
    · cases shown : Ending.errorText glyphs (Ending.missing root) with
      | ok text =>
          rw [Ending.ofFault_missing _ shown]
          exact Ending.endsMissing_of_shown noNul stops shown rfl rfl rfl
      | error fault =>
          rw [Ending.ofFault_unshown _ shown]
          refine Ending.endsMissing_of_escape (fun _ other otherStops => ?_) rfl rfl rfl
          obtain rfl := Ending.missing_inj (Fault.reported.inj (otherStops.fault_eq stops))
          exact ⟨fault, shown⟩
    · rw [Ending.ofFault_of_unreported _ unreported]
      refine Ending.endsMissing_of_escape (fun _ other otherStops => ?_) rfl rfl rfl
      exact absurd (stops.fault_eq otherStops) (unreported _)

/-- A disk with nothing on it. -/
def bareDisk : Disk where
  root := .folder []
  currentFolder := "/"
  home := "/"

/-- On a bare disk, any one path can be asked for, and is nowhere. -/
theorem analyzes_bareDisk (path : String) (isPlain : Words.isOption path = false)
    (notLast : path ≠ "--") :
    ∃ settings, Analyzes bareDisk [] ["analyze", path] { plain := [path] } settings := by
  have outer : Words.read false HelpOption.forms ["analyze", path] =
      .ok { plain := ["analyze", path] } := by
    rw [Words.read, if_neg (by decide), if_neg (by decide), if_neg (by decide)]
  have loads : (Settings.load bareDisk [] none ({} : AnalyzeRequest).overrides).isOk = true := by
    decide +kernel
  cases loaded : Settings.load bareDisk [] none ({} : AnalyzeRequest).overrides with
  | error fault =>
      rw [loaded] at loads
      cases loads
  | ok settings =>
      refine ⟨settings, ⟨{ plain := ["analyze", path] }, [path], outer, rfl, rfl, ?_⟩, rfl,
        {}, rfl, loaded⟩
      rw [Words.read, if_neg notLast, isPlain]
      rfl

theorem missing_path_ends_bareDisk :
    ∃ words settings, Analyzes bareDisk [] ["analyze", "gone"] words settings ∧
      (∃ word ∈ words.plain, bareDisk.exists? (Path.tidy word) = false) ∧
      Ending.EndsMissing .plain bareDisk settings words.plain
        (Command.run bareDisk [] Schedule.inOrder ["analyze", "gone"]) := by
  obtain ⟨settings, analyzes⟩ := analyzes_bareDisk "gone" (by decide) (by decide)
  have absent : ∃ word ∈ ["gone"], bareDisk.exists? (Path.tidy word) = false :=
    ⟨"gone", by simp, by decide +kernel⟩
  exact ⟨_, settings, analyzes, absent, missing_path_ends Schedule.inOrder .plain analyzes absent⟩

/-- A fault escapes if the missing path is a closing tag. -/
theorem not_every_missing_path_is_usage :
    ¬ ∀ (disk : Disk) (environment : List (String × String)) (workers : Workers)
        (commandLine : List String) (words : Words AnalyzeOption) (settings : Settings),
      Analyzes disk environment commandLine words settings →
      (∃ word ∈ words.plain, disk.exists? (Path.tidy word) = false) →
      (Command.run disk environment workers commandLine).exit = Ending.usageExit ∧
        (Command.run disk environment workers commandLine).output = "" ∧
        (Command.run disk environment workers commandLine).fault = none := by
  intro ends
  obtain ⟨settings, analyzes⟩ := analyzes_bareDisk "[/x]" (by decide) (by decide)
  have absent : ∃ word ∈ ["[/x]"], bareDisk.exists? (Path.tidy word) = false :=
    ⟨"[/x]", by simp, by decide +kernel⟩
  obtain ⟨usage, -, -⟩ := ends bareDisk [] Schedule.inOrder ["analyze", "[/x]"] _ settings
    analyzes absent
  have escapes : (Command.run bareDisk [] Schedule.inOrder ["analyze", "[/x]"]).exit =
      Ending.faultExit := by
    decide +kernel
  rw [escapes] at usage
  cases usage

end LineCensus
