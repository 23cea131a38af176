/-
# Command.Words -- the words of a command line

An option has a long name, written after two dashes, and may have a letter,
written after one.  It takes a value or none.

Words are read from left to right.  A long option has its value behind an equals
sign or in the next word.  Letters can stand together behind one dash, and the
rest of the word after a letter that takes a value is that value; if nothing is
left, the next word is.  A next word is taken as a value whatever it looks like.
Two dashes alone end the options.  Every other word is plain, also a single dash.
-/

set_option autoImplicit false

namespace LineCensus

/-- An option of a command. -/
structure OptionForm (κ : Type) where
  key : κ
  long : String
  letter : Option Char := none
  takesValue : Bool := false

/-- What can be wrong with a command line. -/
inductive UsageError where
  | noCommand
  | unknownCommand (name : String)
  | unknownOption (word : String)
  | missingValue (long : String)
  | unwantedValue (long : String)
  | badValue (long value : String)
  | surplusWord (word : String)

/-- The error in words. -/
def UsageError.message : UsageError → String
  | .noCommand => "Missing command."
  | .unknownCommand name => "No such command: " ++ name
  | .unknownOption word => "No such option: " ++ word
  | .missingValue long => "Option --" ++ long ++ " requires an argument."
  | .unwantedValue long => "Option --" ++ long ++ " does not take a value."
  | .badValue long value => "Invalid value for --" ++ long ++ ": " ++ value
  | .surplusWord word => "Got unexpected extra argument: " ++ word

/-- The options that are used, in order, and the plain words. -/
structure Words (κ : Type) where
  uses : List (κ × String) := []
  plain : List String := []

namespace Words

variable {κ : Type}

/-- An option that is used, and one that waits for its value in the next word. -/
structure Reading (κ : Type) where
  uses : List (κ × String) := []
  waiting : Option (OptionForm κ) := none

def ofLong? (forms : List (OptionForm κ)) (word : List Char) : Option (OptionForm κ) :=
  forms.find? fun form => '-' :: '-' :: form.long.toList == word

def ofLetter? (forms : List (OptionForm κ)) (letter : Char) : Option (OptionForm κ) :=
  forms.find? fun form => form.letter == some letter

/-- Whether a word is one of options. -/
def isOption (word : String) : Bool :=
  match word.toList with
  | '-' :: _ :: _ => true
  | _ => false

/-- The letters after one dash. -/
def readLetters (forms : List (OptionForm κ)) : List Char → Except UsageError (Reading κ)
  | [] => .ok {}
  | letter :: rest =>
      match ofLetter? forms letter with
      | none => .error (.unknownOption (String.ofList ['-', letter]))
      | some form =>
          if !form.takesValue then do
            let others ← readLetters forms rest
            return { others with uses := (form.key, "") :: others.uses }
          else if rest.isEmpty then .ok { waiting := some form }
          else .ok { uses := [(form.key, String.ofList rest)] }

/-- A long option with or without an equals sign. -/
def readLong (form : OptionForm κ) (value : List Char) : Except UsageError (Reading κ) :=
  match form.takesValue, value with
  | true, _ :: text => .ok { uses := [(form.key, String.ofList text)] }
  | true, [] => .ok { waiting := some form }
  | false, _ :: _ => .error (.unwantedValue form.long)
  | false, [] => .ok { uses := [(form.key, "")] }

/-- The options of one word. -/
def readOption (forms : List (OptionForm κ)) (word : String) : Except UsageError (Reading κ) :=
  let cs := word.toList
  match ofLong? forms (cs.takeWhile (· != '=')) with
  | some form => readLong form (cs.dropWhile (· != '='))
  | none =>
      if ['-', '-'].isPrefixOf cs then .error (.unknownOption word) else readLetters forms cs.tail

/-- Read words.  If options and plain words are not `mixed`, the first plain word
ends the options. -/
def read (mixed : Bool) (forms : List (OptionForm κ)) :
    List String → Except UsageError (Words κ)
  | [] => .ok {}
  | word :: rest =>
      if word = "--" then .ok { plain := rest }
      else if isOption word then do
        let here ← readOption forms word
        match here.waiting with
        | none =>
            let others ← read mixed forms rest
            return { others with uses := here.uses ++ others.uses }
        | some form =>
            match rest with
            | [] => .error (.missingValue form.long)
            | value :: rest =>
                let others ← read mixed forms rest
                return { others with uses := here.uses ++ (form.key, value) :: others.uses }
      else if mixed then do
        let others ← read mixed forms rest
        return { others with plain := word :: others.plain }
      else .ok { plain := word :: rest }

/-- Give an option a value: a new one at the end, a known one in its place. -/
def setValue [DecidableEq κ] (key : κ) (value : String) :
    List (κ × String) → List (κ × String)
  | [] => [(key, value)]
  | (k, v) :: rest => if k = key then (k, value) :: rest else (k, v) :: setValue key value rest

/-- Every used option once, in the order of first use, with its last value. -/
def lastValues [DecidableEq κ] (uses : List (κ × String)) : List (κ × String) :=
  uses.foldl (fun values use => setValue use.1 use.2 values) []

end Words
end LineCensus
