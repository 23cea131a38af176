/-
# Line.Decision -- the decision points of a text

A decision point is a whole word that branches, loops or handles an error, or a
logical operator of two characters.  Comments and strings count like code.

`decisionWordsFrom` walks the text and tries the words only where a word begins;
`operatorsFrom` takes operators from left to right without overlap, so that a
run of three bars is one operator.
-/
import LineCensus.Line.Classify

set_option autoImplicit false

namespace LineCensus

def branchWords : List Text :=
  ["if".toList, "unless".toList, "while".toList, "until".toList, "for".toList, "case".toList]

def rescueWords : List Text :=
  ["rescue".toList, "ensure".toList]

def decisionWords : List Text :=
  branchWords ++ rescueWords

/-- Decision words in the text, added to `count`; `inWord` says that a word
character stands just before it. -/
def decisionWordsFrom (inWord : Bool) (count : Nat) : Text → Nat
  | [] => count
  | c :: rest =>
      let found := !inWord && decisionWords.any (·.headIs (c :: rest))
      decisionWordsFrom (isWord c) (if found then count + 1 else count) rest

/-- Operators `&&` and `||` in the text, added to `count`. -/
def operatorsFrom (count : Nat) : Text → Nat
  | '&' :: '&' :: rest => operatorsFrom (count + 1) rest
  | '|' :: '|' :: rest => operatorsFrom (count + 1) rest
  | _ :: rest => operatorsFrom count rest
  | [] => count

/-- The decision points of a text. -/
def decisionPoints (text : Text) : Nat :=
  decisionWordsFrom false 0 text + operatorsFrom 0 text

end LineCensus
