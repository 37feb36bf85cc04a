/-
# Similar words

Two words have blocks in common: the longest run of characters that both hold,
and the blocks on either side of it. Of equally long runs the one that begins
first in the first word counts, and then the one that begins first in the
second. Words are close when the characters in common blocks are at least three
tenths of all characters of both.
-/

import DesignExport.Text.Basic

namespace DesignExport.Text

/-- How many characters two texts have in common at the beginning. -/
def commonStart : Text → Text → Nat
  | c :: first, d :: second => if c = d then commonStart first second + 1 else 0
  | _, _ => 0

/-- A run of characters that two texts hold, by its places and its length. -/
structure Run where
  first : Nat
  second : Nat
  length : Nat
deriving DecidableEq

/-- The longest run that two texts hold. -/
def longestRun (first second : Text) : Run :=
  (List.range first.length).foldl
    (fun best i =>
      (List.range second.length).foldl
        (fun best j =>
          let length := commonStart (first.drop i) (second.drop j)
          if best.length < length then ⟨i, j, length⟩ else best)
        best)
    ⟨0, 0, 0⟩

/-- How many characters the common blocks of two texts hold. Every run takes a
character of the first text, so its length bounds the rounds. -/
def commonWithin : Nat → Text → Text → Nat
  | 0, _, _ => 0
  | rounds + 1, first, second =>
    let run := longestRun first second
    if run.length = 0 then 0
    else
      run.length + commonWithin rounds (first.take run.first) (second.take run.second) +
        commonWithin rounds (first.drop (run.first + run.length))
          (second.drop (run.second + run.length))

/-- How many characters the common blocks of two texts hold. -/
def common (first second : Text) : Nat := commonWithin first.length first second

/-- Whether two words are close. -/
def isClose (word other : Text) : Bool :=
  decide (3 * (other.length + word.length) ≤ 10 * common other word)

/-- Whether the first word is closer to a word than the second, or as close and
greater. -/
def isCloser (word first second : Text) : Bool :=
  let left := common first word * (second.length + word.length)
  let right := common second word * (first.length + word.length)
  decide (right < left) || (right == left && decide (second < first))

/-- The words that are close to a word, at most three, in the order of words. -/
def closeWords (word : Text) (words : List Text) : List Text :=
  let closest := ((words.filter (isClose word)).mergeSort (isCloser word)).take 3
  closest.mergeSort fun first second => !decide (second < first)

end DesignExport.Text
