import Mathlib.Data.List.TakeWhile

/-!
# The words of a command

A POSIX shell cuts a command into words at blanks, takes backslashes and quotes for what they are,
and replaces tilde-prefixes, parameters, command substitutions and patterns.  The functions below
read a command that is one list of literal words, and nothing else: they give up at operators and
newlines, at whatever is expanded, and at a quotation that is not closed.
-/

namespace AdbWide
namespace Shell

/-- A character of a word, and whether it is quoted. -/
abbrev Mark := UInt8 × Bool

/-- What the next character stands in. -/
inductive Mode where
  | plain
  /-- Behind a backslash. -/
  | escaped
  | single
  | double
  /-- Behind a backslash in double quotes. -/
  | doubleEscaped
  | comment
  deriving DecidableEq, Repr

/-- What has been read: the words before, and the word that is not finished. -/
structure Reading where
  mode : Mode := .plain
  words : List (List Mark) := []
  word : Option (List Mark) := none
  deriving DecidableEq, Repr

namespace Reading

/-- A character belongs to the word. -/
def add (reading : Reading) (mark : Mark) : Reading :=
  { reading with word := some (reading.word.getD [] ++ [mark]) }

/-- There is a word, although it may have no characters. -/
def start (reading : Reading) (mode : Mode) : Reading :=
  { reading with mode, word := some (reading.word.getD []) }

/-- All words, with the last one. -/
def all (reading : Reading) : List (List Mark) :=
  reading.words ++ reading.word.toList

/-- The word ends. -/
def close (reading : Reading) : Reading :=
  { reading with words := reading.all, word := none }

end Reading

/-- The characters at which there is an operator, a newline, a parameter or a substitution. -/
def breaks : List UInt8 := [10, 36, 38, 40, 41, 59, 60, 62, 96, 124]

/-- One character of the command. -/
def step (reading : Reading) (c : UInt8) : Option Reading :=
  match reading.mode with
  | .plain =>
      if c = 92 then some { reading with mode := .escaped }
      else if c = 39 then some (reading.start .single)
      else if c = 34 then some (reading.start .double)
      else if c = 32 ∨ c = 9 then some reading.close
      else if c ∈ breaks then none
      else if c = 35 ∧ reading.word = none then some { reading with mode := .comment }
      else some (reading.add (c, false))
  | .escaped =>
      let reading := { reading with mode := .plain }
      -- a newline behind a backslash is no character
      if c = 10 then some reading else some (reading.add (c, true))
  | .single =>
      if c = 39 then some { reading with mode := .plain } else some (reading.add (c, true))
  | .double =>
      if c = 34 then some { reading with mode := .plain }
      else if c = 92 then some { reading with mode := .doubleEscaped }
      else if c = 36 ∨ c = 96 then none
      else some (reading.add (c, true))
  | .doubleEscaped =>
      let reading := { reading with mode := .double }
      if c = 10 then some reading
      else if c = 36 ∨ c = 96 ∨ c = 34 ∨ c = 92 then some (reading.add (c, true))
      else some ((reading.add (92, true)).add (c, true))
  | .comment => if c = 10 then none else some reading

/-- The characters of the command one after the other. -/
def run (reading : Reading) (text : List UInt8) : Option Reading :=
  text.foldlM step reading

/-- The words, if nothing is left open at the end. -/
def finish (reading : Reading) : Option (List (List Mark)) :=
  match reading.mode with
  | .plain | .comment => some reading.all
  | .escaped | .single | .double | .doubleEscaped => none

/-- The word starts with a tilde-prefix, of which no character is quoted. -/
def hasTilde (word : List Mark) : Bool :=
  match word with
  | (126, false) :: rest => (rest.takeWhile (· ≠ (47, false))).all fun mark => !mark.2
  | _ => false

/-- Which words are patterns for file names.  An open bracket is one or is not, depending on what
follows it. -/
structure Patterns where
  isPattern : List Mark → Bool
  asterisk : ∀ word, (42, false) ∈ word → isPattern word = true
  questionMark : ∀ word, (63, false) ∈ word → isPattern word = true
  literal : ∀ word, (42, false) ∉ word → (63, false) ∉ word → (91, false) ∉ word →
    isPattern word = false

/-- The words of a command that is a list of literal words. -/
def literalWords (patterns : Patterns) (text : List UInt8) : Option (List (List UInt8)) := do
  let words ← finish (← run {} text)
  if words.any fun word => hasTilde word || patterns.isPattern word then none
  else some (words.map (·.map Prod.fst))

theorem run_append (reading : Reading) (front rear : List UInt8) :
    run reading (front ++ rear) = (run reading front).bind (run · rear) :=
  List.foldlM_append

@[simp] theorem run_nil (reading : Reading) : run reading [] = some reading := rfl

theorem run_cons (reading : Reading) (c : UInt8) (text : List UInt8) :
    run reading (c :: text) = (step reading c).bind (run · text) :=
  List.foldlM_cons

/-- A comment goes on up to the end of the line. -/
theorem step_comment {reading : Reading} (comment : reading.mode = .comment) {c : UInt8}
    (notNewline : c ≠ 10) : step reading c = some reading := by
  rw [step, comment]
  exact if_neg notNewline

theorem run_comment {reading : Reading} (comment : reading.mode = .comment) {text : List UInt8}
    (line : 10 ∉ text) : run reading text = some reading := by
  induction text with
  | nil => rfl
  | cons c text induction =>
      rw [List.mem_cons, not_or] at line
      rw [run_cons, step_comment comment (Ne.symm line.1), Option.bind_some, induction line.2]

/-! ## What has been read -/

namespace Reading

/-- All characters of all words satisfy a predicate. -/
def AllMarks (p : Mark → Prop) (reading : Reading) : Prop :=
  ∀ word ∈ reading.all, ∀ mark ∈ word, p mark

variable {p : Mark → Prop} {reading : Reading}

@[simp] theorem all_close (reading : Reading) : reading.close.all = reading.all := by
  rw [close, all]
  exact List.append_nil _

theorem AllMarks.mode (marks : reading.AllMarks p) (mode : Mode) :
    { reading with mode }.AllMarks p := marks

theorem AllMarks.close (marks : reading.AllMarks p) : reading.close.AllMarks p := by
  rw [AllMarks, all_close]
  exact marks

/-- The characters of the unfinished word are among all characters. -/
theorem AllMarks.word (marks : reading.AllMarks p) : ∀ mark ∈ reading.word.getD [], p mark := by
  cases found : reading.word with
  | none => exact fun mark member => absurd member List.not_mem_nil
  | some word => exact marks word (by simp [all, found])

theorem AllMarks.of_word (marks : reading.AllMarks p) {word : List Mark}
    (added : ∀ mark ∈ word, p mark) : { reading with word := some word }.AllMarks p := by
  intro other member
  rcases List.mem_append.mp member with before | last
  · exact marks other (List.mem_append_left _ before)
  · obtain rfl : other = word := by simpa using last
    exact added

theorem AllMarks.start (marks : reading.AllMarks p) (mode : Mode) :
    (reading.start mode).AllMarks p :=
  (marks.of_word marks.word).mode mode

theorem AllMarks.add (marks : reading.AllMarks p) {mark : Mark} (holds : p mark) :
    (reading.add mark).AllMarks p := by
  apply marks.of_word
  intro other member
  rcases List.mem_append.mp member with before | last
  · exact marks.word other before
  · rw [List.mem_singleton.mp last]
    exact holds

end Reading

end Shell
end AdbWide
