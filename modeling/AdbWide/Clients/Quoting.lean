import AdbWide.ShellWords
import AdbWide.Sockets.Traffic

/-!
# Quoting for the shell of the device

`pm_command` and `delete_file` send a command to the shell of the device, and `dupAndQuote` puts a
backslash in front of some characters of their arguments.
-/

namespace AdbWide
namespace Clients

open Sockets.Server (ascii)
open Shell

/-! ## The code -/

/-- The characters that `dupAndQuote` puts a backslash in front of. -/
def isQuoted (c : UInt8) : Bool :=
  c = 32 ∨ c = 34 ∨ c = 92 ∨ c = 40 ∨ c = 41

/-- The first loop of `dupAndQuote`, from the length so far. -/
def allocLen (length : Nat) : List UInt8 → Nat
  | [] => length
  | c :: s => allocLen (if isQuoted c then length + 1 + 1 else length + 1) s

/-- What the second loop writes for a character. -/
def quoteChar (c : UInt8) : List UInt8 :=
  if isQuoted c then [92, c] else [c]

/-- `dupAndQuote`, without the terminator. -/
def dupAndQuote (s : List UInt8) : List UInt8 :=
  s.flatMap quoteChar

/-- The arguments behind a command, each behind a blank. -/
def quotedArgs (args : List (List UInt8)) : List UInt8 :=
  args.flatMap fun arg => 32 :: dupAndQuote arg

/-- The command of `pm_command` as the shell of the device gets it. -/
def pmText (args : List (List UInt8)) : List UInt8 :=
  ascii "pm" ++ quotedArgs args

/-- The command of `delete_file` as the shell of the device gets it. -/
def rmText (filename : List UInt8) : List UInt8 :=
  ascii "rm " ++ dupAndQuote filename

theorem dupAndQuote_cons (c : UInt8) (s : List UInt8) :
    dupAndQuote (c :: s) = quoteChar c ++ dupAndQuote s :=
  List.flatMap_cons

theorem quotedArgs_cons (arg : List UInt8) (args : List (List UInt8)) :
    quotedArgs (arg :: args) = 32 :: dupAndQuote arg ++ quotedArgs args :=
  List.flatMap_cons

/-- The memory that is allocated is what is written, but for the terminator. -/
theorem length_dupAndQuote (s : List UInt8) : (dupAndQuote s).length = allocLen 0 s := by
  have from_length (length : Nat) : allocLen length s = length + (dupAndQuote s).length := by
    induction s generalizing length with
    | nil => rfl
    | cons c s induction =>
        rw [allocLen, induction, dupAndQuote_cons, List.length_append, quoteChar]
        split
        · rw [List.length_cons, List.length_singleton]
          omega
        · rw [List.length_singleton]
          omega
  rw [from_length, Nat.zero_add]

/-! ## The condition -/

/-- The characters that the shell acts upon and `dupAndQuote` leaves as they are. -/
def active : List UInt8 := [9, 10, 36, 38, 39, 59, 60, 62, 96, 124]

/-- What the shell makes of the characters of an argument. -/
def argMarks (arg : List UInt8) : List Mark :=
  arg.map fun c => (c, isQuoted c)

/-- An argument that comes through as it is. -/
structure Literal (patterns : Patterns) (arg : List UInt8) : Prop where
  nonempty : arg ≠ []
  inactive : ∀ c ∈ arg, c ∉ active
  uncommented : arg.head? ≠ some 35
  untilded : hasTilde (argMarks arg) = false
  unpatterned : patterns.isPattern (argMarks arg) = false

/-! ## One character -/

theorem isQuoted_facts {c : UInt8} (quoted : isQuoted c = true) :
    c ≠ 10 ∧ c ≠ 39 ∧ c ∉ active := by
  have all : ∀ c ∈ [(32 : UInt8), 34, 92, 40, 41], c ≠ 10 ∧ c ≠ 39 ∧ c ∉ active := by
    simp [active]
  exact all c (by simpa [isQuoted] using quoted)

theorem not_isQuoted_facts {c : UInt8} (unquoted : isQuoted c = false) :
    c ≠ 34 ∧ c ≠ 92 ∧ c ≠ 32 ∧ c ≠ 40 ∧ c ≠ 41 := by
  simp [isQuoted] at unquoted
  tauto

/-- A character behind its backslash. -/
theorem run_quoted {reading : Reading} (mode : reading.mode = .plain) {c : UInt8}
    (quoted : isQuoted c = true) : run reading [92, c] = some (reading.add (c, true)) := by
  have backslash : step reading 92 = some { reading with mode := .escaped } := by
    rw [step, mode]
    rfl
  have character : step { reading with mode := .escaped } c = some (reading.add (c, true)) := by
    rw [step]
    dsimp only
    rw [if_neg (isQuoted_facts quoted).1, ← mode]
  rw [run_cons, backslash, Option.bind_some, run_cons, character]
  rfl

/-- What every step keeps is kept by the run over the arguments. -/
theorem run_quotedArgs_keeps {P : Reading → Prop} (allowed : UInt8 → Prop) (blank : allowed 32)
    (steps : ∀ {reading reading' : Reading} {c : UInt8}, P reading → c ≠ 34 → c ≠ 92 →
      allowed c → step reading c = some reading' → P reading')
    (pairs : ∀ {reading reading' : Reading} {c : UInt8}, P reading → isQuoted c = true →
      run reading [92, c] = some reading' → P reading')
    {args : List (List UInt8)} (inside : ∀ arg ∈ args, ∀ c ∈ arg, allowed c)
    {reading reading' : Reading} (holds : P reading)
    (runs : run reading (quotedArgs args) = some reading') : P reading' := by
  have argument {arg : List UInt8} (inside : ∀ c ∈ arg, allowed c) {reading reading' : Reading}
      (holds : P reading) (runs : run reading (dupAndQuote arg) = some reading') : P reading' := by
    induction arg generalizing reading with
    | nil => exact Option.some.inj runs ▸ holds
    | cons c arg induction =>
        rw [List.forall_mem_cons] at inside
        rw [dupAndQuote_cons, run_append, Option.bind_eq_some_iff] at runs
        obtain ⟨middle, first, rest⟩ := runs
        refine induction inside.2 ?_ rest
        rw [quoteChar] at first
        split at first
        · next quoted => exact pairs holds quoted first
        · next unquoted =>
            obtain ⟨notDouble, notBackslash, -⟩ :=
              not_isQuoted_facts (by simpa using unquoted)
            rw [run_cons, Option.bind_eq_some_iff] at first
            obtain ⟨next, stepped, last⟩ := first
            exact Option.some.inj last ▸
              steps holds notDouble notBackslash inside.1 stepped
  induction args generalizing reading with
  | nil => exact Option.some.inj runs ▸ holds
  | cons arg args induction =>
      rw [List.forall_mem_cons] at inside
      rw [quotedArgs_cons, List.cons_append, run_cons, Option.bind_eq_some_iff] at runs
      obtain ⟨separated, separator, runs⟩ := runs
      rw [run_append, Option.bind_eq_some_iff] at runs
      obtain ⟨middle, first, rest⟩ := runs
      have holds' := steps holds (by decide) (by decide) blank separator
      exact induction inside.2 (argument inside.1 holds' first) rest

/-! ## No apostrophe comes through -/

/-- The arguments are read outside of double quotes, and an apostrophe is never part of a word. -/
structure NoApostrophe (reading : Reading) : Prop where
  mode : reading.mode = .plain ∨ reading.mode = .single ∨ reading.mode = .comment
  marks : reading.AllMarks (·.1 ≠ 39)

theorem NoApostrophe.step {reading reading' : Reading} (before : NoApostrophe reading) {c : UInt8}
    (notDouble : c ≠ 34) (notBackslash : c ≠ 92) (stepped : step reading c = some reading') :
    NoApostrophe reading' := by
  obtain ⟨mode, marks⟩ := before
  rw [Shell.step] at stepped
  rcases mode with plain | single | comment
  · rw [plain] at stepped
    dsimp only at stepped
    rw [if_neg notBackslash] at stepped
    split at stepped
    · exact Option.some.inj stepped ▸ ⟨.inr (.inl rfl), marks.start .single⟩
    · next other =>
        split at stepped
        · exact Option.some.inj stepped ▸ ⟨.inl plain, marks.close⟩
        · split at stepped
          · cases stepped
          · split at stepped
            · exact Option.some.inj stepped ▸ ⟨.inr (.inr rfl), marks⟩
            · exact Option.some.inj stepped ▸ ⟨.inl plain, marks.add other⟩
  · rw [single] at stepped
    dsimp only at stepped
    split at stepped
    · exact Option.some.inj stepped ▸ ⟨.inl rfl, marks⟩
    · next other => exact Option.some.inj stepped ▸ ⟨.inr (.inl single), marks.add other⟩
  · rw [comment] at stepped
    dsimp only at stepped
    split at stepped
    · cases stepped
    · exact Option.some.inj stepped ▸ ⟨.inr (.inr comment), marks⟩

theorem NoApostrophe.pair {reading reading' : Reading} (before : NoApostrophe reading) {c : UInt8}
    (quoted : isQuoted c = true) (runs : run reading [92, c] = some reading') :
    NoApostrophe reading' := by
  obtain ⟨notNewline, other, -⟩ := isQuoted_facts quoted
  obtain ⟨mode, marks⟩ := before
  rcases mode with plain | single | comment
  · rw [run_quoted plain quoted] at runs
    exact Option.some.inj runs ▸ ⟨.inl plain, marks.add other⟩
  · have backslash : Shell.step reading 92 = some (reading.add (92, true)) := by
      rw [Shell.step, single]
      rfl
    have character : Shell.step (reading.add (92, true)) c =
        some ((reading.add (92, true)).add (c, true)) := by
      rw [Shell.step, show (reading.add (92, true)).mode = .single from single]
      exact if_neg other
    rw [run_cons, backslash, Option.bind_some, run_cons, character] at runs
    exact Option.some.inj runs ▸ ⟨.inr (.inl single), (marks.add (by decide)).add other⟩
  · rw [run_comment comment (by simpa using Ne.symm notNewline)] at runs
    exact Option.some.inj runs ▸ ⟨.inr (.inr comment), marks⟩

/-! ## No other active character comes through -/

/-- The arguments are read outside of quotes, and every word has characters, none of them active. -/
structure Inactive (reading : Reading) : Prop where
  mode : reading.mode = .plain ∨ reading.mode = .comment
  marks : reading.AllMarks (·.1 ∉ active)
  nonempty : ∀ word ∈ reading.all, word ≠ []

theorem Inactive.add {reading : Reading} (before : Inactive reading) {mark : Mark}
    (inactive : mark.1 ∉ active) : Inactive (reading.add mark) := by
  refine ⟨before.mode, before.marks.add inactive, fun word member => ?_⟩
  rcases List.mem_append.mp member with old | last
  · exact before.nonempty word (List.mem_append_left _ old)
  · obtain rfl : word = reading.word.getD [] ++ [mark] := by simpa [Reading.add] using last
    simp

theorem Inactive.step {reading reading' : Reading} (before : Inactive reading) {c : UInt8}
    (notDouble : c ≠ 34) (notBackslash : c ≠ 92) (notApostrophe : c ≠ 39)
    (stepped : step reading c = some reading') : Inactive reading' := by
  rw [Shell.step] at stepped
  rcases before.mode with plain | comment
  · rw [plain] at stepped
    dsimp only at stepped
    rw [if_neg notBackslash, if_neg notApostrophe, if_neg notDouble] at stepped
    split at stepped
    · refine Option.some.inj stepped ▸ ⟨.inl plain, before.marks.close, ?_⟩
      rw [Reading.all_close]
      exact before.nonempty
    · next notBlank =>
        split at stepped
        · cases stepped
        · next unbroken =>
            split at stepped
            · exact Option.some.inj stepped ▸ ⟨.inr rfl, before.marks, before.nonempty⟩
            · refine Option.some.inj stepped ▸ before.add fun member => ?_
              simp [active] at member
              simp [breaks] at unbroken
              tauto
  · rw [comment] at stepped
    dsimp only at stepped
    split at stepped
    · cases stepped
    · exact Option.some.inj stepped ▸ before

theorem Inactive.pair {reading reading' : Reading} (before : Inactive reading) {c : UInt8}
    (quoted : isQuoted c = true) (runs : run reading [92, c] = some reading') :
    Inactive reading' := by
  obtain ⟨notNewline, -, inactive⟩ := isQuoted_facts quoted
  rcases before.mode with plain | comment
  · rw [run_quoted plain quoted] at runs
    exact Option.some.inj runs ▸ before.add inactive
  · rw [run_comment comment (by simpa using Ne.symm notNewline)] at runs
    exact Option.some.inj runs ▸ before

/-! ## The words that are read -/

/-- A character that is not active is read as itself. -/
theorem run_quoteChar {reading : Reading} (plain : reading.mode = .plain) {c : UInt8}
    (inactive : c ∉ active) (inside : c = 35 → reading.word ≠ none) :
    run reading (quoteChar c) = some (reading.add (c, isQuoted c)) := by
  rw [quoteChar]
  split
  · next quoted =>
      rw [quoted]
      exact run_quoted plain quoted
  · next unquoted =>
      have plainChar : isQuoted c = false := by simpa using unquoted
      obtain ⟨notDouble, notBackslash, notBlank, notOpen, notClose⟩ :=
        not_isQuoted_facts plainChar
      have notApostrophe : c ≠ 39 := fun same => inactive (by rw [same]; decide)
      have notSpace : ¬(c = 32 ∨ c = 9) := by
        rintro (blank | tab)
        · exact notBlank blank
        · exact inactive (by rw [tab]; decide)
      have unbroken : c ∉ breaks := by
        simp [active] at inactive
        simp [breaks]
        tauto
      have noComment : ¬(c = 35 ∧ reading.word = none) := fun both => inside both.1 both.2
      rw [run_cons, step, plain]
      dsimp only
      rw [if_neg notBackslash, if_neg notApostrophe, if_neg notDouble, if_neg notSpace,
        if_neg unbroken, if_neg noComment, plainChar]
      rfl

theorem run_dupAndQuote_of_word {reading : Reading} (plain : reading.mode = .plain)
    {word : List Mark} (found : reading.word = some word) {arg : List UInt8}
    (inactive : ∀ c ∈ arg, c ∉ active) :
    run reading (dupAndQuote arg) = some { reading with word := some (word ++ argMarks arg) } := by
  induction arg generalizing reading word with
  | nil =>
      obtain ⟨mode, words, last⟩ := reading
      obtain rfl : last = some word := found
      simp [dupAndQuote, argMarks]
  | cons c arg induction =>
      rw [List.forall_mem_cons] at inactive
      have added : (reading.add (c, isQuoted c)).word = some (word ++ [(c, isQuoted c)]) := by
        rw [Reading.add, found]
        rfl
      have character := run_quoteChar plain inactive.1 fun _ => by
        rw [found]
        exact Option.some_ne_none word
      have mode : (reading.add (c, isQuoted c)).mode = .plain := plain
      rw [dupAndQuote_cons, run_append, character, Option.bind_some,
        induction mode added inactive.2]
      simp [Reading.add, argMarks]

theorem step_blank {reading : Reading} (plain : reading.mode = .plain) :
    step reading 32 = some reading.close := by
  rw [step, plain]
  rfl

/-- An argument is read as a word of its own, unless it is taken for a comment. -/
theorem run_argument {reading : Reading} (plain : reading.mode = .plain) {arg : List UInt8}
    (nonempty : arg ≠ []) (inactive : ∀ c ∈ arg, c ∉ active) (uncommented : arg.head? ≠ some 35) :
    run reading (32 :: dupAndQuote arg) = some ⟨.plain, reading.all, some (argMarks arg)⟩ := by
  obtain ⟨c, rest, rfl⟩ := List.exists_cons_of_ne_nil nonempty
  rw [List.forall_mem_cons] at inactive
  have mode : reading.close.mode = .plain := plain
  have first : run reading.close (quoteChar c) = some (reading.close.add (c, isQuoted c)) :=
    run_quoteChar mode inactive.1 fun same => absurd (by rw [same]; rfl) uncommented
  have mode' : (reading.close.add (c, isQuoted c)).mode = .plain := plain
  have word : (reading.close.add (c, isQuoted c)).word = some [(c, isQuoted c)] := rfl
  rw [run_cons, step_blank plain, Option.bind_some, dupAndQuote_cons, run_append, first,
    Option.bind_some, run_dupAndQuote_of_word mode' word inactive.2]
  simp [Reading.add, Reading.close, argMarks, plain]

theorem newline_not_mem_quotedArgs {args : List (List UInt8)}
    (inactive : ∀ arg ∈ args, ∀ c ∈ arg, c ∉ active) : 10 ∉ quotedArgs args := by
  intro member
  obtain ⟨arg, inside, member⟩ := List.mem_flatMap.mp member
  rcases List.mem_cons.mp member with blank | member
  · exact absurd blank (by decide)
  · obtain ⟨c, inside', member⟩ := List.mem_flatMap.mp member
    rw [quoteChar] at member
    have same : (10 : UInt8) = c := by
      split at member
      · simpa using member
      · exact List.mem_singleton.mp member
    exact inactive arg inside c inside' (by rw [← same]; decide)

/-- The arguments in front of the first that is taken for a comment are read. -/
theorem run_quotedArgs {reading : Reading} (plain : reading.mode = .plain)
    {args : List (List UInt8)} (nonempty : ∀ arg ∈ args, arg ≠ [])
    (inactive : ∀ arg ∈ args, ∀ c ∈ arg, c ∉ active) :
    ∃ reading', run reading (quotedArgs args) = some reading' ∧
      (reading'.mode = .plain ∨ reading'.mode = .comment) ∧
      reading'.all = reading.all ++ (args.takeWhile (·.head? ≠ some 35)).map argMarks := by
  induction args generalizing reading with
  | nil => exact ⟨reading, rfl, .inl plain, (List.append_nil _).symm⟩
  | cons arg args induction =>
      rw [List.forall_mem_cons] at nonempty
      have rest := (List.forall_mem_cons.mp inactive).2
      rw [quotedArgs_cons]
      by_cases comment : arg.head? = some 35
      · obtain ⟨more, rfl⟩ := List.head?_eq_some_iff.mp comment
        have mark : step reading.close 35 = some { reading.close with mode := .comment } := by
          rw [step, show reading.close.mode = .plain from plain]
          rfl
        have begun : run reading [32, 35] = some { reading.close with mode := .comment } := by
          rw [run_cons, step_blank plain, Option.bind_some, run_cons, mark]
          rfl
        have text : 32 :: dupAndQuote (35 :: more) ++ quotedArgs args =
            [32, 35] ++ (dupAndQuote more ++ quotedArgs args) := by
          rw [dupAndQuote_cons]
          rfl
        have line : 10 ∉ dupAndQuote more ++ quotedArgs args := by
          have all := newline_not_mem_quotedArgs inactive
          rw [quotedArgs_cons, text] at all
          exact fun member => all (List.mem_append_right _ member)
        refine ⟨{ reading.close with mode := .comment }, ?_, .inr rfl, ?_⟩
        · rw [text, run_append, begun, Option.bind_some, run_comment rfl line]
        · rw [List.takeWhile_cons_of_neg (by simp)]
          exact (Reading.all_close reading).trans (List.append_nil _).symm
      · have fresh : (Reading.mk .plain reading.all (some (argMarks arg))).mode = .plain := rfl
        obtain ⟨reading', runs, mode, all⟩ := induction fresh nonempty.2 rest
        refine ⟨reading', ?_, mode, ?_⟩
        · rw [run_append, run_argument plain nonempty.1 (inactive arg List.mem_cons_self) comment,
            Option.bind_some]
          exact runs
        · rw [all, List.takeWhile_cons_of_pos (by simpa using comment)]
          simp [Reading.all]

/-! ## The arguments of a command -/

/-- The name of a command, read as a word of lower case letters. -/
structure CommandName (name : List UInt8) (word : List Mark) : Prop where
  read : run {} name = some ⟨.plain, [], some word⟩
  text : word.map Prod.fst = name
  nonempty : word ≠ []
  letters : ∀ mark ∈ word, 97 ≤ mark.1 ∧ mark.1 ≤ 122

namespace CommandName

variable {name : List UInt8} {word : List Mark}

theorem absent (command : CommandName name word) {mark : Mark}
    (other : ¬(97 ≤ mark.1 ∧ mark.1 ≤ 122)) : mark ∉ word :=
  fun member => other (command.letters mark member)

theorem literal (command : CommandName name word) (patterns : Patterns) :
    hasTilde word = false ∧ patterns.isPattern word = false := by
  constructor
  · unfold hasTilde
    split
    · exact absurd List.mem_cons_self (command.absent (by decide))
    · rfl
  · exact patterns.literal word (command.absent (by decide)) (command.absent (by decide))
      (command.absent (by decide))

theorem noApostrophe (command : CommandName name word) :
    NoApostrophe ⟨.plain, [], some word⟩ where
  mode := .inl rfl
  marks other member mark inside same := by
    obtain rfl : other = word := by simpa [Reading.all] using member
    have letter := command.letters mark inside
    rw [same] at letter
    exact absurd letter (by decide)

theorem inactive (command : CommandName name word) : Inactive ⟨.plain, [], some word⟩ where
  mode := .inl rfl
  marks other member mark inside member' := by
    obtain rfl : other = word := by simpa [Reading.all] using member
    have below : ∀ c ∈ active, ¬(97 ≤ c ∧ c ≤ 122) := by simp [active]
    exact below mark.1 member' (command.letters mark inside)
  nonempty other member := by
    obtain rfl : other = word := by simpa [Reading.all] using member
    exact command.nonempty

end CommandName

theorem map_argMarks (arg : List UInt8) : (argMarks arg).map Prod.fst = arg := by
  rw [argMarks, List.map_map]
  exact List.map_id arg

theorem finish_eq {reading : Reading} (mode : reading.mode = .plain ∨ reading.mode = .comment) :
    finish reading = some reading.all := by
  rcases mode with plain | comment
  · rw [finish, plain]
  · rw [finish, comment]

/-- Characters that are kept out of every word are not in the words that are found. -/
theorem forall_args_of_marks {reading : Reading} {name : List UInt8} {args : List (List UInt8)}
    {p : UInt8 → Prop} (marks : reading.AllMarks (p ·.1))
    (texts : reading.all.map (·.map Prod.fst) = name :: args) : ∀ arg ∈ args, ∀ c ∈ arg, p c := by
  intro arg member c inside
  have found : arg ∈ reading.all.map (·.map Prod.fst) := by
    rw [texts]
    exact List.mem_cons_of_mem name member
  obtain ⟨word, inAll, rfl⟩ := List.mem_map.mp found
  obtain ⟨mark, inWord, rfl⟩ := List.mem_map.mp inside
  exact marks word inAll mark inWord

/-- Arguments that are found again have characters, none of them active. -/
theorem inactive_of_found {name : List UInt8} {word : List Mark}
    (command : CommandName name word) {args : List (List UInt8)} {reading : Reading}
    (runs : run ⟨.plain, [], some word⟩ (quotedArgs args) = some reading)
    (texts : reading.all.map (·.map Prod.fst) = name :: args) :
    ∀ arg ∈ args, arg ≠ [] ∧ ∀ c ∈ arg, c ∉ active := by
  have apart : NoApostrophe reading :=
    run_quotedArgs_keeps (fun _ => True) trivial
      (fun before notDouble notBackslash _ stepped => before.step notDouble notBackslash stepped)
      (fun before quoted runs => before.pair quoted runs)
      (fun _ _ _ _ => trivial) command.noApostrophe runs
  have noApostrophe : ∀ arg ∈ args, ∀ c ∈ arg, c ≠ 39 := forall_args_of_marks apart.marks texts
  have outside : Inactive reading :=
    run_quotedArgs_keeps (· ≠ 39) (by decide)
      (fun before notDouble notBackslash notApostrophe stepped =>
        before.step notDouble notBackslash notApostrophe stepped)
      (fun before quoted runs => before.pair quoted runs)
      noApostrophe command.inactive runs
  intro arg member
  constructor
  · have found : arg ∈ reading.all.map (·.map Prod.fst) := by
      rw [texts]
      exact List.mem_cons_of_mem name member
    obtain ⟨word, inAll, rfl⟩ := List.mem_map.mp found
    exact fun empty => outside.nonempty word inAll (List.map_eq_nil_iff.mp empty)
  · exact forall_args_of_marks outside.marks texts arg member

section Command

variable {patterns : Patterns} {name : List UInt8} {word : List Mark} {args : List (List UInt8)}

theorem literalWords_command (command : CommandName name word) :
    literalWords patterns (name ++ quotedArgs args) =
      (do
        let words ← finish (← run ⟨.plain, [], some word⟩ (quotedArgs args))
        if words.any fun word => hasTilde word || patterns.isPattern word then none
        else some (words.map (·.map Prod.fst))) := by
  rw [literalWords, run_append, command.read, Option.bind_some]

/-- Arguments that are the words behind the name come through. -/
theorem literal_of_literalWords (command : CommandName name word)
    (found : literalWords patterns (name ++ quotedArgs args) = some (name :: args)) :
    ∀ arg ∈ args, Literal patterns arg := by
  rw [literalWords_command command] at found
  have plain : (Reading.mk .plain [] (some word)).mode = .plain := rfl
  obtain ⟨reading, runs, found⟩ := Option.bind_eq_some_iff.mp found
  obtain ⟨words, finished, found⟩ := Option.bind_eq_some_iff.mp found
  obtain ⟨unexpanded, found⟩ := Option.ite_none_left_eq_some.mp found
  have texts : words.map (·.map Prod.fst) = name :: args := Option.some.inj found
  have same : words = reading.all := by
    rw [finish] at finished
    split at finished
    · exact (Option.some.inj finished).symm
    · exact (Option.some.inj finished).symm
    all_goals cases finished
  subst same
  have inactive := inactive_of_found command runs texts
  obtain ⟨reading', runs', -, all⟩ := run_quotedArgs plain
    (fun arg member => (inactive arg member).1) fun arg member => (inactive arg member).2
  obtain rfl : reading' = reading := Option.some.inj (runs'.symm.trans runs)
  -- none of the arguments is missing, so none of them starts a comment
  have every : args.takeWhile (·.head? ≠ some 35) = args := by
    apply (List.takeWhile_sublist _).eq_of_length
    have lengths := congrArg List.length texts
    rw [all] at lengths
    simpa [Reading.all] using lengths
  rw [every] at all
  intro arg member
  have expanded : argMarks arg ∈ reading'.all := by
    rw [all]
    exact List.mem_append_right _ (List.mem_map_of_mem member)
  have unexpanded' : ¬(hasTilde (argMarks arg) || patterns.isPattern (argMarks arg)) = true :=
    fun holds => unexpanded (List.any_eq_true.mpr ⟨_, expanded, holds⟩)
  rw [Bool.or_eq_true, not_or, Bool.not_eq_true, Bool.not_eq_true] at unexpanded'
  constructor
  · exact (inactive arg member).1
  · exact (inactive arg member).2
  · simpa using List.takeWhile_eq_self_iff.mp every arg member
  · exact unexpanded'.1
  · exact unexpanded'.2

/-- Arguments that come through are the words behind the name. -/
theorem literalWords_of_literal (command : CommandName name word)
    (literal : ∀ arg ∈ args, Literal patterns arg) :
    literalWords patterns (name ++ quotedArgs args) = some (name :: args) := by
  have plain : (Reading.mk .plain [] (some word)).mode = .plain := rfl
  obtain ⟨reading, runs, mode, all⟩ := run_quotedArgs plain
    (fun arg member => (literal arg member).nonempty)
    fun arg member => (literal arg member).inactive
  have every : args.takeWhile (·.head? ≠ some 35) = args := by
    rw [List.takeWhile_eq_self_iff]
    intro arg member
    simpa using (literal arg member).uncommented
  rw [every] at all
  have words : reading.all = word :: args.map argMarks := all
  have unexpanded : reading.all.any (fun word =>
      hasTilde word || patterns.isPattern word) = false := by
    rw [List.any_eq_false]
    intro other member
    rw [words] at member
    rcases List.mem_cons.mp member with rfl | argument
    · rw [(command.literal patterns).1, (command.literal patterns).2]
      decide
    · obtain ⟨arg, given, rfl⟩ := List.mem_map.mp argument
      rw [(literal arg given).untilded, (literal arg given).unpatterned]
      decide
  have texts : reading.all.map (·.map Prod.fst) = name :: args := by
    have back : (args.map argMarks).map (·.map Prod.fst) = args := by
      rw [List.map_map]
      exact (List.map_congr_left fun arg _ => map_argMarks arg).trans (List.map_id args)
    rw [words, List.map_cons, back, command.text]
  rw [literalWords_command command, runs]
  change (finish reading).bind _ = _
  rw [finish_eq mode, Option.bind_some, if_neg (by rw [unexpanded]; decide), texts]

end Command

/-! ## The commands -/

theorem pm_commandName : CommandName (ascii "pm") [(112, false), (109, false)] := by
  constructor
  · with_unfolding_all decide
  · with_unfolding_all decide
  · decide
  · simp

theorem rm_commandName : CommandName (ascii "rm") [(114, false), (109, false)] := by
  constructor
  · with_unfolding_all decide
  · with_unfolding_all decide
  · decide
  · simp

/-- The file name is the only argument of `rm`. -/
theorem rmText_eq (filename : List UInt8) :
    rmText filename = ascii "rm" ++ quotedArgs [filename] := by
  have separate : ascii "rm " = ascii "rm" ++ [32] := by with_unfolding_all decide
  rw [rmText, separate, quotedArgs_cons, List.append_assoc]
  exact congrArg (ascii "rm" ++ ·) (List.append_nil _).symm

/-- `pm` gets the arguments exactly when nothing in them is for the shell. -/
theorem literalWords_pmText {patterns : Patterns} {args : List (List UInt8)} :
    literalWords patterns (pmText args) = some (ascii "pm" :: args) ↔
      ∀ arg ∈ args, Literal patterns arg := by
  constructor
  · exact literal_of_literalWords pm_commandName
  · exact literalWords_of_literal pm_commandName

/-- `rm` gets the file name exactly when nothing in it is for the shell. -/
theorem literalWords_rmText {patterns : Patterns} {filename : List UInt8} :
    literalWords patterns (rmText filename) = some [ascii "rm", filename] ↔
      Literal patterns filename := by
  rw [rmText_eq, ← List.forall_mem_singleton (p := Literal patterns)]
  constructor
  · exact literal_of_literalWords rm_commandName
  · exact literalWords_of_literal rm_commandName

/-- Every open bracket starts a pattern. -/
def anyBracket : Patterns where
  isPattern word :=
    word.any fun mark => mark = (42, false) ∨ mark = (63, false) ∨ mark = (91, false)
  asterisk word member := List.any_eq_true.mpr ⟨_, member, by decide⟩
  questionMark word member := List.any_eq_true.mpr ⟨_, member, by decide⟩
  literal word asterisk questionMark bracket := by
    rw [List.any_eq_false]
    intro mark member found
    rcases of_decide_eq_true found with rfl | rfl | rfl
    · exact asterisk member
    · exact questionMark member
    · exact bracket member

end Clients
end AdbWide
