import Mathlib.Data.List.Forall2

/-!
# The directories above a file

`adb backup` makes the directories on the way to its file.  `mkdirs` cuts the path at one separator
after the other, by writing a null character over it; `adb_dirstart` is to find the next one.
-/

namespace AdbWide
namespace Clients
namespace ParentDirs

/-! ## The code -/

/-- A slash or a backslash. -/
def isSeparator (c : UInt8) : Bool := c = 47 || c = 92

/-- `strchr` from a place in memory on: a place before the null character. -/
def strchrFrom (memory : List UInt8) (x : Nat) (c : UInt8) : Option Nat :=
  (((memory.drop x).takeWhile (· ≠ 0)).idxOf? c).map (x + ·)

/-- `adb_dirstart` on Windows. -/
def adbDirstart (memory : List UInt8) (x : Nat) : Option Nat :=
  match strchrFrom memory x 47, strchrFrom memory x 92 with
  | none, p2 => p2
  | some p, some p2 => if p < p2 then some p2 else some p
  | some p, none => some p

/-- A directory that `adb_mkdir` was asked for, and the error, if it failed. -/
structure Attempt where
  name : List UInt8
  error : Option Nat
  deriving DecidableEq, Repr

/-- The attempt has failed, and not with `EEXIST`. -/
def Attempt.fails (attempt : Attempt) : Bool :=
  attempt.error.any (· ≠ 17)

/-- What `mkdirs` returns, the directories it has asked for, and the memory. -/
structure Made where
  ret : Int
  attempts : List Attempt
  memory : List UInt8

theorem lt_length_of_adbDirstart {memory : List UInt8} {x x' : Nat}
    (found : adbDirstart memory x = some x') : x ≤ x' ∧ x' < memory.length := by
  have before {c : UInt8} {place : Nat} (found : strchrFrom memory x c = some place) :
      x ≤ place ∧ place < memory.length := by
    obtain ⟨index, at_index, rfl⟩ := Option.map_eq_some_iff.mp found
    obtain ⟨inside, -⟩ := List.idxOf?_eq_some_iff.mp at_index
    have shorter := (List.takeWhile_prefix (· ≠ 0) (l := memory.drop x)).length_le
    rw [List.length_drop] at shorter
    omega
  rw [adbDirstart] at found
  split at found
  · exact before found
  · next slash backslash =>
      split at found
      · exact before (backslash.trans found)
      · exact before (slash.trans found)
  · next slash _ => exact before (slash.trans found)

/-- The loop of `mkdirs`, from a place on. -/
def mkdirsLoop (adbMkdir : List Attempt → List UInt8 → Option Nat) (memory : List UInt8) (x : Nat)
    (attempts : List Attempt) : Made :=
  match found : adbDirstart memory x with
  | none => ⟨0, attempts, memory⟩
  | some x' =>
      let name := (memory.set x' 0).takeWhile (· ≠ 0)
      let attempt := ⟨name, adbMkdir attempts name⟩
      let memory' := (memory.set x' 0).set x' 92
      if attempt.fails then ⟨-1, attempts ++ [attempt], memory'⟩
      else mkdirsLoop adbMkdir memory' (x' + 1) (attempts ++ [attempt])
termination_by memory.length - x
decreasing_by
  obtain ⟨further, inside⟩ := lt_length_of_adbDirstart found
  simp only [List.length_set]
  omega

/-- `mkdirs`, with what lies behind the path in memory. -/
def mkdirs (adbMkdir : List Attempt → List UInt8 → Option Nat) (path behind : List UInt8) : Made :=
  mkdirsLoop adbMkdir (path ++ 0 :: behind) 1 []

/-! ## What is to be made -/

/-- The components of a path. -/
def components (path : List UInt8) : List (List UInt8) := path.splitOnP isSeparator

/-- What stands in front of each separator of a text that follows something. -/
def ancestorsFrom : List UInt8 → List UInt8 → List (List UInt8)
  | _, [] => []
  | front, c :: text =>
      if isSeparator c then front :: ancestorsFrom (front ++ [c]) text
      else ancestorsFrom (front ++ [c]) text

/-- The directories above a path, from the outermost on: what stands in front of each separator
behind the first character.  Of two separators that stand together, the second has one of its own,
with an empty name at its end. -/
def ancestors : List UInt8 → List (List UInt8)
  | [] => []
  | c :: path => ancestorsFrom [c] path

/-- Every directory is asked for in its turn, up to the first that fails. -/
inductive Creates : List (List UInt8) → List Attempt → Int → Prop
  | all : Creates [] [] 0
  | stops {directory : List UInt8} {directories : List (List UInt8)} {attempt : Attempt}
      (name : components attempt.name = components directory) (fails : attempt.fails = true) :
      Creates (directory :: directories) [attempt] (-1)
  | goesOn {directory : List UInt8} {directories : List (List UInt8)} {attempt : Attempt}
      {attempts : List Attempt} {ret : Int}
      (name : components attempt.name = components directory) (fine : attempt.fails = false)
      (rest : Creates directories attempts ret) :
      Creates (directory :: directories) (attempt :: attempts) ret

/-- The directories above the path are asked for, and the path names the same afterwards. -/
structure Creating (path behind : List UInt8) (made : Made) : Prop where
  creates : Creates (ancestors path) made.attempts made.ret
  kept : ∃ path', made.memory = path' ++ 0 :: behind ∧ components path' = components path

/-- A separator as the loop leaves it. -/
def unify (c : UInt8) : UInt8 := if c = 47 then 92 else c

section Components

variable {path path' : List UInt8}

theorem components_map_unify (path : List UInt8) :
    components (path.map unify) = components path := by
  induction path with
  | nil => rfl
  | cons c path induction =>
      rw [components] at induction ⊢
      rw [List.map_cons, components, List.splitOnP_cons_eq_if_modifyHead,
        List.splitOnP_cons_eq_if_modifyHead, induction, components]
      by_cases slash : c = 47
      · subst slash
        rfl
      · rw [unify, if_neg slash]

theorem components_of_unify (same : path.map unify = path'.map unify) :
    components path = components path' := by
  rw [← components_map_unify path, same, components_map_unify]

/-- A separator begins a new component. -/
theorem components_append_cons {s : UInt8} (separator : isSeparator s = true)
    (front rest : List UInt8) :
    components (front ++ s :: rest) = components front ++ components rest :=
  List.splitOnP_append_cons front rest separator

end Components

/-! ## The next separator -/

section Dirstart

variable {front word later behind : List UInt8} {s : UInt8}

/-- A text up to its null character. -/
theorem takeWhile_null {text : List UInt8} (noNull : 0 ∉ text) (rest : List UInt8) :
    (text ++ 0 :: rest).takeWhile (· ≠ 0) = text := by
  rw [List.takeWhile_append_of_pos, List.takeWhile_cons_of_neg (by simp), List.append_nil]
  exact fun c mem => decide_eq_true fun zero => noNull (zero ▸ mem)

theorem strchrFrom_append {text : List UInt8} (noNull : 0 ∉ text) (c : UInt8) :
    strchrFrom (front ++ (text ++ 0 :: behind)) front.length c =
      (text.idxOf? c).map (front.length + ·) := by
  rw [strchrFrom, List.drop_left, takeWhile_null noNull]

theorem separator_cases (separator : isSeparator s = true) : s = 47 ∨ s = 92 := by
  simpa [isSeparator] using separator

/-- Where a value is for the first time. -/
theorem idxOf?_first {front rest : List UInt8} {c : UInt8} (absent : c ∉ front) :
    (front ++ c :: rest).idxOf? c = some front.length := by
  rw [List.idxOf?, List.findIdx?_append, ← List.idxOf?, List.idxOf?_eq_none_iff.mpr absent,
    List.idxOf?_cons]
  simp

theorem not_mem_plain (plain : ∀ c ∈ word, isSeparator c = false)
    (separator : isSeparator s = true) : s ∉ word := by
  intro mem
  rw [plain s mem] at separator
  exact nomatch separator

theorem idxOf?_plain (plain : ∀ c ∈ word, isSeparator c = false)
    (separator : isSeparator s = true) : word.idxOf? s = none :=
  List.idxOf?_eq_none_iff.mpr (not_mem_plain plain separator)

/-- Without separators there is nothing to be found. -/
theorem adbDirstart_word (noNull : 0 ∉ word) (plain : ∀ c ∈ word, isSeparator c = false) :
    adbDirstart (front ++ (word ++ 0 :: behind)) front.length = none := by
  rw [adbDirstart, strchrFrom_append noNull, strchrFrom_append noNull, idxOf?_plain plain rfl,
    idxOf?_plain plain rfl]
  rfl

/-- The separator of the other kind. -/
def other (s : UInt8) : UInt8 := if s = 47 then 92 else 47

/-- What is found is the first separator, if there is none of the other kind behind it, and
otherwise the first of the other kind. -/
theorem adbDirstart_separator (noNull : 0 ∉ word ++ s :: later)
    (plain : ∀ c ∈ word, isSeparator c = false) (separator : isSeparator s = true) :
    adbDirstart (front ++ (word ++ s :: later ++ 0 :: behind)) front.length =
      some (front.length + match later.idxOf? (other s) with
        | none => word.length
        | some place => word.length + 1 + place) := by
  have own : (word ++ s :: later).idxOf? s = some word.length :=
    idxOf?_first (not_mem_plain plain separator)
  have different (c : UInt8) (separator : isSeparator c = true) (ne : c ≠ s) :
      (word ++ s :: later).idxOf? c = (later.idxOf? c).map (word.length + 1 + ·) := by
    rw [List.idxOf?, List.findIdx?_append, ← List.idxOf?, idxOf?_plain plain separator,
      List.idxOf?_cons, if_neg (by simpa using ne.symm)]
    cases later.idxOf? c with
    | none => rfl
    | some place => simp; omega
  rw [adbDirstart, strchrFrom_append noNull, strchrFrom_append noNull]
  rcases separator_cases separator with rfl | rfl
  · rw [own, different 92 rfl (by decide), show other 47 = 92 from rfl]
    cases later.idxOf? 92 with
    | none => rfl
    | some place => simp; omega
  · rw [own, different 47 rfl (by decide), show other 92 = 47 from rfl]
    cases later.idxOf? 47 with
    | none => rfl
    | some place => simp; omega

end Dirstart

/-! ## The loop -/

section Loop

variable {adbMkdir : List Attempt → List UInt8 → Option Nat} {front word later behind : List UInt8}
  {s : UInt8}

theorem ancestorsFrom_word (front : List UInt8) (plain : ∀ c ∈ word, isSeparator c = false)
    (text : List UInt8) :
    ancestorsFrom front (word ++ text) = ancestorsFrom (front ++ word) text := by
  induction word generalizing front with
  | nil => simp
  | cons c word induction =>
      have later := induction (front ++ [c]) fun c mem => plain c (List.mem_cons_of_mem _ mem)
      rw [List.cons_append, ancestorsFrom, if_neg (by simp [plain c (List.mem_cons_self ..)]),
        later, List.append_assoc, List.singleton_append]

/-- One round: the text up to the separator that is found is asked for, and a backslash is written
over the separator. -/
theorem mkdirsLoop_some {memory : List UInt8} {x x' : Nat} {attempts : List Attempt}
    (found : adbDirstart memory x = some x') :
    mkdirsLoop adbMkdir memory x attempts =
      let name := (memory.set x' 0).takeWhile (· ≠ 0)
      let attempt : Attempt := ⟨name, adbMkdir attempts name⟩
      if attempt.fails then ⟨-1, attempts ++ [attempt], memory.set x' 92⟩
      else mkdirsLoop adbMkdir (memory.set x' 92) (x' + 1) (attempts ++ [attempt]) := by
  rw [mkdirsLoop]
  split
  · next none => exact nomatch found.symm.trans none
  · next other => 
      obtain rfl := Option.some.inj (found.symm.trans other)
      simp only [List.set_set]

theorem mkdirsLoop_none {memory : List UInt8} {x : Nat} {attempts : List Attempt}
    (found : adbDirstart memory x = none) :
    mkdirsLoop adbMkdir memory x attempts = ⟨0, attempts, memory⟩ := by
  rw [mkdirsLoop]
  split
  · rfl
  · next other => exact nomatch found.symm.trans other

/-- The loop keeps the attempts that were made. -/
theorem attempts_mkdirsLoop (memory : List UInt8) (x : Nat) (attempts : List Attempt) :
    ∃ later, (mkdirsLoop adbMkdir memory x attempts).attempts = attempts ++ later := by
  induction memory, x, attempts using mkdirsLoop.induct adbMkdir with
  | case1 memory x attempts none =>
      rw [mkdirsLoop_none none]
      exact ⟨[], (List.append_nil _).symm⟩
  | case2 memory x attempts x' found name attempt fails =>
      rw [mkdirsLoop_some found]
      exact ⟨[attempt], by rw [if_pos fails]⟩
  | case3 memory x attempts x' found name attempt memory' fine induction =>
      obtain ⟨later, grown⟩ := induction
      rw [mkdirsLoop_some found]
      refine ⟨attempt :: later, ?_⟩
      rw [List.append_cons, ← grown]
      simp only [memory', List.set_set]
      exact congrArg Made.attempts (if_neg fine)

/-- The separator that ends a word, with what is in front of it. -/
theorem set_separator (value : UInt8) (rest : List UInt8) :
    (front ++ (word ++ s :: rest)).set (front.length + word.length) value =
      (front ++ word) ++ value :: rest := by
  rw [← List.append_assoc, ← List.length_append, List.set_append_right _ _ (Nat.le_refl _),
    Nat.sub_self, List.set_cons_zero]

/-- A text has a first separator, or none. -/
theorem exists_separator (text : List UInt8) :
    (∀ c ∈ text, isSeparator c = false) ∨ ∃ word s later, text = word ++ s :: later ∧
      (∀ c ∈ word, isSeparator c = false) ∧ isSeparator s = true := by
  induction text with
  | nil => exact .inl fun _ mem => nomatch mem
  | cons c text induction =>
      cases separator : isSeparator c with
      | true => exact .inr ⟨[], c, text, rfl, by simp, separator⟩
      | false =>
          obtain plain | ⟨word, s, later, rfl, plain, isSep⟩ := induction
          · exact .inl (List.forall_mem_cons.mpr ⟨separator, plain⟩)
          · exact .inr ⟨c :: word, s, later, rfl, List.forall_mem_cons.mpr ⟨separator, plain⟩,
              isSep⟩

/-- One round over a text whose first separator has none of the other kind behind it. -/
theorem mkdirsLoop_separator (noNull : 0 ∉ front ++ (word ++ s :: later))
    (plain : ∀ c ∈ word, isSeparator c = false) (separator : isSeparator s = true)
    (alone : other s ∉ later) (attempts : List Attempt) :
    mkdirsLoop adbMkdir (front ++ (word ++ s :: later ++ 0 :: behind)) front.length attempts =
      let attempt : Attempt := ⟨front ++ word, adbMkdir attempts (front ++ word)⟩
      if attempt.fails then
        ⟨-1, attempts ++ [attempt], front ++ word ++ [92] ++ (later ++ 0 :: behind)⟩
      else
        mkdirsLoop adbMkdir (front ++ word ++ [92] ++ (later ++ 0 :: behind))
          (front ++ word ++ [92]).length (attempts ++ [attempt]) := by
  have absent : later.idxOf? (other s) = none := List.idxOf?_eq_none_iff.mpr alone
  have inner : 0 ∉ word ++ s :: later := fun mem => noNull (List.mem_append_right front mem)
  have found := @adbDirstart_separator front word later behind s inner plain separator
  rw [absent] at found
  have before : 0 ∉ front ++ word := fun mem => noNull (by
    rw [← List.append_assoc]
    exact List.mem_append_left _ mem)
  rw [mkdirsLoop_some found, List.append_assoc, List.cons_append, set_separator, set_separator,
    takeWhile_null before]
  simp [Nat.add_assoc]

/-- A text with separators of one kind only: every directory is asked for. -/
theorem mkdirsLoop_creates (text : List UInt8) (front front' : List UInt8)
    (same : front.map unify = front'.map unify) (noNull : 0 ∉ front ++ text)
    (oneKind : 47 ∉ text ∨ 92 ∉ text) (attempts : List Attempt) :
    ∃ new, (mkdirsLoop adbMkdir (front ++ (text ++ 0 :: behind)) front.length attempts).attempts =
        attempts ++ new ∧
      Creates (ancestorsFrom front' text) new
        (mkdirsLoop adbMkdir (front ++ (text ++ 0 :: behind)) front.length attempts).ret ∧
      ∃ path', (mkdirsLoop adbMkdir (front ++ (text ++ 0 :: behind)) front.length attempts).memory =
        path' ++ 0 :: behind ∧ path'.map unify = (front' ++ text).map unify := by
  induction length : text.length using Nat.strongRecOn
      generalizing text front front' attempts with
  | ind size induction =>
      obtain plain | ⟨word, s, later, rfl, plain, separator⟩ := exists_separator text
      · have inner : 0 ∉ text := fun mem => noNull (List.mem_append_right front mem)
        have done := ancestorsFrom_word front' plain []
        rw [List.append_nil] at done
        rw [mkdirsLoop_none (adbDirstart_word inner plain), done]
        exact ⟨[], (List.append_nil _).symm, .all, front ++ text, by rw [List.append_assoc],
          by rw [List.map_append, same, List.map_append]⟩
      · have alone : other s ∉ later := by
          rcases separator_cases separator with rfl | rfl
          · rcases oneKind with absent | absent
            · exact absurd (by simp) absent
            · exact fun mem => absent (by simp [show other 47 = 92 from rfl] at mem; simp [mem])
          · rcases oneKind with absent | absent
            · exact fun mem => absent (by simp [show other 92 = 47 from rfl] at mem; simp [mem])
            · exact absurd (by simp) absent
        rw [mkdirsLoop_separator noNull plain separator alone, ancestorsFrom_word front' plain,
          ancestorsFrom, if_pos separator]
        have words : (front ++ word).map unify = (front' ++ word).map unify := by
          rw [List.map_append, same, List.map_append]
        have ends : (front ++ word ++ [92]).map unify = (front' ++ word ++ [s]).map unify := by
          have last : [92].map unify = [s].map unify := by
            rcases separator_cases separator with rfl | rfl <;> rfl
          rw [List.map_append, words, last, ← List.map_append]
        dsimp only
        by_cases fails :
            (⟨front ++ word, adbMkdir attempts (front ++ word)⟩ : Attempt).fails = true
        · rw [if_pos fails]
          refine ⟨[_], rfl, .stops (components_of_unify words) fails,
            front ++ word ++ [92] ++ later, (List.append_assoc _ _ _).symm, ?_⟩
          rw [List.map_append, ends, ← List.map_append]
          simp
        · rw [if_neg fails]
          have shorter : later.length < size := by
            rw [← length, List.length_append, List.length_cons]
            omega
          have noNull' : 0 ∉ front ++ word ++ [92] ++ later := by
            simp only [List.mem_append, List.mem_cons, not_or] at noNull ⊢
            exact ⟨⟨⟨noNull.1, noNull.2.1⟩, by simp⟩, noNull.2.2.2⟩
          have oneKind' : 47 ∉ later ∨ 92 ∉ later := by
            simp only [List.mem_append, List.mem_cons, not_or] at oneKind
            exact oneKind.imp (fun absent => absent.2.2) fun absent => absent.2.2
          obtain ⟨new, grown, creates, path', kept, unified⟩ := induction later.length shorter later
            (front ++ word ++ [92]) (front' ++ word ++ [s]) ends noNull' oneKind'
            (attempts ++ [_]) rfl
          refine ⟨_ :: new, ?_, .goesOn (components_of_unify words) (by simpa using fails) creates,
            path', kept, ?_⟩
          · rw [grown, List.append_assoc, List.singleton_append]
          · rw [unified]
            simp

/-- What is asked for first. -/
theorem attempts_mkdirs_cons {path : List UInt8} {x : Nat}
    (found : adbDirstart (path ++ 0 :: behind) 1 = some x) :
    ∃ error later, (mkdirs adbMkdir path behind).attempts =
      ⟨((path ++ 0 :: behind).set x 0).takeWhile (· ≠ 0), error⟩ :: later := by
  rw [mkdirs, mkdirsLoop_some found]
  dsimp only
  split
  · exact ⟨_, [], rfl⟩
  · obtain ⟨later, grown⟩ := @attempts_mkdirsLoop adbMkdir ((path ++ 0 :: behind).set x 92) (x + 1)
      ([] ++ [⟨((path ++ 0 :: behind).set x 0).takeWhile (· ≠ 0), _⟩])
    exact ⟨_, later, grown⟩

theorem Creates.head {directory : List UInt8} {directories : List (List UInt8)}
    {attempt : Attempt} {attempts : List Attempt} {ret : Int}
    (creates : Creates (directory :: directories) (attempt :: attempts) ret) :
    components attempt.name = components directory := by
  cases creates with
  | stops name => exact name
  | goesOn name => exact name

/-- With both kinds of separators the first directory is not asked for first. -/
theorem not_creates_of_both {c : UInt8} {tail : List UInt8} (noNull : 0 ∉ c :: tail)
    (slash : 47 ∈ tail) (backslash : 92 ∈ tail) :
    ¬Creates (ancestors (c :: tail)) (mkdirs adbMkdir (c :: tail) behind).attempts
      (mkdirs adbMkdir (c :: tail) behind).ret := by
  obtain plain | ⟨word, s, later, rfl, plain, separator⟩ := exists_separator tail
  · exact absurd slash (not_mem_plain plain rfl)
  · have both : other s ∈ later := by
      rcases separator_cases separator with rfl | rfl
      · simpa [other, not_mem_plain plain (s := 92) rfl] using backslash
      · simpa [other, not_mem_plain plain (s := 47) rfl] using slash
    obtain ⟨front, rest, rfl, absent⟩ := List.eq_append_cons_of_mem both
    have inner : 0 ∉ word ++ s :: (front ++ other s :: rest) :=
      fun mem => noNull (List.mem_cons_of_mem c mem)
    have found := @adbDirstart_separator [c] word _ behind s inner plain separator
    rw [idxOf?_first absent] at found
    have before : 0 ∉ [c] ++ (word ++ s :: front) := by
      simp only [List.mem_cons, List.mem_append, not_or] at noNull ⊢
      simp_all
    have cut : ((c :: (word ++ s :: (front ++ other s :: rest)) ++ 0 :: behind).set
        ([c].length + (word.length + 1 + front.length)) 0).takeWhile (· ≠ 0) =
          [c] ++ word ++ s :: front := by
      have split : c :: (word ++ s :: (front ++ other s :: rest)) ++ 0 :: behind =
          [c] ++ ((word ++ s :: front) ++ other s :: (rest ++ 0 :: behind)) := by simp
      have place : word.length + 1 + front.length = (word ++ s :: front).length := by
        simp
        omega
      rw [split, place, set_separator, takeWhile_null before, List.append_assoc]
    have first : ancestors (c :: (word ++ s :: (front ++ other s :: rest))) =
        ([c] ++ word) :: ancestorsFrom ([c] ++ word ++ [s]) (front ++ other s :: rest) := by
      rw [ancestors, ancestorsFrom_word _ plain, ancestorsFrom, if_pos separator]
    obtain ⟨error, later, asked⟩ := @attempts_mkdirs_cons adbMkdir behind
      (c :: (word ++ s :: (front ++ other s :: rest))) _ found
    rw [cut] at asked
    rw [asked, first]
    intro creates
    have names := creates.head
    rw [components_append_cons separator] at names
    have longer := congrArg List.length names
    rw [List.length_append] at longer
    have nonempty := List.length_pos_of_ne_nil (List.splitOnP_ne_nil isSeparator front)
    rw [← components] at nonempty
    omega

/-- The directories above a path are made, whatever lies behind it in memory, if and only if it is
not empty and behind its first character there are separators of one kind only. -/
theorem creating_iff {path : List UInt8} (noNull : 0 ∉ path) :
    (∀ behind, Creating path behind (mkdirs adbMkdir path behind)) ↔
      path ≠ [] ∧ (47 ∉ path.tail ∨ 92 ∉ path.tail) := by
  constructor
  · intro creating
    cases path with
    | nil =>
        -- The separator behind the null character is found.
        have found : adbDirstart ([] ++ 0 :: [47]) 1 = some 1 := by decide
        obtain ⟨error, later, asked⟩ := @attempts_mkdirs_cons adbMkdir [47] [] 1 found
        have creates := (creating [47]).creates
        rw [asked, ancestors] at creates
        exact nomatch creates
    | cons c tail =>
        refine ⟨List.cons_ne_nil c tail, not_and_or.mp fun both => ?_⟩
        exact not_creates_of_both noNull both.1 both.2 (creating []).creates
  · rintro ⟨nonempty, oneKind⟩ behind
    obtain ⟨c, tail, rfl⟩ := List.exists_cons_of_ne_nil nonempty
    obtain ⟨new, grown, creates, path', kept, unified⟩ :=
      @mkdirsLoop_creates adbMkdir behind tail [c] [c] rfl noNull oneKind []
    rw [List.nil_append] at grown
    exact ⟨by rw [ancestors]; exact grown ▸ creates, path', kept, components_of_unify unified⟩

/-- A path with slashes, of which the first directory is there. -/
theorem creating_iff_slashes :
    Creating [97, 47, 98, 47, 99] [92]
      (mkdirs (fun attempts _ => if attempts = [] then some 17 else none) [97, 47, 98, 47, 99]
        [92]) :=
  (creating_iff (by decide)).mpr ⟨by decide, by decide⟩ [92]

/-- Of `a/b\\c` the directory `a/b` is asked for, and `a` is not. -/
theorem not_creating_mixed :
    ¬Creating [97, 47, 98, 92, 99] [] (mkdirs (fun _ _ => none) [97, 47, 98, 92, 99] []) :=
  fun creating => not_creates_of_both (by decide) (by decide) (by decide) creating.creates

end Loop

end ParentDirs
end Clients
end AdbWide
