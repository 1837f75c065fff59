import AdbWide.Sync.Timestamps

/-!
# The files of the host

What `_findfirst`, `_findnext`, `_chdir`, `stat` and `lstat` say of the files of the host.  A path
that is relative begins in the current directory.
-/

namespace AdbWide
namespace Sync
namespace LocalList

/-- `.` and `..`. -/
def isDots (name : List UInt8) : Bool := name = [46] || name = [46, 46]

/-- `S_IFDIR & st_mode`. -/
def hasDirBit (mode : UInt32) : Bool := mode &&& 0o040000 ≠ 0

/-- The files and directories of the host. -/
structure FileSystem where
  Node : Type
  stat : Node → Stat
  /-- The names in a directory, in the order of `_findfirst` and `_findnext`. -/
  listing : Node → List (List UInt8)
  /-- Where a name leads from a directory. -/
  lookup : Node → List UInt8 → Option Node
  /-- Where an absolute path begins. -/
  start : List UInt8 → Option Node
  /-- `_findfirst` finds something in every directory. -/
  ne_nil : ∀ dir, hasDirBit (stat dir).mode → listing dir ≠ []
  nodup : ∀ dir, (listing dir).Nodup
  plain : ∀ dir, ∀ name ∈ listing dir, name ≠ [] ∧ 47 ∉ name ∧ 92 ∉ name
  found : ∀ dir, ∀ name ∈ listing dir, isDots name = false → (lookup dir name).isSome
  start_append : ∀ path rest, path.getLast? = some 47 → rest.head? ≠ some 47 →
    start (path ++ rest) = start path

/-- The names in a path. -/
def segments (path : List UInt8) : List (List UInt8) := path.splitOnP fun c => c = 47 || c = 92

variable (fs : FileSystem)

/-- Follow one name of a path. -/
def FileSystem.follow (dir : fs.Node) (name : List UInt8) : Option fs.Node :=
  if name = [] ∨ name = [46] then some dir else fs.lookup dir name

/-- Where a path leads: a relative one begins in the current directory. -/
def FileSystem.resolve (cwd : fs.Node) (path : List UInt8) : Option fs.Node :=
  (segments path).foldlM fs.follow ((fs.start path).getD cwd)

/-- `stat`, and `lstat` on this host. -/
def FileSystem.lstat (cwd : fs.Node) (path : List UInt8) : Option Stat :=
  (fs.resolve cwd path).map fs.stat

/-- `_chdir`. -/
def FileSystem.chdir (cwd : fs.Node) (path : List UInt8) : Option fs.Node :=
  (fs.resolve cwd path).filter fun dir => hasDirBit (fs.stat dir).mode

/-- An entry below a directory, by the names on the way to it. -/
inductive Below : fs.Node → List (List UInt8) → fs.Node → Prop
  | entry {dir entry : fs.Node} {name : List UInt8} (member : name ∈ fs.listing dir)
      (proper : isDots name = false) (leads : fs.lookup dir name = some entry) :
      Below dir [name] entry
  | under {dir sub entry : fs.Node} {name : List UInt8} {names : List (List UInt8)}
      (member : name ∈ fs.listing dir) (proper : isDots name = false)
      (leads : fs.lookup dir name = some sub) (isDir : hasDirBit (fs.stat sub).mode)
      (below : Below sub names entry) : Below dir (name :: names) entry

/-- A relative path. -/
def relative : List (List UInt8) → List UInt8
  | [] => []
  | [name] => name
  | name :: names => name ++ 47 :: relative names

/-! ## Paths -/

section Paths

variable {fs} {dir cwd entry : fs.Node} {lpath name rest : List UInt8} {names : List (List UInt8)}

theorem segments_slash (front rest : List UInt8) :
    segments (front ++ 47 :: rest) = segments front ++ segments rest :=
  List.splitOnP_append_cons front rest rfl

theorem segments_plain (plain : 47 ∉ name ∧ 92 ∉ name) : segments name = [name] := by
  refine List.splitOnP_eq_singleton fun c member => ?_
  have slash : c ≠ 47 := fun same => plain.1 (same ▸ member)
  have backslash : c ≠ 92 := fun same => plain.2 (same ▸ member)
  simp [slash, backslash]

theorem segments_relative (some : names ≠ [])
    (plain : ∀ name ∈ names, 47 ∉ name ∧ 92 ∉ name) : segments (relative names) = names := by
  induction names with
  | nil => exact absurd rfl some
  | cons name names induction =>
      rw [List.forall_mem_cons] at plain
      cases names with
      | nil => exact segments_plain plain.1
      | cons next names =>
          rw [relative, segments_slash, segments_plain plain.1,
            induction (List.cons_ne_nil _ _) plain.2]
          · rfl
          · exact fun absurdity => List.cons_ne_nil _ _ absurdity

/-- A path that goes on behind a slash goes on from where it leads. -/
theorem resolve_append (slash : lpath.getLast? = some 47) (further : rest.head? ≠ some 47)
    (cwd : fs.Node) :
    fs.resolve cwd (lpath ++ rest) =
      (fs.resolve cwd lpath).bind fun dir => (segments rest).foldlM fs.follow dir := by
  have same := fs.start_append lpath rest slash further
  obtain ⟨front, rfl⟩ := List.getLast?_eq_some_iff.mp slash
  have whole : segments (front ++ [47]) = segments front ++ [[]] := segments_slash front []
  have longer : segments (front ++ [47] ++ rest) = segments front ++ segments rest := by
    rw [List.append_assoc]
    exact segments_slash front rest
  rw [FileSystem.resolve, FileSystem.resolve, same, longer, whole, List.foldlM_append,
    List.foldlM_append]
  cases (segments front).foldlM fs.follow ((fs.start (front ++ [47])).getD cwd) with
  | none => rfl
  | some dir => rfl

theorem head?_name (member : name ∈ fs.listing dir) (rest : List UInt8) :
    (name ++ rest).head? ≠ some 47 := by
  obtain ⟨nonempty, plain, -⟩ := fs.plain dir name member
  cases name with
  | nil => exact absurd rfl nonempty
  | cons c name =>
      intro slash
      exact plain (List.mem_cons.mpr (.inl (Option.some.inj slash).symm))

theorem follow_name (member : name ∈ fs.listing dir) (proper : isDots name = false)
    (cwd : fs.Node) : fs.follow cwd name = fs.lookup cwd name := by
  refine if_neg ?_
  rintro (rfl | rfl)
  · exact (fs.plain dir [] member).1 rfl
  · cases proper

/-- The path of an entry. -/
theorem resolve_name (slash : lpath.getLast? = some 47) (leads : fs.resolve cwd lpath = some dir)
    (member : name ∈ fs.listing dir) (proper : isDots name = false) :
    fs.resolve cwd (lpath ++ name) = fs.lookup dir name := by
  have further := head?_name member []
  rw [List.append_nil] at further
  rw [resolve_append slash further, leads, segments_plain (fs.plain dir name member).2]
  show fs.follow dir name >>= pure = _
  rw [bind_pure, follow_name member proper]

/-- The path of a directory in a directory. -/
theorem resolve_folder (slash : lpath.getLast? = some 47)
    (leads : fs.resolve cwd lpath = some dir) (member : name ∈ fs.listing dir)
    (proper : isDots name = false) :
    fs.resolve cwd (lpath ++ name ++ [47]) = fs.lookup dir name := by
  have twice : segments (name ++ [47]) = [name, []] := by
    rw [segments_slash, segments_plain (fs.plain dir name member).2]
    rfl
  rw [List.append_assoc, resolve_append slash (head?_name member _), leads, twice]
  show fs.follow dir name >>= (fun sub => fs.follow sub [] >>= pure) = _
  rw [follow_name member proper]
  cases fs.lookup dir name with
  | none => rfl
  | some sub => rfl

/-- An absolute path leads to the same from everywhere. -/
theorem resolve_absolute {path : List UInt8} (absolute : (fs.start path).isSome)
    (cwd cwd' : fs.Node) : fs.resolve cwd path = fs.resolve cwd' path := by
  obtain ⟨root, begins⟩ := Option.isSome_iff_exists.mp absolute
  rw [FileSystem.resolve, FileSystem.resolve, begins]
  rfl

theorem relative_cons (further : names ≠ []) :
    relative (name :: names) = name ++ 47 :: relative names := by
  rw [relative]
  exact fun none => further none

theorem Below.ne_nil (below : Below fs dir names entry) : names ≠ [] := by
  cases below with
  | entry => exact List.cons_ne_nil _ _
  | under => exact List.cons_ne_nil _ _

theorem Below.plain (below : Below fs dir names entry) :
    ∀ name ∈ names, 47 ∉ name ∧ 92 ∉ name := by
  induction below with
  | entry member =>
      rw [List.forall_mem_singleton]
      exact (fs.plain _ _ member).2
  | under member _ _ _ _ induction =>
      rw [List.forall_mem_cons]
      exact ⟨(fs.plain _ _ member).2, induction⟩

/-- The path of an entry tells which it is. -/
theorem names_eq {names' : List (List UInt8)} {entry' : fs.Node}
    (below : Below fs dir names entry) (below' : Below fs dir names' entry')
    (same : lpath ++ relative names = lpath ++ relative names') : names = names' := by
  rw [← segments_relative below.ne_nil below.plain, List.append_cancel_left same,
    segments_relative below'.ne_nil below'.plain]

end Paths

end LocalList
end Sync
end AdbWide
