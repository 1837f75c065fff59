import AdbWide.Sync.LocalFiles

/-!
# The files of a local directory

`local_build_list` makes the directory the current one and goes through its entries with
`_findfirst` and `_findnext`.  At an entry whose path is too long it asks for the next entry twice,
so that the one behind is passed over.  The paths are still those from outside: a relative one is
resolved from inside the directory.
-/

namespace AdbWide
namespace Sync
namespace LocalList

open Sockets.Server (ascii)

variable (fs : FileSystem)

/-! ## The code -/

/-- `MAX_PATH`, the size of `stat_path`. -/
def maxPath : Nat := 260

/-- The state of the loop over a directory. -/
structure Scan where
  st : Stat
  dirlist : List CopyInfo
  filelist : List LocalInfo

/-- A `copyinfo` with what `lstat` says. -/
def localInfo (ci : CopyInfo) (st : Stat) : LocalInfo := ⟨ci.src, ci.dst, st.time, st.mode, st.size⟩

/-- The loop over a directory, with `false` if it returns from the function. -/
def scan (cwd : fs.Node) (lpath rpath : List UInt8) : List (List UInt8) → Scan → Bool × Scan
  | [], s => (true, s)
  | name :: names, s =>
      if isDots name then scan cwd lpath rpath names s
      else if maxPath < lpath.length + name.length + 1 then
        -- one `_findnext` here, and one in the condition of the loop
        match names with
        | [] => (true, s)
        | _ :: names => scan cwd lpath rpath names s
      else
        -- a `stat` that fails leaves `st` as it is
        let st := (fs.lstat cwd (lpath ++ name)).getD s.st
        if hasDirBit st.mode then
          scan cwd lpath rpath names
            { s with st, dirlist := mkcopyinfo lpath rpath name true :: s.dirlist }
        else
          let ci := mkcopyinfo lpath rpath name false
          match fs.lstat cwd ci.src with
          | none => (false, { s with st })
          | some st =>
              if !isReg st.mode && !hostIsLnk st.mode then scan cwd lpath rpath names { s with st }
              else
                scan cwd lpath rpath names { s with st, filelist := localInfo ci st :: s.filelist }

/-- What is left of `local_build_list`: its value, the current directory and the list. -/
structure Built where
  ret : Int
  cwd : fs.Node
  filelist : List LocalInfo

/-- `local_build_list`, to so many levels of directories; `junk` is what is in `st` at first. -/
def localBuildList (junk : List UInt8 → Stat) :
    Nat → fs.Node → List UInt8 → List UInt8 → List LocalInfo → Option (Built fs)
  | 0, _, _, _, _ => none
  | fuel + 1, cwd, lpath, rpath, filelist =>
      match fs.chdir cwd lpath with
      | none => some ⟨-1, cwd, filelist⟩
      | some dir =>
          match scan fs dir lpath rpath (fs.listing dir) ⟨junk lpath, [], filelist⟩ with
          | (false, s) => some ⟨-1, dir, s.filelist⟩
          | (true, s) => do
              let built ← s.dirlist.foldlM
                (fun built ci => localBuildList junk fuel built.cwd ci.src ci.dst built.filelist)
                ⟨0, dir, s.filelist⟩
              return { built with ret := 0 }

/-! ## What is to be listed -/

/-- A regular file whose path fits. -/
def Wanted (lpath : List UInt8) (names : List (List UInt8)) (entry : fs.Node) : Prop :=
  isReg (fs.stat entry).mode ∧ lpath.length + (relative names).length + 1 ≤ maxPath

/-- The list has, in front of what was in it, the regular files below the directory whose paths fit,
each exactly once. -/
def Gathers (dir : fs.Node) (lpath rpath : List UInt8) (filelist : List LocalInfo)
    (built : Option (Built fs)) : Prop :=
  ∃ ret cwd added, built = some ⟨ret, cwd, added ++ filelist⟩ ∧ added.Nodup ∧
    ∀ info, info ∈ added ↔ ∃ names entry, Below fs dir names entry ∧ Wanted fs lpath names entry ∧
      info = localInfo ⟨lpath ++ relative names, rpath ++ relative names⟩ (fs.stat entry)

/-! ## What is passed over -/

/-- The entries that the loop looks at. -/
def examined (lpath : List UInt8) : List (List UInt8) → List (List UInt8)
  | [] => []
  | name :: names =>
      if isDots name then examined lpath names
      else if maxPath < lpath.length + name.length + 1 then
        match names with
        | [] => []
        | _ :: names => examined lpath names
      else name :: examined lpath names

/-- The entries behind one whose path is too long, if the loop came to that one. -/
def passed (lpath : List UInt8) : List (List UInt8) → List (List UInt8)
  | [] => []
  | name :: names =>
      if isDots name then passed lpath names
      else if maxPath < lpath.length + name.length + 1 then
        match names with
        | [] => []
        | next :: names => next :: passed lpath names
      else passed lpath names

/-- An entry that is passed over, or below one. -/
inductive PassedOver : fs.Node → List UInt8 → List (List UInt8) → fs.Node → Prop
  | here {dir entry : fs.Node} {lpath name : List UInt8} {names : List (List UInt8)}
      (member : name ∈ passed lpath (fs.listing dir)) (below : Below fs dir (name :: names) entry) :
      PassedOver dir lpath (name :: names) entry
  | under {dir sub entry : fs.Node} {lpath name : List UInt8} {names : List (List UInt8)}
      (member : name ∈ examined lpath (fs.listing dir)) (leads : fs.lookup dir name = some sub)
      (isDir : hasDirBit (fs.stat sub).mode)
      (missed : PassedOver sub (lpath ++ name ++ [47]) names entry) :
      PassedOver dir lpath (name :: names) entry

/-- Nothing that is passed over, or below it, is a regular file whose path fits. -/
def Harmless (dir : fs.Node) (lpath : List UInt8) : Prop :=
  ∀ names entry, PassedOver fs dir lpath names entry → ¬Wanted fs lpath names entry

/-- The entries of one kind among these, in their order. -/
def ofKind (kind : UInt32 → Bool) (dir : fs.Node) (names : List (List UInt8)) :
    List (List UInt8 × fs.Node) :=
  names.filterMap fun name =>
    ((fs.lookup dir name).filter fun entry => kind (fs.stat entry).mode).map fun entry =>
      (name, entry)

/-- The directories of a directory, with their paths, in the order in which they are entered. -/
def pending (dir : fs.Node) (lpath : List UInt8) : List (List UInt8 × fs.Node) :=
  (ofKind fs hasDirBit dir (examined lpath (fs.listing dir))).reverse.map fun sub =>
    (lpath ++ sub.1 ++ [47], sub.2)

/-- The walk through these directories is led aright: each path leads to its directory from the
one where the walk is then, and from inside it to what the loop looks at. -/
inductive Led : List (List UInt8 × fs.Node) → fs.Node → Prop
  | done (cwd : fs.Node) : Led [] cwd
  | enter {lpath : List UInt8} {dir cwd : fs.Node} {later : List (List UInt8 × fs.Node)}
      (enters : fs.chdir cwd lpath = some dir)
      (inside : ∀ name ∈ examined lpath (fs.listing dir),
        fs.resolve dir (lpath ++ name) = fs.lookup dir name)
      (rest : Led (pending fs dir lpath ++ later) dir) : Led ((lpath, dir) :: later) cwd

/-! ## The entries of one directory -/

section Entries

variable {lpath name : List UInt8} {names : List (List UInt8)}

theorem examined_dots (dots : isDots name) :
    examined lpath (name :: names) = examined lpath names := by
  rw [examined.eq_def]
  exact if_pos dots

theorem examined_fits (proper : ¬isDots name) (fits : ¬maxPath < lpath.length + name.length + 1) :
    examined lpath (name :: names) = name :: examined lpath names := by
  rw [examined.eq_def]
  exact (if_neg proper).trans (if_neg fits)

theorem passed_dots (dots : isDots name) :
    passed lpath (name :: names) = passed lpath names := by
  rw [passed.eq_def]
  exact if_pos dots

theorem passed_fits (proper : ¬isDots name) (fits : ¬maxPath < lpath.length + name.length + 1) :
    passed lpath (name :: names) = passed lpath names := by
  rw [passed.eq_def]
  exact (if_neg proper).trans (if_neg fits)

theorem examined_sublist : (examined lpath names).Sublist names := by
  fun_induction examined lpath names with
  | case1 => exact .slnil
  | case2 name names dots induction => exact induction.cons _
  | case3 name dots long => exact List.nil_sublist _
  | case4 name dots long next names induction => exact (induction.cons _).cons _
  | case5 name names dots fits induction => exact induction.cons_cons _

theorem passed_sublist : (passed lpath names).Sublist names := by
  fun_induction passed lpath names with
  | case1 => exact .slnil
  | case2 name names dots induction => exact induction.cons _
  | case3 name dots long => exact List.nil_sublist _
  | case4 name dots long next names induction => exact (induction.cons_cons _).cons _
  | case5 name names dots fits induction => exact induction.cons _

theorem fits_of_mem_examined (member : name ∈ examined lpath names) :
    isDots name = false ∧ lpath.length + name.length + 1 ≤ maxPath := by
  fun_induction examined lpath names with
  | case1 => cases member
  | case2 _ _ _ induction => exact induction member
  | case3 => cases member
  | case4 _ _ _ _ _ induction => exact induction member
  | case5 first names dots fits induction =>
      rcases List.mem_cons.mp member with rfl | member
      · exact ⟨Bool.eq_false_iff.mpr dots, Nat.le_of_not_lt fits⟩
      · exact induction member

/-- What fits is looked at or passed over. -/
theorem mem_examined_or_passed (member : name ∈ names) (proper : isDots name = false)
    (fits : lpath.length + name.length + 1 ≤ maxPath) :
    name ∈ examined lpath names ∨ name ∈ passed lpath names := by
  fun_induction examined lpath names with
  | case1 => cases member
  | case2 first names dots induction =>
      rw [passed_dots dots]
      rcases List.mem_cons.mp member with rfl | member
      · rw [proper] at dots
        cases dots
      · exact induction member
  | case3 first dots long =>
      rcases List.mem_cons.mp member with rfl | member
      · omega
      · cases member
  | case4 first dots long next names induction =>
      rw [passed, if_neg dots, if_pos long]
      rcases List.mem_cons.mp member with rfl | member
      · omega
      · rcases List.mem_cons.mp member with rfl | member
        · exact .inr List.mem_cons_self
        · exact (induction member).imp_right (List.mem_cons_of_mem _)
  | case5 first names dots short induction =>
      rw [passed_fits dots short]
      rcases List.mem_cons.mp member with rfl | member
      · exact .inl List.mem_cons_self
      · exact (induction member).imp_left (List.mem_cons_of_mem _)

/-- What is passed over is not looked at. -/
theorem not_mem_examined (distinct : names.Nodup) (member : name ∈ passed lpath names) :
    name ∉ examined lpath names := by
  fun_induction passed lpath names with
  | case1 => cases member
  | case2 first names dots induction =>
      rw [examined_dots dots]
      exact induction (List.nodup_cons.mp distinct).2 member
  | case3 => cases member
  | case4 first dots long next names induction =>
      rw [examined, if_neg dots, if_pos long]
      have distinct := (List.nodup_cons.mp distinct).2
      rcases List.mem_cons.mp member with rfl | member
      · exact fun again => (List.nodup_cons.mp distinct).1 (examined_sublist.subset again)
      · exact induction (List.nodup_cons.mp distinct).2 member
  | case5 first names dots fits induction =>
      rw [examined_fits dots fits, List.mem_cons, not_or]
      obtain ⟨fresh, distinct⟩ := List.nodup_cons.mp distinct
      refine ⟨?_, induction distinct member⟩
      rintro rfl
      exact fresh (passed_sublist.subset member)

end Entries

/-! ## The loop -/

/-- The `copyinfo` of a file that is found. -/
def infoOf (lpath rpath : List UInt8) (file : List (List UInt8) × fs.Node) : LocalInfo :=
  localInfo ⟨lpath ++ relative file.1, rpath ++ relative file.1⟩ (fs.stat file.2)

theorem not_hasDirBit_of_isReg {mode : UInt32} (regular : isReg mode) : hasDirBit mode = false := by
  rw [isReg, decide_eq_true_eq] at regular
  have masked : mode &&& 0o040000 = (mode &&& 0o170000) &&& 0o040000 := by
    rw [UInt32.and_assoc]
    rfl
  rw [hasDirBit, masked, regular]
  rfl

section Loop

variable {fs} {dir : fs.Node} {lpath rpath name : List UInt8} {names : List (List UInt8)}

theorem mem_ofKind {kind : UInt32 → Bool} {entry : List UInt8 × fs.Node} :
    entry ∈ ofKind fs kind dir names ↔
      entry.1 ∈ names ∧ fs.lookup dir entry.1 = some entry.2 ∧ kind (fs.stat entry.2).mode := by
  rw [ofKind, List.mem_filterMap]
  constructor
  · rintro ⟨name, member, same⟩
    obtain ⟨entry, leads, rfl⟩ := Option.map_eq_some_iff.mp same
    obtain ⟨leads, kind⟩ := Option.filter_eq_some_iff.mp leads
    exact ⟨member, leads, kind⟩
  · rintro ⟨member, leads, kind⟩
    refine ⟨entry.1, member, Option.map_eq_some_iff.mpr ⟨entry.2, ?_, rfl⟩⟩
    exact Option.filter_eq_some_iff.mpr ⟨leads, kind⟩

section Cons

variable {kind : UInt32 → Bool} {entry : fs.Node}

theorem ofKind_cons_pos (leads : fs.lookup dir name = some entry)
    (is : kind (fs.stat entry).mode) :
    ofKind fs kind dir (name :: names) = (name, entry) :: ofKind fs kind dir names := by
  rw [ofKind, List.filterMap_cons, leads, Option.filter_some, if_pos is]
  rfl

theorem ofKind_cons_neg (leads : fs.lookup dir name = some entry)
    (isnt : ¬kind (fs.stat entry).mode) :
    ofKind fs kind dir (name :: names) = ofKind fs kind dir names := by
  rw [ofKind, List.filterMap_cons, leads, Option.filter_some, if_neg isnt]
  rfl

end Cons

theorem not_isReg {mode : UInt32} (isDir : hasDirBit mode) : ¬isReg mode := by
  intro regular
  rw [not_hasDirBit_of_isReg regular] at isDir
  cases isDir

theorem lstat_eq {cwd entry : fs.Node} {path : List UInt8}
    (resolves : fs.resolve cwd path = some entry) : fs.lstat cwd path = some (fs.stat entry) :=
  congrArg (Option.map fs.stat) resolves

theorem getD_lstat {cwd entry : fs.Node} {path : List UInt8}
    (resolves : fs.resolve cwd path = some entry) (st : Stat) :
    (fs.lstat cwd path).getD st = fs.stat entry := by
  rw [lstat_eq resolves]
  rfl

theorem mkcopyinfo_file (spath dpath name : List UInt8) :
    mkcopyinfo spath dpath name false = ⟨spath ++ name, dpath ++ name⟩ :=
  congrArg₂ CopyInfo.mk (List.append_nil _) (List.append_nil _)

/-- The loop takes the directories and the regular files of what it looks at. -/
theorem scan_eq (rpath : List UInt8) (aright : ∀ name ∈ examined lpath names,
      ∃ entry, fs.lookup dir name = some entry ∧ fs.resolve dir (lpath ++ name) = some entry)
    (s : Scan) :
    ∃ st, scan fs dir lpath rpath names s =
      (true, ⟨st,
        (ofKind fs hasDirBit dir (examined lpath names)).reverse.map
          (fun sub => mkcopyinfo lpath rpath sub.1 true) ++ s.dirlist,
        (ofKind fs isReg dir (examined lpath names)).reverse.map
          (fun file => infoOf fs lpath rpath ([file.1], file.2)) ++ s.filelist⟩) := by
  fun_induction scan fs dir lpath rpath names s with
  | case1 s => exact ⟨s.st, rfl⟩
  | case2 name names s dots induction =>
      rw [examined_dots dots] at aright ⊢
      exact induction aright
  | case3 name s dots long =>
      rw [examined, if_neg dots, if_pos long]
      exact ⟨s.st, rfl⟩
  | case4 name s dots long next names induction =>
      rw [examined, if_neg dots, if_pos long] at aright ⊢
      exact induction aright
  | case5 name names s dots fits st isDir induction =>
      rw [examined_fits dots fits] at aright ⊢
      obtain ⟨⟨entry, leads, resolves⟩, aright⟩ := List.forall_mem_cons.mp aright
      obtain ⟨st', scanned⟩ := induction aright
      have found : st = fs.stat entry := getD_lstat resolves s.st
      rw [found] at isDir
      refine ⟨st', scanned.trans ?_⟩
      rw [ofKind_cons_pos leads isDir, ofKind_cons_neg leads (not_isReg isDir)]
      simp only [List.reverse_cons, List.map_append, List.map_cons, List.map_nil,
        List.append_assoc, List.singleton_append]
  | case6 name names s dots fits st noDir ci failed =>
      rw [examined_fits dots fits] at aright
      obtain ⟨entry, -, resolves⟩ := (List.forall_mem_cons.mp aright).1
      simp only [ci, mkcopyinfo_file, lstat_eq resolves] at failed
      cases failed
  | case7 name names s dots fits st noDir ci st' said special induction =>
      rw [examined_fits dots fits] at aright ⊢
      obtain ⟨⟨entry, leads, resolves⟩, aright⟩ := List.forall_mem_cons.mp aright
      obtain ⟨st'', scanned⟩ := induction aright
      have found : st = fs.stat entry := getD_lstat resolves s.st
      rw [found] at noDir
      simp only [ci, mkcopyinfo_file, lstat_eq resolves, Option.some_inj] at said
      simp only [← said, hostIsLnk, Bool.not_false, Bool.and_true, Bool.not_eq_true'] at special
      refine ⟨st'', scanned.trans ?_⟩
      rw [ofKind_cons_neg leads noDir, ofKind_cons_neg leads (Bool.eq_false_iff.mp special)]
  | case8 name names s dots fits st noDir ci st' said usual induction =>
      rw [examined_fits dots fits] at aright ⊢
      obtain ⟨⟨entry, leads, resolves⟩, aright⟩ := List.forall_mem_cons.mp aright
      obtain ⟨st'', scanned⟩ := induction aright
      have found : st = fs.stat entry := getD_lstat resolves s.st
      rw [found] at noDir
      simp only [ci, mkcopyinfo_file, lstat_eq resolves, Option.some_inj] at said
      simp only [← said, hostIsLnk, Bool.not_false, Bool.and_true, Bool.not_eq_true',
        Bool.not_eq_false] at usual
      refine ⟨st'', scanned.trans ?_⟩
      rw [ofKind_cons_neg leads noDir, ofKind_cons_pos leads usual, ← said]
      simp only [List.reverse_cons, List.map_append, List.map_cons, List.map_nil,
        List.append_assoc, List.singleton_append, ci, mkcopyinfo_file]
      rfl

end Loop

/-! ## The walk -/

/-- What the walk finds, with the last file in front. -/
def walk : Nat → fs.Node → List UInt8 → List (List (List UInt8) × fs.Node)
  | 0, _, _ => []
  | fuel + 1, dir, lpath =>
      (ofKind fs hasDirBit dir (examined lpath (fs.listing dir))).flatMap (fun sub =>
        (walk fuel sub.2 (lpath ++ sub.1 ++ [47])).map fun file => (sub.1 :: file.1, file.2)) ++
      (ofKind fs isReg dir (examined lpath (fs.listing dir))).reverse.map fun file =>
        ([file.1], file.2)

section Walk

variable {fs} {dir sub entry cwd : fs.Node} {lpath rpath name : List UInt8}
  {names : List (List UInt8)} {fuel : Nat}

theorem wanted_cons (further : names ≠ []) :
    Wanted fs (lpath ++ name ++ [47]) names entry ↔ Wanted fs lpath (name :: names) entry := by
  rw [Wanted, Wanted, relative_cons further]
  simp only [List.length_append, List.length_cons, List.length_nil]
  refine and_congr_right fun _ => ?_
  omega

/-- What the walk finds is wanted, and not passed over. -/
theorem sound_walk (found : (names, entry) ∈ walk fs fuel dir lpath) :
    Below fs dir names entry ∧ Wanted fs lpath names entry ∧
      ∀ entry', ¬PassedOver fs dir lpath names entry' := by
  induction fuel generalizing dir lpath names with
  | zero => cases found
  | succ fuel induction =>
      rw [walk, List.mem_append] at found
      rcases found with found | found
      · obtain ⟨⟨name, sub⟩, member, found⟩ := List.mem_flatMap.mp found
        obtain ⟨⟨names, entry⟩, deeper, same⟩ := List.mem_map.mp found
        cases same
        obtain ⟨below, wanted, kept⟩ := induction deeper
        obtain ⟨member, leads, isDir⟩ := mem_ofKind.mp member
        obtain ⟨proper, -⟩ := fits_of_mem_examined member
        refine ⟨.under (examined_sublist.subset member) proper leads isDir below,
          (wanted_cons below.ne_nil).mp wanted, fun entry' missed => ?_⟩
        cases missed with
        | here missed => exact not_mem_examined (fs.nodup dir) missed member
        | under _ leads' _ missed =>
            obtain rfl := Option.some.inj (leads.symm.trans leads')
            exact kept _ missed
      · obtain ⟨⟨name, entry⟩, member, same⟩ := List.mem_map.mp found
        cases same
        rw [List.mem_reverse] at member
        obtain ⟨member, leads, regular⟩ := mem_ofKind.mp member
        obtain ⟨proper, fits⟩ := fits_of_mem_examined member
        refine ⟨.entry (examined_sublist.subset member) proper leads, ⟨regular, fits⟩,
          fun entry' missed => ?_⟩
        cases missed with
        | here missed => exact not_mem_examined (fs.nodup dir) missed member
        | under _ _ _ missed =>
            cases missed

/-- What is wanted is found or passed over. -/
theorem complete_walk (below : Below fs dir names entry) (wanted : Wanted fs lpath names entry)
    (enough : maxPath < fuel + lpath.length) :
    (names, entry) ∈ walk fs fuel dir lpath ∨ PassedOver fs dir lpath names entry := by
  induction below generalizing fuel lpath with
  | entry member proper leads =>
      obtain ⟨regular, fits⟩ := wanted
      rw [relative] at fits
      rcases mem_examined_or_passed member proper fits with looked | missed
      · obtain ⟨fuel, rfl⟩ : ∃ rounds, fuel = rounds + 1 := ⟨fuel - 1, by omega⟩
        refine .inl ?_
        rw [walk, List.mem_append]
        refine .inr (List.mem_map.mpr ⟨(_, _), List.mem_reverse.mpr ?_, rfl⟩)
        exact mem_ofKind.mpr ⟨looked, leads, regular⟩
      · exact .inr (.here missed (.entry member proper leads))
  | @under dir sub entry name names member proper leads isDir below induction =>
      have whole := wanted.2
      rw [relative_cons below.ne_nil, List.length_append, List.length_cons] at whole
      have fits : lpath.length + name.length + 1 ≤ maxPath := by omega
      rcases mem_examined_or_passed member proper fits with looked | missed
      · obtain ⟨fuel, rfl⟩ : ∃ rounds, fuel = rounds + 1 := ⟨fuel - 1, by omega⟩
        rw [← wanted_cons below.ne_nil] at wanted
        have longer : maxPath < fuel + (lpath ++ name ++ [47]).length := by
          rw [List.length_append, List.length_append, List.length_singleton]
          omega
        rcases induction wanted longer with found | missed
        · refine .inl ?_
          rw [walk, List.mem_append]
          refine .inl (List.mem_flatMap.mpr ⟨(_, _), mem_ofKind.mpr ⟨looked, leads, isDir⟩, ?_⟩)
          exact List.mem_map.mpr ⟨(_, _), found, rfl⟩
        · exact .inr (.under looked leads isDir missed)
      · exact .inr (.here missed (.under member proper leads isDir below))

theorem names_ofKind (kind : UInt32 → Bool) :
    ((ofKind fs kind dir names).map Prod.fst).Sublist names := by
  induction names with
  | nil => exact .slnil
  | cons name names induction =>
      cases leads : fs.lookup dir name with
      | none =>
          rw [ofKind, List.filterMap_cons, leads]
          exact induction.cons _
      | some entry =>
          by_cases is : kind (fs.stat entry).mode
          · rw [ofKind_cons_pos leads is]
            exact induction.cons_cons _
          · rw [ofKind_cons_neg leads is]
            exact induction.cons _

/-- Nothing is found twice. -/
theorem nodup_walk : ((walk fs fuel dir lpath).map Prod.fst).Nodup := by
  induction fuel generalizing dir lpath with
  | zero => exact List.nodup_nil
  | succ fuel induction =>
      have distinct (kind : UInt32 → Bool) :
          ((ofKind fs kind dir (examined lpath (fs.listing dir))).map Prod.fst).Nodup :=
        (fs.nodup dir).sublist ((names_ofKind kind).trans examined_sublist)
      rw [walk, List.map_append, List.nodup_append']
      refine ⟨?_, ?_, ?_⟩
      · rw [List.map_flatMap, List.nodup_flatMap]
        refine ⟨fun sub _ => ?_, (List.pairwise_map.mp (distinct hasDirBit)).imp ?_⟩
        · have deeper : (((walk fs fuel sub.2 (lpath ++ sub.1 ++ [47])).map Prod.fst).map
              (List.cons sub.1)).Nodup := induction.map List.cons_injective
          rw [List.map_map] at deeper ⊢
          exact deeper
        · intro sub sub' differ names first second
          obtain ⟨file, deeper, rfl⟩ := List.mem_map.mp first
          obtain ⟨file', deeper', same⟩ := List.mem_map.mp second
          obtain ⟨_, -, rfl⟩ := List.mem_map.mp deeper
          obtain ⟨_, -, rfl⟩ := List.mem_map.mp deeper'
          exact differ (List.cons_eq_cons.mp same).1.symm
      · have files := (List.nodup_reverse.mpr (distinct isReg)).map List.singleton_injective
        rw [← List.map_reverse, List.map_map] at files
        rw [List.map_map]
        exact files
      · intro names first second
        rw [List.mem_map] at first second
        obtain ⟨file, found, rfl⟩ := first
        obtain ⟨file', found', same⟩ := second
        obtain ⟨sub, -, found⟩ := List.mem_flatMap.mp found
        obtain ⟨_, deeper, rfl⟩ := List.mem_map.mp found
        obtain ⟨_, -, rfl⟩ := List.mem_map.mp found'
        exact (sound_walk deeper).1.ne_nil (List.cons_eq_cons.mp same).2.symm

theorem infoOf_cons (found : (names, entry) ∈ walk fs fuel sub (lpath ++ name ++ [47])) :
    infoOf fs lpath rpath (name :: names, entry) =
      infoOf fs (lpath ++ name ++ [47]) (rpath ++ name ++ [47]) (names, entry) := by
  have further := (sound_walk found).1.ne_nil
  rw [infoOf, infoOf, relative_cons further]
  simp only [List.append_assoc, List.singleton_append]

/-- The loop over the directories, if each of the calls goes on with the walk. -/
theorem foldlM_of_led (rpath : List UInt8) {later : List (List UInt8 × fs.Node)}
    {build : fs.Node → List UInt8 → List UInt8 → List LocalInfo → Option (Built fs)}
    (calls : ∀ {lpath dir later cwd} rpath filelist, lpath.length ≤ maxPath →
      maxPath < fuel + lpath.length → Led fs ((lpath, dir) :: later) cwd →
      ∃ cwd', build cwd lpath rpath filelist =
        some ⟨0, cwd', (walk fs fuel dir lpath).map (infoOf fs lpath rpath) ++ filelist⟩ ∧
          Led fs later cwd')
    {subs : List (List UInt8 × fs.Node)}
    (fits : ∀ sub ∈ subs, lpath.length + sub.1.length + 1 ≤ maxPath)
    (enough : maxPath < fuel + 1 + lpath.length) (built : Built fs)
    (led : Led fs (subs.map (fun sub => (lpath ++ sub.1 ++ [47], sub.2)) ++ later) built.cwd) :
    ∃ ret cwd',
      (subs.map fun sub => mkcopyinfo lpath rpath sub.1 true).foldlM
          (fun built ci => build built.cwd ci.src ci.dst built.filelist) built =
        some ⟨ret, cwd', subs.reverse.flatMap (fun sub =>
          (walk fs fuel sub.2 (lpath ++ sub.1 ++ [47])).map fun file =>
            infoOf fs lpath rpath (sub.1 :: file.1, file.2)) ++ built.filelist⟩ ∧
      Led fs later cwd' := by
  induction subs generalizing built with
  | nil => exact ⟨built.ret, built.cwd, rfl, led⟩
  | cons sub subs induction =>
      rw [List.forall_mem_cons] at fits
      have length : (lpath ++ sub.1 ++ [47]).length = lpath.length + sub.1.length + 1 := by
        rw [List.length_append, List.length_append, List.length_singleton]
      obtain ⟨cwd', called, led⟩ := calls (rpath ++ sub.1 ++ [47]) built.filelist
        (by omega) (by omega) led
      obtain ⟨ret, cwd'', folded, led⟩ := induction fits.2 ⟨_, _, _⟩ led
      have same : (walk fs fuel sub.2 (lpath ++ sub.1 ++ [47])).map (fun file =>
          infoOf fs lpath rpath (sub.1 :: file.1, file.2)) =
          (walk fs fuel sub.2 (lpath ++ sub.1 ++ [47])).map
            (infoOf fs (lpath ++ sub.1 ++ [47]) (rpath ++ sub.1 ++ [47])) :=
        List.map_congr_left fun file found => infoOf_cons found
      refine ⟨ret, cwd'', ?_, led⟩
      rw [List.map_cons, List.foldlM_cons, List.reverse_cons, List.flatMap_append,
        List.flatMap_singleton, same]
      show build built.cwd (lpath ++ sub.1 ++ [47]) (rpath ++ sub.1 ++ [47]) built.filelist >>=
        _ = _
      rw [called]
      refine folded.trans ?_
      simp only [List.append_assoc]

/-- If the walk is led aright, what it finds is put in front of the list. -/
theorem localBuildList_of_led {junk : List UInt8 → Stat} {later : List (List UInt8 × fs.Node)}
    (rpath : List UInt8) (filelist : List LocalInfo) (positive : 0 < fuel)
    (enough : maxPath < fuel + lpath.length) (led : Led fs ((lpath, dir) :: later) cwd) :
    ∃ cwd', localBuildList fs junk fuel cwd lpath rpath filelist =
      some ⟨0, cwd', (walk fs fuel dir lpath).map (infoOf fs lpath rpath) ++ filelist⟩ ∧
        Led fs later cwd' := by
  induction fuel generalizing dir cwd lpath rpath filelist later with
  | zero => cases positive
  | succ fuel induction =>
      obtain - | ⟨enters, inside, rest⟩ := led
      have aright : ∀ name ∈ examined lpath (fs.listing dir), ∃ entry,
          fs.lookup dir name = some entry ∧ fs.resolve dir (lpath ++ name) = some entry := by
        intro name member
        obtain ⟨entry, leads⟩ := Option.isSome_iff_exists.mp
          (fs.found dir name (examined_sublist.subset member) (fits_of_mem_examined member).1)
        exact ⟨entry, leads, (inside name member).trans leads⟩
      obtain ⟨st, scanned⟩ := scan_eq rpath aright ⟨junk lpath, [], filelist⟩
      have fits : ∀ sub ∈ (ofKind fs hasDirBit dir (examined lpath (fs.listing dir))).reverse,
          lpath.length + sub.1.length + 1 ≤ maxPath := by
        intro sub member
        rw [List.mem_reverse] at member
        exact (fits_of_mem_examined (mem_ofKind.mp member).1).2
      obtain ⟨ret, cwd', folded, led⟩ := foldlM_of_led rpath
        (fun rpath filelist short enough led =>
          induction rpath filelist (by omega) enough led)
        fits enough
        ⟨0, dir, (ofKind fs isReg dir (examined lpath (fs.listing dir))).reverse.map
          (fun file => infoOf fs lpath rpath ([file.1], file.2)) ++ filelist⟩ rest
      refine ⟨cwd', ?_, led⟩
      rw [localBuildList, enters]
      simp only [scanned, List.append_nil, folded, walk, List.map_append, List.map_flatMap,
        List.map_map, List.reverse_reverse, List.append_assoc]
      rfl

end Walk

/-! ## Where the paths lead -/

section Leading

variable {fs} {dir cwd : fs.Node} {lpath : List UInt8}

/-- A walk that goes on with a directory that has an absolute path is led aright. -/
theorem led_cons {later : List (List UInt8 × fs.Node)} (rest : ∀ cwd, Led fs later cwd)
    (absolute : (fs.start lpath).isSome) (slash : lpath.getLast? = some 47)
    (enters : ∀ cwd, fs.chdir cwd lpath = some dir) (cwd : fs.Node) :
    Led fs ((lpath, dir) :: later) cwd := by
  induction left : maxPath - lpath.length using Nat.strong_induction_on
    generalizing lpath dir later cwd with
  | _ left induction =>
      have resolves (cwd : fs.Node) : fs.resolve cwd lpath = some dir :=
        (Option.filter_eq_some_iff.mp (enters cwd)).1
      refine .enter (enters cwd) (fun name member => ?_) ?_
      · exact resolve_name slash (resolves dir) (examined_sublist.subset member)
          (fits_of_mem_examined member).1
      · have through (subs : List (List UInt8 × fs.Node))
            (subset : subs ⊆ ofKind fs hasDirBit dir (examined lpath (fs.listing dir)))
            (cwd : fs.Node) :
            Led fs (subs.map (fun sub => (lpath ++ sub.1 ++ [47], sub.2)) ++ later) cwd := by
          induction subs generalizing cwd with
          | nil => exact rest cwd
          | cons sub subs others =>
              rw [List.cons_subset] at subset
              obtain ⟨looked, leads, isDir⟩ := mem_ofKind.mp subset.1
              have member := examined_sublist.subset looked
              obtain ⟨proper, fits⟩ := fits_of_mem_examined looked
              have length : (lpath ++ sub.1 ++ [47]).length = lpath.length + sub.1.length + 1 := by
                rw [List.length_append, List.length_append, List.length_singleton]
              have begins : fs.start (lpath ++ sub.1 ++ [47]) = fs.start lpath := by
                rw [List.append_assoc]
                exact fs.start_append _ _ slash (head?_name member _)
              refine induction _ (by omega) (others subset.2) (begins ▸ absolute)
                List.getLast?_concat (fun cwd => ?_) cwd rfl
              refine Option.filter_eq_some_iff.mpr ⟨?_, isDir⟩
              rw [resolve_folder slash (resolves cwd) member proper, leads]
        exact through _ (fun sub member => List.mem_reverse.mp member) dir

/-- With an absolute path the walk is led aright. -/
theorem led_of_absolute (absolute : (fs.start lpath).isSome) (slash : lpath.getLast? = some 47)
    (enters : fs.chdir cwd lpath = some dir) : Led fs [(lpath, dir)] cwd := by
  refine led_cons .done absolute slash (fun cwd' => ?_) cwd
  rw [← enters, FileSystem.chdir, FileSystem.chdir, resolve_absolute absolute cwd' cwd]

/-! A relative path that leads nowhere from inside the directory. -/

variable {rest : List UInt8}

theorem resolve_none (slash : lpath.getLast? = some 47) (further : rest.head? ≠ some 47)
    (stuck : fs.resolve cwd lpath = none) : fs.resolve cwd (lpath ++ rest) = none := by
  rw [resolve_append slash further, stuck]
  rfl

/-- The loop finds no files, and its directories are not found either. -/
theorem scan_stuck (slash : lpath.getLast? = some 47) (stuck : fs.resolve dir lpath = none)
    {names : List (List UInt8)} (listed : names.Sublist (fs.listing dir)) (rpath : List UInt8)
    (s : Scan) (before : ∀ ci ∈ s.dirlist, fs.resolve dir ci.src = none) :
    (scan fs dir lpath rpath names s).2.filelist = s.filelist ∧
      ∀ ci ∈ (scan fs dir lpath rpath names s).2.dirlist, fs.resolve dir ci.src = none := by
  have nowhere {name : List UInt8} (member : name ∈ fs.listing dir) (rest : List UInt8) :
      fs.resolve dir (lpath ++ name ++ rest) = none := by
    rw [List.append_assoc]
    exact resolve_none slash (head?_name member rest) stuck
  fun_induction scan fs dir lpath rpath names s with
  | case1 s => exact ⟨rfl, before⟩
  | case2 name names s dots induction =>
      exact induction ((List.sublist_cons_self _ _).trans listed) before
  | case3 name s dots long => exact ⟨rfl, before⟩
  | case4 name s dots long next names induction =>
      refine induction (.trans ?_ listed) before
      exact (List.sublist_cons_self _ _).trans (List.sublist_cons_self _ _)
  | case5 name names s dots fits st isDir induction =>
      refine induction ((List.sublist_cons_self _ _).trans listed) fun ci member => ?_
      rcases List.mem_cons.mp member with rfl | member
      · exact nowhere (listed.subset List.mem_cons_self) [47]
      · exact before ci member
  | case6 name names s dots fits st noDir ci failed => exact ⟨rfl, before⟩
  | case7 name names s dots fits st noDir ci st' said special induction =>
      rw [show fs.lstat dir ci.src = none from
        congrArg (Option.map fs.stat) (nowhere (listed.subset List.mem_cons_self) [])] at said
      cases said
  | case8 name names s dots fits st noDir ci st' said usual induction =>
      rw [show fs.lstat dir ci.src = none from
        congrArg (Option.map fs.stat) (nowhere (listed.subset List.mem_cons_self) [])] at said
      cases said

/-- Nothing is put in the list. -/
theorem localBuildList_stuck {junk : List UInt8 → Stat} (slash : lpath.getLast? = some 47)
    (enters : fs.chdir cwd lpath = some dir) (stuck : fs.resolve dir lpath = none)
    (rpath : List UInt8) (filelist : List LocalInfo) (fuel : Nat) :
    ∃ ret, localBuildList fs junk (fuel + 2) cwd lpath rpath filelist =
      some ⟨ret, dir, filelist⟩ := by
  obtain ⟨same, nowhere⟩ := scan_stuck slash stuck (List.Sublist.refl _) rpath
    ⟨junk lpath, [], filelist⟩ (by simp)
  have folded (dirs : List CopyInfo) (none : ∀ ci ∈ dirs, fs.resolve dir ci.src = none)
      (ret : Int) (filelist : List LocalInfo) : ∃ ret',
      dirs.foldlM (fun built ci => localBuildList fs junk (fuel + 1) built.cwd ci.src ci.dst
        built.filelist) ⟨ret, dir, filelist⟩ = some ⟨ret', dir, filelist⟩ := by
    induction dirs generalizing ret with
    | nil => exact ⟨ret, rfl⟩
    | cons ci dirs induction =>
        rw [List.forall_mem_cons] at none
        have fails : fs.chdir dir ci.src = .none := by
          rw [FileSystem.chdir, none.1]
          rfl
        rw [List.foldlM_cons, localBuildList, fails]
        exact induction none.2 (-1)
  rw [localBuildList, enters]
  cases scanned : scan fs dir lpath rpath (fs.listing dir) ⟨junk lpath, [], filelist⟩ with
  | mk goesOn s =>
      rw [scanned] at same nowhere
      obtain rfl : s.filelist = filelist := same
      cases goesOn with
      | false => exact ⟨-1, by simp only [scanned]⟩
      | true =>
          obtain ⟨ret', folded⟩ := folded s.dirlist nowhere 0 s.filelist
          refine ⟨0, ?_⟩
          simp only [scanned, folded]
          rfl

end Leading

/-! ## Which directories are listed -/

section Listing

variable {fs} {dir cwd : fs.Node} {lpath rpath : List UInt8} {fuel : Nat}

theorem below_of_passedOver {names : List (List UInt8)} {entry : fs.Node}
    (missed : PassedOver fs dir lpath names entry) : Below fs dir names entry := by
  induction missed with
  | here _ below => exact below
  | under member leads isDir _ induction =>
      exact .under (examined_sublist.subset member) (fits_of_mem_examined member).1 leads isDir
        induction

theorem nodup_infoOf : ((walk fs fuel dir lpath).map (infoOf fs lpath rpath)).Nodup := by
  refine .of_map LocalInfo.src ?_
  rw [List.map_map]
  refine List.Nodup.map_on (fun file found file' found' same => ?_) (.of_map _ nodup_walk)
  have names := names_eq (sound_walk found).1 (sound_walk found').1 same
  exact List.inj_on_of_nodup_map nodup_walk found found' names

/-- A list to which nothing is added lacks what is wanted. -/
theorem not_gathers {names : List (List UInt8)} {entry : fs.Node} {filelist : List LocalInfo}
    {built : Option (Built fs)} (same : built.map Built.filelist = some filelist)
    (below : Below fs dir names entry) (wanted : Wanted fs lpath names entry) :
    ¬Gathers fs dir lpath rpath filelist built := by
  rintro ⟨ret, cwd, added, rfl, -, exact⟩
  have none : added = [] := List.append_left_eq_self.mp (Option.some.inj same)
  cases none ▸ (exact _).mpr ⟨names, entry, below, wanted, rfl⟩

theorem gathers_iff_of_walk {cwd' : fs.Node} {ret : Int} {filelist : List LocalInfo}
    (enough : maxPath < fuel) :
    Gathers fs dir lpath rpath filelist
        (some ⟨ret, cwd', (walk fs fuel dir lpath).map (infoOf fs lpath rpath) ++ filelist⟩) ↔
      Harmless fs dir lpath := by
  constructor
  · rintro ⟨_, _, added, same, -, exact⟩ names entry missed wanted
    cases List.append_cancel_right (congrArg Built.filelist (Option.some.inj same))
    obtain ⟨⟨names', entry'⟩, found, info⟩ :=
      List.mem_map.mp ((exact _).mpr ⟨names, entry, below_of_passedOver missed, wanted, rfl⟩)
    obtain ⟨below, -, kept⟩ := sound_walk found
    obtain rfl := names_eq below (below_of_passedOver missed) (congrArg LocalInfo.src info)
    exact kept entry missed
  · intro harmless
    refine ⟨ret, cwd', _, rfl, nodup_infoOf, fun info => ⟨fun member => ?_, ?_⟩⟩
    · obtain ⟨⟨names, entry⟩, found, rfl⟩ := List.mem_map.mp member
      obtain ⟨below, wanted, -⟩ := sound_walk found
      exact ⟨names, entry, below, wanted, rfl⟩
    · rintro ⟨names, entry, below, wanted, rfl⟩
      rcases complete_walk below wanted (Nat.lt_add_right _ enough) with found | missed
      · exact List.mem_map.mpr ⟨_, found, rfl⟩
      · exact absurd wanted (harmless names entry missed)

/-- Nothing is lost in a directory in which nothing is passed over, if nothing is lost in the
directories that are entered from there. -/
theorem harmless_of_subs (none : passed lpath (fs.listing dir) = [])
    (subs : ∀ sub ∈ ofKind fs hasDirBit dir (examined lpath (fs.listing dir)),
      Harmless fs sub.2 (lpath ++ sub.1 ++ [47])) :
    Harmless fs dir lpath := by
  intro names entry missed wanted
  cases missed with
  | here member =>
      rw [none] at member
      cases member
  | @under _ sub _ _ name names member leads isDir missed =>
      have further : names ≠ [] := by
        cases missed with
        | here => exact List.cons_ne_nil _ _
        | under => exact List.cons_ne_nil _ _
      have entered : (name, sub) ∈ ofKind fs hasDirBit dir _ :=
        mem_ofKind.mpr ⟨member, leads, isDir⟩
      exact subs _ entered names entry missed ((wanted_cons further).mpr wanted)

end Listing

/-- If the paths lead where they are meant to lead, as absolute ones do, the regular files of a
directory are listed exactly if nothing that matters is passed over.  If the path leads nowhere from
inside the directory, nothing is listed. -/
theorem gathers_iff (junk : List UInt8 → Stat) {cwd dir : fs.Node} {lpath : List UInt8}
    (rpath : List UInt8) (filelist : List LocalInfo) {fuel : Nat} (enough : maxPath < fuel)
    (slash : lpath.getLast? = some 47) (enters : fs.chdir cwd lpath = some dir) :
    ((fs.start lpath).isSome → Led fs [(lpath, dir)] cwd) ∧
      (Led fs [(lpath, dir)] cwd →
        (Gathers fs dir lpath rpath filelist
            (localBuildList fs junk fuel cwd lpath rpath filelist) ↔
          Harmless fs dir lpath)) ∧
      (fs.resolve dir lpath = none →
        (Gathers fs dir lpath rpath filelist
            (localBuildList fs junk fuel cwd lpath rpath filelist) ↔
          ∀ names entry, Below fs dir names entry → ¬Wanted fs lpath names entry)) := by
  refine ⟨fun absolute => led_of_absolute absolute slash enters, fun led => ?_, fun stuck => ?_⟩
  · obtain ⟨cwd', built, -⟩ :=
      localBuildList_of_led rpath filelist (Nat.zero_lt_of_lt enough)
        (Nat.lt_add_right _ enough) led
    rw [built]
    exact gathers_iff_of_walk enough
  · obtain ⟨fuel, rfl⟩ : ∃ rounds, fuel = rounds + 2 := ⟨fuel - 2, by rw [maxPath] at enough; omega⟩
    obtain ⟨ret, built⟩ := localBuildList_stuck slash enters stuck rpath filelist fuel
    rw [built]
    constructor
    · exact fun gathers names entry below wanted => not_gathers rfl below wanted gathers
    · intro nothing
      refine ⟨ret, dir, [], rfl, List.nodup_nil, fun info => ⟨fun member => ?_, ?_⟩⟩
      · cases member
      · rintro ⟨names, entry, below, wanted, -⟩
        exact absurd wanted (nothing names entry below)

/-! ## A small file system -/

/-- The places of a small file system. -/
inductive Place where
  | root
  | dir
  | sub
  | long
  | file
  deriving DecidableEq

/-- What is in each place. -/
def sampleListing (crowded : Bool) : Place → List (List UInt8)
  | .root => [[46], [46, 46], ascii "abcd"]
  | .dir =>
      if crowded then [[46], [46, 46], List.replicate 255 97, ascii "f"]
      else [[46], [46, 46], ascii "f", ascii "s"]
  | .sub => [[46], [46, 46], ascii "g"]
  | .long | .file => []

/-- Where the names lead. -/
def sampleLookup (crowded : Bool) : Place → List UInt8 → Option Place
  | .root, name =>
      if name = ascii "abcd" then some .dir else if name = [46, 46] then some .root else none
  | .dir, name =>
      if name = ascii "f" then some .file
      else if ¬crowded ∧ name = ascii "s" then some .sub
      else if name = [46, 46] then some .root
      else if crowded ∧ name = List.replicate 255 97 then some .long
      else none
  | .sub, name =>
      if name = ascii "g" then some .file else if name = [46, 46] then some .dir else none
  | .long, _ | .file, _ => none

/-- A file system with the files `/abcd/f` and `/abcd/s/g`; if it is crowded, a file with a long
name comes before the first, and the second is not there. -/
def sample (crowded : Bool) : FileSystem where
  Node := Place
  stat
    | .root | .dir | .sub => ⟨0o040777, 0, 0⟩
    | .long | .file => ⟨0o100666, 3, 5⟩
  listing := sampleListing crowded
  lookup := sampleLookup crowded
  start path := if path.head? = some 47 then some .root else none
  ne_nil
    | .root => fun _ => List.cons_ne_nil _ _
    | .dir => fun _ => by cases crowded <;> exact List.cons_ne_nil _ _
    | .sub => fun _ => List.cons_ne_nil _ _
    | .long | .file => fun isDir => by cases isDir
  nodup
    | .root | .dir | .sub => by revert crowded; decide +kernel
    | .long | .file => List.nodup_nil
  plain
    | .root | .dir | .sub => by revert crowded; decide +kernel
    | .long | .file => fun _ absurdity => by cases absurdity
  found
    | .root | .dir | .sub => by revert crowded; decide +kernel
    | .long | .file => fun _ absurdity => by cases absurdity
  start_append path rest slash _ := by
    obtain ⟨front, rfl⟩ := List.getLast?_eq_some_iff.mp slash
    cases front with
    | nil => rfl
    | cons => rfl

/-- What the code makes of the file system. -/
def sampleBuilt (crowded : Bool) (lpath : List UInt8) : Option (Built (sample crowded)) :=
  localBuildList (sample crowded) (fun _ => ⟨0, 0, 0⟩) 261 .root lpath (ascii "/sdcard/") []

instance (crowded : Bool) : DecidableEq (sample crowded).Node :=
  inferInstanceAs (DecidableEq Place)

theorem below_sample (crowded : Bool) : Below (sample crowded) .dir [ascii "f"] .file := by
  refine .entry ?_ (by decide +kernel) (if_pos rfl)
  revert crowded
  decide +kernel

/-- The file behind a long name is not in the list, and no file is if the path is relative. -/
theorem not_gathers_sample :
    ¬Gathers (sample true) .dir (ascii "/abcd/") (ascii "/sdcard/") []
        (sampleBuilt true (ascii "/abcd/")) ∧
      ¬Gathers (sample false) .dir (ascii "abcd/") (ascii "/sdcard/") []
        (sampleBuilt false (ascii "abcd/")) := by
  constructor
  · refine not_gathers (by decide +kernel) (below_sample true) ⟨by decide, ?_⟩
    decide +kernel
  · refine not_gathers (by decide +kernel) (below_sample false) ⟨by decide, ?_⟩
    decide +kernel

/-- With an absolute path and no long name both files are in the list. -/
theorem gathers_sample :
    Gathers (sample false) .dir (ascii "/abcd/") (ascii "/sdcard/") []
      (sampleBuilt false (ascii "/abcd/")) := by
  obtain ⟨led, listed, -⟩ := gathers_iff (sample false) (fun _ => ⟨0, 0, 0⟩) (ascii "/sdcard/") []
    (by decide : maxPath < 261) (by decide +kernel : (ascii "/abcd/").getLast? = some 47)
    (by decide +kernel : (sample false).chdir .root (ascii "/abcd/") = some .dir)
  have dirs : ofKind (sample false) hasDirBit .dir
      (examined (ascii "/abcd/") ((sample false).listing .dir)) = [(ascii "s", .sub)] := by
    decide +kernel
  have no_dirs : ofKind (sample false) hasDirBit .sub
      (examined (ascii "/abcd/" ++ ascii "s" ++ [47]) ((sample false).listing .sub)) = [] := by
    decide +kernel
  refine (listed (led (by decide +kernel))).mpr (harmless_of_subs (by decide +kernel) ?_)
  rw [dirs]
  intro sub member
  obtain rfl := List.mem_singleton.mp member
  refine harmless_of_subs (by decide +kernel) ?_
  rw [no_dirs]
  exact fun _ member => by cases member

end LocalList
end Sync
end AdbWide
