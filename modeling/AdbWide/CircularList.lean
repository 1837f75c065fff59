import Mathlib.Data.List.Nodup
import Mathlib.Logic.Function.Basic

/-!
# Circular doubly linked lists

Intrusive lists as C programs write them: every node has a `next` and a `prev` link, a list is the
ring through a head node, and nodes are put in and taken out by assigning to the links of their
neighbours.  A node that has been taken out keeps its own two links.
-/

namespace AdbWide

/-- The two links of every node. -/
structure Links (ν : Type*) where
  /-- The link forward. -/
  next : ν → ν
  /-- The link back. -/
  prev : ν → ν

namespace Links

variable {ν : Type*}

/-- The links lead from `first` through `nodes` to `last`, and back. -/
def Path (links : Links ν) : ν → List ν → ν → Prop
  | first, [], last => links.next first = last ∧ links.prev last = first
  | first, node :: nodes, last =>
      links.next first = node ∧ links.prev node = first ∧ links.Path node nodes last

/-- The ring through `head` is well formed and has exactly the given members, in order and each
once. -/
structure Ring (links : Links ν) (head : ν) (members : List ν) : Prop where
  path : links.Path head members head
  nodup : (head :: members).Nodup

theorem Path.congr {links links' : Links ν} {first last : ν} {nodes : List ν}
    (path : links.Path first nodes last)
    (next_eq : ∀ node ∈ first :: nodes, links'.next node = links.next node)
    (prev_eq : ∀ node, node ∈ nodes ∨ node = last → links'.prev node = links.prev node) :
    links'.Path first nodes last := by
  induction nodes generalizing first with
  | nil =>
      obtain ⟨next_first, prev_last⟩ := path
      refine ⟨?_, ?_⟩
      · rw [next_eq first (by simp), next_first]
      · rw [prev_eq last (.inr rfl), prev_last]
  | cons node nodes induction =>
      obtain ⟨next_first, prev_node, path⟩ := path
      refine ⟨?_, ?_, induction path ?_ ?_⟩
      · rw [next_eq first (by simp), next_first]
      · rw [prev_eq node (by simp), prev_node]
      · intro other member
        exact next_eq other (List.mem_cons_of_mem _ member)
      · intro other member
        exact prev_eq other (member.imp_left (List.mem_cons_of_mem _))

/-- A ring depends on the links of its own nodes alone. -/
theorem Ring.congr {links links' : Links ν} {head : ν} {members : List ν}
    (ring : links.Ring head members)
    (same : ∀ node ∈ head :: members,
      links'.next node = links.next node ∧ links'.prev node = links.prev node) :
    links'.Ring head members := by
  refine ⟨ring.path.congr (fun node member => (same node member).1) ?_, ring.nodup⟩
  intro node member
  refine (same node ?_).2
  rcases member with inside | rfl
  · exact List.mem_cons_of_mem _ inside
  · exact List.mem_cons_self

theorem Path.prev_last {links : Links ν} {first last : ν} {nodes : List ν}
    (path : links.Path first nodes last) : links.prev last ∈ first :: nodes := by
  induction nodes generalizing first with
  | nil => simp [path.2]
  | cons node nodes induction => exact List.mem_cons_of_mem _ (induction path.2.2)

theorem Path.next_first {links : Links ν} {first last : ν} {nodes : List ν}
    (path : links.Path first nodes last) :
    links.next first ∈ nodes ∨ links.next first = last := by
  cases nodes with
  | nil => exact .inr path.1
  | cons node nodes => exact .inl (by simp [path.1])

/-- The first step of a path leads to its first node, or to its end. -/
theorem Path.next_eq {links : Links ν} {first last : ν} {nodes : List ν}
    (path : links.Path first nodes last) : links.next first = nodes.headD last := by
  cases nodes with
  | nil => exact path.1
  | cons node nodes => exact path.1

/-- The links lead along one path only to a node that is not on the way. -/
theorem Path.unique {links : Links ν} {first last : ν} {nodes nodes' : List ν}
    (path : links.Path first nodes last) (path' : links.Path first nodes' last)
    (absent : last ∉ nodes) (absent' : last ∉ nodes') : nodes = nodes' := by
  induction nodes generalizing first nodes' with
  | nil =>
      cases nodes' with
      | nil => rfl
      | cons node' nodes' =>
          obtain rfl := path'.1.symm.trans path.1
          exact absurd List.mem_cons_self absent'
  | cons node nodes induction =>
      cases nodes' with
      | nil =>
          obtain rfl := path.1.symm.trans path'.1
          exact absurd List.mem_cons_self absent
      | cons node' nodes' =>
          obtain rfl := path.1.symm.trans path'.1
          exact congrArg (node :: ·) (induction path.2.2 path'.2.2
            (List.not_mem_of_not_mem_cons absent) (List.not_mem_of_not_mem_cons absent'))

/-- A path splits at each of its nodes. -/
theorem Path.split {links : Links ν} {first node last : ν} {front back : List ν}
    (path : links.Path first (front ++ node :: back) last) :
    links.Path first front node ∧ links.Path node back last := by
  induction front generalizing first with
  | nil => exact ⟨⟨path.1, path.2.1⟩, path.2.2⟩
  | cons other front induction =>
      obtain ⟨next_first, prev_other, path⟩ := path
      obtain ⟨before, after⟩ := induction path
      exact ⟨⟨next_first, prev_other, before⟩, after⟩

/-- Both neighbours of a member are on the ring. -/
theorem Ring.neighbours {links : Links ν} {head node : ν} {members : List ν}
    (ring : links.Ring head members) (member : node ∈ members) :
    links.next node ∈ head :: members ∧ links.prev node ∈ head :: members := by
  obtain ⟨front, back, rfl⟩ := List.append_of_mem member
  obtain ⟨before, after⟩ := ring.path.split
  constructor
  · rcases after.next_first with inside | next_eq
    · simp [inside]
    · simp [next_eq]
  · have prev_mem := before.prev_last
    simp only [List.mem_cons] at prev_mem
    rcases prev_mem with prev_eq | inside
    · simp [prev_eq]
    · simp [inside]

theorem Ring.next_ne {links : Links ν} {head node : ν} {members : List ν}
    (ring : links.Ring head members) (member : node ∈ members) : links.next node ≠ node := by
  obtain ⟨front, back, rfl⟩ := List.append_of_mem member
  have nodup := ring.nodup
  simp only [List.nodup_cons, List.nodup_append, List.mem_append, List.mem_cons, not_or] at nodup
  intro equal
  rcases ring.path.split.2.next_first with inside | next_eq
  · exact nodup.2.2.1.1 (equal ▸ inside)
  · exact nodup.1.2.1 (next_eq.symm.trans equal)

theorem Ring.next_head {links : Links ν} {head : ν} {members : List ν}
    (ring : links.Ring head members) : links.next head ∈ head :: members := by
  rcases ring.path.next_first with inside | next_eq
  · simp [inside]
  · simp [next_eq]

/-- The first node of a ring leads back to the head. -/
theorem Ring.prev_next_head {links : Links ν} {head : ν} {members : List ν}
    (ring : links.Ring head members) : links.prev (links.next head) = head := by
  cases members with
  | nil => rw [ring.path.1, ring.path.2]
  | cons node members => rw [ring.path.1, ring.path.2.1]

/-- The head of a ring without members is its own neighbour. -/
theorem ring_nil_iff {links : Links ν} {head : ν} :
    links.Ring head [] ↔ links.next head = head ∧ links.prev head = head :=
  ⟨fun ring => ring.path, fun path => ⟨path, by simp⟩⟩

section Operations

variable [DecidableEq ν]

/-- `node->next->prev = node->prev; node->prev->next = node->next;` -/
def unlink (links : Links ν) (node : ν) : Links ν :=
  let prev := Function.update links.prev (links.next node) (links.prev node)
  { prev, next := Function.update links.next (prev node) (links.next node) }

/-- `node->next = head; node->prev = head->prev; node->next->prev = node;
node->prev->next = node;` -/
def insertLast (links : Links ν) (head node : ν) : Links ν :=
  let next := Function.update links.next node head
  let prev := Function.update links.prev node (links.prev head)
  let prev := Function.update prev (next node) node
  { prev, next := Function.update next (prev node) node }

/-- `unlink`, and then `node->next = node->prev = node;` -/
def detach (links : Links ν) (node : ν) : Links ν :=
  let links := links.unlink node
  { next := Function.update links.next node node, prev := Function.update links.prev node node }

/-- `for (n = node; n != head; n = n->next) if (wanted(n)) break;` with the node it stops at, or
`none` inside when it gets round to the head.  The walk of a list that does not lead back to its
head does not end. -/
def search (links : Links ν) (head : ν) (wanted : ν → Bool) : Nat → ν → Option (Option ν)
  | 0, _ => none
  | fuel + 1, node =>
      if node = head then some none
      else if wanted node then some (some node)
      else links.search head wanted fuel (links.next node)

/-- The nodes the walk of `search` looks at. -/
inductive Walked (links : Links ν) (head : ν) (wanted : ν → Bool) : ν → Prop where
  | first : links.next head ≠ head → links.Walked head wanted (links.next head)
  | next {node : ν} : links.Walked head wanted node → wanted node = false →
      links.next node ≠ head → links.Walked head wanted (links.next node)

theorem unlink_prev (links : Links ν) (node : ν) :
    (links.unlink node).prev =
      Function.update links.prev (links.next node) (links.prev node) :=
  rfl

theorem unlink_next (links : Links ν) (node : ν) :
    (links.unlink node).next =
      Function.update links.next (links.prev node) (links.next node) := by
  have unchanged :
      Function.update links.prev (links.next node) (links.prev node) node = links.prev node := by
    rcases eq_or_ne node (links.next node) with same | different
    · rw [← same]
      simp
    · simp [different]
  simp only [unlink, unchanged]

theorem unlink_next_of_ne {links : Links ν} {node other : ν} (different : other ≠ links.prev node) :
    (links.unlink node).next other = links.next other := by
  simp [unlink_next, different]

theorem unlink_prev_of_ne {links : Links ν} {node other : ν} (different : other ≠ links.next node) :
    (links.unlink node).prev other = links.prev other := by
  simp [unlink_prev, different]

/-- Taking out a node closes the path over it. -/
theorem Path.unlink {links : Links ν} {first node last : ν} {front back : List ν}
    (path : links.Path first (front ++ node :: back) last)
    (nodup : (first :: (front ++ node :: back)).Nodup) (outside : last ∉ front ++ node :: back) :
    (links.unlink node).Path first (front ++ back) last := by
  induction front generalizing first with
  | nil =>
      obtain ⟨next_first, prev_node, path⟩ := path
      simp only [List.nil_append, List.nodup_cons, List.mem_cons, not_or] at nodup outside
      cases back with
      | nil =>
          obtain ⟨next_node, prev_last⟩ := path
          refine ⟨?_, ?_⟩
          · simp [unlink_next, prev_node, next_node]
          · simp [unlink_prev, prev_node, next_node]
      | cons second back =>
          obtain ⟨next_node, prev_second, path⟩ := path
          simp only [List.nodup_cons, List.mem_cons, not_or] at nodup outside
          refine ⟨?_, ?_, path.congr ?_ ?_⟩
          · simp [unlink_next, prev_node, next_node]
          · simp [unlink_prev, prev_node, next_node]
          · intro other member
            apply unlink_next_of_ne
            rintro rfl
            rw [prev_node] at member
            rcases List.mem_cons.mp member with equal | inside
            · exact nodup.1.2.1 equal
            · exact nodup.1.2.2 inside
          · intro other member
            apply unlink_prev_of_ne
            rintro rfl
            rw [next_node] at member
            rcases member with inside | equal
            · exact nodup.2.2.1 inside
            · exact outside.2.1 equal.symm
  | cons second front induction =>
      obtain ⟨next_first, prev_second, path⟩ := path
      obtain ⟨before, after⟩ := path.split
      have nodup' := (List.nodup_cons.mp nodup).2
      refine ⟨?_, ?_, induction path nodup' fun member => outside (by simp_all)⟩
      · rw [unlink_next_of_ne, next_first]
        intro equal
        have inside := before.prev_last
        rw [← equal] at inside
        exact (List.nodup_cons.mp nodup).1 (by simp at inside ⊢; tauto)
      · rw [unlink_prev_of_ne, prev_second]
        intro equal
        rcases after.next_first with inside | next_eq
        · rw [← equal] at inside
          exact (List.nodup_cons.mp nodup').1 (by simp [inside])
        · exact outside (by simp [← next_eq, ← equal])

/-- Taking a member out of a ring leaves a well-formed ring of the others. -/
theorem Ring.unlink {links : Links ν} {head node : ν} {members : List ν}
    (ring : links.Ring head members) (member : node ∈ members) :
    (links.unlink node).Ring head (members.erase node) := by
  obtain ⟨front, back, fresh, rfl, erase_eq⟩ := List.exists_erase_eq member
  rw [erase_eq]
  have outside : head ∉ front ++ node :: back := (List.nodup_cons.mp ring.nodup).1
  constructor
  · exact ring.path.unlink ring.nodup outside
  · have fewer := ((List.sublist_cons_self node back).append_left front).cons_cons head
    exact List.Nodup.sublist fewer ring.nodup

/-- Taking out a node whose neighbours on a ring, if any, are already linked over it changes
nothing on that ring. -/
theorem Ring.unlink_apart {links : Links ν} {head node : ν} {members : List ν}
    (ring : links.Ring head members)
    (next_apart : links.next node ∈ head :: members →
      links.prev (links.next node) = links.prev node)
    (prev_apart : links.prev node ∈ head :: members →
      links.next (links.prev node) = links.next node) :
    (links.unlink node).Ring head members := by
  refine ring.congr fun other on_ring => ⟨?_, ?_⟩
  · rcases eq_or_ne other (links.prev node) with rfl | different
    · simp [unlink_next, prev_apart on_ring]
    · exact unlink_next_of_ne different
  · rcases eq_or_ne other (links.next node) with rfl | different
    · simp [unlink_prev, next_apart on_ring]
    · exact unlink_prev_of_ne different

/-- Taking a member out and leaving it alone does to the ring what taking it out does. -/
theorem Ring.detach {links : Links ν} {head node : ν} {members : List ν}
    (ring : links.Ring head members) (member : node ∈ members) :
    (links.detach node).Ring head (members.erase node) := by
  have different : head ≠ node := fun equal =>
    (List.nodup_cons.mp ring.nodup).1 (equal ▸ member)
  refine (ring.unlink member).congr fun other on_ring => ?_
  have outside : other ≠ node := by
    rintro rfl
    rcases List.mem_cons.mp on_ring with equal | inside
    · exact different equal.symm
    · exact (List.nodup_cons.mp ring.nodup).2.not_mem_erase inside
  simp [Links.detach, outside]

/-- Taking a member out of one ring leaves another alone. -/
theorem Ring.detach_apart {links : Links ν} {head head' node : ν} {members members' : List ν}
    (ring : links.Ring head members) (ring' : links.Ring head' members') (member : node ∈ members')
    (apart : ∀ other ∈ head' :: members', other ∉ head :: members) :
    (links.detach node).Ring head members := by
  obtain ⟨next_on, prev_on⟩ := ring'.neighbours member
  refine ring.congr fun other on_ring => ?_
  have not_node : other ≠ node := fun equal =>
    apart node (List.mem_cons_of_mem _ member) (equal ▸ on_ring)
  have not_next : other ≠ links.next node := fun equal => apart _ next_on (equal ▸ on_ring)
  have not_prev : other ≠ links.prev node := fun equal => apart _ prev_on (equal ▸ on_ring)
  constructor
  · simp [Links.detach, not_node, unlink_next_of_ne not_prev]
  · simp [Links.detach, not_node, unlink_prev_of_ne not_next]

theorem insertLast_next {links : Links ν} {head node : ν} (different : node ≠ head) :
    (links.insertLast head node).next =
      Function.update (Function.update links.next node head) (links.prev head) node := by
  simp [insertLast, different]

theorem insertLast_prev {links : Links ν} {head node : ν} :
    (links.insertLast head node).prev =
      Function.update (Function.update links.prev node (links.prev head)) head node := by
  simp [insertLast]

/-- A node put in before the head extends the path that ends there. -/
theorem Path.insertLast {links : Links ν} {first head node : ν} {nodes : List ν}
    (path : links.Path first nodes head) (nodup : (first :: nodes).Nodup)
    (outside : head ∉ nodes) (fresh : node ∉ first :: nodes) (different : node ≠ head) :
    (links.insertLast head node).Path first (nodes ++ [node]) head := by
  induction nodes generalizing first with
  | nil =>
      obtain ⟨next_first, prev_head⟩ := path
      have fresh' : node ≠ first := by simpa using fresh
      refine ⟨?_, ?_, ?_, ?_⟩
      · simp [insertLast_next different, prev_head]
      · simp [insertLast_prev, different, prev_head]
      · simp [insertLast_next different, prev_head, fresh']
      · simp [insertLast_prev]
  | cons second nodes induction =>
      obtain ⟨next_first, prev_second, path⟩ := path
      obtain ⟨first_fresh, nodup'⟩ := List.nodup_cons.mp nodup
      simp only [List.mem_cons, not_or] at outside fresh
      refine ⟨?_, ?_, induction path nodup' outside.2 (by simp [fresh])⟩
      · have not_last : first ≠ links.prev head := by
          rintro rfl
          exact first_fresh path.prev_last
        simp [insertLast_next different, not_last, Ne.symm fresh.1, next_first]
      · simp [insertLast_prev, Ne.symm outside.1, Ne.symm fresh.2.1, prev_second]

/-- A new node put in before the head becomes the last member of the ring. -/
theorem Ring.insertLast {links : Links ν} {head node : ν} {members : List ν}
    (ring : links.Ring head members) (fresh : node ∉ head :: members) :
    (links.insertLast head node).Ring head (members ++ [node]) := by
  have outside : head ∉ members := (List.nodup_cons.mp ring.nodup).1
  have different : node ≠ head := fun equal => fresh (by simp [equal])
  constructor
  · exact ring.path.insertLast ring.nodup outside fresh different
  · rw [← List.cons_append, List.nodup_append]
    refine ⟨ring.nodup, by simp, ?_⟩
    intro left left_mem right right_mem equal
    rw [List.mem_singleton] at right_mem
    exact fresh (right_mem ▸ equal ▸ left_mem)

/-- Putting a node into one ring leaves another alone. -/
theorem Ring.insertLast_apart {links : Links ν} {head head' node : ν} {members members' : List ν}
    (ring : links.Ring head members) (ring' : links.Ring head' members')
    (fresh : node ∉ head :: members) (different : node ≠ head')
    (apart : ∀ other ∈ head' :: members', other ∉ head :: members) :
    (links.insertLast head' node).Ring head members := by
  have last_apart : links.prev head' ∉ head :: members := apart _ ring'.path.prev_last
  have head_apart : head' ∉ head :: members := apart _ (by simp)
  refine ring.congr fun other on_ring => ?_
  have not_node : other ≠ node := fun equal => fresh (equal ▸ on_ring)
  have not_last : other ≠ links.prev head' := fun equal => last_apart (equal ▸ on_ring)
  have not_head : other ≠ head' := fun equal => head_apart (equal ▸ on_ring)
  constructor
  · simp [insertLast_next different, not_node, not_last]
  · simp [insertLast_prev, not_node, not_head]

/-- A walk of a well-formed ring that ends finds the first wanted member. -/
theorem Path.search_eq {links : Links ν} {first head : ν} {nodes : List ν} {wanted : ν → Bool}
    {fuel : Nat} {found : Option ν} (path : links.Path first nodes head) (outside : head ∉ nodes)
    (searched : links.search head wanted fuel (links.next first) = some found) :
    found = nodes.find? wanted := by
  induction nodes generalizing first fuel with
  | nil =>
      cases fuel with
      | zero => simp [search] at searched
      | succ fuel => simpa [search, path.1] using searched.symm
  | cons node nodes induction =>
      obtain ⟨next_first, prev_node, path⟩ := path
      simp only [List.mem_cons, not_or] at outside
      cases fuel with
      | zero => simp [search] at searched
      | succ fuel =>
          rw [search, next_first, if_neg (Ne.symm outside.1)] at searched
          rw [List.find?_cons]
          split at searched
          case isTrue hit => simpa [hit] using searched.symm
          case isFalse miss =>
              simp only [Bool.not_eq_true] at miss
              rw [miss]
              exact induction path outside.2 searched

theorem Ring.search_eq {links : Links ν} {head : ν} {members : List ν} {wanted : ν → Bool}
    {fuel : Nat} {found : Option ν} (ring : links.Ring head members)
    (searched : links.search head wanted fuel (links.next head) = some found) :
    found = members.find? wanted :=
  ring.path.search_eq (List.nodup_cons.mp ring.nodup).1 searched

/-- A walk with enough fuel ends at the first wanted member, or at the head. -/
theorem Path.search_find {links : Links ν} {first head : ν} {nodes : List ν} {wanted : ν → Bool}
    {fuel : Nat} (path : links.Path first nodes head) (outside : head ∉ nodes)
    (enough : nodes.length < fuel) :
    links.search head wanted fuel (links.next first) = some (nodes.find? wanted) := by
  induction nodes generalizing first fuel with
  | nil =>
      obtain ⟨fuel, rfl⟩ := Nat.exists_eq_add_of_le' enough
      simp [search, path.1]
  | cons node nodes induction =>
      obtain ⟨next_first, prev_node, path⟩ := path
      simp only [List.mem_cons, not_or] at outside
      obtain ⟨fuel, rfl⟩ := Nat.exists_eq_add_of_le' (Nat.lt_of_le_of_lt (Nat.zero_le _) enough)
      rw [search, next_first, if_neg (Ne.symm outside.1), List.find?_cons]
      split
      case isTrue hit => rw [hit]
      case isFalse miss =>
          simp only [Bool.not_eq_true] at miss
          rw [miss]
          exact induction path outside.2 (by simpa using enough)

theorem Ring.search_find {links : Links ν} {head : ν} {members : List ν} {wanted : ν → Bool}
    {fuel : Nat} (ring : links.Ring head members) (enough : members.length < fuel) :
    links.search head wanted fuel (links.next head) = some (members.find? wanted) :=
  ring.path.search_find (List.nodup_cons.mp ring.nodup).1 enough

/-- The ring through `head` is well formed and its members are exactly the nodes with the given
property, each once. -/
def Collects (links : Links ν) (head : ν) (property : ν → Prop) : Prop :=
  ∃ members, links.Ring head members ∧ ∀ node, node ∈ members ↔ property node

namespace Collects

variable {links : Links ν} {head head' node : ν} {property property' : ν → Prop}

omit [DecidableEq ν] in
theorem congr (collects : links.Collects head property)
    (same : ∀ node, property' node ↔ property node) : links.Collects head property' := by
  obtain ⟨members, ring, mem_iff⟩ := collects
  exact ⟨members, ring, fun node => (mem_iff node).trans (same node).symm⟩

omit [DecidableEq ν] in
/-- The links of other nodes do not matter. -/
theorem congr_links {links' : Links ν} (collects : links.Collects head property)
    (same : ∀ node, node = head ∨ property node →
      links'.next node = links.next node ∧ links'.prev node = links.prev node) :
    links'.Collects head property := by
  obtain ⟨members, ring, mem_iff⟩ := collects
  refine ⟨members, ring.congr fun node on_ring => same node ?_, mem_iff⟩
  rwa [List.mem_cons, mem_iff] at on_ring

omit [DecidableEq ν] in
theorem neighbours (collects : links.Collects head property) (holds : property node) :
    (links.next node = head ∨ property (links.next node)) ∧
      (links.prev node = head ∨ property (links.prev node)) := by
  obtain ⟨members, ring, mem_iff⟩ := collects
  simpa [mem_iff] using ring.neighbours ((mem_iff node).mpr holds)

omit [DecidableEq ν] in
theorem next_ne (collects : links.Collects head property) (holds : property node) :
    links.next node ≠ node := by
  obtain ⟨members, ring, mem_iff⟩ := collects
  exact ring.next_ne ((mem_iff node).mpr holds)

omit [DecidableEq ν] in
theorem next_head (collects : links.Collects head property) :
    links.next head = head ∨ property (links.next head) := by
  obtain ⟨members, ring, mem_iff⟩ := collects
  simpa [mem_iff] using ring.next_head

omit [DecidableEq ν] in
theorem prev_next_head (collects : links.Collects head property) :
    links.prev (links.next head) = head := by
  obtain ⟨members, ring, -⟩ := collects
  exact ring.prev_next_head

omit [DecidableEq ν] in
theorem prev_head (collects : links.Collects head property) :
    links.prev head = head ∨ property (links.prev head) := by
  obtain ⟨members, ring, mem_iff⟩ := collects
  simpa [mem_iff] using ring.path.prev_last

omit [DecidableEq ν] in
/-- The links say what is collected. -/
theorem unique (collects : links.Collects head property)
    (collects' : links.Collects head property') (node : ν) : property node ↔ property' node := by
  obtain ⟨members, ring, mem_iff⟩ := collects
  obtain ⟨members', ring', mem_iff'⟩ := collects'
  have same : members = members' := ring.path.unique ring'.path
    (List.nodup_cons.mp ring.nodup).1 (List.nodup_cons.mp ring'.nodup).1
  rw [← mem_iff, ← mem_iff', same]

theorem unlink (collects : links.Collects head property) (holds : property node)
    (others : ∀ other, property' other ↔ other ≠ node ∧ property other) :
    (links.unlink node).Collects head property' := by
  obtain ⟨members, ring, mem_iff⟩ := collects
  refine ⟨members.erase node, ring.unlink ((mem_iff node).mpr holds), fun other => ?_⟩
  rw [(List.nodup_cons.mp ring.nodup).2.mem_erase_iff, mem_iff, others]

theorem detach (collects : links.Collects head property) (holds : property node)
    (others : ∀ other, property' other ↔ other ≠ node ∧ property other) :
    (links.detach node).Collects head property' := by
  obtain ⟨members, ring, mem_iff⟩ := collects
  refine ⟨members.erase node, ring.detach ((mem_iff node).mpr holds), fun other => ?_⟩
  rw [(List.nodup_cons.mp ring.nodup).2.mem_erase_iff, mem_iff, others]

omit [DecidableEq ν] in
/-- Two rings have no node in common if they have neither head nor members in common. -/
theorem not_shared {members members' : List ν} (mem_iff : ∀ node, node ∈ members ↔ property node)
    (mem_iff' : ∀ node, node ∈ members' ↔ property' node) (heads : head' ≠ head)
    (head_apart : ¬property head') (head_apart' : ¬property' head)
    (apart : ∀ other, property' other → ¬property other) :
    ∀ other ∈ head' :: members', other ∉ head :: members := by
  intro other member
  rw [List.mem_cons, mem_iff'] at member
  rw [List.mem_cons, mem_iff, not_or]
  rcases member with rfl | holds
  · exact ⟨heads, head_apart⟩
  · exact ⟨fun equal => head_apart' (equal ▸ holds), apart other holds⟩

theorem detach_apart (collects : links.Collects head property)
    (collects' : links.Collects head' property') (holds : property' node) (heads : head' ≠ head)
    (head_apart : ¬property head') (head_apart' : ¬property' head)
    (apart : ∀ other, property' other → ¬property other) :
    (links.detach node).Collects head property := by
  obtain ⟨members, ring, mem_iff⟩ := collects
  obtain ⟨members', ring', mem_iff'⟩ := collects'
  exact ⟨members, ring.detach_apart ring' ((mem_iff' node).mpr holds)
    (not_shared mem_iff mem_iff' heads head_apart head_apart' apart), mem_iff⟩

theorem unlink_apart (collects : links.Collects head property)
    (next_apart : links.next node = head ∨ property (links.next node) →
      links.prev (links.next node) = links.prev node)
    (prev_apart : links.prev node = head ∨ property (links.prev node) →
      links.next (links.prev node) = links.next node) :
    (links.unlink node).Collects head property := by
  obtain ⟨members, ring, mem_iff⟩ := collects
  refine ⟨members, ring.unlink_apart ?_ ?_, mem_iff⟩
  · simpa [mem_iff] using next_apart
  · simpa [mem_iff] using prev_apart

theorem insertLast (collects : links.Collects head property) (fresh : ¬property node)
    (different : node ≠ head) (also : ∀ other, property' other ↔ property other ∨ other = node) :
    (links.insertLast head node).Collects head property' := by
  obtain ⟨members, ring, mem_iff⟩ := collects
  refine ⟨members ++ [node], ring.insertLast ?_, fun other => ?_⟩
  · simp [different, mem_iff, fresh]
  · rw [also, List.mem_append, mem_iff, List.mem_singleton]

theorem insertLast_apart (collects : links.Collects head property)
    (collects' : links.Collects head' property') (fresh : ¬property node)
    (different : node ≠ head) (different' : node ≠ head') (heads : head' ≠ head)
    (head_apart : ¬property head') (head_apart' : ¬property' head)
    (apart : ∀ other, property' other → ¬property other) :
    (links.insertLast head' node).Collects head property := by
  obtain ⟨members, ring, mem_iff⟩ := collects
  obtain ⟨members', ring', mem_iff'⟩ := collects'
  refine ⟨members, ring.insertLast_apart ring' ?_ different' ?_, mem_iff⟩
  · simp [different, mem_iff, fresh]
  · exact not_shared mem_iff mem_iff' heads head_apart head_apart' apart

theorem search_mem {wanted : ν → Bool} {fuel : Nat} {found : ν}
    (collects : links.Collects head property)
    (searched : links.search head wanted fuel (links.next head) = some (some found)) :
    property found := by
  obtain ⟨members, ring, mem_iff⟩ := collects
  have found_eq := ring.search_eq searched
  exact (mem_iff found).mp (List.mem_of_find?_eq_some found_eq.symm)

omit [DecidableEq ν] in
/-- A walk looks at what is collected and at nothing else. -/
theorem walked_mem {wanted : ν → Bool} (collects : links.Collects head property)
    (walked : links.Walked head wanted node) : property node := by
  induction walked with
  | first inside => exact collects.next_head.resolve_left inside
  | next _ _ inside induction => exact (collects.neighbours induction).1.resolve_left inside

end Collects

end Operations

end Links
end AdbWide
