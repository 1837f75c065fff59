import AdbWide.LinkedQueue

/-!
# Singly linked lists

A list of nodes as C programs write it: a pointer to the first node, and in each node a pointer to
the next.  A node is taken out by way of the pointer that leads to it.  Which nodes are there is
known from outside, and the functions below fail when they read a node that is not there.

The main result is about loops that read the next node before they act on the present one: such a
loop comes to every node although its body may take the present node out of the list.
-/

namespace AdbWide

open LinkedQueue (Chain)

/-- A list of nodes. -/
structure LinkedList where
  /-- The first node. -/
  head : Option Nat
  /-- The `next` link of every node. -/
  next : Nat → Option Nat

namespace LinkedList

/-- The list without nodes. -/
def empty : LinkedList where
  head := none
  next := fun _ => none

/-- These are the nodes of the list. -/
structure Represents (list : LinkedList) (nodes : List Nat) : Prop where
  chain : Chain list.next list.head nodes
  nodup : nodes.Nodup

theorem represents_empty : empty.Represents [] := ⟨rfl, List.nodup_nil⟩

/-! ## A new node -/

/-- `node->next = head; head = node;` -/
def push (list : LinkedList) (node : Nat) : LinkedList where
  head := some node
  next := Function.update list.next node list.head

/-- A new node becomes the first one. -/
theorem Represents.push {list : LinkedList} {nodes : List Nat} (represents : list.Represents nodes)
    {node : Nat} (unused : node ∉ nodes) : (list.push node).Represents (node :: nodes) := by
  constructor
  · constructor
    · rfl
    · have first : (list.push node).next node = list.head := Function.update_self _ _ _
      rw [first]
      apply represents.chain.congr
      intro other member
      have different : other ≠ node := fun same => unused (same ▸ member)
      exact Function.update_of_ne different _ _
  · exact List.nodup_cons.mpr ⟨unused, represents.nodup⟩

/-! ## Taking a node out -/

/-- What a pointer leads to: the head of the list, or the link of a node. -/
def read (list : LinkedList) : Option Nat → Option Nat
  | none => list.head
  | some node => list.next node

/-- Let a pointer lead to another node. -/
def write (list : LinkedList) (pointer target : Option Nat) : LinkedList :=
  match pointer with
  | none => { list with head := target }
  | some node => { list with next := Function.update list.next node target }

/-- Look for the pointer that leads to a node and let it lead to the node behind, from some pointer
on; nothing if a node is read that is not there, or the rounds do not suffice. -/
def unlinkFrom (list : LinkedList) (there : Nat → Bool) (node : Nat) :
    Nat → Option Nat → Option LinkedList
  | 0, _ => none
  | rounds + 1, pointer =>
      match list.read pointer with
      | none => some list
      | some other =>
          if there other then
            if other = node then some (list.write pointer (list.next other))
            else list.unlinkFrom there node rounds (some other)
          else none

@[simp] theorem read_write (list : LinkedList) (pointer target : Option Nat) :
    (list.write pointer target).read pointer = target := by
  cases pointer with
  | none => rfl
  | some node => exact Function.update_self _ _ _

theorem next_write {list : LinkedList} {pointer : Option Nat} {node : Nat}
    (other : pointer ≠ some node) (target : Option Nat) :
    (list.write pointer target).next node = list.next node := by
  cases pointer with
  | none => rfl
  | some link => exact Function.update_of_ne (fun same => other (congrArg some same.symm)) _ _

/-- The loop changes no pointer in front of the one it starts from. -/
structure Unlinked (list list' : LinkedList) (pointer : Option Nat) (nodes : List Nat) : Prop where
  head : pointer ≠ none → list'.head = list.head
  next : ∀ other, other ∉ nodes → pointer ≠ some other → list'.next other = list.next other

theorem unlinkFrom_eq {list : LinkedList} {there : Nat → Bool} (node : Nat) {rounds : Nat}
    {pointer : Option Nat} {nodes : List Nat} (chain : Chain list.next (list.read pointer) nodes)
    (nodup : nodes.Nodup) (outside : ∀ link ∈ pointer, link ∉ nodes)
    (allocated : ∀ other ∈ nodes, there other = true) (enough : nodes.length < rounds) :
    ∃ list', list.unlinkFrom there node rounds pointer = some list' ∧
      Chain list'.next (list'.read pointer) (nodes.erase node) ∧
      Unlinked list list' pointer nodes := by
  induction nodes generalizing pointer rounds with
  | nil =>
      obtain ⟨rounds, rfl⟩ : ∃ more, rounds = more + 1 := ⟨rounds - 1, by omega⟩
      refine ⟨list, ?_, chain, fun _ => rfl, fun _ _ _ => rfl⟩
      rw [unlinkFrom, chain.start_eq]
      rfl
  | cons other nodes induction =>
      obtain ⟨rounds, rfl⟩ : ∃ more, rounds = more + 1 := ⟨rounds - 1, by omega⟩
      rw [List.forall_mem_cons] at allocated
      rw [List.nodup_cons] at nodup
      rw [List.length_cons] at enough
      rw [unlinkFrom, chain.1]
      dsimp only
      rw [if_pos allocated.1]
      split
      · next found =>
          refine ⟨_, rfl, ?_, ?_, ?_⟩
          · rw [found, List.erase_cons_head, read_write, ← found]
            apply chain.2.congr
            intro inside member
            apply next_write
            rintro rfl
            exact outside inside rfl (List.mem_cons_of_mem _ member)
          · intro linked
            obtain ⟨link, rfl⟩ := Option.ne_none_iff_exists'.mp linked
            rfl
          · exact fun inside _ different => next_write different _
      · next different =>
          have outside' : ∀ link ∈ some other, link ∉ nodes := by
            rintro link ⟨⟩
            exact nodup.1
          have behind : Chain list.next (list.read (some other)) nodes := chain.2
          obtain ⟨list', unlinked, chain', head, next⟩ :=
            induction behind nodup.2 outside' allocated.2 (by omega : nodes.length < rounds)
          have same : list'.read pointer = list.read pointer := by
            cases pointer with
            | none => exact head (by simp)
            | some link =>
                have apart := outside link rfl
                rw [List.mem_cons, not_or] at apart
                exact next link apart.2 (fun equal => apart.1 (Option.some.inj equal).symm)
          refine ⟨list', unlinked, ?_, ?_, ?_⟩
          · rw [List.erase_cons_tail (by simpa using different), same, chain.1]
            exact ⟨rfl, chain'⟩
          · exact fun _ => head (by simp)
          · intro inside apart _
            rw [List.mem_cons, not_or] at apart
            exact next inside apart.2 (fun equal => apart.1 (Option.some.inj equal).symm)

/-- Take a node out of the list. -/
def unlink (list : LinkedList) (there : Nat → Bool) (rounds node : Nat) : Option LinkedList :=
  list.unlinkFrom there node rounds none

/-- A node is taken out, and the others stay in their order. -/
theorem Represents.unlink {list : LinkedList} {nodes : List Nat}
    (represents : list.Represents nodes) {there : Nat → Bool}
    (allocated : ∀ other ∈ nodes, there other = true) {rounds : Nat}
    (enough : nodes.length < rounds) (node : Nat) :
    ∃ list', list.unlink there rounds node = some list' ∧ list'.Represents (nodes.erase node) := by
  have outside : ∀ link ∈ (none : Option Nat), link ∉ nodes := by
    rintro link ⟨⟩
  obtain ⟨list', unlinked, chain, -⟩ :=
    unlinkFrom_eq node represents.chain represents.nodup outside allocated enough
  exact ⟨list', unlinked, chain, represents.nodup.erase node⟩

/-! ## Walking along a list -/

section Walk

variable {State : Type*} (links : State → LinkedList) (there : State → Nat → Bool)
  (act : Nat → State → Option State)

/-- Act on one node after the other.  The link of a node is read before it is acted on. -/
def walk : Nat → Option Nat → State → Option State
  | _, none, state => some state
  | 0, some _, _ => none
  | rounds + 1, some node, state =>
      if there state node then
        (act node state).bind (walk rounds ((links state).next node))
      else none

variable {links there act}

/-- A loop comes to every node, if what it does to a node keeps the nodes behind it. -/
theorem walk_eq {Good : List Nat → List Nat → State → Prop}
    (linked : ∀ {before rest state}, Good before rest state →
      (links state).Represents (before ++ rest))
    (acts : ∀ {before node rest state}, Good before (node :: rest) state →
      there state node = true ∧
        ∃ before' state', act node state = some state' ∧ Good before' rest state')
    {before rest : List Nat} {state : State} (good : Good before rest state) {rounds : Nat}
    (enough : rest.length ≤ rounds) :
    ∃ before' state', walk links there act rounds rest.head? state = some state' ∧
      Good before' [] state' := by
  induction rest generalizing before state rounds with
  | nil =>
      refine ⟨before, state, ?_, good⟩
      cases rounds with
      | zero => rfl
      | succ rounds => rfl
  | cons node rest induction =>
      rw [List.length_cons] at enough
      obtain ⟨rounds, rfl⟩ : ∃ more, rounds = more + 1 := ⟨rounds - 1, by omega⟩
      obtain ⟨alive, before', state', acted, good'⟩ := acts good
      obtain ⟨final, last, walked, finished⟩ := induction good' (by omega : rest.length ≤ rounds)
      refine ⟨final, last, ?_, finished⟩
      have next : (links state).next node = rest.head? := (linked good).chain.next_eq
      rw [List.head?_cons, walk, if_pos alive, acted, Option.bind_some, next, walked]

end Walk

end LinkedList
end AdbWide
