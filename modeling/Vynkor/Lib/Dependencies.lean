import Mathlib.Data.Fintype.Pigeonhole
import Mathlib.Data.List.Induction
import Mathlib.Data.Set.Finite.Basic
import Mathlib.Logic.Relation

/-! What needs what. A node either has a place in an order in which everything it needs comes
first, or a cycle can be reached from it; in a finite set where every node needs another one of
the set, the second is the case for all. -/

namespace Vynkor.Lib

universe u
variable {α : Type u} (needs : α → List α)

/-- One node needs the other directly. -/
def Needs (node needed : α) : Prop := needed ∈ needs node

def ReachesCycle (node : α) : Prop :=
  ∃ turn, Relation.ReflTransGen (Needs needs) node turn ∧ Relation.TransGen (Needs needs) turn turn

/-- Every node of the list comes after all it needs. -/
def Ordered (order : List α) : Prop :=
  ∀ before node after, order = before ++ node :: after → ∀ needed ∈ needs node, needed ∈ before

/-- None of the nodes needs itself, directly or through others. -/
def Acyclic (nodes : List α) : Prop := ∀ node ∈ nodes, ¬Relation.TransGen (Needs needs) node node

/-- One comes before the other in the list. -/
def Before (list : List α) (first second : α) : Prop := [first, second].Sublist list

variable {needs}

/-- A path to a cycle starts with something needed, from where the cycle can be reached too. -/
theorem ReachesCycle.next {node : α} (reaches : ReachesCycle needs node) :
    ∃ needed ∈ needs node, ReachesCycle needs needed := by
  obtain ⟨turn, path, cycle⟩ := reaches
  rcases Relation.ReflTransGen.cases_head path with rfl | ⟨needed, first, rest⟩
  · obtain ⟨needed, first, back⟩ := Relation.TransGen.head'_iff.mp cycle
    exact ⟨needed, first, node, back, cycle⟩
  · exact ⟨needed, first, turn, rest, cycle⟩

theorem ReachesCycle.of_needs {node needed : α} (step : needed ∈ needs node) (reaches : ReachesCycle needs needed) :
    ReachesCycle needs node := by
  obtain ⟨turn, path, cycle⟩ := reaches
  exact ⟨turn, .head step path, cycle⟩

theorem Before.filter {list : List α} {first second : α} (before : Before list first second) {test : α → Bool}
    (one : test first = true) (two : test second = true) : Before (list.filter test) first second := by
  have kept := List.Sublist.filter test before
  rwa [List.filter_cons_of_pos one, List.filter_cons_of_pos two] at kept

theorem stays_inside {nodes : List α} (closed : ∀ node ∈ nodes, ∀ needed ∈ needs node, needed ∈ nodes)
    {node other : α} (path : Relation.ReflTransGen (Needs needs) node other) (member : node ∈ nodes) : other ∈ nodes := by
  induction path with
  | refl => exact member
  | tail _ step ih => exact closed _ ih _ step

/-- Among nodes that need only each other, a cycle that can be reached is a cycle of theirs. -/
theorem acyclic_iff {nodes : List α} (closed : ∀ node ∈ nodes, ∀ needed ∈ needs node, needed ∈ nodes) :
    Acyclic needs nodes ↔ ∀ node ∈ nodes, ¬ReachesCycle needs node := by
  constructor
  · rintro acyclic node member ⟨turn, path, cycle⟩
    exact acyclic turn (stays_inside closed path member) cycle
  · intro none node member cycle
    exact none node member ⟨node, .refl, cycle⟩

namespace Ordered

theorem nil : Ordered needs [] := by
  intro before node after split
  exact absurd split (by simp)

theorem snoc {order : List α} {last : α} (ordered : Ordered needs order) (met : ∀ needed ∈ needs last, needed ∈ order) :
    Ordered needs (order ++ [last]) := by
  intro before node after split
  rcases List.eq_nil_or_concat after with rfl | ⟨rest, final, rfl⟩
  · obtain ⟨rfl, same⟩ := List.append_inj' split rfl
    cases same
    exact met
  · rw [List.concat_eq_append, ← List.cons_append, ← List.append_assoc] at split
    obtain ⟨rfl, -⟩ := List.append_inj' split rfl
    exact ordered before node rest rfl

theorem init {order : List α} {last : α} (ordered : Ordered needs (order ++ [last])) : Ordered needs order := by
  rintro before node after rfl
  exact ordered before node (after ++ [last]) (by simp)

theorem before {order : List α} (ordered : Ordered needs order) {node needed : α} (member : node ∈ order)
    (named : needed ∈ needs node) : Before order needed node := by
  obtain ⟨front, rear, rfl⟩ := List.append_of_mem member
  have early := ordered front node rear rfl needed named
  exact (List.singleton_sublist.mpr early).append (List.singleton_sublist.mpr List.mem_cons_self)

/-- In a list without repetitions, what comes before a node is in front of its only place. -/
theorem of_before {order : List α} (distinct : order.Nodup)
    (before : ∀ node ∈ order, ∀ needed ∈ needs node, Before order needed node) : Ordered needs order := by
  rintro front node rear rfl needed named
  have apart := List.nodup_append.mp distinct
  have once : node ∉ rear := (List.nodup_cons.mp apart.2.1).1
  have alone : node ∉ front := fun early => apart.2.2 node early node List.mem_cons_self rfl
  obtain ⟨left, right, split, early, late⟩ :=
    List.sublist_append_iff.mp (before node (by simp) needed named)
  rcases left with _ | ⟨first, _ | ⟨second, rest⟩⟩
  · rw [List.nil_append] at split
    subst split
    rcases List.sublist_cons_iff.mp late with inside | ⟨rest, same, inside⟩
    · exact absurd (inside.subset (by simp)) once
    · cases same
      exact absurd (List.singleton_sublist.mp inside) once
  · obtain ⟨rfl, -⟩ := List.cons.inj split
    exact List.singleton_sublist.mp early
  · obtain ⟨rfl, tail⟩ := List.cons.inj split
    obtain ⟨rfl, -⟩ := List.cons.inj tail
    exact absurd (early.subset (by simp)) alone

theorem inside {order : List α} (ordered : Ordered needs order) {node needed : α} (member : node ∈ order)
    (path : Relation.TransGen (Needs needs) node needed) : needed ∈ order := by
  refine stays_inside (fun node member needed named => ?_) path.to_reflTransGen member
  exact (ordered.before member named).subset List.mem_cons_self

/-- From a node that has its place no cycle can be reached. -/
theorem not_reachesCycle {order : List α} (ordered : Ordered needs order) {node : α} (member : node ∈ order) :
    ¬ReachesCycle needs node := by
  induction order using List.reverseRecOn generalizing node with
  | nil => cases member
  | append_singleton earlier last ih =>
    intro reaches
    rcases List.mem_append.mp member with early | final
    · exact ih ordered.init early reaches
    · cases List.mem_singleton.mp final
      obtain ⟨needed, first, onward⟩ := reaches.next
      exact ih ordered.init (ordered earlier last [] rfl needed first) onward

end Ordered

/-- Where every node needs another one of the same finite set, the walk from node to node
comes back to where it has been. -/
theorem reachesCycle_of_stuck {stuck : List α} (onward : ∀ node ∈ stuck, ∃ needed ∈ needs node, needed ∈ stuck)
    {node : α} (member : node ∈ stuck) : ReachesCycle needs node := by
  choose! next steps stays using onward
  have inside : ∀ count, next^[count] node ∈ stuck := by
    intro count
    induction count with
    | zero => exact member
    | succ count ih =>
      rw [Function.iterate_succ_apply']
      exact stays _ ih
  have walk : ∀ start count, Relation.ReflTransGen (Needs needs) (next^[start] node) (next^[start + count] node) := by
    intro start count
    induction count with
    | zero => exact .refl
    | succ count ih =>
      refine ih.tail ?_
      rw [← Nat.add_assoc, Function.iterate_succ_apply']
      exact steps _ (inside _)
  have : Finite { node // node ∈ stuck } := (List.finite_toSet stuck).to_subtype
  let position : Nat → { node // node ∈ stuck } := fun count => ⟨next^[count] node, inside count⟩
  obtain ⟨first, second, apart, same⟩ := Finite.exists_ne_map_eq_of_infinite position
  wlog sooner : first < second generalizing first second
  · exact this second first apart.symm same.symm (lt_of_le_of_ne (Nat.le_of_not_lt sooner) apart.symm)
  have meets : next^[first] node = next^[second] node := congrArg Subtype.val same
  refine ⟨next^[first] node, ?_, ?_⟩
  · have path := walk 0 first
    rwa [Nat.zero_add] at path
  · have path := walk (first + 1) (second - (first + 1))
    rw [Nat.add_sub_of_le sooner, ← meets, Function.iterate_succ_apply'] at path
    exact .head' (steps _ (inside first)) path

end Vynkor.Lib
