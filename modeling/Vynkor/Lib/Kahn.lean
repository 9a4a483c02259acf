import Vynkor.Lib.Buckets
import Vynkor.Lib.Dependencies

/-! Kahn's algorithm. Every node counts what it still needs; a node that needs nothing more is
queued, and taking it from the queue counts down all that depend on it. A node that names the
same need twice counts it twice and is counted down twice. -/

namespace Vynkor.Lib.Kahn

universe u
variable {α : Type u} [DecidableEq α]

structure Work (α : Type u) where
  inDegree : DashMap α Nat := ∅
  queue : List α := []
  order : List α := []

namespace Work

def left (work : Work α) (node : α) : Nat := (work.inDegree.get node).getD 0

/-- One edge less; the node is queued when none is left. -/
def release (work : Work α) (node : α) : Work α :=
  { work with
    inDegree := work.inDegree.insert node (work.left node - 1)
    queue := if work.left node - 1 = 0 then work.queue ++ [node] else work.queue }

def visit (rev : DashMap α (List α)) (work : Work α) (node : α) : Work α :=
  (rev.bucket node).foldl release { work with order := work.order ++ [node] }

/-- `none` if the queue is not empty when the fuel is used up. -/
def drain (rev : DashMap α (List α)) : Nat → Work α → Option (Work α)
  | 0, work => if work.queue.isEmpty then some work else none
  | fuel + 1, work =>
    match work.queue with
    | [] => some work
    | node :: queue => drain rev fuel (visit rev { work with queue } node)

end Work

section Graph
variable (needs : α → List α)

def countUp (inDegree : DashMap α Nat) (node : α) : DashMap α Nat :=
  (needs node).foldl (fun inDegree _ => inDegree.insert node ((inDegree.get node).getD 0 + 1)) inDegree

def inDegrees (nodes : List α) : DashMap α Nat :=
  nodes.foldl (countUp needs) (nodes.foldl (fun inDegree node => inDegree.insert node 0) ∅)

def addEdges (rev : DashMap α (List α)) (node : α) : DashMap α (List α) :=
  (needs node).foldl (fun rev needed => rev.insert needed (rev.bucket needed ++ [node])) rev

/-- Who depends on a node, once for every time it is named. -/
def dependants (nodes : List α) : DashMap α (List α) := nodes.foldl (addEdges needs) ∅

def start (nodes : List α) : Work α where
  inDegree := inDegrees needs nodes
  queue := nodes.filter fun node => ((inDegrees needs nodes).get node).getD 0 == 0

/-- An order of all nodes, or those that never got into it. -/
def sort (fuel : Nat) (nodes : List α) : Option (Except (List α) (List α)) :=
  (Work.drain (dependants needs nodes) fuel (start needs nodes)).map fun work =>
    if work.order.length < nodes.length then .error (nodes.filter fun node => !work.order.contains node)
    else .ok work.order

/-- A fold that adds the same amount at every visit of one node. -/
theorem foldl_tally {σ : Type*} {step : σ → α → σ} (measure : σ → Nat) {node : α} {amount : Nat}
    (adds : ∀ state other, measure (step state other) = measure state + if node = other then amount else 0)
    (nodes : List α) (state : σ) : measure (nodes.foldl step state) = measure state + nodes.count node * amount := by
  induction nodes generalizing state with
  | nil => simp
  | cons first rest ih =>
    rw [List.foldl_cons, ih, adds, List.count_cons, Nat.add_assoc]
    by_cases here : node = first
    · subst here
      simp only [if_true, beq_self_eq_true, Nat.add_mul, Nat.one_mul]
      omega
    · simp [here, Ne.symm here]

theorem get_countUp (inDegree : DashMap α Nat) (node other : α) :
    ((countUp needs inDegree node).get other).getD 0 =
      (inDegree.get other).getD 0 + if other = node then (needs other).length else 0 := by
  by_cases here : other = node
  · subst here
    rw [if_pos rfl]
    unfold countUp
    generalize needs other = named
    induction named generalizing inDegree with
    | nil => rfl
    | cons first rest ih =>
      rw [List.foldl_cons, ih, DashMap.get_insert, if_pos rfl, Option.getD_some, List.length_cons]
      omega
  · rw [if_neg here]
    unfold countUp
    generalize needs node = named
    induction named generalizing inDegree with
    | nil => rfl
    | cons first rest ih => rw [List.foldl_cons, ih, DashMap.get_insert, if_neg here]

theorem get_zeros (nodes : List α) {inDegree : DashMap α Nat} {node : α} (zero : (inDegree.get node).getD 0 = 0) :
    ((nodes.foldl (fun inDegree node => inDegree.insert node 0) inDegree).get node).getD 0 = 0 := by
  induction nodes generalizing inDegree with
  | nil => exact zero
  | cons first rest ih =>
    apply ih
    rw [DashMap.get_insert]
    split
    · rfl
    · exact zero

theorem inDegrees_eq {nodes : List α} (distinct : nodes.Nodup) {node : α} (member : node ∈ nodes) :
    ((inDegrees needs nodes).get node).getD 0 = (needs node).length := by
  unfold inDegrees
  rw [foldl_tally (fun inDegree => (inDegree.get node).getD 0) (get_countUp needs · · node), get_zeros nodes rfl,
    List.count_eq_one_of_mem distinct member, Nat.zero_add, Nat.one_mul]

theorem count_addEdges (rev : DashMap α (List α)) (node needed other : α) :
    ((addEdges needs rev node).bucket needed).count other =
      (rev.bucket needed).count other + if other = node then (needs other).count needed else 0 := by
  by_cases same : other = node
  · subst same
    rw [if_pos rfl]
    unfold addEdges
    generalize needs other = named
    induction named generalizing rev with
    | nil => rfl
    | cons first rest ih =>
      rw [List.foldl_cons, ih, DashMap.bucket_insert, List.count_cons]
      by_cases here : needed = first
      · subst here
        rw [if_pos rfl, List.count_append, List.count_singleton_self, if_pos (beq_self_eq_true _)]
        omega
      · rw [if_neg here, if_neg (by simpa using Ne.symm here), Nat.add_zero]
  · rw [if_neg same]
    unfold addEdges
    generalize needs node = named
    induction named generalizing rev with
    | nil => rfl
    | cons first rest ih =>
      rw [List.foldl_cons, ih, DashMap.bucket_insert]
      split
      next here =>
        rw [here, List.count_append, List.count_singleton, if_neg (by simpa using Ne.symm same), Nat.add_zero]
      next => rfl

theorem count_dependants {nodes : List α} (distinct : nodes.Nodup) {node : α} (needed : α) (member : node ∈ nodes) :
    ((dependants needs nodes).bucket needed).count node = (needs node).count needed := by
  unfold dependants
  rw [foldl_tally (fun rev => (rev.bucket needed).count node) (count_addEdges needs · · needed node),
    List.count_eq_one_of_mem distinct member, Nat.one_mul]
  exact Nat.zero_add _

end Graph

namespace Work

theorem left_release (work : Work α) (node other : α) :
    (work.release node).left other = work.left other - if other = node then 1 else 0 := by
  unfold release left
  rw [DashMap.get_insert]
  split
  next here => rw [here]; rfl
  next => rfl

theorem order_foldl_release (nodes : List α) (work : Work α) : (nodes.foldl release work).order = work.order := by
  induction nodes generalizing work with
  | nil => rfl
  | cons first rest ih => exact ih (work.release first)

theorem order_visit (rev : DashMap α (List α)) (work : Work α) (node : α) :
    (visit rev work node).order = work.order ++ [node] := order_foldl_release ..

theorem count_cons_ite (first : α) (rest : List α) (node : α) :
    (first :: rest).count node = rest.count node + if node = first then 1 else 0 := by
  rw [List.count_cons]
  by_cases here : node = first
  · rw [if_pos (beq_iff_eq.mpr here.symm), if_pos here]
  · rw [if_neg (by simpa using Ne.symm here), if_neg here]

/-- The last edge of a node queues it. -/
theorem queue_release (work : Work α) (node : α) :
    (work.release node).queue = work.queue ++ if work.left node - 1 = 0 then [node] else [] := by
  unfold release
  split
  · rfl
  · exact (List.append_nil _).symm

/-- What a visit does to the counts, and whom it queues: those of which every open edge is
among the released ones. -/
theorem foldl_release (nodes : List α) (work : Work α) (enough : ∀ node, nodes.count node ≤ work.left node) :
    (∀ node, (nodes.foldl release work).left node = work.left node - nodes.count node) ∧
      ∃ queued, (nodes.foldl release work).queue = work.queue ++ queued ∧ queued.Nodup ∧
        ∀ node, node ∈ queued ↔ node ∈ nodes ∧ work.left node = nodes.count node := by
  induction nodes generalizing work with
  | nil => exact ⟨fun _ => rfl, [], (List.append_nil _).symm, List.nodup_nil, by simp⟩
  | cons first rest ih =>
    have fits : ∀ node, rest.count node ≤ (work.release first).left node := by
      intro node
      have bound := enough node
      rw [count_cons_ite] at bound
      rw [left_release]
      exact Nat.le_sub_of_add_le bound
    obtain ⟨counts, queued, queue, distinct, members⟩ := ih (work.release first) fits
    rw [queue_release, List.append_assoc] at queue
    refine ⟨fun node => ?_, _, queue, ?_⟩
    · rw [List.foldl_cons, counts, left_release, count_cons_ite, Nat.sub_sub, Nat.add_comm]
    · have bound := enough first
      rw [List.count_cons_self] at bound
      have own : first ∈ queued ↔ first ∈ rest ∧ work.left first - 1 = rest.count first := by
        rw [members, left_release, if_pos rfl]
      have others : ∀ node, node ≠ first →
          (node ∈ queued ↔ node ∈ first :: rest ∧ work.left node = (first :: rest).count node) := by
        intro node apart
        rw [members, left_release, if_neg apart, Nat.sub_zero, List.count_cons_of_ne (Ne.symm apart), List.mem_cons,
          or_iff_right apart]
      by_cases done : work.left first - 1 = 0
      · -- the last edge of this node: it is queued here and does not come again
        have absent : first ∉ rest := List.count_eq_zero.mp (by omega)
        rw [if_pos done]
        refine ⟨List.nodup_cons.mpr ⟨fun again => absent (own.mp again).1, distinct⟩, fun node => ?_⟩
        by_cases here : node = first
        · subst here
          rw [List.count_cons_self, List.singleton_append]
          simp only [List.mem_cons, true_or, true_and, true_iff]
          omega
        · rw [List.singleton_append, List.mem_cons, or_iff_right here]
          exact others node here
      · rw [if_neg done]
        refine ⟨distinct, fun node => ?_⟩
        by_cases here : node = first
        · subst here
          rw [List.nil_append, own, List.count_cons_self]
          constructor
          · rintro ⟨-, same⟩
            exact ⟨List.mem_cons_self, by omega⟩
          · rintro ⟨-, same⟩
            exact ⟨List.count_pos_iff.mp (by omega), by omega⟩
        · exact others node here

end Work

section Loop
variable {needs : α → List α} {nodes : List α}

/-- What holds between two visits. -/
structure Sound (needs : α → List α) (nodes : List α) (work : Work α) : Prop where
  distinct : (work.order ++ work.queue).Nodup
  inside : ∀ node ∈ work.order ++ work.queue, node ∈ nodes
  ordered : Ordered needs work.order
  counted : ∀ node ∈ nodes, work.left node = (needs node).countP fun needed => !work.order.contains needed
  ready : ∀ node ∈ nodes, node ∈ work.order ++ work.queue ↔ work.left node = 0

theorem Sound.start (distinct : nodes.Nodup) : Sound needs nodes (start needs nodes) where
  distinct := distinct.filter _
  inside node member := List.mem_of_mem_filter member
  ordered := .nil
  counted node member := by
    refine (inDegrees_eq needs distinct member).trans ?_
    exact (congrFun List.countP_true (needs node)).symm
  ready node member := by
    change node ∈ List.filter _ _ ↔ _
    rw [List.mem_filter, beq_iff_eq, and_iff_right member]
    rfl

/-- A node is taken out of the list once: what is outside it loses just that node. -/
theorem countP_outside (named order : List α) {node : α} (new : node ∉ order) :
    (named.countP fun needed => !order.contains needed) =
      (named.countP fun needed => !(order ++ [node]).contains needed) + named.count node := by
  induction named with
  | nil => rfl
  | cons first rest ih =>
    rw [List.countP_cons, List.countP_cons, List.count_cons, ih]
    by_cases here : first = node
    · subst here
      simp [new]
      omega
    · simp [here]
      omega

variable {work : Work α} {node : α} {rest : List α}

theorem Sound.met (sound : Sound needs nodes work) (member : node ∈ nodes) :
    node ∈ work.order ++ work.queue ↔ ∀ needed ∈ needs node, needed ∈ work.order := by
  rw [sound.ready node member, sound.counted node member, List.countP_eq_zero]
  simp

/-- Visiting the head of the queue. -/
theorem Sound.visit {rev : DashMap α (List α)} (sound : Sound needs nodes work) (head : work.queue = node :: rest)
    (edges : ∀ other ∈ nodes, (rev.bucket node).count other = (needs other).count node)
    (closed : ∀ other ∈ rev.bucket node, other ∈ nodes) :
    Sound needs nodes (Work.visit rev { work with queue := rest } node) := by
  have parts := sound.distinct
  rw [head] at parts
  have new : node ∉ work.order := fun early =>
    (List.nodup_append.mp parts).2.2 node early node List.mem_cons_self rfl
  have listed : node ∈ work.order ++ work.queue := by simp [head]
  have member := sound.inside node listed
  have enough : ∀ other, (rev.bucket node).count other ≤ work.left other := by
    intro other
    by_cases known : other ∈ nodes
    · rw [edges other known, sound.counted other known, countP_outside _ _ new]
      exact Nat.le_add_left ..
    · rw [List.count_eq_zero.mpr fun named => known (closed other named)]
      exact Nat.zero_le _
  obtain ⟨counts, queued, queue, fresh, members⟩ :=
    Work.foldl_release (rev.bucket node) { work with queue := rest, order := work.order ++ [node] } enough
  have order := Work.order_visit rev { work with queue := rest } node
  change ∀ other, (Work.visit rev { work with queue := rest } node).left other = _ at counts
  change (Work.visit rev { work with queue := rest } node).queue = _ at queue
  generalize Work.visit rev { work with queue := rest } node = after at counts order queue
  have whole : after.order ++ after.queue = (work.order ++ work.queue) ++ queued := by
    rw [order, queue, head]
    simp
  have late : ∀ other ∈ queued, other ∈ nodes ∧ other ∉ work.order ++ work.queue := by
    intro other named
    obtain ⟨listed, spent⟩ := (members other).mp named
    have known := closed other listed
    refine ⟨known, fun early => ?_⟩
    have none := (sound.ready other known).mp early
    exact absurd (spent.symm.trans none) (Nat.pos_iff_ne_zero.mp (List.count_pos_iff.mpr listed))
  constructor
  · rw [whole, List.nodup_append]
    refine ⟨sound.distinct, fresh, ?_⟩
    rintro other early _ named rfl
    exact (late other named).2 early
  · rw [whole]
    intro other listed
    rcases List.mem_append.mp listed with early | named
    · exact sound.inside other early
    · exact (late other named).1
  · rw [order]
    exact sound.ordered.snoc ((sound.met member).mp listed)
  · intro other known
    rw [counts, order]
    change work.left other - _ = _
    rw [sound.counted other known, edges other known, countP_outside _ _ new, Nat.add_sub_cancel]
  · intro other known
    rw [whole, counts, List.mem_append, sound.ready other known, members]
    change _ ↔ work.left other - _ = 0
    have bound := enough other
    constructor
    · rintro (none | ⟨-, last⟩)
      · omega
      · change work.left other = _ at last
        omega
    · intro spent
      by_cases none : work.left other = 0
      · exact .inl none
      · refine .inr ⟨List.count_pos_iff.mp (by omega), ?_⟩
        change work.left other = _
        omega

theorem Sound.length_le (sound : Sound needs nodes work) : work.order.length + work.queue.length ≤ nodes.length := by
  rw [← List.length_append]
  exact (List.subperm_of_subset sound.distinct sound.inside).length_le

/-- As many rounds as there are nodes empty the queue. -/
theorem Sound.drain (rev : DashMap α (List α))
    (edges : ∀ node, ∀ other ∈ nodes, (rev.bucket node).count other = (needs other).count node)
    (closed : ∀ node, ∀ other ∈ rev.bucket node, other ∈ nodes) (fuel : Nat) (work : Work α)
    (sound : Sound needs nodes work) (enough : nodes.length ≤ fuel + work.order.length) :
    ∃ final, Work.drain rev fuel work = some final ∧ Sound needs nodes final ∧ final.queue = [] := by
  have bound := sound.length_le
  induction fuel generalizing work with
  | zero =>
    have empty : work.queue = [] := List.length_eq_zero_iff.mp (by omega)
    refine ⟨work, ?_, sound, empty⟩
    unfold Work.drain
    rw [empty]
    rfl
  | succ fuel ih =>
    unfold Work.drain
    split
    next empty => exact ⟨work, rfl, sound, empty⟩
    next node rest head =>
      have next := sound.visit head (edges node) (closed node)
      refine ih _ next ?_ next.length_le
      rw [Work.order_visit, List.length_append]
      change nodes.length ≤ fuel + (work.order.length + 1)
      omega

/-- Once the queue is empty, the nodes outside the order are those from which a cycle can be
reached: each of them needs another one. -/
theorem Sound.outside (sound : Sound needs nodes work) (empty : work.queue = [])
    (closed : ∀ node ∈ nodes, ∀ needed ∈ needs node, needed ∈ nodes) (member : node ∈ nodes) :
    node ∉ work.order ↔ ReachesCycle needs node := by
  constructor
  · intro missing
    have stuck : ∀ node ∈ nodes.filter fun node => !work.order.contains node,
        ∃ needed ∈ needs node, needed ∈ nodes.filter fun node => !work.order.contains node := by
      intro other left
      obtain ⟨known, out⟩ := List.mem_filter.mp left
      have unmet := (sound.met known).not.mp (by simpa [empty] using out)
      push Not at unmet
      obtain ⟨needed, named, absent⟩ := unmet
      exact ⟨needed, named, List.mem_filter.mpr ⟨closed other known needed named, by simpa using absent⟩⟩
    exact reachesCycle_of_stuck stuck (List.mem_filter.mpr ⟨member, by simpa using missing⟩)
  · exact fun reaches listed => sound.ordered.not_reachesCycle listed reaches

end Loop

theorem dependants_known (needs : α → List α) (nodes : List α) (node other : α)
    (member : other ∈ (dependants needs nodes).bucket node) : other ∈ nodes := by
  by_contra unknown
  have counted := foldl_tally (fun rev => (rev.bucket node).count other) (count_addEdges needs · · node other) nodes ∅
  rw [List.count_eq_zero.mpr unknown, Nat.zero_mul] at counted
  exact List.count_eq_zero.mp counted member

/-- For distinct nodes that need only each other, the sort ends after as many rounds as there
are nodes: with an order of all of them if no cycle can be reached from any, and otherwise with
those from which one can. -/
theorem sort_spec (needs : α → List α) {nodes : List α} (distinct : nodes.Nodup)
    (closed : ∀ node ∈ nodes, ∀ needed ∈ needs node, needed ∈ nodes) {fuel : Nat} (enough : nodes.length ≤ fuel) :
    (∃ order, sort needs fuel nodes = some (.ok order) ∧ order.Perm nodes ∧ Ordered needs order ∧
      ∀ node ∈ nodes, ¬ReachesCycle needs node) ∨
    (∃ cycle, sort needs fuel nodes = some (.error cycle) ∧ cycle.Sublist nodes ∧ (∃ node ∈ nodes, ReachesCycle needs node) ∧
      ∀ node, node ∈ cycle ↔ node ∈ nodes ∧ ReachesCycle needs node) := by
  obtain ⟨final, drained, sound, empty⟩ := Sound.drain (dependants needs nodes)
    (fun node other member => count_dependants needs distinct node member) (dependants_known needs nodes) fuel
    (start needs nodes) (.start distinct) (Nat.le_trans enough (Nat.le_add_right ..))
  have outside : ∀ node ∈ nodes, (node ∉ final.order ↔ ReachesCycle needs node) :=
    fun node member => sound.outside empty closed member
  have apart : final.order.Nodup := (List.nodup_append.mp sound.distinct).1
  have inside : final.order ⊆ nodes := fun node member => sound.inside node (List.mem_append_left _ member)
  unfold sort
  rw [drained, Option.map_some]
  split
  next short =>
    refine .inr ⟨_, rfl, List.filter_sublist, ?_, fun node => ?_⟩
    · by_contra none
      push Not at none
      have all : nodes ⊆ final.order := fun node member => by
        by_contra missing
        exact none node member ((outside node member).mp missing)
      exact absurd ((List.subperm_of_subset distinct all).length_le) (Nat.not_le.mpr short)
    · rw [List.mem_filter]
      refine and_congr_right fun member => ?_
      rw [← outside node member]
      simp
  next long =>
    have perm := (List.subperm_of_subset apart inside).perm_of_length_le (Nat.le_of_not_lt long)
    refine .inl ⟨_, rfl, perm, sound.ordered, fun node member reaches => ?_⟩
    exact (outside node member).mpr reaches (perm.mem_iff.mpr member)

end Vynkor.Lib.Kahn
