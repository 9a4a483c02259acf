import Mathlib.Data.List.Induction
import Mathlib.Data.List.Infix
import Mathlib.Logic.Function.Basic

/-! Machines that take one input at a time. An invariant is proved for one step
and then holds after every run; a guarded run restricts every step by the state
it starts from. What has become true did so in some step. Machines are joined by
channels. -/

namespace Vynkor.Lib

universe u v

structure Machine (σ : Type u) (ι : Type v) where
  init : σ
  step : σ → ι → σ

namespace Machine
variable {σ : Type u} {ι : Type v} (machine : Machine σ ι)

def runFrom (state : σ) (inputs : List ι) : σ := inputs.foldl machine.step state

def run (inputs : List ι) : σ := machine.runFrom machine.init inputs

@[simp] theorem runFrom_nil (state : σ) : machine.runFrom state [] = state := rfl

@[simp] theorem runFrom_cons (state : σ) (input : ι) (inputs : List ι) :
    machine.runFrom state (input :: inputs) = machine.runFrom (machine.step state input) inputs := rfl

theorem runFrom_append (state : σ) (first last : List ι) :
    machine.runFrom state (first ++ last) = machine.runFrom (machine.runFrom state first) last :=
  List.foldl_append

theorem run_append (first last : List ι) :
    machine.run (first ++ last) = machine.runFrom (machine.run first) last :=
  machine.runFrom_append _ _ _

/-- Every input is acceptable in the state in which it arrives. -/
def Obeys (guard : σ → ι → Prop) : σ → List ι → Prop
  | _, [] => True
  | state, input :: inputs => guard state input ∧ Obeys guard (machine.step state input) inputs

instance decidableObeys {guard : σ → ι → Prop} [∀ state input, Decidable (guard state input)] :
    (state : σ) → (inputs : List ι) → Decidable (machine.Obeys guard state inputs)
  | _, [] => .isTrue trivial
  | state, input :: inputs => @instDecidableAnd _ _ _ (decidableObeys (machine.step state input) inputs)

theorem obeys_append {guard : σ → ι → Prop} {state : σ} {first last : List ι} :
    machine.Obeys guard state (first ++ last) ↔
      machine.Obeys guard state first ∧ machine.Obeys guard (machine.runFrom state first) last := by
  induction first generalizing state with
  | nil => simp [Obeys]
  | cons input inputs ih => simp only [List.cons_append, Obeys, runFrom_cons, ih, and_assoc]

variable {machine}

theorem runFrom_preserves {valid : σ → Prop} (preserved : ∀ state input, valid state → valid (machine.step state input))
    {state : σ} (inputs : List ι) (holds : valid state) : valid (machine.runFrom state inputs) := by
  induction inputs generalizing state with
  | nil => exact holds
  | cons input inputs ih => exact ih (preserved state input holds)

theorem run_preserves {valid : σ → Prop} (initial : valid machine.init)
    (preserved : ∀ state input, valid state → valid (machine.step state input)) (inputs : List ι) :
    valid (machine.run inputs) :=
  runFrom_preserves preserved inputs initial

/-- A guard that looks at the input alone. -/
theorem obeys_of_forall {allowed : ι → Prop} {state : σ} {inputs : List ι} (all : ∀ input ∈ inputs, allowed input) :
    machine.Obeys (fun _ input => allowed input) state inputs := by
  induction inputs generalizing state with
  | nil => trivial
  | cons input inputs ih =>
    exact ⟨all input List.mem_cons_self, ih fun later member => all later (List.mem_cons_of_mem _ member)⟩

theorem Obeys.and {first second : σ → ι → Prop} {state : σ} {inputs : List ι} (one : machine.Obeys first state inputs)
    (two : machine.Obeys second state inputs) :
    machine.Obeys (fun state input => first state input ∧ second state input) state inputs := by
  induction inputs generalizing state with
  | nil => trivial
  | cons input inputs ih => exact ⟨⟨one.1, two.1⟩, ih one.2 two.2⟩

theorem Obeys.runFrom_preserves {valid : σ → Prop} {guard : σ → ι → Prop}
    (preserved : ∀ state input, guard state input → valid state → valid (machine.step state input))
    {state : σ} {inputs : List ι} (obeys : machine.Obeys guard state inputs) (holds : valid state) :
    valid (machine.runFrom state inputs) := by
  induction inputs generalizing state with
  | nil => exact holds
  | cons input inputs ih => exact ih obeys.2 (preserved state input obeys.1 holds)

theorem Obeys.run_preserves {valid : σ → Prop} {guard : σ → ι → Prop} (initial : valid machine.init)
    (preserved : ∀ state input, guard state input → valid state → valid (machine.step state input))
    {inputs : List ι} (obeys : machine.Obeys guard machine.init inputs) : valid (machine.run inputs) :=
  obeys.runFrom_preserves preserved initial

variable (holds : σ → Prop)

theorem run_snoc (machine : Machine σ ι) (inputs : List ι) (next : ι) :
    machine.run (inputs ++ [next]) = machine.step (machine.run inputs) next :=
  machine.run_append inputs [next]

/-- What does not hold at first and holds in the end rose in some step, and held from
then on. -/
theorem last_rise {inputs : List ι} (atFirst : ¬holds machine.init) (inTheEnd : holds (machine.run inputs)) :
    ∃ before input after, inputs = before ++ input :: after ∧ ¬holds (machine.run before) ∧
      holds (machine.step (machine.run before) input) ∧
      ∀ since, since <+: after → holds (machine.run (before ++ input :: since)) := by
  induction inputs using List.reverseRecOn with
  | nil => exact absurd inTheEnd atFirst
  | append_singleton inputs input ih =>
    by_cases earlier : holds (machine.run inputs)
    · obtain ⟨before, first, after, rfl, fresh, rises, kept⟩ := ih earlier
      refine ⟨before, first, after ++ [input], by simp, fresh, rises, ?_⟩
      intro since part
      rcases List.prefix_concat_iff.mp part with rfl | part
      · simpa using inTheEnd
      · exact kept since part
    · refine ⟨inputs, input, [], rfl, earlier, machine.run_snoc inputs input ▸ inTheEnd, ?_⟩
      intro since part
      rw [List.prefix_nil.mp part]
      exact inTheEnd

/-- A quantity that no step changes while something holds is what it was when that began. -/
theorem constant_since {β : Type*} (quantity : σ → β) {before after : List ι} {input : ι}
    (kept : ∀ since, since <+: after → holds (machine.run (before ++ input :: since)))
    (steady : ∀ inputs next, holds (machine.run inputs) →
      quantity (machine.run (inputs ++ [next])) = quantity (machine.run inputs)) :
    quantity (machine.run (before ++ input :: after)) = quantity (machine.run (before ++ [input])) := by
  induction after using List.reverseRecOn with
  | nil => rfl
  | append_singleton after next ih =>
    have earlier := ih fun since part => kept since (part.trans (List.prefix_append _ _))
    have held := kept after (List.prefix_append _ _)
    rw [← List.cons_append, ← List.append_assoc, steady _ next held, earlier]

end Machine

/-- A bounded channel with a sender that does not wait. -/
structure Channel (α : Type u) where
  queue : List α := []
  capacity : Nat := 64
  closed : Bool := false

namespace Channel
variable {α : Type u}

def accepts (channel : Channel α) : Bool := !channel.closed && decide (channel.queue.length < channel.capacity)

/-- `try_send`: a full or closed channel drops the item. -/
def trySend (channel : Channel α) (item : α) : Channel α :=
  if channel.accepts then { channel with queue := channel.queue ++ [item] } else channel

/-- `send().await`: waits for room, so only a closed channel drops the item. -/
def send (channel : Channel α) (item : α) : Channel α :=
  if channel.closed then channel else { channel with queue := channel.queue ++ [item] }

def receive (channel : Channel α) : Channel α := { channel with queue := channel.queue.tail }

def close (channel : Channel α) : Channel α := { channel with closed := true }

end Channel
end Vynkor.Lib
