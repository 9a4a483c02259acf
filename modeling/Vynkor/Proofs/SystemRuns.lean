import Vynkor.Proofs.RegistryLookup
import Vynkor.Proofs.RegistryShape
import Vynkor.Proofs.RouterSteps

/-! From one step to whole runs: what every move and every registration of a
pending action preserves holds in every state the system reaches. -/

namespace Vynkor
open Lib

theorem Move.effect {input : Input} {kernel after : Kernel} {sends : List Send} (moved : Move input kernel after sends) :
    Registry.Effect kernel.registry after.registry := by
  cases moved with
  | drop after gone notice rest effect => exact effect
  | revise => exact .pending _

theorem Issues.effect {msg : IncomingMessage} {kernel after : Kernel} {key : String} {pending : PendingAction}
    (issues : Issues msg kernel after key pending) : Registry.Effect kernel.registry after.registry := by
  rw [issues.result]
  exact .pending _

theorem Move.vacant {input : Input} {kernel after : Kernel} {sends : List Send} (moved : Move input kernel after sends) {key : String}
    (free : kernel.registry.pendingActions.get key = none) : after.registry.pendingActions.get key = none := by
  cases moved with
  | drop after gone notice rest effect issued counted distinct held left =>
    rw [left]
    split
    · rfl
    · exact free
  | revise other pending revised map sends held same progress accepted stored =>
    rw [stored, if_neg]
    · exact free
    · rintro rfl
      rw [held] at free
      cases free

theorem Moves.vacant {input : Input} {kernel after : Kernel} {sends : List Send} (moves : Moves input kernel after sends) {key : String}
    (free : kernel.registry.pendingActions.get key = none) : after.registry.pendingActions.get key = none := by
  induction moves with
  | nil => exact free
  | cons moved rest ih => exact ih (moved.vacant free)

theorem Move.descends {input : Input} {kernel after : Kernel} {sends : List Send} (moved : Move input kernel after sends)
    {key : String} {pending : PendingAction} (held : after.registry.pendingActions.get key = some pending) :
    ∃ old, kernel.registry.pendingActions.get key = some old ∧ old.Same pending := by
  cases moved with
  | drop after gone notice rest effect issued counted distinct were left =>
    rw [left] at held
    split at held
    · cases held
    · exact ⟨pending, held, .refl pending⟩
  | revise other old revised map sends was same progress accepted stored =>
    change map.get key = some pending at held
    rw [stored] at held
    split at held
    next here =>
      cases held
      exact ⟨old, here ▸ was, same⟩
    next => exact ⟨pending, held, .refl pending⟩

theorem Moves.descends {input : Input} {kernel after : Kernel} {sends : List Send} (moves : Moves input kernel after sends)
    {key : String} {pending : PendingAction} (held : after.registry.pendingActions.get key = some pending) :
    ∃ old, kernel.registry.pendingActions.get key = some old ∧ old.Same pending := by
  induction moves with
  | nil => exact ⟨pending, held, .refl pending⟩
  | cons moved rest ih =>
    obtain ⟨middle, there, same⟩ := ih held
    obtain ⟨old, was, earlier⟩ := moved.descends there
    exact ⟨old, was, earlier.trans same⟩

theorem Moves.unissued {input : Input} {kernel after : Kernel} {sends : List Send} (moves : Moves input kernel after sends) :
    after.issued = kernel.issued ∧ after.actionSeq = kernel.actionSeq := by
  induction moves with
  | nil => exact ⟨rfl, rfl⟩
  | cons moved rest ih =>
    cases moved with
    | drop after gone notice rest effect issued counted => exact ⟨ih.1.trans issued, ih.2.trans counted⟩
    | revise => exact ih

theorem Step.issued_cases {input : Input} {kernel after : Kernel} {sends : List Send} (step : Step input kernel after sends) :
    after.issued = kernel.issued ∨
    ∃ ambient msg before added key pending first, input = .message ambient msg ∧ Moves input kernel before first ∧
      before.registry.getByConnId = kernel.registry.getByConnId ∧ Issues msg before added key pending ∧
      after.issued = kernel.issued ++ [⟨msg.connId, key, pending⟩] := by
  cases step with
  | quiet moves => exact .inl moves.unissued.1
  | @issued ambient msg before added key pending first last origin early present issues late =>
    refine .inr ⟨ambient, msg, before, added, key, pending, first, origin, early, present, issues, ?_⟩
    rw [late.unissued.1, issues.result, ← early.unissued.1]
    rfl

/-- Only an action request registers anything. -/
theorem Step.moves {input : Input} {kernel after : Kernel} {sends : List Send} (step : Step input kernel after sends)
    (other : ∀ {ambient msg envelope request}, input = .message ambient msg → msg.frame.payload.decode = some envelope →
      envelope.payload ≠ .actionRequest request) : Moves input kernel after sends := by
  cases step with
  | quiet moves => exact moves
  | issued origin early present issues late =>
    obtain ⟨envelope, request, decoded, payload, -⟩ := issues.request
    exact absurd payload (other origin decoded)

section Preservation
variable {valid : Kernel → List Send → Prop}

theorem Moves.preserves {input : Input}
    (moved : ∀ {kernel after sends log}, Move input kernel after sends → valid kernel log → valid after (log ++ sends))
    {kernel after : Kernel} {sends log : List Send} (moves : Moves input kernel after sends) (holds : valid kernel log) :
    valid after (log ++ sends) := by
  induction moves generalizing log with
  | nil => simpa using holds
  | cons first rest ih =>
    rw [← List.append_assoc]
    exact ih (moved first holds)

/-- The rule for a step. A registration of a pending action may look back over the
moves before it to the state in which the step began. -/
theorem Step.preserves {input : Input}
    (moved : ∀ {kernel after sends log}, Move input kernel after sends → valid kernel log → valid after (log ++ sends))
    {kernel after : Kernel} {sends log : List Send}
    (issued : ∀ {ambient msg before added key pending first log}, input = .message ambient msg →
      Moves input kernel before first → before.registry.getByConnId = kernel.registry.getByConnId →
      Issues msg before added key pending → valid before log → valid added log)
    (step : Step input kernel after sends) (holds : valid kernel log) : valid after (log ++ sends) := by
  cases step with
  | quiet moves => exact moves.preserves moved holds
  | issued origin early present issues late =>
    rw [← List.append_assoc]
    exact late.preserves moved (issued origin early present issues (early.preserves moved holds))

/-- What holds of a kernel and all that it has sent. -/
def System.Holds (valid : Kernel → List Send → Prop) (system : System) : Prop := valid system.kernel system.log

theorem System.run_preserves (config : Config) (initial : valid {} [])
    (moved : ∀ {input kernel after sends log}, Move input kernel after sends → valid kernel log →
      valid after (log ++ sends))
    (issued : ∀ {msg kernel added key pending log}, Issues msg kernel added key pending → valid kernel log →
      valid added log) (inputs : List Input) :
    valid ((System.machine config).run inputs).kernel ((System.machine config).run inputs).log := by
  refine @Machine.run_preserves _ _ (System.machine config) (System.Holds valid) initial ?_ inputs
  intro system input holds
  obtain ⟨sends, logged, step⟩ := System.step_step config system input
  change valid (system.step config input).kernel (system.step config input).log
  rw [logged]
  exact step.preserves moved (fun _ _ _ issues => issued issues) holds

end Preservation

section Registrations
variable {input : Input} {kernel after : Kernel} {sends : List Send}

theorem Issues.byPluginId {msg : IncomingMessage} {key : String} {pending : PendingAction}
    (issues : Issues msg kernel after key pending) : after.registry.byPluginId = kernel.registry.byPluginId := by
  rw [issues.result]
  rfl

theorem Move.leavers (moved : Move input kernel after sends) {id : String} {entry : PluginEntry}
    (registered : kernel.registry.byPluginId.get id = some entry) :
    after.registry.byPluginId.get id = some entry ∨ Unseats input id entry.connId := by
  cases moved with
  | drop after gone notice rest effect issued counted distinct held left settles providers newcomers leavers =>
    exact leavers id entry registered
  | revise => exact .inl registered

theorem Move.newcomers (moved : Move input kernel after sends) {id : String} {entry : PluginEntry}
    (registered : after.registry.byPluginId.get id = some entry) :
    kernel.registry.byPluginId.get id = some entry ∨ Enlists input id := by
  cases moved with
  | drop after gone notice rest effect issued counted distinct held left settles providers newcomers =>
    exact newcomers id entry registered
  | revise => exact .inl registered

/-- The registration is there, or the input ends it. -/
def Remains (input : Input) (id : String) (entry : PluginEntry) (kernel : Kernel) : Prop :=
  kernel.registry.byPluginId.get id = some entry ∨ Unseats input id entry.connId

theorem Step.leavers (step : Step input kernel after sends) {id : String} {entry : PluginEntry}
    (registered : kernel.registry.byPluginId.get id = some entry) :
    after.registry.byPluginId.get id = some entry ∨ Unseats input id entry.connId := by
  refine @Step.preserves (fun kernel _ => Remains input id entry kernel) input ?_ kernel after sends [] ?_ step (.inl registered)
  · intro kernel after sends log moved remains
    exact remains.elim moved.leavers .inr
  · intro ambient msg before added key pending first log origin early present issues remains
    exact remains.imp_left (issues.byPluginId ▸ ·)

theorem Move.rules (moved : Move input kernel after sends) (id : String) :
    after.registry.actionRequirements.get id = kernel.registry.actionRequirements.get id ∨ Requires input id := by
  cases moved with
  | drop after gone notice rest effect issued counted distinct held left settles providers newcomers leavers silent
      passed rules => exact rules id
  | revise => exact .inl rfl

/-- The requirements are these, or the input is about them. -/
def Ruled (input : Input) (id : String) (rules : Option (DashMap String PermissionType)) (kernel : Kernel) : Prop :=
  kernel.registry.actionRequirements.get id = rules ∨ Requires input id

theorem Step.rules (step : Step input kernel after sends) (id : String) :
    after.registry.actionRequirements.get id = kernel.registry.actionRequirements.get id ∨ Requires input id := by
  refine @Step.preserves (fun later _ => Ruled input id _ later) input ?_ kernel after sends [] ?_ step (.inl rfl)
  · intro kernel after sends log moved ruled
    exact ruled.elim (fun same => (moved.rules id).imp_left (·.trans same)) .inr
  · intro ambient msg before added key pending first log origin early present issues ruled
    rw [issues.result]
    exact ruled

end Registrations

theorem System.registration_stays (config : Config) (before after : List Input) {id : String} {entry : PluginEntry}
    (registered : ((System.machine config).run before).kernel.registry.byPluginId.get id = some entry) :
    ((System.machine config).run (before ++ after)).kernel.registry.byPluginId.get id = some entry ∨
      ∃ input ∈ after, Unseats input id entry.connId := by
  induction after using List.reverseRecOn with
  | nil => exact .inl (by simpa using registered)
  | append_singleton after input ih =>
    rcases ih with stays | ⟨ending, member, unseats⟩
    · obtain ⟨sends, -, step⟩ := System.step_step config ((System.machine config).run (before ++ after)) input
      rw [← List.append_assoc, Machine.run_append]
      exact (step.leavers stays).imp_right fun unseats => ⟨input, by simp, unseats⟩
    · exact .inr ⟨ending, by simp [member], unseats⟩

/-- Registry invariants hold in every state the system reaches. -/
theorem System.run_registry (config : Config) {valid : Registry → Prop} (initial : valid {})
    (preserved : ∀ {registry after}, Registry.Effect registry after → valid registry → valid after)
    (inputs : List Input) : valid ((System.machine config).run inputs).kernel.registry :=
  @System.run_preserves (fun kernel _ => valid kernel.registry) config initial
    (fun moved => preserved moved.effect) (fun issues => preserved issues.effect) inputs

theorem System.consistent (config : Config) (inputs : List Input) :
    ((System.machine config).run inputs).kernel.registry.Consistent :=
  System.run_registry config .initial .effect inputs

theorem System.indexed (config : Config) (inputs : List Input) :
    ((System.machine config).run inputs).kernel.registry.Indexed :=
  System.run_registry config .initial .effect inputs

end Vynkor
