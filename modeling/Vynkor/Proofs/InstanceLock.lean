import Vynkor.Instance

/-! As long as nobody takes the path away from under a lock, at most one kernel runs, and
every further one is turned away. -/

namespace Vynkor
open Lib

/-- The file on which the kernel relies until it leaves. -/
def InstanceStage.claims : InstanceStage → Option Nat
  | locked file | emptied file | running file => some file
  | opened _ | leaving _ | refused _ => none

def InstanceStage.tries : InstanceStage → Option Nat
  | opened file => some file
  | locked _ | emptied _ | running _ | leaving _ | refused _ => none

private theorem InstanceStage.holds_of_claims {stage : InstanceStage} {file : Nat} (claims : stage.claims = some file) :
    stage.holds = some file := by
  cases stage with
  | locked | emptied | running => exact claims
  | opened | leaving | refused => cases claims

namespace PidFiles

/-- A lock is attempted on the file that the path still names, and the path of a file on
which a kernel relies is not removed by others. -/
def Careful (files : PidFiles) : InstanceInput → Prop
  | .lock pid => ∀ stage ∈ files.kernels.get pid, ∀ file ∈ stage.tries, files.path = some file
  | .prune => ∀ file ∈ files.path, files.kernels.any (fun stage => stage.claims == some file) = false
  | _ => True

instance decidableCareful (files : PidFiles) : (input : InstanceInput) → Decidable (Careful files input)
  | .lock _ => inferInstanceAs (Decidable (∀ _ ∈ _, ∀ _ ∈ _, _))
  | .prune => inferInstanceAs (Decidable (∀ _ ∈ _, _))
  | .openFile _ | .empty _ | .write _ | .remove _ | .exit _ | .publish _ => .isTrue trivial

/-- The steps that change anything, with the circumstances in which they are taken. -/
inductive Turns (files : PidFiles) : InstanceInput → PidFiles → Prop
  | stay (input) : Turns files input files
  | opened (pid) (idle : files.kernels.get pid = none) :
      Turns files (.openFile pid) (files.create.1.enter pid (.opened files.create.2))
  | locked (pid file) (ready : files.kernels.get pid = some (.opened file))
      (free : ∀ other stage, files.kernels.get other = some stage → stage.holds ≠ some file) :
      Turns files (.lock pid) (files.enter pid (.locked file))
  | refused (pid file reported) (ready : files.kernels.get pid = some (.opened file)) :
      Turns files (.lock pid) (files.enter pid (.refused reported))
  | emptied (pid file contents) (ready : files.kernels.get pid = some (.locked file)) :
      Turns files (.empty pid) ({ files with contents }.enter pid (.emptied file))
  | wrote (pid file contents) (ready : files.kernels.get pid = some (.emptied file)) :
      Turns files (.write pid) ({ files with contents }.enter pid (.running file))
  | removed (pid file) (ready : files.kernels.get pid = some (.running file)) :
      Turns files (.remove pid) ({ files with path := none }.enter pid (.leaving file))
  | exited (pid) : Turns files (.exit pid) { files with kernels := files.kernels.remove pid }
  | published (pid) : Turns files (.publish pid) (files.publish pid)
  | pruned : Turns files .prune { files with path := none }

variable {files after : PidFiles} {input : InstanceInput}

private theorem lock_refuses {pid other file : Nat} {stage : InstanceStage} (ready : files.kernels.get pid = some (.opened file))
    (held : files.kernels.get other = some stage) (holds : stage.holds = some file) :
    (machine.runFrom files [.lock pid]).kernels.get pid = some (.refused (files.contents.get file).join) := by
  have taken := (DashMap.any_iff files.kernels fun stage => stage.holds == some file).mpr
    ⟨other, stage, held, by rw [holds]; exact beq_self_eq_true _⟩
  simp [machine, step, lock, ready, taken, enter]

private theorem lock_turns (files : PidFiles) (pid : Nat) : Turns files (.lock pid) (files.lock pid) := by
  simp only [lock]
  split
  next file ready =>
    split
    next taken => exact .refused pid file _ ready
    next free =>
      refine .locked pid file ready fun other stage held holds => free ?_
      exact (DashMap.any_iff _ _).mpr ⟨other, stage, held, by rw [holds]; exact beq_self_eq_true _⟩
  next => exact .stay _

theorem step_turns (files : PidFiles) (input : InstanceInput) : Turns files input (files.step input) := by
  cases input with
  | openFile pid =>
    simp only [step, openFile]
    split
    next idle => exact .opened pid idle
    next => exact .stay _
  | lock pid => exact lock_turns files pid
  | empty pid =>
    simp only [step, PidFiles.empty]
    split
    next file ready => exact .emptied pid file _ ready
    next => exact .stay _
  | write pid =>
    simp only [step, write]
    split
    next file ready => exact .wrote pid file _ ready
    next => exact .stay _
  | remove pid =>
    simp only [step, remove]
    split
    next file ready => exact .removed pid file ready
    next => exact .stay _
  | exit pid => exact .exited pid
  | publish pid => exact .published pid
  | prune => exact .pruned

structure Exclusive (files : PidFiles) : Prop where
  /-- A file is locked by one kernel at most. -/
  single : ∀ {pid other stage held file}, files.kernels.get pid = some stage → files.kernels.get other = some held →
    stage.holds = some file → held.holds = some file → pid = other
  /-- A file on which a kernel relies is the one that the path names. -/
  named : ∀ {pid stage file}, files.kernels.get pid = some stage → stage.claims = some file → files.path = some file

private theorem create_path {file : Nat} (named : files.path = some file) : files.create = (files, file) := by
  simp only [create, named]

private theorem create_kernels (files : PidFiles) : files.create.1.kernels = files.kernels := by
  simp only [create]
  split <;> rfl

namespace Exclusive
variable (exclusive : files.Exclusive)
include exclusive

theorem enter {pid : Nat} {stage : InstanceStage}
    (alone : ∀ {other held file}, files.kernels.get other = some held → stage.holds = some file →
      held.holds = some file → other = pid)
    (named : ∀ {file}, stage.claims = some file → files.path = some file) : (files.enter pid stage).Exclusive := by
  constructor
  · intro first second one two file heldFirst heldSecond oneHolds twoHolds
    rcases DashMap.insert_cases heldFirst with ⟨rfl, rfl⟩ | ⟨-, oldFirst⟩
    · rcases DashMap.insert_cases heldSecond with ⟨rfl, -⟩ | ⟨-, oldSecond⟩
      · rfl
      · exact (alone oldSecond oneHolds twoHolds).symm
    · rcases DashMap.insert_cases heldSecond with ⟨rfl, rfl⟩ | ⟨-, oldSecond⟩
      · exact alone oldFirst twoHolds oneHolds
      · exact exclusive.single oldFirst oldSecond oneHolds twoHolds
  · intro other held file found relies
    rcases DashMap.insert_cases found with ⟨rfl, rfl⟩ | ⟨-, old⟩
    · exact named relies
    · exact exclusive.named old relies

theorem advance {pid file : Nat} {before stage : InstanceStage} (ready : files.kernels.get pid = some before)
    (locked : before.claims = some file) (kept : stage.holds = some file) : (files.enter pid stage).Exclusive := by
  apply exclusive.enter
  · intro other held taken found holds otherHolds
    cases kept.symm.trans holds
    exact exclusive.single found ready otherHolds (InstanceStage.holds_of_claims locked)
  · intro taken relies
    cases kept.symm.trans (InstanceStage.holds_of_claims relies)
    exact exclusive.named ready locked

private theorem recreate (contents : DashMap Nat (Option Nat)) : { files.create.1 with contents }.Exclusive := by
  constructor
  · intro first second one two file heldFirst heldSecond
    simp only [create_kernels] at heldFirst heldSecond
    exact exclusive.single heldFirst heldSecond
  · intro pid stage file held relies
    simp only [create_kernels] at held
    have named := exclusive.named held relies
    simp only [create_path named, named]

private theorem unnamed (unused : ∀ {pid stage file}, files.kernels.get pid = some stage → stage.claims = some file → False) :
    { files with path := none }.Exclusive :=
  ⟨exclusive.single, fun held relies => (unused held relies).elim⟩

theorem turns (careful : Careful files input) (turns : Turns files input after) : after.Exclusive := by
  cases turns with
  | stay => exact exclusive
  | opened => exact (exclusive.recreate files.create.1.contents).enter nofun nofun
  | locked pid file ready free =>
    apply exclusive.enter
    · intro other held taken found holds otherHolds
      cases holds
      exact absurd otherHolds (free other held found)
    · intro taken relies
      cases relies
      exact careful _ ready file rfl
  | refused => exact exclusive.enter nofun nofun
  | emptied pid file contents ready | wrote pid file contents ready =>
    have rewritten : { files with contents }.Exclusive := ⟨exclusive.single, exclusive.named⟩
    exact rewritten.advance ready rfl rfl
  | removed pid file ready =>
    have left : (files.enter pid (.leaving file)).Exclusive := exclusive.advance ready rfl rfl
    refine left.unnamed fun {other stage taken} found relies => ?_
    rcases DashMap.insert_cases found with ⟨rfl, rfl⟩ | ⟨apart, old⟩
    · cases relies
    · -- whoever else relies on a file relies on the one that the path named
      cases (exclusive.named ready rfl).symm.trans (exclusive.named old relies)
      exact apart (exclusive.single old ready (InstanceStage.holds_of_claims relies) rfl)
  | exited pid =>
    refine ⟨fun heldFirst heldSecond => ?_, fun held => exclusive.named (DashMap.remove_some.mp held).2⟩
    exact exclusive.single (DashMap.remove_some.mp heldFirst).2 (DashMap.remove_some.mp heldSecond).2
  | published pid => exact exclusive.recreate _
  | pruned =>
    refine exclusive.unnamed fun {pid stage file} held relies => ?_
    have unused := careful file (exclusive.named held relies)
    have used := (DashMap.any_iff files.kernels fun stage => stage.claims == some file).mpr
      ⟨pid, stage, held, by rw [relies]; exact beq_self_eq_true _⟩
    cases unused.symm.trans used

end Exclusive

/-- While a kernel holds the lock and has not left, no other one does, and every call that tries
the lock is turned away, whenever its kernel opened the file. -/
theorem one_instance_runs (inputs : List InstanceInput) (careful : machine.Obeys Careful machine.init inputs)
    (pid file : Nat) (stage : InstanceStage) (held : (machine.run inputs).kernels.get pid = some stage)
    (claims : stage.claims = some file) :
    (∀ other its taken, (machine.run inputs).kernels.get other = some its → its.claims = some taken → other = pid) ∧
    (∀ other opened, (machine.run inputs).kernels.get other = some (.opened opened) →
      Careful (machine.run inputs) (.lock other) →
      ∃ reported, (machine.run (inputs ++ [.lock other])).kernels.get other = some (.refused reported)) ∧
    ∀ other, (machine.run inputs).kernels.get other = none →
      ∃ reported, (machine.run (inputs ++ [.openFile other, .lock other])).kernels.get other =
        some (.refused reported) := by
  have initial : machine.init.Exclusive := ⟨nofun, nofun⟩
  have exclusive : (machine.run inputs).Exclusive :=
    careful.run_preserves initial fun files input careful exclusive =>
      exclusive.turns careful (files.step_turns input)
  have named := exclusive.named held claims
  have holds := InstanceStage.holds_of_claims claims
  simp only [Machine.run_append]
  generalize machine.run inputs = files at *
  refine ⟨fun other its taken also relies => ?_, fun other opened ready careful => ?_, fun other idle => ?_⟩
  · cases named.symm.trans (exclusive.named also relies)
    exact exclusive.single also held (InstanceStage.holds_of_claims relies) holds
  · cases named.symm.trans (careful _ ready opened rfl)
    exact ⟨_, lock_refuses ready held holds⟩
  · have apart : pid ≠ other := by
      rintro rfl
      cases held.symm.trans idle
    have opens : machine.step files (.openFile other) = files.enter other (.opened file) := by
      simp only [machine, step, openFile, idle, create_path named]
    have still : (files.enter other (.opened file)).kernels.get pid = some stage := by simpa [enter, apart] using held
    rw [Machine.runFrom_cons, opens]
    exact ⟨_, lock_refuses (by simp [enter]) still holds⟩

def takenOver : List InstanceInput :=
  [.openFile 7, .lock 7, .empty 7, .write 7, .publish 7, .openFile 9, .exit 7, .openFile 8, .lock 8, .empty 8, .write 8]

theorem one_instance_runs_taken_over :
    (machine.run takenOver).kernels.get 8 = some (.running 0) ∧
    (∃ reported, (machine.run (takenOver ++ [.lock 9])).kernels.get 9 = some (.refused reported)) ∧
    ∃ reported, (machine.run (takenOver ++ [.openFile 6, .lock 6])).kernels.get 6 = some (.refused reported) := by
  obtain ⟨-, waiting, new⟩ := one_instance_runs takenOver (by decide) 8 0 (.running 0) (by decide) rfl
  exact ⟨by decide, waiting 9 0 (by decide) (by decide), new 6 (by decide)⟩

end PidFiles
end Vynkor
