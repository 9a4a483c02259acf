import Vynkor.Lib.DashMap
import Vynkor.Lib.Machine

/-! The lock that keeps a second kernel from starting. It is on the file that was open, not
on its path: a kernel removes the path when it leaves, and any process may find the path
naming another file than the one it has open. -/

namespace Vynkor
open Lib

/-- How far a kernel has come, with the file it has open. -/
inductive InstanceStage
  | opened (file : Nat)
  | locked (file : Nat)
  | emptied (file : Nat)
  | running (file : Nat)
  | leaving (file : Nat)
  | refused (pid : Option Nat)
  deriving DecidableEq, Repr

/-- The file on which the kernel holds the lock. -/
def InstanceStage.holds : InstanceStage → Option Nat
  | locked file | emptied file | running file | leaving file => some file
  | opened _ | refused _ => none

/-- A file is known by its number; what it contains is the pid that it spells, if any.
Kernels are known by their pids. -/
structure PidFiles where
  path : Option Nat := none
  contents : DashMap Nat (Option Nat) := ∅
  created : Nat := 0
  kernels : DashMap Nat InstanceStage := ∅

/-- The system calls of the kernels. `exit` may come at any time, and closes the file. The
commands take no lock: `publish` is `write_pid` of the process that started a kernel in the
background, `prune` the removal of the path by `is_running`, `stop_kernel` or that process. -/
inductive InstanceInput
  | openFile (pid : Nat)
  | lock (pid : Nat)
  | empty (pid : Nat)
  | write (pid : Nat)
  | remove (pid : Nat)
  | exit (pid : Nat)
  | publish (pid : Nat)
  | prune

namespace PidFiles
variable (files : PidFiles)

def enter (pid : Nat) (stage : InstanceStage) : PidFiles := { files with kernels := files.kernels.insert pid stage }

/-- `O_CREAT`: the file that the path names, or a new one. -/
def create : PidFiles × Nat :=
  match files.path with
  | some file => (files, file)
  | none =>
    ({ files with
        path := some files.created
        contents := files.contents.insert files.created none
        created := files.created + 1 }, files.created)

def openFile (pid : Nat) : PidFiles :=
  match files.kernels.get pid with
  | none => files.create.1.enter pid (.opened files.create.2)
  | some _ => files

/-- Whoever does not get the lock reads the pid of the holder and leaves the file alone. -/
def lock (pid : Nat) : PidFiles :=
  match files.kernels.get pid with
  | some (.opened file) =>
    if files.kernels.any (fun stage => stage.holds == some file) then
      files.enter pid (.refused ((files.contents.get file).join))
    else files.enter pid (.locked file)
  | _ => files

/-- Truncated only once the lock is taken. -/
def empty (pid : Nat) : PidFiles :=
  match files.kernels.get pid with
  | some (.locked file) => { files with contents := files.contents.insert file none }.enter pid (.emptied file)
  | _ => files

def write (pid : Nat) : PidFiles :=
  match files.kernels.get pid with
  | some (.emptied file) => { files with contents := files.contents.insert file (some pid) }.enter pid (.running file)
  | _ => files

/-- The path goes first, the lock with the file afterwards. -/
def remove (pid : Nat) : PidFiles :=
  match files.kernels.get pid with
  | some (.running file) => { files with path := none }.enter pid (.leaving file)
  | _ => files

def publish (pid : Nat) : PidFiles :=
  { files.create.1 with contents := files.create.1.contents.insert files.create.2 (some pid) }

def step : InstanceInput → PidFiles
  | .openFile pid => files.openFile pid
  | .lock pid => files.lock pid
  | .empty pid => files.empty pid
  | .write pid => files.write pid
  | .remove pid => files.remove pid
  | .exit pid => { files with kernels := files.kernels.remove pid }
  | .publish pid => files.publish pid
  | .prune => { files with path := none }

def machine : Machine PidFiles InstanceInput := ⟨{}, step⟩

end PidFiles
end Vynkor
