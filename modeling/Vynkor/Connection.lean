import Mathlib.Data.List.Sort
import Vynkor.Framing
import Vynkor.Lib.DashMap
import Vynkor.Lib.Machine

/-! The read loop of a Unix-socket connection. Frames arrive one by one with the key
that is installed at that moment; fragments are collected per stream until a message
is complete. -/

namespace Vynkor
open Lib

/-- A frame as the read loop gets it: the session key it finds, and the clock when it
prunes and when it opens a buffer. -/
structure Arrival where
  frame : Frame
  key : Option SessionKey := none
  now : Instant := 0
  opened : Instant := 0
  deriving DecidableEq, Repr

/-- `source` is a history variable: the frame the bytes were taken from. -/
structure Fragment where
  data : Bytes
  source : Arrival
  deriving DecidableEq, Repr

structure ReassemblyBuf where
  fragments : DashMap Nat Fragment := ∅
  total : Nat
  target : Option String
  targetBytes : Bytes
  firstSeen : Instant
  bufferedBytes : Nat := 0

/-- Why a read loop ends. `readFailed` is an error of `read_frame` and `panicked` a slice
or arithmetic panic of the task. -/
inductive ReadEnd
  | readFailed | macInvalid | macMissing | fragmentHeader | fragmentInvalid | fragmentTotalMismatch | reassemblyStreamCap
  | reassemblyOversized | panicked
  deriving DecidableEq, Repr

/-- The limits of `with_limits`, and whether the build checks integer overflow. -/
structure ReadLimits where
  fragmentTimeout : Nat := secs 30
  maxReassemblyStreams : Nat := 64
  overflowChecks : Bool := false

def usizeSpan : Nat := 18446744073709551616

/-- `none` is the panic of a checked build. -/
def usizeAdd (checks : Bool) (first second : Nat) : Option Nat :=
  if first + second < usizeSpan then some (first + second)
  else if checks then none
  else some ((first + second) % usizeSpan)

def usizeSub (checks : Bool) (first second : Nat) : Option Nat :=
  if second ≤ first then some (first - second)
  else if checks then none
  else some (first + usizeSpan - second)

namespace ReassemblyBuf

def isComplete (buf : ReassemblyBuf) : Bool := buf.fragments.keys.length == buf.total

/-- The fragments in sequence order. -/
def inOrder (buf : ReassemblyBuf) : List Fragment :=
  (buf.fragments.keys.insertionSort (· ≤ ·)).filterMap buf.fragments.get

def reassemble (buf : ReassemblyBuf) : Bytes := buf.inOrder.flatMap Fragment.data

/-- Stores one fragment. A re-sent sequence replaces its old bytes. -/
def store (codec : Codec) (limits : ReadLimits) (buf : ReassemblyBuf) (sequence : Nat) (fragment : Fragment) :
    Except ReadEnd ReassemblyBuf :=
  let size := fragment.data.length
  let replaced := ((buf.fragments.get sequence).map fun old => old.data.length).getD 0
  match (usizeAdd limits.overflowChecks buf.bufferedBytes size).bind (usizeSub limits.overflowChecks · replaced) with
  | none => .error .panicked
  | some grown =>
    if codec.maxPayloadSize < grown then .error .reassemblyOversized
    else
      match (usizeSub limits.overflowChecks size replaced).bind (usizeAdd limits.overflowChecks buf.bufferedBytes) with
      | none => .error .panicked
      | some bytes =>
        .ok { buf with bufferedBytes := bytes, fragments := buf.fragments.insert sequence fragment }

end ReassemblyBuf

abbrev ReassemblyMap := DashMap Nat ReassemblyBuf

def pruneStaleReassembly (map : ReassemblyMap) (now : Instant) (fragmentTimeout : Nat) : ReassemblyMap :=
  map.retain fun buf => decide (now - buf.firstSeen < fragmentTimeout)

/-- A frame handed to the router. `sources` is a history variable: the frames its
payload was taken from. -/
structure Dispatch where
  frame : Frame
  sources : List Arrival
  deriving DecidableEq, Repr

inductive ReadOutcome
  | dropped (reason : ReadEnd)
  | buffered (map : ReassemblyMap)
  | dispatched (map : ReassemblyMap) (dispatch : Dispatch)

/-- The reassembled message: header of the last frame, target of the first. -/
def assembled (codec : Codec) (last : Frame) (buf : ReassemblyBuf) : Frame where
  magic := last.magic
  flags := last.flags &&& ~~~flagFragmented
  length := asU32 buf.reassemble.length
  target := buf.target
  targetBytes := buf.targetBytes
  crc32 := codec.crc32 buf.reassemble
  payload := .ofBytes codec.decode buf.reassemble

def addFragment (codec : Codec) (limits : ReadLimits) (map : ReassemblyMap) (arrival : Arrival) (header : FragmentHeader)
    (entry : ReassemblyBuf) : ReadOutcome :=
  -- the slice of the header panics on a payload that is too short
  if arrival.frame.bytes.length < fragHeaderSize then .dropped .panicked
  else
    match entry.store codec limits header.sequence ⟨arrival.frame.bytes.drop fragHeaderSize, arrival⟩ with
    | .error reason => .dropped reason
    | .ok buf =>
      if buf.isComplete then
        .dispatched (map.remove header.streamId) ⟨assembled codec arrival.frame buf, buf.inOrder.map Fragment.source⟩
      else .buffered (map.insert header.streamId buf)

def openBuffer (arrival : Arrival) (header : FragmentHeader) : ReassemblyBuf where
  total := header.total
  target := arrival.frame.target
  targetBytes := arrival.frame.targetBytes
  firstSeen := arrival.opened

def receiveFragment (codec : Codec) (limits : ReadLimits) (map : ReassemblyMap) (arrival : Arrival)
    (header : FragmentHeader) : ReadOutcome :=
  if header.total = 0 ∨ header.sequence ≥ header.total then .dropped .fragmentInvalid
  else
    match map.get header.streamId with
    | some existing =>
      if existing.total ≠ header.total then .dropped .fragmentTotalMismatch
      else addFragment codec limits map arrival header existing
    | none =>
      if map.keys.length ≥ limits.maxReassemblyStreams then .dropped .reassemblyStreamCap
      else addFragment codec limits map arrival header (openBuffer arrival header)

/-- A secured connection accepts only frames with a valid tag. -/
def macFault (codec : Codec) (arrival : Arrival) : Option ReadEnd :=
  match arrival.key with
  | none => none
  | some key =>
    if codec.verified key arrival.frame then none
    else some (if Codec.tagPresent arrival.frame then .macInvalid else .macMissing)

def receive (codec : Codec) (limits : ReadLimits) (map : ReassemblyMap) (arrival : Arrival) : ReadOutcome :=
  match macFault codec arrival with
  | some reason => .dropped reason
  | none =>
    let map := pruneStaleReassembly map arrival.now limits.fragmentTimeout
    if arrival.frame.hasFlag flagFragmented then
      match codec.parseFragHeader arrival.frame.bytes with
      | none => .dropped .fragmentHeader
      | some header => receiveFragment codec limits map arrival header
    else .dispatched map ⟨arrival.frame, [arrival]⟩

/-- `dispatched` is a history variable: what the loop has handed to the router. -/
structure Reader where
  map : ReassemblyMap := ∅
  ended : Option ReadEnd := none
  dispatched : List Dispatch := []

namespace Reader

def step (codec : Codec) (limits : ReadLimits) (reader : Reader) (arrival : Arrival) : Reader :=
  if reader.ended.isSome then reader
  else
    match receive codec limits reader.map arrival with
    | .dropped reason => { reader with ended := some reason }
    | .buffered map => { reader with map }
    | .dispatched map dispatch => { reader with map, dispatched := reader.dispatched ++ [dispatch] }

/-- What the loop hands to the router for a frame. -/
def emits (codec : Codec) (limits : ReadLimits) (reader : Reader) (arrival : Arrival) : Option Dispatch :=
  if reader.ended.isSome then none
  else
    match receive codec limits reader.map arrival with
    | .dispatched _ dispatch => some dispatch
    | _ => none

def machine (codec : Codec) (limits : ReadLimits) : Machine Reader Arrival := ⟨{}, step codec limits⟩

end Reader
end Vynkor
