import Mathlib.Data.List.Induction
import Mathlib.Data.Option.Basic
import Mathlib.Logic.Function.Basic
import Vynkor.Credentials

/-! The device store as a map of credentials. The rows agree with the map that the successful
calls describe, and a device may use its secret as long as the map says, if no lifetime runs
past the end of the clock. -/

namespace Vynkor
open Lib

/-- What was issued last for a device, and whether it is revoked. -/
structure Credential where
  secret : String
  issuedAt : UInt64
  ttlSecs : UInt64
  revoked : Bool := false
  deriving DecidableEq, Repr

abbrev Credentials := String → Option Credential

namespace Credentials

def apply (credentials : Credentials) : DeviceEvent → Credentials
  | .issued deviceId secret now ttlSecs => Function.update credentials deviceId (some ⟨secret, now, ttlSecs, false⟩)
  | .revoked deviceId revoked =>
    Function.update credentials deviceId ((credentials deviceId).map fun credential => { credential with revoked })
  | .removed deviceId => Function.update credentials deviceId none

def of (events : List DeviceEvent) : Credentials := events.foldl apply fun _ => none

theorem of_append (events : List DeviceEvent) (event : DeviceEvent) : of (events ++ [event]) = (of events).apply event :=
  List.foldl_append

end Credentials

def DeviceEvent.deviceId : DeviceEvent → String
  | .issued deviceId _ _ _ | .revoked deviceId _ | .removed deviceId => deviceId

/-- The event replaces the credential of the device or removes it. -/
def DeviceEvent.ends (deviceId : String) : DeviceEvent → Bool
  | .issued other _ _ _ | .removed other => other = deviceId
  | .revoked _ _ => false

def DeviceEvent.revocation (deviceId : String) : DeviceEvent → Option Bool
  | .revoked other said => if other = deviceId then some said else none
  | .issued _ _ _ _ | .removed _ => none

theorem DeviceEvent.deviceId_of_ends {event : DeviceEvent} {deviceId : String} (ends : event.ends deviceId = true) :
    event.deviceId = deviceId := by
  cases event with
  | issued | removed => exact of_decide_eq_true ends
  | revoked => cases ends

private theorem DeviceEvent.revocation_other {event : DeviceEvent} {deviceId : String} (apart : event.deviceId ≠ deviceId) :
    event.revocation deviceId = none := by
  cases event with
  | revoked => exact if_neg apart
  | issued | removed => rfl

theorem DeviceEvent.deviceId_of_revocation {event : DeviceEvent} {deviceId : String} {said : Bool}
    (marked : event.revocation deviceId = some said) : event.deviceId = deviceId := by
  by_contra apart
  rw [DeviceEvent.revocation_other apart] at marked
  cases marked

/-- Whether the device was revoked, by the last event that says so. -/
def lastRevocation (deviceId : String) (events : List DeviceEvent) : Option Bool :=
  (events.filterMap (DeviceEvent.revocation deviceId)).getLast?

private theorem lastRevocation_append (deviceId : String) (events : List DeviceEvent) (event : DeviceEvent) :
    lastRevocation deviceId (events ++ [event]) = (event.revocation deviceId).or (lastRevocation deviceId events) := by
  unfold lastRevocation
  rw [List.filterMap_append]
  cases said : event.revocation deviceId <;> simp [said]

/-- The credential was issued to the device, nothing has replaced or removed it since, and the
last revocation since then, if any, says whether it is revoked. -/
def Held (events : List DeviceEvent) (deviceId : String) (credential : Credential) : Prop :=
  ∃ before after,
    events = before ++ .issued deviceId credential.secret credential.issuedAt credential.ttlSecs :: after ∧
    (∀ event ∈ after, event.ends deviceId = false) ∧ credential.revoked = (lastRevocation deviceId after).getD false

section
variable {events : List DeviceEvent} {event : DeviceEvent} {deviceId : String} {credential : Credential}

theorem Held.issue (events : List DeviceEvent) (deviceId secret : String) (now ttlSecs : UInt64) :
    Held (events ++ [.issued deviceId secret now ttlSecs]) deviceId ⟨secret, now, ttlSecs, false⟩ :=
  ⟨events, [], rfl, nofun, rfl⟩

theorem Held.append (held : Held events deviceId credential) (stays : event.ends deviceId = false) :
    Held (events ++ [event]) deviceId
      { credential with revoked := (event.revocation deviceId).getD credential.revoked } := by
  obtain ⟨before, after, rfl, calm, revoked⟩ := held
  refine ⟨before, after ++ [event], by simp, ?_, ?_⟩
  · intro other member
    obtain old | new := List.mem_append.mp member
    · exact calm other old
    · exact List.mem_singleton.mp new ▸ stays
  · rw [lastRevocation_append, revoked]
    cases event.revocation deviceId <;> rfl

theorem Held.last (held : Held (events ++ [event]) deviceId credential) :
    event = .issued deviceId credential.secret credential.issuedAt credential.ttlSecs ∧ credential.revoked = false ∨
      event.ends deviceId = false ∧ ∃ old, Held events deviceId old ∧
        credential = { old with revoked := (event.revocation deviceId).getD old.revoked } := by
  obtain ⟨before, after, same, calm, revoked⟩ := held
  obtain rfl | ⟨rest, last, rfl⟩ := List.eq_nil_or_concat after
  · have lasts := List.append_inj_right' same rfl
    cases List.singleton_inj.mp lasts
    exact .inl ⟨rfl, revoked⟩
  · rw [List.concat_eq_append] at same calm revoked
    have cut : events ++ [event] = (before ++
        .issued deviceId credential.secret credential.issuedAt credential.ttlSecs :: rest) ++ [last] := by simpa using same
    obtain ⟨rfl, lasts⟩ := List.append_inj' cut rfl
    cases List.singleton_inj.mp lasts
    right
    refine ⟨calm event (List.mem_append_right _ List.mem_cons_self), ?_⟩
    rw [lastRevocation_append] at revoked
    refine ⟨{ credential with revoked := (lastRevocation deviceId rest).getD false }, ?_, ?_⟩
    · exact ⟨before, rest, rfl, fun other member => calm other (List.mem_append_left _ member), rfl⟩
    · cases said : event.revocation deviceId with
      | none | some => rw [said] at revoked; exact congrArg (fun held => { credential with revoked := held }) revoked

end

namespace Credentials
variable {credentials : Credentials} {event : DeviceEvent} {deviceId : String}

theorem apply_other (apart : event.deviceId ≠ deviceId) : credentials.apply event deviceId = credentials deviceId := by
  cases event <;> exact Function.update_of_ne (Ne.symm apart) _ _

theorem apply_stays (stays : event.ends deviceId = false) : credentials.apply event deviceId =
    (credentials deviceId).map fun old => { old with revoked := (event.revocation deviceId).getD old.revoked } := by
  by_cases same : event.deviceId = deviceId
  · subst same
    cases event with
    | issued deviceId secret now ttlSecs | removed deviceId => simp [DeviceEvent.ends, DeviceEvent.deviceId] at stays
    | revoked deviceId said =>
      simp only [DeviceEvent.revocation, DeviceEvent.deviceId, if_pos, Option.getD_some]
      exact Function.update_self ..
  · rw [apply_other same, DeviceEvent.revocation_other same]
    exact Option.map_id'.symm

/-- The map holds for each device what its last issue and the events since then say. -/
theorem of_eq_some_iff {events : List DeviceEvent} {credential : Credential} :
    of events deviceId = some credential ↔ Held events deviceId credential := by
  induction events using List.reverseRecOn generalizing credential with
  | nil =>
    constructor
    · intro held
      cases held
    · rintro ⟨before, after, none, -⟩
      simp at none
  | append_singleton events event ih =>
    rw [of_append]
    cases stays : event.ends deviceId with
    | false =>
      rw [apply_stays stays]
      constructor
      · intro held
        obtain ⟨old, there, rfl⟩ := Option.map_eq_some_iff.mp held
        exact (ih.mp there).append stays
      · intro held
        obtain ⟨rfl, -⟩ | ⟨-, old, there, rfl⟩ := held.last
        · simp [DeviceEvent.ends] at stays
        · rw [ih.mpr there]
          rfl
    | true =>
      cases event with
      | revoked => cases stays
      | issued =>
        cases of_decide_eq_true stays
        change Function.update _ deviceId _ deviceId = _ ↔ _
        rw [Function.update_self]
        constructor
        · rintro ⟨⟩
          exact Held.issue ..
        · intro held
          obtain ⟨same, revoked⟩ | ⟨left, -⟩ := held.last
          · cases credential
            cases same
            cases revoked
            rfl
          · cases left.symm.trans stays
      | removed other =>
        cases of_decide_eq_true stays
        change Function.update _ deviceId _ deviceId = _ ↔ _
        rw [Function.update_self]
        constructor
        · intro held
          cases held
        · intro held
          obtain ⟨same, -⟩ | ⟨left, -⟩ := held.last
          · cases same
          · cases left.symm.trans stays

/-- What the store answers for a device. The end of the lifetime is a machine sum. -/
def answer (credentials : Credentials) (deviceId : String) (now : UInt64) : Except StoreError (Option String) :=
  match credentials deviceId with
  | none => .ok none
  | some credential =>
    if credential.revoked then .error (.auth ("device '" ++ deviceId ++ "' is revoked — re-pair to restore access"))
    else if credential.issuedAt + credential.ttlSecs ≤ now then
      .error (.auth ("device '" ++ deviceId ++ "' credential expired — re-pair"))
    else .ok (some credential.secret)

private theorem answer_none {now : UInt64} : credentials.answer deviceId now = .ok none ↔ credentials deviceId = none := by
  unfold answer
  cases credentials deviceId with
  | none => simp
  | some credential =>
    simp only [reduceCtorEq, iff_false]
    split
    · simp
    · split <;> simp

theorem answer_some {now : UInt64} {secret : String} : credentials.answer deviceId now = .ok (some secret) ↔
    ∃ credential, credentials deviceId = some credential ∧ credential.secret = secret ∧ credential.revoked = false ∧
      now < credential.issuedAt + credential.ttlSecs := by
  unfold answer
  cases credentials deviceId with
  | none => simp
  | some credential =>
    simp only [Option.some.injEq, exists_eq_left']
    split
    next revoked => simp [revoked]
    next unrevoked =>
      split
      next late => simp [UInt64.not_lt.mpr late]
      next early => simp [unrevoked, UInt64.not_le.mp early]

end Credentials

namespace DeviceStore
variable {aead : Aead} {disk : Disk StoreError} {store : DeviceStore} {rows : List DeviceRecord} {credentials : Credentials}
  {deviceId : String}

private theorem unseal_seal {nonce : SealNonce} {secretHex : String} {enc : Bytes}
    (sealed : sealSecret aead nonce secretHex = .ok enc) : unsealSecret aead enc = .ok secretHex := by
  unfold sealSecret at sealed
  split at sealed
  · cases sealed
  next text made =>
    cases sealed
    have long := aead.encrypt_length made
    have size := nonce.length
    unfold unsealSecret
    rw [if_neg (by rw [List.length_append]; omega), ← size, List.take_left, List.drop_left, aead.decrypt_encrypt made]

def Readable (aead : Aead) (rows : List DeviceRecord) : Prop :=
  ∀ row ∈ rows, ∃ secret, unsealSecret aead row.secretEnc = .ok secret

private theorem checkRows_ok (readable : Readable aead rows) : checkRows aead rows = .ok () := by
  induction rows with
  | nil => rfl
  | cons row rows ih =>
    obtain ⟨secret, unsealed⟩ := readable row List.mem_cons_self
    unfold checkRows
    rw [unsealed]
    exact ih fun other member => readable other (List.mem_cons_of_mem _ member)

theorem transact_cases {α : Type} (readable : Readable aead store.rows) (disk : Disk StoreError)
    (body : List DeviceRecord → Except StoreError (Option (List DeviceRecord) × α)) :
    (∃ error, store.transact aead disk body = (store, .error error)) ∨
      ∃ written result, body store.rows = .ok (written, result) ∧
        store.transact aead disk body = (⟨written.getD store.rows⟩, .ok result) := by
  dsimp only [transact]
  obtain ⟨error, failed⟩ | ⟨written, result, computed, done⟩ := Disk.transact_cases disk store.rows _
  · exact .inl ⟨error, by rw [failed]⟩
  · simp only [checkRows_ok readable] at computed
    exact .inr ⟨written, result, computed, by rw [done]⟩

private theorem transact_read {α : Type} (readable : Readable aead store.rows) (works : disk.read = none)
    {body : List DeviceRecord → Except StoreError (Option (List DeviceRecord) × α)} {result : α}
    (computed : body store.rows = .ok (none, result)) : (store.transact aead disk body).2 = .ok result := by
  unfold transact Disk.transact
  rw [works]
  simp only [checkRows_ok readable, computed]

/-- The row says what the map says. -/
structure Holds (aead : Aead) (row : DeviceRecord) (credential : Credential) : Prop where
  secret : unsealSecret aead row.secretEnc = .ok credential.secret
  revoked : row.revoked = credential.revoked
  expires : row.expiresAt = credential.issuedAt + credential.ttlSecs

structure Agrees (aead : Aead) (store : DeviceStore) (credentials : Credentials) : Prop where
  unique : Table.Unique DeviceRecord.deviceId store.rows
  rows : ∀ deviceId, Option.Rel (Holds aead) (Table.find DeviceRecord.deviceId store.rows deviceId) (credentials deviceId)

theorem Agrees.empty (aead : Aead) : Agrees aead {} (Credentials.of []) := ⟨Table.Unique.empty _, fun _ => .none⟩

section
variable (agrees : Agrees aead store credentials)
include agrees

private theorem Agrees.readable : Readable aead store.rows := by
  intro row member
  have held := agrees.rows row.deviceId
  rw [agrees.unique.find_eq member] at held
  generalize credentials row.deviceId = credential at held
  cases held with
  | some holds => exact ⟨_, holds.secret⟩

theorem Agrees.set (unique : Table.Unique DeviceRecord.deviceId rows)
    {row : Option DeviceRecord} {credential : Option Credential}
    (found : ∀ other, Table.find DeviceRecord.deviceId rows other =
      if other = deviceId then row else Table.find DeviceRecord.deviceId store.rows other)
    (holds : Option.Rel (Holds aead) row credential) :
    Agrees aead ⟨rows⟩ (Function.update credentials deviceId credential) := by
  refine ⟨unique, ?_⟩
  intro other
  rw [found]
  split
  next same =>
    rw [same, Function.update_self]
    exact holds
  next apart =>
    rw [Function.update_of_ne apart]
    exact agrees.rows other

theorem Agrees.absent : Table.find DeviceRecord.deviceId store.rows deviceId = none ↔ credentials deviceId = none := by
  have held := agrees.rows deviceId
  generalize Table.find DeviceRecord.deviceId store.rows deviceId = row at held ⊢
  generalize credentials deviceId = credential at held ⊢
  cases held <;> simp

theorem Agrees.issue (disk : Disk StoreError) (nonce : SealNonce)
    (secretHex : String) (now : UInt64) (deviceId name : String) (ttlSecs : UInt64) :
    (∃ error, store.issue aead disk nonce secretHex now deviceId name ttlSecs = (store, .error error)) ∨
      ∃ after, store.issue aead disk nonce secretHex now deviceId name ttlSecs = (after, .ok secretHex) ∧
        after.Agrees aead (credentials.apply (.issued deviceId secretHex now ttlSecs)) := by
  unfold DeviceStore.issue
  obtain ⟨error, failed⟩ | ⟨written, result, computed, done⟩ := transact_cases agrees.readable disk _
  · exact .inl ⟨error, failed⟩
  right
  rw [done]
  cases sealed : sealSecret aead nonce secretHex with
  | error error =>
    simp only [sealed] at computed
    cases computed
  | ok enc =>
    have holds : Option.Rel (Holds aead) (some ⟨deviceId, name, now, now + ttlSecs, false, enc⟩)
      (some ⟨secretHex, now, ttlSecs, false⟩) := .some ⟨unseal_seal sealed, rfl, rfl⟩
    cases found : Table.find DeviceRecord.deviceId store.rows deviceId with
    | none =>
      simp only [sealed, found] at computed
      cases computed
      refine ⟨_, rfl, agrees.set (agrees.unique.append found) ?_ holds⟩
      intro other
      rw [Table.find_append]
      by_cases same : other = deviceId
      · rw [if_pos same, same, found, if_pos rfl]
        rfl
      · rw [if_neg same, if_neg (Ne.symm same), Option.or_none]
    | some row =>
      simp only [sealed, found] at computed
      cases computed
      have keeps (row : DeviceRecord) : (row.rotate name now ttlSecs enc).deviceId = row.deviceId := rfl
      have rotated : row.rotate name now ttlSecs enc = ⟨deviceId, name, now, now + ttlSecs, false, enc⟩ := by
        rw [← (Table.find_some found).2]
        rfl
      refine ⟨_, rfl, agrees.set (agrees.unique.update keeps deviceId) ?_ holds⟩
      intro other
      rw [Table.find_update keeps, found, Option.map_some, rotated]

theorem Agrees.setRevoked (disk : Disk StoreError) (deviceId : String) (revoked : Bool) :
    (∃ error, store.setRevoked aead disk deviceId revoked = (store, .error error)) ∨
      ∃ after changed, store.setRevoked aead disk deviceId revoked = (after, .ok changed) ∧
        after.Agrees aead (credentials.apply (.revoked deviceId revoked)) := by
  unfold DeviceStore.setRevoked
  obtain ⟨error, failed⟩ | ⟨written, changed, computed, done⟩ := transact_cases agrees.readable disk _
  · exact .inl ⟨error, failed⟩
  right
  rw [done]
  refine ⟨_, changed, rfl, ?_⟩
  have holds : Option.Rel (Holds aead)
      ((Table.find DeviceRecord.deviceId store.rows deviceId).map (DeviceRecord.setRevoked revoked))
      ((credentials deviceId).map fun credential => { credential with revoked }) := by
    have held := agrees.rows deviceId
    generalize Table.find DeviceRecord.deviceId store.rows deviceId = row at held ⊢
    generalize credentials deviceId = credential at held ⊢
    cases held with
    | none => exact .none
    | some holds => exact .some ⟨holds.secret, rfl, holds.expires⟩
  cases computed
  split
  next there =>
    have keeps (row : DeviceRecord) : (row.setRevoked revoked).deviceId = row.deviceId := rfl
    refine agrees.set (agrees.unique.updateAll keeps deviceId) ?_ holds
    intro other
    exact Table.find_updateAll keeps ..
  next absent =>
    have missing : Table.find DeviceRecord.deviceId store.rows deviceId = none := by
      rw [Table.find_none]
      intro row member same
      exact absent (List.any_eq_true.mpr ⟨row, member, decide_eq_true same⟩)
    refine agrees.set agrees.unique ?_ holds
    intro other
    by_cases same : other = deviceId
    · rw [if_pos same, same, missing]
      rfl
    · rw [if_neg same]

theorem Agrees.remove (disk : Disk StoreError) (deviceId : String) :
    (∃ error, store.remove aead disk deviceId = (store, .error error)) ∨
      ∃ after removed, store.remove aead disk deviceId = (after, .ok removed) ∧
        after.Agrees aead (credentials.apply (.removed deviceId)) := by
  unfold DeviceStore.remove
  obtain ⟨error, failed⟩ | ⟨written, removed, computed, done⟩ := transact_cases agrees.readable disk _
  · exact .inl ⟨error, failed⟩
  right
  rw [done]
  refine ⟨_, removed, rfl, ?_⟩
  have kept : written.getD store.rows = store.rows.filter fun row => row.deviceId ≠ deviceId := by
    dsimp only at computed
    split at computed
    next => cases computed; rfl
    next all =>
      cases computed
      exact (List.filter_sublist.eq_of_length (not_not.mp all)).symm
  rw [kept]
  refine agrees.set (agrees.unique.filter _) ?_ .none
  intro other
  exact Table.find_without ..

theorem Agrees.get_none (got : store.get aead disk deviceId = .ok none) : credentials deviceId = none := by
  rw [← agrees.absent]
  unfold DeviceStore.get at got
  obtain ⟨error, failed⟩ | ⟨written, result, computed, done⟩ := transact_cases agrees.readable disk _
  · rw [failed] at got
    cases got
  · rw [done] at got
    cases got
    cases found : Table.find DeviceRecord.deviceId store.rows deviceId with
    | none => rfl
    | some row =>
      simp only [found] at computed
      split at computed <;> cases computed

theorem Agrees.activeSecret (works : disk.read = none) (deviceId : String)
    (now : UInt64) : store.activeSecret aead disk deviceId now = credentials.answer deviceId now := by
  have held := agrees.rows deviceId
  unfold DeviceStore.activeSecret Credentials.answer
  generalize credentials deviceId = credential at held ⊢
  cases found : Table.find DeviceRecord.deviceId store.rows deviceId with
  | none =>
    rw [found] at held
    cases held
    have got : store.get aead disk deviceId = .ok none := transact_read agrees.readable works (by simp only [found])
    rw [got]
  | some row =>
    rw [found] at held
    cases held with
    | @some _ credential holds =>
      have got : store.get aead disk deviceId = .ok (some (row, credential.secret)) :=
        transact_read agrees.readable works (by simp only [found, holds.secret])
      rw [got]
      simp only [DeviceRecord.status, holds.revoked, holds.expires]
      by_cases revoked : credential.revoked = true
      · simp [revoked]
      · by_cases late : credential.issuedAt + credential.ttlSecs ≤ now <;> simp [revoked, late]

end

end DeviceStore

def DeviceCall.event : DeviceCall → DeviceEvent
  | .issue _ _ secretHex now deviceId _ ttlSecs => .issued deviceId secretHex now ttlSecs
  | .setRevoked _ deviceId revoked => .revoked deviceId revoked
  | .remove _ deviceId => .removed deviceId

/-- The lifetime that is given ends before the clock does. -/
def DeviceEvent.fits : DeviceEvent → Bool
  | .issued _ _ now ttlSecs => now.toNat + ttlSecs.toNat < UInt64.size
  | .revoked _ _ | .removed _ => true

namespace DeviceDesk
variable {aead : Aead} {desk after : DeviceDesk} {call : DeviceCall} {credentials : Credentials}

/-- A call does nothing, or what its event says. -/
inductive Does (aead : Aead) (credentials : Credentials) (desk : DeviceDesk) (call : DeviceCall) : DeviceDesk → Prop
  | nothing : Does aead credentials desk call desk
  | event (after : DeviceStore) (agrees : after.Agrees aead (credentials.apply call.event)) :
      Does aead credentials desk call ⟨after, desk.done ++ [call.event]⟩

theorem step_does (agrees : desk.store.Agrees aead credentials) (call : DeviceCall) :
    desk.Does aead credentials call (desk.step aead call) := by
  cases call with
  | issue disk nonce secretHex now deviceId name ttlSecs =>
    unfold step
    obtain ⟨error, failed⟩ | ⟨after, done, agrees⟩ := agrees.issue disk nonce secretHex now deviceId name ttlSecs
    · simp only [failed, Except.toOption, Option.map_none, Option.toList_none, List.append_nil]
      exact .nothing
    · simp only [done, Except.toOption, Option.map_some, Option.toList_some]
      exact .event after agrees
  | setRevoked disk deviceId revoked =>
    unfold step
    obtain ⟨error, failed⟩ | ⟨after, changed, done, agrees⟩ := agrees.setRevoked disk deviceId revoked
    · simp only [failed, Except.toOption, Option.map_none, Option.toList_none, List.append_nil]
      exact .nothing
    · simp only [done, Except.toOption, Option.map_some, Option.toList_some]
      exact .event after agrees
  | remove disk deviceId =>
    unfold step
    obtain ⟨error, failed⟩ | ⟨after, removed, done, agrees⟩ := agrees.remove disk deviceId
    · simp only [failed, Except.toOption, Option.map_none, Option.toList_none, List.append_nil]
      exact .nothing
    · simp only [done, Except.toOption, Option.map_some, Option.toList_some]
      exact .event after agrees

theorem Does.agrees (agrees : desk.store.Agrees aead (Credentials.of desk.done))
    (does : desk.Does aead (Credentials.of desk.done) call after) : after.store.Agrees aead (Credentials.of after.done) := by
  cases does with
  | nothing => exact agrees
  | event store later =>
    rw [← Credentials.of_append] at later
    exact later

private theorem run_agrees (aead : Aead) (calls : List DeviceCall) :
    ((machine aead).run calls).store.Agrees aead (Credentials.of ((machine aead).run calls).done) :=
  @Machine.run_preserves _ _ (machine aead) (fun desk => desk.store.Agrees aead (Credentials.of desk.done)) (.empty aead)
    (fun _ call agrees => (step_does agrees call).agrees agrees) calls

private theorem run_fits (aead : Aead) {calls : List DeviceCall} (fits : ∀ call ∈ calls, call.event.fits = true) :
    ∀ event ∈ ((machine aead).run calls).done, event.fits = true := by
  refine (@Machine.Obeys.run_preserves _ _ (machine aead)
    (fun desk => desk.store.Agrees aead (Credentials.of desk.done) ∧ ∀ event ∈ desk.done, event.fits = true)
    (fun _ call => call.event.fits = true) ⟨.empty aead, nofun⟩ ?_ _ (Machine.obeys_of_forall fits)).2
  rintro desk call fits ⟨agrees, before⟩
  have does := step_does agrees call
  refine ⟨does.agrees agrees, ?_⟩
  change ∀ event ∈ (desk.step aead call).done, event.fits = true
  generalize desk.step aead call = after at does ⊢
  cases does with
  | nothing => exact before
  | event =>
    intro other member
    obtain old | new := List.mem_append.mp member
    · exact before other old
    · exact List.mem_singleton.mp new ▸ fits

private theorem step_other (agrees : desk.store.Agrees aead credentials) {disk : Disk StoreError} (works : disk.read = none)
    {deviceId : String} (apart : call.event.deviceId ≠ deviceId) (now : UInt64) :
    (desk.step aead call).store.activeSecret aead disk deviceId now = desk.store.activeSecret aead disk deviceId now := by
  have does := step_does agrees call
  generalize desk.step aead call = after at does ⊢
  cases does with
  | nothing => rfl
  | event store later =>
    rw [agrees.activeSecret works, later.activeSecret works]
    unfold Credentials.answer
    rw [Credentials.apply_other apart]

end DeviceDesk

section
variable (aead : Aead)

/-- If no lifetime runs past the end of the clock, a secret is active exactly from its issue
until the device is issued another, removed, revoked or its lifetime has passed; there is no
answer exactly for a device without a row; no device has two rows; and calls for one device do
not change the answer for another. -/
theorem device_store_refines_map (calls : List DeviceCall) (fits : ∀ call ∈ calls, call.event.fits = true) :
    let desk := (DeviceDesk.machine aead).run calls
    (∀ disk deviceId now secret, disk.read = none →
      (desk.store.activeSecret aead disk deviceId now = .ok (some secret) ↔
        ∃ before after issuedAt ttlSecs, desk.done = before ++ .issued deviceId secret issuedAt ttlSecs :: after ∧
          (∀ event ∈ after, event.ends deviceId = false) ∧ lastRevocation deviceId after ≠ some true ∧
          now.toNat < issuedAt.toNat + ttlSecs.toNat)) ∧
      (∀ disk deviceId now, disk.read = none →
        (desk.store.activeSecret aead disk deviceId now = .ok none ↔ ∀ row ∈ desk.store.rows, row.deviceId ≠ deviceId)) ∧
      Table.Unique DeviceRecord.deviceId desk.store.rows ∧
      ∀ call disk deviceId now, disk.read = none → call.event.deviceId ≠ deviceId →
        (desk.step aead call).store.activeSecret aead disk deviceId now =
          desk.store.activeSecret aead disk deviceId now := by
  intro desk
  have agrees : desk.store.Agrees aead (Credentials.of desk.done) := DeviceDesk.run_agrees aead calls
  have ends {issuedAt ttlSecs : UInt64} {deviceId secret : String}
      (member : DeviceEvent.issued deviceId secret issuedAt ttlSecs ∈ desk.done) (now : UInt64) :
      now < issuedAt + ttlSecs ↔ now.toNat < issuedAt.toNat + ttlSecs.toNat := by
    have small := of_decide_eq_true (DeviceDesk.run_fits aead fits _ member)
    rw [UInt64.lt_iff_toNat_lt, UInt64.toNat_add, Nat.mod_eq_of_lt small]
  refine ⟨?_, ?_, agrees.unique, fun call disk deviceId now works apart => DeviceDesk.step_other agrees works apart now⟩
  · intro disk deviceId now secret works
    rw [agrees.activeSecret works, Credentials.answer_some]
    constructor
    · rintro ⟨credential, held, rfl, unrevoked, early⟩
      obtain ⟨before, after, split, calm, revoked⟩ := Credentials.of_eq_some_iff.mp held
      refine ⟨before, after, credential.issuedAt, credential.ttlSecs, split, calm, ?_, ?_⟩
      · intro said
        rw [said, unrevoked] at revoked
        cases revoked
      · exact (ends (split ▸ List.mem_append_right _ List.mem_cons_self) now).mp early
    · rintro ⟨before, after, issuedAt, ttlSecs, split, calm, unrevoked, early⟩
      refine ⟨⟨secret, issuedAt, ttlSecs, false⟩, ?_, rfl, rfl, ?_⟩
      · refine Credentials.of_eq_some_iff.mpr ⟨before, after, split, calm, ?_⟩
        cases said : lastRevocation deviceId after with
        | none => rfl
        | some revoked =>
          cases revoked with
          | false => rfl
          | true => exact absurd said unrevoked
      · exact (ends (split ▸ List.mem_append_right _ List.mem_cons_self) now).mpr early
  · intro disk deviceId now works
    rw [agrees.activeSecret works, Credentials.answer_none, ← agrees.absent, Table.find_none]

end

def twoSecrets : Aead where
  encrypt _ message := if message = "5ec4e7" then some [7] else if message = "0ddba11" then some [8] else none
  decrypt _ sealed := if sealed = [7] then some "5ec4e7" else if sealed = [8] then some "0ddba11" else none
  decrypt_encrypt := by
    intro nonce message sealed made
    split at made
    next same => cases made; rw [same]; rfl
    next =>
      split at made
      next same => cases made; rw [same]; rfl
      next => cases made
  encrypt_length := by
    intro nonce message sealed made
    split at made
    next => cases made; decide
    next =>
      split at made
      next => cases made; decide
      next => cases made

def zeroNonce : SealNonce := ⟨List.replicate 12 0, rfl⟩

/-- A device is paired, revoked and, while the disk is full, not paired again. -/
def pairedOnce : List DeviceCall :=
  [.issue {} zeroNonce "5ec4e7" 100 "phone" "Phone" 300, .issue {} zeroNonce "5ec4e7" 120 "tablet" "Tablet" 300,
    .setRevoked {} "phone" true, .issue { write := some (.io "no space left on device") } zeroNonce "5ec4e7" 150 "phone" "Phone" 300,
    .setRevoked {} "phone" false, .remove {} "tablet"]

theorem device_store_refines_map_pairedOnce :
    ((DeviceDesk.machine twoSecrets).run pairedOnce).store.activeSecret twoSecrets {} "phone" 399 = .ok (some "5ec4e7") ∧
      (((DeviceDesk.machine twoSecrets).run pairedOnce).store.activeSecret twoSecrets {} "tablet" 399 = .ok none ↔
        ∀ row ∈ ((DeviceDesk.machine twoSecrets).run pairedOnce).store.rows, row.deviceId ≠ "tablet") :=
  ⟨by decide +kernel, (device_store_refines_map twoSecrets pairedOnce (by decide +kernel)).2.1 {} "tablet" 399 rfl⟩

/-- A lifetime that runs past the end of the clock is over at once. -/
theorem device_lifetime_wraps :
    let desk := (DeviceDesk.machine twoSecrets).run
      [.issue {} zeroNonce "5ec4e7" 100 "phone" "Phone" 18446744073709551615]
    desk.done = [.issued "phone" "5ec4e7" 100 18446744073709551615] ∧
      (100 : UInt64).toNat < (100 : UInt64).toNat + (18446744073709551615 : UInt64).toNat ∧
      desk.store.activeSecret twoSecrets {} "phone" 100 =
        .error (.auth "device 'phone' credential expired — re-pair") := by
  decide +kernel

end Vynkor
