import Vynkor.Pairing
import Vynkor.Proofs.DeviceCredentials

/-! Every pairing mints a device of its own, as long as no id is drawn while another call
holds it or after one has returned it, and nobody else pairs an id between its draw and its
issue. The lookup alone does not see to that. -/

namespace Vynkor
open Lib

def ConsumeStage.deviceId : ConsumeStage → Option String
  | .drawing _ => none
  | .drawn _ deviceId => some deviceId
  | .minted _ mint => some mint.deviceId

namespace PairingService

def credentials (service : PairingService) : Credentials := Credentials.of (service.log.map Prod.snd)

/-- The steps of the service, with what they have found out. Each failure ends a call. -/
inductive Turns (aead : Aead) (config : PairingConfig) (service : PairingService) : PairingInput → PairingService → Prop
  | tickets (input : PairingInput) (tickets : TicketStore) : Turns aead config service input { service with tickets }
  | quits (input : PairingInput) (call : Nat) :
      Turns aead config service input { service with consumers := service.consumers.remove call }
  | begins (disk : Disk StoreError) (ticket : String) (now : UInt64) (tickets : TicketStore) (record : TicketRecord) :
      Turns aead config service (.consume disk ticket now) { service with
        tickets
        consumers := service.consumers.insert service.calls (.drawing record)
        calls := service.calls + 1 }
  | draws (call : Nat) (disk : Disk StoreError) (deviceId : String) (record : TicketRecord)
      (drawing : service.consumers.get call = some (.drawing record)) (free : service.credentials deviceId = none) :
      Turns aead config service (.draw call disk deviceId) { service with
        consumers := service.consumers.insert call (.drawn record deviceId) }
  | mints (call : Nat) (disk : Disk StoreError) (nonce : SealNonce) (secretHex : String) (now : UInt64)
      (record : TicketRecord) (deviceId : String) (devices : DeviceStore)
      (drawn : service.consumers.get call = some (.drawn record deviceId))
      (agrees : devices.Agrees aead (service.credentials.apply (.issued deviceId secretHex now config.deviceTtlSecs))) :
      Turns aead config service (.issue call disk nonce secretHex now) { service with
        devices
        consumers := service.consumers.insert call (.minted record
          ⟨deviceId, secretHex, now, (Table.find DeviceRecord.deviceId service.devices.rows deviceId).isSome⟩)
        log := service.log ++ [(.consume call, .issued deviceId secretHex now config.deviceTtlSecs)] }
  | returns (call : Nat) (jwtToken : Except StoreError String) (certPem : Except StoreError (Option String))
      (record : TicketRecord) (mint : Mint) (payload : PairPayload)
      (minted : service.consumers.get call = some (.minted record mint))
      (named : payload.deviceId = mint.deviceId ∧ payload.deviceSecret = mint.secret) :
      Turns aead config service (.finish call jwtToken certPem) { service with
        consumers := service.consumers.remove call
        paired := service.paired ++ [⟨call, mint, payload⟩] }
  | explicit (call : DeviceCall) (devices : DeviceStore)
      (agrees : devices.Agrees aead (service.credentials.apply call.event)) :
      Turns aead config service (.devices call) { service with
        devices
        log := service.log ++ [(.explicit, call.event)] }

variable {hashTicket : String → String} {aead : Aead} {config : PairingConfig} {service after : PairingService}
  {input : PairingInput}

theorem Turns.nothing (input : PairingInput) : Turns aead config service input service := .tickets input service.tickets

theorem step_turns (hashTicket : String → String) (agrees : service.devices.Agrees aead service.credentials)
    (config : PairingConfig) (input : PairingInput) :
    Turns aead config service input (service.step hashTicket aead config input) := by
  cases input with
  | tickets call => exact .tickets ..
  | consume disk ticket now =>
    change Turns aead config service _ (service.consume hashTicket disk ticket now)
    unfold consume
    split
    · exact .tickets ..
    · exact .begins ..
  | draw call disk deviceId =>
    change Turns aead config service _ (service.draw aead call disk deviceId)
    unfold draw
    split
    next record drawing =>
      split
      next => exact .quits ..
      next => exact .nothing _
      next got => exact .draws call disk deviceId record drawing (agrees.get_none got)
    next => exact .nothing _
  | issue call disk nonce secretHex now =>
    change Turns aead config service _ (service.issue aead config call disk nonce secretHex now)
    unfold issue
    split
    next record deviceId drawn =>
      obtain ⟨error, failed⟩ | ⟨devices, done, later⟩ :=
        agrees.issue disk nonce secretHex now deviceId (record.name.getD deviceId) config.deviceTtlSecs
      · simp only [failed]
        exact .quits ..
      · simp only [done]
        exact .mints call disk nonce secretHex now record deviceId devices drawn later
    next => exact .nothing _
  | finish call jwtToken certPem =>
    change Turns aead config service _ (service.finish call jwtToken certPem)
    unfold finish
    split
    next record mint minted =>
      split
      next => exact .returns call _ _ record mint _ minted ⟨rfl, rfl⟩
      next => exact .quits ..
    next => exact .nothing _
  | devices call =>
    have does : DeviceDesk.Does aead service.credentials ⟨service.devices, []⟩ call _ := DeviceDesk.step_does agrees call
    change Turns aead config service _ { service with
      devices := (DeviceDesk.step aead ⟨service.devices, []⟩ call).store
      log := service.log ++ (DeviceDesk.step aead ⟨service.devices, []⟩ call).done.map fun event => (.explicit, event) }
    generalize DeviceDesk.step aead ⟨service.devices, []⟩ call = desk at does ⊢
    cases does with
    | nothing =>
      simp only [List.map_nil, List.append_nil]
      exact .nothing _
    | event devices later => exact .explicit call devices later

/-- The call has drawn the id and not returned. -/
def Claims (service : PairingService) (call : Nat) (deviceId : String) : Prop :=
  service.consumers.Has call fun stage => stage.deviceId = some deviceId

def claimed (service : PairingService) (deviceId : String) : Bool :=
  service.consumers.any fun stage => stage.deviceId == some deviceId

private theorem claimed_false {deviceId : String} (nobody : service.claimed deviceId = false) (call : Nat) :
    ¬service.Claims call deviceId := by
  rintro ⟨stage, held, its⟩
  have somebody : service.claimed deviceId = true :=
    (service.consumers.any_iff _).mpr ⟨call, stage, held, beq_iff_eq.mpr its⟩
  cases nobody.symm.trans somebody

/-- The id is drawn by nobody else, neither by a call under way nor by one that has returned it,
and an id that is drawn and not yet issued is not paired explicitly. -/
def secluded (config : PairingConfig) (service : PairingService) : PairingInput → Bool
  | .draw _ _ deviceId =>
    (Table.find DeviceRecord.deviceId service.devices.rows deviceId).isSome ||
      !service.claimed deviceId && service.paired.all fun paired => paired.mint.deviceId != deviceId
  | .issue _ _ _ _ now => now.toNat + config.deviceTtlSecs.toNat < UInt64.size
  | .devices (.issue _ _ _ _ deviceId _ _) => !service.claimed deviceId
  | _ => true

/-- What a call has written is in the log, and later entries for the device are explicit. -/
structure Recorded (config : PairingConfig) (log : List (Author × DeviceEvent)) (call : Nat) (mint : Mint) : Prop where
  fresh : mint.hadRow = false
  fits : mint.issuedAt.toNat + config.deviceTtlSecs.toNat < UInt64.size
  since : ∃ before after,
    log = before ++ (.consume call, .issued mint.deviceId mint.secret mint.issuedAt config.deviceTtlSecs) :: after ∧
      ∀ entry ∈ after, entry.2.deviceId = mint.deviceId → entry.1 = .explicit

structure Sound (aead : Aead) (config : PairingConfig) (service : PairingService) : Prop where
  agrees : service.devices.Agrees aead service.credentials
  numbered : ∀ call stage, service.consumers.get call = some stage → call < service.calls
  alone : ∀ first second deviceId, service.Claims first deviceId → service.Claims second deviceId → first = second
  kept : ∀ call deviceId, service.Claims call deviceId → ∀ paired ∈ service.paired, paired.mint.deviceId ≠ deviceId
  free : ∀ call record deviceId, service.consumers.get call = some (.drawn record deviceId) →
    service.credentials deviceId = none
  minted : ∀ call record mint, service.consumers.get call = some (.minted record mint) →
    Recorded config service.log call mint
  returned : ∀ paired ∈ service.paired, Recorded config service.log paired.call paired.mint ∧
    paired.payload.deviceId = paired.mint.deviceId ∧ paired.payload.deviceSecret = paired.mint.secret
  once : (service.paired.map fun paired => paired.mint.deviceId).Nodup

theorem Sound.init : Sound aead config {} where
  agrees := .empty aead
  numbered call stage held := by cases (DashMap.get_empty call).symm.trans held
  alone _ _ _ := by rintro ⟨stage, none, -⟩; cases none
  kept _ _ _ _ member := absurd member List.not_mem_nil
  free call _ _ held := by cases (DashMap.get_empty call).symm.trans held
  minted call _ _ held := by cases (DashMap.get_empty call).symm.trans held
  returned _ member := absurd member List.not_mem_nil
  once := List.nodup_nil

theorem Recorded.append {log : List (Author × DeviceEvent)} {call : Nat} {mint : Mint}
    (recorded : Recorded config log call mint) {entry : Author × DeviceEvent}
    (own : entry.2.deviceId = mint.deviceId → entry.1 = .explicit) : Recorded config (log ++ [entry]) call mint := by
  obtain ⟨before, after, split, explicit⟩ := recorded.since
  refine ⟨recorded.fresh, recorded.fits, before, after ++ [entry], by rw [split]; simp, ?_⟩
  intro other member
  obtain old | new := List.mem_append.mp member
  · exact explicit other old
  · cases List.mem_singleton.mp new
    exact own

private theorem credentials_append (service : PairingService) (entry : Author × DeviceEvent) :
    Credentials.of ((service.log ++ [entry]).map Prod.snd) = service.credentials.apply entry.2 := by
  rw [List.map_append]
  exact Credentials.of_append ..

section Steps
variable (sound : service.Sound aead config)
include sound

private theorem Sound.quits (call : Nat) : Sound aead config { service with consumers := service.consumers.remove call } := by
  have earlier {other : Nat} {stage : ConsumeStage} (held : (service.consumers.remove call).get other = some stage) :
      service.consumers.get other = some stage := (DashMap.remove_some.mp held).2
  have claimed {other : Nat} {deviceId : String}
      (claims : Claims { service with consumers := service.consumers.remove call } other deviceId) :
      service.Claims other deviceId := by
    obtain ⟨stage, held, its⟩ := claims
    exact ⟨stage, earlier held, its⟩
  constructor
  · exact sound.agrees
  · intro other stage held
    exact sound.numbered other stage (earlier held)
  · intro first second deviceId one two
    exact sound.alone first second deviceId (claimed one) (claimed two)
  · intro other deviceId claims
    exact sound.kept other deviceId (claimed claims)
  · intro other record deviceId held
    exact sound.free other record deviceId (earlier held)
  · intro other record mint held
    exact sound.minted other record mint (earlier held)
  · exact sound.returned
  · exact sound.once

theorem Sound.begins (tickets : TicketStore) (record : TicketRecord) : Sound aead config { service with
    tickets
    consumers := service.consumers.insert service.calls (.drawing record)
    calls := service.calls + 1 } := by
  have claimed {other : Nat} {deviceId : String}
      (claims : (service.consumers.insert service.calls (.drawing record)).Has other
        fun stage => stage.deviceId = some deviceId) : service.Claims other deviceId := by
    obtain ⟨stage, held, its⟩ := claims
    obtain ⟨-, rfl⟩ | ⟨-, before⟩ := DashMap.insert_cases held
    · cases its
    · exact ⟨stage, before, its⟩
  constructor
  · exact sound.agrees
  · intro other stage held
    obtain ⟨rfl, -⟩ | ⟨-, before⟩ := DashMap.insert_cases held
    · exact Nat.lt_succ_self _
    · exact Nat.lt_succ_of_lt (sound.numbered other stage before)
  · intro first second deviceId one two
    exact sound.alone first second deviceId (claimed one) (claimed two)
  · intro other deviceId claims
    exact sound.kept other deviceId (claimed claims)
  · intro other drawn deviceId held
    obtain ⟨-, same⟩ | ⟨-, before⟩ := DashMap.insert_cases held
    · cases same
    · exact sound.free other drawn deviceId before
  · intro other minted mint held
    obtain ⟨-, same⟩ | ⟨-, before⟩ := DashMap.insert_cases held
    · cases same
    · exact sound.minted other minted mint before
  · exact sound.returned
  · exact sound.once

private theorem Sound.draws {call : Nat} {deviceId : String} {record : TicketRecord}
    (drawing : service.consumers.get call = some (.drawing record)) (free : service.credentials deviceId = none)
    (unclaimed : ∀ other, ¬service.Claims other deviceId)
    (unreturned : ∀ paired ∈ service.paired, paired.mint.deviceId ≠ deviceId) :
    Sound aead config { service with consumers := service.consumers.insert call (.drawn record deviceId) } := by
  -- a claim is that of the call on the id it has drawn, or an earlier one on another id
  have claimed {other : Nat} {claimedId : String}
      (claims : (service.consumers.insert call (.drawn record deviceId)).Has other
        fun stage => stage.deviceId = some claimedId) :
      other = call ∧ claimedId = deviceId ∨ service.Claims other claimedId ∧ claimedId ≠ deviceId := by
    obtain ⟨stage, held, its⟩ := claims
    obtain ⟨rfl, rfl⟩ | ⟨-, before⟩ := DashMap.insert_cases held
    · exact .inl ⟨rfl, (Option.some.inj its).symm⟩
    · refine .inr ⟨⟨stage, before, its⟩, ?_⟩
      rintro rfl
      exact unclaimed other ⟨stage, before, its⟩
  constructor
  · exact sound.agrees
  · intro other stage held
    obtain ⟨rfl, -⟩ | ⟨-, before⟩ := DashMap.insert_cases held
    · exact sound.numbered other _ drawing
    · exact sound.numbered other stage before
  · intro first second claimedId one two
    obtain ⟨rfl, same⟩ | ⟨one, apart⟩ := claimed one
    · obtain ⟨rfl, -⟩ | ⟨-, apart⟩ := claimed two
      · rfl
      · exact absurd same apart
    · obtain ⟨-, same⟩ | ⟨two, -⟩ := claimed two
      · exact absurd same apart
      · exact sound.alone first second claimedId one two
  · intro other claimedId claims
    obtain ⟨-, rfl⟩ | ⟨before, -⟩ := claimed claims
    · exact unreturned
    · exact sound.kept other claimedId before
  · intro other drawn drawnId held
    obtain ⟨-, same⟩ | ⟨-, before⟩ := DashMap.insert_cases held
    · cases same
      exact free
    · exact sound.free other drawn drawnId before
  · intro other minted mint held
    obtain ⟨-, same⟩ | ⟨-, before⟩ := DashMap.insert_cases held
    · cases same
    · exact sound.minted other minted mint before
  · exact sound.returned
  · exact sound.once

private theorem Sound.mints {call : Nat} {secretHex : String} {now : UInt64} {record : TicketRecord} {deviceId : String}
    {devices : DeviceStore} (drawn : service.consumers.get call = some (.drawn record deviceId))
    (agrees : devices.Agrees aead (service.credentials.apply (.issued deviceId secretHex now config.deviceTtlSecs)))
    (fits : now.toNat + config.deviceTtlSecs.toNat < UInt64.size) : Sound aead config { service with
      devices
      consumers := service.consumers.insert call (.minted record
        ⟨deviceId, secretHex, now, (Table.find DeviceRecord.deviceId service.devices.rows deviceId).isSome⟩)
      log := service.log ++ [(.consume call, .issued deviceId secretHex now config.deviceTtlSecs)] } := by
  have mine : service.Claims call deviceId := ⟨_, drawn, rfl⟩
  have claimed {other : Nat} {claimedId : String}
      (claims : (service.consumers.insert call (.minted record
        ⟨deviceId, secretHex, now, (Table.find DeviceRecord.deviceId service.devices.rows deviceId).isSome⟩)).Has other
          fun stage => stage.deviceId = some claimedId) : service.Claims other claimedId := by
    obtain ⟨stage, held, its⟩ := claims
    obtain ⟨rfl, rfl⟩ | ⟨-, before⟩ := DashMap.insert_cases held
    · cases its
      exact mine
    · exact ⟨stage, before, its⟩
  constructor
  · unfold credentials
    rw [credentials_append]
    exact agrees
  · intro other stage held
    obtain ⟨rfl, -⟩ | ⟨-, before⟩ := DashMap.insert_cases held
    · exact sound.numbered other _ drawn
    · exact sound.numbered other stage before
  · intro first second claimedId one two
    exact sound.alone first second claimedId (claimed one) (claimed two)
  · intro other claimedId claims
    exact sound.kept other claimedId (claimed claims)
  · intro other otherRecord otherId held
    obtain ⟨-, same⟩ | ⟨apart, before⟩ := DashMap.insert_cases held
    · cases same
    · unfold credentials
      rw [credentials_append, Credentials.apply_other]
      · exact sound.free other otherRecord otherId before
      · rintro rfl
        exact apart (sound.alone other call _ ⟨_, before, rfl⟩ mine)
  · intro other otherRecord mint held
    obtain ⟨rfl, same⟩ | ⟨apart, before⟩ := DashMap.insert_cases held
    · cases same
      refine ⟨?_, fits, service.log, [], rfl, nofun⟩
      rw [sound.agrees.absent.mpr (sound.free other record deviceId drawn)]
      rfl
    · refine (sound.minted other otherRecord mint before).append ?_
      rintro rfl
      exact absurd (sound.alone other call _ ⟨_, before, rfl⟩ mine) apart
  · intro paired member
    obtain ⟨recorded, named⟩ := sound.returned paired member
    refine ⟨recorded.append ?_, named⟩
    intro same
    exact absurd same.symm (sound.kept call deviceId mine paired member)
  · exact sound.once

theorem Sound.returns {call : Nat} {record : TicketRecord} {mint : Mint} {payload : PairPayload}
    (minted : service.consumers.get call = some (.minted record mint))
    (named : payload.deviceId = mint.deviceId ∧ payload.deviceSecret = mint.secret) : Sound aead config { service with
      consumers := service.consumers.remove call
      paired := service.paired ++ [⟨call, mint, payload⟩] } := by
  have mine : service.Claims call mint.deviceId := ⟨_, minted, rfl⟩
  have quit := sound.quits call
  constructor
  · exact sound.agrees
  · exact quit.numbered
  · exact quit.alone
  · intro other deviceId claims paired member
    obtain old | new := List.mem_append.mp member
    · exact quit.kept other deviceId claims paired old
    · cases List.mem_singleton.mp new
      rintro rfl
      obtain ⟨stage, held, its⟩ := claims
      obtain ⟨apart, before⟩ := DashMap.remove_some.mp held
      exact apart (sound.alone other call _ ⟨stage, before, its⟩ mine)
  · exact quit.free
  · exact quit.minted
  · intro paired member
    obtain old | new := List.mem_append.mp member
    · exact sound.returned paired old
    · cases List.mem_singleton.mp new
      exact ⟨sound.minted call record mint minted, named⟩
  · rw [List.map_append]
    refine List.nodup_append.mpr ⟨sound.once, List.nodup_singleton _, ?_⟩
    intro deviceId member new single same
    obtain ⟨paired, earlier, rfl⟩ := List.mem_map.mp member
    cases List.mem_singleton.mp single
    exact sound.kept call _ mine paired earlier same

theorem Sound.explicit {call : DeviceCall} {devices : DeviceStore}
    (agrees : devices.Agrees aead (service.credentials.apply call.event))
    (unclaimed : ∀ disk nonce secretHex now deviceId name ttlSecs,
      call = .issue disk nonce secretHex now deviceId name ttlSecs → ∀ other, ¬service.Claims other deviceId) :
    Sound aead config { service with devices, log := service.log ++ [(.explicit, call.event)] } := by
  constructor
  · unfold credentials
    rw [credentials_append]
    exact agrees
  · exact sound.numbered
  · exact sound.alone
  · exact sound.kept
  · intro other record deviceId held
    have free := sound.free other record deviceId held
    unfold credentials
    rw [credentials_append]
    cases call with
    | issue disk nonce secretHex now issuedId name ttlSecs =>
      rw [Credentials.apply_other]
      · exact free
      · rintro rfl
        exact unclaimed _ _ _ _ _ _ _ rfl other ⟨_, held, rfl⟩
    | setRevoked disk revokedId revoked =>
      rw [Credentials.apply_stays rfl, free]
      rfl
    | remove disk removedId =>
      by_cases same : removedId = deviceId
      · subst same
        exact Function.update_self ..
      · refine (Credentials.apply_other ?_).trans free
        exact same
  · intro other record mint held
    exact (sound.minted other record mint held).append fun _ => rfl
  · intro paired member
    obtain ⟨recorded, named⟩ := sound.returned paired member
    exact ⟨recorded.append fun _ => rfl, named⟩
  · exact sound.once

theorem Sound.step (turns : Turns aead config service input after) (secluded : service.secluded config input = true) :
    after.Sound aead config := by
  cases turns with
  | tickets => exact ⟨sound.1, sound.2, sound.3, sound.4, sound.5, sound.6, sound.7, sound.8⟩
  | quits input call => exact sound.quits call
  | begins disk ticket now tickets record => exact sound.begins tickets record
  | draws call disk deviceId record drawing free =>
    simp only [PairingService.secluded, sound.agrees.absent.mpr free, Option.isSome_none, Bool.false_or] at secluded
    obtain ⟨nobody, unreturned⟩ := Bool.and_eq_true_iff.mp secluded
    refine sound.draws drawing free (claimed_false (by simpa using nobody)) ?_
    intro paired member
    exact bne_iff_ne.mp (List.all_eq_true.mp unreturned paired member)
  | mints call disk nonce secretHex now record deviceId devices drawn agrees =>
    exact sound.mints drawn agrees (of_decide_eq_true secluded)
  | returns call jwtToken certPem record mint payload minted named => exact sound.returns minted named
  | explicit call devices agrees =>
    refine sound.explicit agrees ?_
    rintro disk nonce secretHex now deviceId name ttlSecs rfl
    exact claimed_false (by simpa [PairingService.secluded] using secluded)

end Steps

theorem run_sound (hashTicket : String → String) (aead : Aead) (config : PairingConfig) {inputs : List PairingInput}
    (obeys : (machine hashTicket aead config).Obeys (fun service input => service.secluded config input = true)
      (machine hashTicket aead config).init inputs) : ((machine hashTicket aead config).run inputs).Sound aead config :=
  obeys.run_preserves Sound.init fun _ input secluded sound =>
    sound.step (step_turns hashTicket sound.agrees config input) secluded

/-- The secret of a call is active until an explicit call for the device says otherwise or its
lifetime is over. -/
theorem Recorded.active {service : PairingService} {call : Nat} {mint : Mint}
    (recorded : Recorded config service.log call mint) (agrees : service.devices.Agrees aead service.credentials) :
    ∃ before after, service.log =
        before ++ (.consume call, .issued mint.deviceId mint.secret mint.issuedAt config.deviceTtlSecs) :: after ∧
      ((∀ entry ∈ after, entry.1 = .explicit → entry.2.deviceId = mint.deviceId → entry.2 = .revoked mint.deviceId false) →
        ∀ disk now, disk.read = none → now.toNat < mint.issuedAt.toNat + config.deviceTtlSecs.toNat →
          service.devices.activeSecret aead disk mint.deviceId now = .ok (some mint.secret)) := by
  obtain ⟨before, after, split, explicit⟩ := recorded.since
  refine ⟨before, after, split, ?_⟩
  intro untouched disk now works early
  have lifted (event : DeviceEvent) (member : event ∈ after.map Prod.snd) (own : event.deviceId = mint.deviceId) :
      event = .revoked mint.deviceId false := by
    obtain ⟨entry, there, rfl⟩ := List.mem_map.mp member
    exact untouched entry there (explicit entry there own) own
  rw [agrees.activeSecret works, Credentials.answer_some]
  refine ⟨⟨mint.secret, mint.issuedAt, config.deviceTtlSecs, false⟩, ?_, rfl, rfl, ?_⟩
  · refine Credentials.of_eq_some_iff.mpr ⟨before.map Prod.snd, after.map Prod.snd, by rw [split]; simp, ?_, ?_⟩
    · intro event member
      cases ends : event.ends mint.deviceId with
      | false => rfl
      | true =>
        have own : event.deviceId = mint.deviceId := DeviceEvent.deviceId_of_ends ends
        rw [lifted event member own] at ends
        cases ends
    · have said (revoked : Bool) (member : revoked ∈ (after.map Prod.snd).filterMap (DeviceEvent.revocation mint.deviceId)) :
          revoked = false := by
        obtain ⟨event, there, marked⟩ := List.mem_filterMap.mp member
        have own : event.deviceId = mint.deviceId := DeviceEvent.deviceId_of_revocation marked
        rw [lifted event there own] at marked
        simpa [DeviceEvent.revocation] using marked.symm
      unfold lastRevocation
      cases last : ((after.map Prod.snd).filterMap (DeviceEvent.revocation mint.deviceId)).getLast? with
      | none => rfl
      | some revoked => rw [said revoked (List.mem_of_getLast? last)]; rfl
  · rw [UInt64.lt_iff_toNat_lt, UInt64.toNat_add, Nat.mod_eq_of_lt recorded.fits]
    exact early

end PairingService

section
variable (hashTicket : String → String) (aead : Aead) (config : PairingConfig)

/-- Two calls never return the same id, none returns an id that had a row, and the secret that a
call returns stays active until the device is revoked, removed or paired explicitly or its
lifetime is over. -/
theorem pairing_mints_fresh_device {inputs : List PairingInput}
    (obeys : (PairingService.machine hashTicket aead config).Obeys
      (fun service input => service.secluded config input = true) {} inputs) :
    let service := (PairingService.machine hashTicket aead config).run inputs
    (service.paired.map fun paired => paired.payload.deviceId).Nodup ∧
      (∀ paired ∈ service.paired, paired.payload.deviceId = paired.mint.deviceId ∧ paired.mint.hadRow = false) ∧
      ∀ paired ∈ service.paired, ∃ before after,
        service.log = before ++ (.consume paired.call, .issued paired.payload.deviceId paired.payload.deviceSecret
          paired.mint.issuedAt config.deviceTtlSecs) :: after ∧
        ((∀ entry ∈ after, entry.1 = .explicit → entry.2.deviceId = paired.payload.deviceId →
            entry.2 = .revoked paired.payload.deviceId false) →
          ∀ disk now, disk.read = none → now.toNat < paired.mint.issuedAt.toNat + config.deviceTtlSecs.toNat →
            service.devices.activeSecret aead disk paired.payload.deviceId now =
              .ok (some paired.payload.deviceSecret)) := by
  intro service
  have sound : service.Sound aead config := PairingService.run_sound hashTicket aead config obeys
  refine ⟨?_, ?_, ?_⟩
  · have named : service.paired.map (fun paired => paired.payload.deviceId) =
        service.paired.map fun paired => paired.mint.deviceId :=
      List.map_congr_left fun paired member => (sound.returned paired member).2.1
    rw [named]
    exact sound.once
  · intro paired member
    obtain ⟨recorded, named, -⟩ := sound.returned paired member
    exact ⟨named, recorded.fresh⟩
  · intro paired member
    obtain ⟨recorded, named, secret⟩ := sound.returned paired member
    rw [named, secret]
    exact recorded.active sound.agrees

end

/-- Two tickets are consumed side by side, and both calls look for a free id before either
has written its row. -/
def pairedTogether (first second : String) : List PairingInput :=
  let one := "first-ticket-0123456789-0123456789-01234567"
  let two := "other-ticket-0123456789-0123456789-01234567"
  [.tickets (.issueAt {} one 100 300 (some "phone") "ws://host/ws"), .tickets (.issueAt {} two 100 300 none "ws://host/ws"),
    .consume {} one 110, .consume {} two 110, .draw 0 {} first, .draw 1 {} second,
    .issue 0 {} zeroNonce "5ec4e7" 111, .issue 1 {} zeroNonce "0ddba11" 112,
    .finish 0 (.ok "token") (.ok none), .finish 1 (.ok "token") (.ok none)]

theorem pairing_mints_fresh_device_apart :
    (((PairingService.machine id twoSecrets ⟨3600⟩).run (pairedTogether "dev-1" "dev-2")).paired.map
      fun paired => paired.payload.deviceId) = ["dev-1", "dev-2"] ∧
    (((PairingService.machine id twoSecrets ⟨3600⟩).run (pairedTogether "dev-1" "dev-2")).paired.map
      fun paired => paired.payload.deviceId).Nodup :=
  ⟨by decide +kernel, (pairing_mints_fresh_device id twoSecrets ⟨3600⟩ (by decide +kernel)).1⟩

/-- Both calls draw the same id: both return it, and the secret of the first is lost. -/
theorem pairing_mints_one_device_twice :
    let service := (PairingService.machine id twoSecrets ⟨3600⟩).run (pairedTogether "dev-1" "dev-1")
    service.paired.map (fun paired => (paired.payload.deviceId, paired.payload.deviceSecret, paired.mint.hadRow)) =
        [("dev-1", "5ec4e7", false), ("dev-1", "0ddba11", true)] ∧
      service.devices.activeSecret twoSecrets {} "dev-1" 113 = .ok (some "0ddba11") := by
  decide +kernel

end Vynkor
