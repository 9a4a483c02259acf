import Vynkor.Gateway
import Vynkor.Lib.Weight
import Vynkor.Proofs.DeviceCredentials

/-! Connection slots. Every slot that is taken belongs to a live connection, an upgrade or a
cap check under way, or to an upgrade that was abandoned; the last kind is never given back. -/

namespace Vynkor
open Lib

namespace Gateway

/-- What may happen to a live connection that stays open. -/
inductive Socket.Goes (aead : Aead) (config : WsConfig) (gateway : Gateway) (conn : Nat) (socket : Socket) :
    GatewayInput → Socket → Prop
  | registers (disk : Disk StoreError) (register : PluginRegister)
      (accepts : gateway.accepts aead config disk register = true) :
      Goes aead config gateway conn socket (.register conn disk register true)
        { socket with accepted := socket.accepted ++ [register.deviceId] }
  | arms : Goes aead config gateway conn socket (.enableMac conn) { socket with registered := true }
  | rechecks (disk : Disk StoreError) (recheck : Recheck) (watches : socket.recheck = some recheck)
      (due : recheck.due ≤ gateway.now.nanos) (active : gateway.stillActive aead disk recheck.watch.deviceId = true) :
      Goes aead config gateway conn socket (.recheck conn disk)
        { socket with recheck := some ⟨recheck.watch, recheck.due + recheck.watch.every⟩ }

inductive Turns (aead : Aead) (config : WsConfig) (gateway : Gateway) : GatewayInput → Gateway → Prop
  | nothing (input : GatewayInput) : Turns aead config gateway input gateway
  | admits (disk : Disk StoreError) (token : String) (watch : Option DeviceWatch)
      (admitted : gateway.authorize aead config disk token = .ok watch) :
      Turns aead config gateway (.request disk token) { gateway with
        conns := gateway.conns.insert gateway.requests (.admitted watch)
        requests := gateway.requests + 1 }
  | refuses (conn : Nat) (watch : Option DeviceWatch) (held : gateway.conns.get conn = some (.admitted watch)) :
      Turns aead config gateway (.reserve conn) { gateway with
        openConns := gateway.openConns + 1
        conns := gateway.conns.insert conn .refused }
  | accepts (conn : Nat) (watch : Option DeviceWatch) (held : gateway.conns.get conn = some (.admitted watch))
      (room : gateway.openConns < config.maxConnections) :
      Turns aead config gateway (.reserve conn) { gateway with
        openConns := gateway.openConns + 1
        conns := gateway.conns.insert conn (.upgrading watch) }
  | backsOut (conn : Nat) (held : gateway.conns.get conn = some .refused) :
      Turns aead config gateway (.backOut conn) (gateway.release conn)
  | upgrades (conn : Nat) (watch : Option DeviceWatch) (held : gateway.conns.get conn = some (.upgrading watch)) :
      Turns aead config gateway (.upgraded conn) (gateway.setSocket conn (gateway.opened config watch))
  | abandons (conn : Nat) (watch : Option DeviceWatch) (held : gateway.conns.get conn = some (.upgrading watch)) :
      Turns aead config gateway (.abandon conn) { gateway with
        conns := gateway.conns.remove conn
        abandoned := gateway.abandoned + 1 }
  | goes (input : GatewayInput) (conn : Nat) (socket next : Socket) (held : gateway.conns.get conn = some (.live socket))
      (goes : Socket.Goes aead config gateway conn socket input next) :
      Turns aead config gateway input (gateway.setSocket conn next)
  | ends (input : GatewayInput) (conn : Nat) (socket : Socket) (held : gateway.conns.get conn = some (.live socket)) :
      Turns aead config gateway input (gateway.release conn)
  | stores (call : DeviceCall) :
      Turns aead config gateway (.devices call) { gateway with
        devices := (DeviceDesk.step aead ⟨gateway.devices, []⟩ call).store }
  | advances (moment : Moment) (later : gateway.now.nanos ≤ moment.nanos) (idle : gateway.dueBefore moment = false) :
      Turns aead config gateway (.advance moment) { gateway with now := moment }

theorem step_turns (aead : Aead) (config : WsConfig) (gateway : Gateway) (input : GatewayInput) :
    Turns aead config gateway input (gateway.step aead config input) := by
  cases input with
  | request disk token =>
    change Turns aead config gateway _ (gateway.request aead config disk token)
    unfold request
    split
    next => exact .nothing _
    next watch admitted => exact .admits disk token watch admitted
  | reserve conn =>
    change Turns aead config gateway _ (gateway.reserve config conn)
    unfold reserve
    split
    next watch held =>
      split
      next => exact .refuses conn watch held
      next room => exact .accepts conn watch held (Nat.lt_of_not_le room)
    next => exact .nothing _
  | backOut conn =>
    change Turns aead config gateway _ (gateway.backOut conn)
    unfold backOut
    split
    next held => exact .backsOut conn held
    next => exact .nothing _
  | upgraded conn =>
    change Turns aead config gateway _ (gateway.upgraded config conn)
    unfold upgraded
    split
    next watch held => exact .upgrades conn watch held
    next => exact .nothing _
  | abandon conn =>
    change Turns aead config gateway _ (gateway.abandon conn)
    unfold abandon
    split
    next watch held => exact .abandons conn watch held
    next => exact .nothing _
  | register conn disk register enlisted =>
    change Turns aead config gateway _ (gateway.register aead config conn disk register enlisted)
    unfold Gateway.register
    split
    next socket held =>
      split
      next accepted =>
        obtain ⟨rfl, accepts⟩ := Bool.and_eq_true_iff.mp accepted
        exact .goes _ conn socket _ held (.registers disk register accepts)
      next => exact .nothing _
    next => exact .nothing _
  | enableMac conn =>
    change Turns aead config gateway _ (gateway.enableMac conn)
    unfold enableMac
    split
    next socket held => exact .goes _ conn socket _ held .arms
    next => exact .nothing _
  | recheck conn disk =>
    change Turns aead config gateway _ (gateway.recheck aead conn disk)
    unfold Gateway.recheck
    split
    next socket held =>
      split
      next recheck watches =>
        split
        next due =>
          split
          next active => exact .goes _ conn socket _ held (.rechecks disk recheck watches due active)
          next => exact .ends _ conn socket held
        next => exact .nothing _
      next => exact .nothing _
    next => exact .nothing _
  | registerTimeout conn =>
    change Turns aead config gateway _ (gateway.registerTimeout conn)
    unfold registerTimeout
    split
    next socket held =>
      split
      next => exact .ends _ conn socket held
      next => exact .nothing _
    next => exact .nothing _
  | close conn =>
    change Turns aead config gateway _ (gateway.close conn)
    unfold close
    split
    next socket held => exact .ends _ conn socket held
    next => exact .nothing _
  | devices call => exact .stores call
  | advance moment =>
    change Turns aead config gateway _ (gateway.advance moment)
    unfold advance
    split
    next => exact .nothing _
    next open_ =>
      rw [Bool.or_eq_true, not_or] at open_
      exact .advances moment (by simpa using open_.1) (by simpa using open_.2)

end Gateway

namespace WsStage

def isLive : WsStage → Bool
  | .live _ => true
  | _ => false

def isUpgrading : WsStage → Bool
  | .upgrading _ => true
  | _ => false

def isRefused : WsStage → Bool
  | .refused => true
  | _ => false

end WsStage

namespace Gateway

def liveSockets (gateway : Gateway) : Nat := gateway.conns.count WsStage.isLive

def upgrades (gateway : Gateway) : Nat := gateway.conns.count WsStage.isUpgrading

def capChecks (gateway : Gateway) : Nat := gateway.conns.count WsStage.isRefused

structure Accounted (config : WsConfig) (gateway : Gateway) : Prop where
  slots : gateway.openConns = gateway.liveSockets + gateway.upgrades + gateway.capChecks + gateway.abandoned
  bounded : gateway.liveSockets + gateway.upgrades ≤ config.maxConnections
  numbered : ∀ conn stage, gateway.conns.get conn = some stage → conn < gateway.requests

section
variable {aead : Aead} {config : WsConfig} {gateway after : Gateway} {input : GatewayInput} {conn : Nat} {old new : WsStage}

section
variable (accounted : gateway.Accounted config) (held : gateway.conns.get conn = some old)
include accounted held

theorem Accounted.moves {openConns : Nat} (slots : openConns + (old.isLive.toNat + old.isUpgrading.toNat + old.isRefused.toNat) =
      gateway.openConns + (new.isLive.toNat + new.isUpgrading.toNat + new.isRefused.toNat))
    (bounded : new.isLive.toNat + new.isUpgrading.toNat ≤ old.isLive.toNat + old.isUpgrading.toNat ∨
      gateway.openConns < config.maxConnections ∧ new.isLive.toNat + new.isUpgrading.toNat ≤ 1) :
    Accounted config { gateway with openConns, conns := gateway.conns.insert conn new } := by
  have live := DashMap.count_insert held new WsStage.isLive
  have upgrading := DashMap.count_insert held new WsStage.isUpgrading
  have refused := DashMap.count_insert held new WsStage.isRefused
  have before := accounted.slots
  have few := accounted.bounded
  unfold liveSockets upgrades capChecks at before
  unfold liveSockets upgrades at few
  refine ⟨?_, ?_, ?_⟩
  · unfold liveSockets upgrades capChecks
    dsimp only
    omega
  · unfold liveSockets upgrades
    dsimp only
    omega
  · intro other stage there
    obtain ⟨rfl, -⟩ | ⟨-, earlier⟩ := DashMap.insert_cases there
    · exact accounted.numbered other old held
    · exact accounted.numbered other stage earlier

theorem Accounted.goes {openConns abandoned : Nat} (slots : openConns + (old.isLive.toNat + old.isUpgrading.toNat + old.isRefused.toNat) +
      gateway.abandoned = gateway.openConns + abandoned) :
    Accounted config { gateway with openConns, abandoned, conns := gateway.conns.remove conn } := by
  have live := DashMap.count_remove held WsStage.isLive
  have upgrading := DashMap.count_remove held WsStage.isUpgrading
  have refused := DashMap.count_remove held WsStage.isRefused
  have before := accounted.slots
  have few := accounted.bounded
  unfold liveSockets upgrades capChecks at before
  unfold liveSockets upgrades at few
  refine ⟨?_, ?_, ?_⟩
  · unfold liveSockets upgrades capChecks
    dsimp only
    omega
  · unfold liveSockets upgrades
    dsimp only
    omega
  · intro other stage there
    exact accounted.numbered other stage (DashMap.remove_some.mp there).2

theorem Accounted.release (counted : old.isLive.toNat + old.isUpgrading.toNat + old.isRefused.toNat = 1) :
    Accounted config (gateway.release conn) := by
  have live := DashMap.count_remove held WsStage.isLive
  have upgrading := DashMap.count_remove held WsStage.isUpgrading
  have refused := DashMap.count_remove held WsStage.isRefused
  have before := accounted.slots
  unfold liveSockets upgrades capChecks at before
  exact accounted.goes held (by omega)

end

theorem Accounted.step (accounted : gateway.Accounted config) (turns : gateway.Turns aead config input after) :
    after.Accounted config := by
  cases turns with
  | nothing => exact accounted
  | admits disk token watch admitted =>
    have fresh : gateway.conns.get gateway.requests = none := by
      cases held : gateway.conns.get gateway.requests with
      | none => rfl
      | some stage => exact absurd (accounted.numbered _ stage held) (Nat.lt_irrefl _)
    have count (test : WsStage → Bool) := DashMap.count_insert_new fresh (.admitted watch) test
    refine ⟨?_, ?_, ?_⟩
    · have before := accounted.slots
      unfold liveSockets upgrades capChecks at before ⊢
      rw [count, count, count]
      exact before
    · have few := accounted.bounded
      unfold liveSockets upgrades at few ⊢
      rw [count, count]
      exact few
    · intro other stage there
      obtain ⟨rfl, -⟩ | ⟨-, earlier⟩ := DashMap.insert_cases there
      · exact Nat.lt_succ_self _
      · exact Nat.lt_succ_of_lt (accounted.numbered other stage earlier)
  | refuses conn watch held | upgrades conn watch held | goes input conn socket next held goes =>
    exact accounted.moves held rfl (.inl (Nat.le_refl _))
  | accepts conn watch held room => exact accounted.moves held rfl (.inr ⟨room, Nat.le_refl _⟩)
  | backsOut conn held | ends input conn socket held => exact accounted.release held rfl
  | abandons conn watch held =>
    refine accounted.goes held ?_
    simp only [WsStage.isLive, WsStage.isUpgrading, WsStage.isRefused, Bool.toNat_false, Bool.toNat_true]
    omega
  | stores | advances => exact ⟨accounted.slots, accounted.bounded, accounted.numbered⟩

private theorem run_accounted (aead : Aead) (config : WsConfig) (inputs : List GatewayInput) :
    ((machine aead config).run inputs).Accounted config := by
  have initial : Accounted config {} := by
    refine ⟨rfl, Nat.zero_le _, ?_⟩
    intro conn stage held
    cases (DashMap.get_empty conn).symm.trans held
  exact Machine.run_preserves initial
    (fun gateway input accounted => accounted.step (step_turns aead config gateway input)) inputs

end
end Gateway

/-- The slots taken are those of live connections and of upgrades and cap checks under way if
and only if no accepted upgrade was abandoned, and then none is left when all clients are gone;
live connections never exceed the maximum. -/
theorem ws_slots_accounted (aead : Aead) (config : WsConfig) (inputs : List GatewayInput) :
    let gateway := (Gateway.machine aead config).run inputs
    (gateway.openConns = gateway.liveSockets + gateway.upgrades + gateway.capChecks ↔ gateway.abandoned = 0) ∧
      (gateway.liveSockets + gateway.upgrades + gateway.capChecks = 0 → (gateway.openConns = 0 ↔ gateway.abandoned = 0)) ∧
      gateway.liveSockets ≤ config.maxConnections := by
  intro gateway
  have accounted : gateway.Accounted config := Gateway.run_accounted aead config inputs
  have slots := accounted.slots
  have few := accounted.bounded
  refine ⟨?_, ?_, ?_⟩
  · omega
  · omega
  · omega

/-- The client of the only slot goes away before its upgrade finishes: the slot stays taken and
the next request is refused. -/
theorem ws_slot_leaks :
    let gateway := (Gateway.machine twoSecrets { maxConnections := 1 }).run
      [.request {} "", .reserve 0, .abandon 0, .request {} "", .reserve 1, .backOut 1]
    gateway.liveSockets = 0 ∧ gateway.upgrades = 0 ∧ gateway.capChecks = 0 ∧ gateway.openConns = 1 := by
  decide +kernel

end Vynkor
