import Vynkor.Lib.Numbered
import Vynkor.Lifecycle

/-! What an event id is made of. The four kinds of id begin differently, and within a kind the
numbers at the end can be told from the plugin id before them, whatever that is; so two events
have one id only if their parts are the same. -/

namespace Vynkor
open Lib

inductive EventKind
  | joined
  | left
  | plugin
  | died
  deriving DecidableEq, Repr

inductive EventKey
  | joined (pluginId : String) (millis : Nat)
  | left (pluginId : String) (millis : Nat)
  | plugin (sender : String) (millis seq : Nat)
  | died (pluginId : String) (restartCount : Nat)
  deriving DecidableEq, Repr

namespace EventKey

def kind : EventKey → EventKind
  | .joined _ _ => .joined
  | .left _ _ => .left
  | .plugin _ _ _ => .plugin
  | .died _ _ => .died

def eventId : EventKey → String
  | .joined pluginId millis => "sys-joined-" ++ numbered pluginId millis
  | .left pluginId millis => "sys-left-" ++ numbered pluginId millis
  | .plugin sender millis seq => "evt-" ++ numbered (numbered sender millis) seq
  | .died pluginId restartCount => "sys-died-" ++ numbered pluginId restartCount

private theorem kind_of_eventId {first second : EventKey} (same : first.eventId = second.eventId) : first.kind = second.kind := by
  have chars := congrArg String.toList same
  cases first <;> cases second <;> first
    | rfl
    | simp [eventId, String.toList_append] at chars

theorem eventId_injective : Function.Injective eventId := by
  intro first second same
  have kinds := kind_of_eventId same
  cases first with
  | joined =>
    cases second with
    | joined =>
      obtain ⟨rfl, rfl⟩ := append_numbered_inj.mp same
      rfl
    | _ => cases kinds
  | left =>
    cases second with
    | left =>
      obtain ⟨rfl, rfl⟩ := append_numbered_inj.mp same
      rfl
    | _ => cases kinds
  | plugin =>
    cases second with
    | plugin =>
      obtain ⟨senders, rfl⟩ := append_numbered_inj.mp same
      obtain ⟨rfl, rfl⟩ := numbered_inj.mp senders
      rfl
    | _ => cases kinds
  | died =>
    cases second with
    | died =>
      obtain ⟨rfl, rfl⟩ := append_numbered_inj.mp same
      rfl
    | _ => cases kinds

end EventKey

namespace Publication

def key : Publication → EventKey
  | .joined _ pluginId clock _ => .joined pluginId clock.unixMillis
  | .left _ pluginId clock _ => .left pluginId clock.unixMillis
  | .plugin sender clock seq _ _ => .plugin sender clock.unixMillis seq.toNat
  | .died pluginId restartCount _ => .died pluginId restartCount.toNat

theorem eventId_key (publication : Publication) : publication.event.eventId = publication.key.eventId := by
  cases publication with
  | joined connId pluginId clock payload =>
    change "sys-joined-" ++ pluginId ++ "-" ++ toString clock.unixMillis = "sys-joined-" ++ (pluginId ++ "-" ++ _)
    rw [String.append_assoc, String.append_assoc, String.append_assoc]
  | left connId pluginId clock payload =>
    change "sys-left-" ++ pluginId ++ "-" ++ toString clock.unixMillis = "sys-left-" ++ (pluginId ++ "-" ++ _)
    rw [String.append_assoc, String.append_assoc, String.append_assoc]
  | plugin sender clock seq eventType payloadJson =>
    change "evt-" ++ sender ++ "-" ++ toString clock.unixMillis ++ "-" ++ toString seq.toNat =
      "evt-" ++ (sender ++ "-" ++ toString clock.unixMillis ++ "-" ++ _)
    simp only [String.append_assoc]
  | died pluginId restartCount willRestart =>
    change "sys-died-" ++ pluginId ++ "-" ++ toString restartCount.toNat = "sys-died-" ++ (pluginId ++ "-" ++ _)
    rw [String.append_assoc, String.append_assoc, String.append_assoc]

theorem eventId_eq_iff {first second : Publication} :
    first.event.eventId = second.event.eventId ↔ first.key = second.key := by
  rw [eventId_key, eventId_key]
  exact EventKey.eventId_injective.eq_iff

end Publication
end Vynkor
