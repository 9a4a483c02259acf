import Vynkor.Proofs.RouterCases

/-! What a step puts on the channels: a channel grows by items sent to it, the first
of them if it has room, and by none if it has not. -/

namespace Vynkor
open Lib

def System.sends (config : Config) (system : System) (input : Input) : List Send :=
  (system.step config input).log.drop system.log.length

def Places (before after : System) (tx : Tx) (item : Outbound) : Prop :=
  item ∈ (after.chans tx).queue.drop (before.chans tx).queue.length

instance (before after : System) (tx : Tx) (item : Outbound) : Decidable (Places before after tx item) :=
  inferInstanceAs (Decidable (item ∈ (after.chans tx).queue.drop (before.chans tx).queue.length))

def Send.prompt (send : Send) : Bool :=
  match send.item with
  | .enableMac _ => false
  | _ => true

namespace System
variable (chans : Tx → Channel Outbound)

theorem put_other {send : Send} {tx : Tx} (apart : tx ≠ send.tx) : put chans send tx = chans tx := by
  rw [put, Function.update_of_ne apart]

theorem put_prompt {send : Send} (prompt : send.prompt = true) :
    put chans send send.tx = (chans send.tx).trySend send.item := by
  rw [put, Function.update_self]
  rw [Send.prompt] at prompt
  cases carried : send.item with
  | enableMac key =>
    rw [carried] at prompt
    cases prompt
  | _ => rfl

private theorem put_queue (send : Send) (tx : Tx) :
    (put chans send tx).queue = (chans tx).queue ∨
      send.tx = tx ∧ (put chans send tx).queue = (chans tx).queue ++ [send.item] := by
  by_cases here : tx = send.tx
  · subst here
    rw [put, Function.update_self]
    split
    · unfold Channel.send
      split
      · exact .inl rfl
      · exact .inr ⟨rfl, rfl⟩
    · unfold Channel.trySend
      split
      · exact .inr ⟨rfl, rfl⟩
      · exact .inl rfl
  · rw [put_other chans here]
    exact .inl rfl

theorem foldl_put_queue (sends : List Send) (tx : Tx) :
    ∃ placed, (sends.foldl put chans tx).queue = (chans tx).queue ++ placed ∧
      ∀ item ∈ placed, ∃ send ∈ sends, send.tx = tx ∧ send.item = item := by
  induction sends generalizing chans with
  | nil => exact ⟨[], by simp, by simp⟩
  | cons send rest ih =>
    obtain ⟨placed, grown, sent⟩ := ih (put chans send)
    have later : ∀ item ∈ placed, ∃ other ∈ send :: rest, other.tx = tx ∧ other.item = item := by
      intro item member
      obtain ⟨other, listed, found⟩ := sent item member
      exact ⟨other, List.mem_cons_of_mem _ listed, found⟩
    rcases put_queue chans send tx with kept | ⟨here, taken⟩
    · exact ⟨placed, by rw [List.foldl_cons, grown, kept], later⟩
    · refine ⟨send.item :: placed, by rw [List.foldl_cons, grown, taken]; simp, ?_⟩
      intro item member
      rcases List.mem_cons.mp member with rfl | member
      · exact ⟨send, List.mem_cons_self, here, rfl⟩
      · exact later item member

theorem close_queue (config : Config) (system : System) (own tx : Tx) :
    ((system.step config (.close own)).chans tx).queue = (system.chans tx).queue := by
  change (Function.update system.chans own (system.chans own).close tx).queue = _
  by_cases here : tx = own
  · subst here
    rw [Function.update_self]
    rfl
  · rw [Function.update_of_ne here]

private theorem foldl_put_full {sends : List Send} {tx : Tx} (full : (chans tx).accepts = false)
    (prompt : ∀ send ∈ sends, send.prompt = true) : sends.foldl put chans tx = chans tx := by
  induction sends generalizing chans with
  | nil => rfl
  | cons send rest ih =>
    have first : put chans send tx = chans tx := by
      by_cases here : tx = send.tx
      · subst here
        rw [put_prompt chans (prompt send List.mem_cons_self), Channel.trySend, full]
        rfl
      · exact put_other chans here
    rw [List.foldl_cons, ih (put chans send) (by rw [first]; exact full)
      fun other member => prompt other (List.mem_cons_of_mem _ member), first]

private theorem foldl_put_accepts {sends : List Send} {send : Send} (member : send ∈ sends)
    (prompt : ∀ send ∈ sends, send.prompt = true) (room : (chans send.tx).accepts = true) :
    (chans send.tx).queue.length < (sends.foldl put chans send.tx).queue.length := by
  induction sends generalizing chans with
  | nil => cases member
  | cons first rest ih =>
    obtain ⟨placed, grown, -⟩ := foldl_put_queue (put chans first) rest send.tx
    by_cases here : send.tx = first.tx
    · have taken : (put chans first send.tx).queue = (chans send.tx).queue ++ [first.item] := by
        rw [here, put_prompt chans (prompt first List.mem_cons_self), Channel.trySend, ← here, room]
        rfl
      rw [List.foldl_cons, grown, taken]
      simp only [List.length_append, List.length_singleton]
      omega
    · have apart : put chans first send.tx = chans send.tx := put_other chans here
      have listed : send ∈ rest := by
        rcases List.mem_cons.mp member with rfl | listed
        · exact absurd rfl here
        · exact listed
      rw [List.foldl_cons, ← apart]
      exact ih (put chans first) listed (fun other member => prompt other (List.mem_cons_of_mem _ member))
        (by rw [apart]; exact room)

end System

section Deliver
variable {system after : System} {sends : List Send} {tx : Tx}

theorem places_sent (delivered : after.chans = sends.foldl System.put system.chans) {item : Outbound}
    (places : Places system after tx item) : ∃ send ∈ sends, send.tx = tx ∧ send.item = item := by
  obtain ⟨placed, grown, sent⟩ := System.foldl_put_queue system.chans sends tx
  rw [Places, delivered, grown, List.drop_left] at places
  exact sent item places

theorem places_accepts (delivered : after.chans = sends.foldl System.put system.chans) {item : Outbound}
    (places : Places system after tx item) (prompt : ∀ send ∈ sends, send.prompt = true) :
    (system.chans tx).accepts = true := by
  cases room : (system.chans tx).accepts with
  | true => rfl
  | false =>
    rw [Places, delivered, System.foldl_put_full system.chans room prompt, List.drop_length] at places
    cases places

theorem placed_of_room (delivered : after.chans = sends.foldl System.put system.chans) {send : Send}
    (member : send ∈ sends) (prompt : ∀ send ∈ sends, send.prompt = true)
    (room : (system.chans send.tx).accepts = true) : ∃ item, Places system after send.tx item := by
  have longer := System.foldl_put_accepts system.chans member prompt room
  apply List.exists_mem_of_ne_nil
  intro empty
  have short := List.drop_eq_nil_iff.mp empty
  rw [delivered] at short
  omega

end Deliver

end Vynkor
