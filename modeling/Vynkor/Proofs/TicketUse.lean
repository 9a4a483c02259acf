import Vynkor.Credentials

/-! Pairing tickets can be redeemed once. A row stays used until it is swept, and a hash that
was issued once is not issued again, so a sweep never makes a ticket redeemable, whatever the
clocks of the calls are. -/

namespace Vynkor
open Lib

private theorem toNat_saturatingAdd (left right : UInt64) :
    (saturatingAdd left right).toNat = min (left.toNat + right.toNat) (UInt64.size - 1) := by
  unfold saturatingAdd
  split
  next fits =>
    rw [UInt64.toNat_add, Nat.mod_eq_of_lt fits]
    omega
  next large =>
    rw [UInt64.toNat_ofNat_of_lt' (by decide)]
    omega

private theorem saturatingAdd_mono {first second : UInt64} (le : first ≤ second) (right : UInt64) :
    saturatingAdd first right ≤ saturatingAdd second right := by
  rw [UInt64.le_iff_toNat_le] at le ⊢
  rw [toNat_saturatingAdd, toNat_saturatingAdd]
  omega

private theorem le_saturatingAdd (left right : UInt64) : left ≤ saturatingAdd left right := by
  have small := left.toNat_lt_size
  rw [UInt64.le_iff_toNat_le, toNat_saturatingAdd]
  omega

private theorem TicketRecord.retained {record : TicketRecord} {now : UInt64} (stale : record.isStale now = true) :
    saturatingAdd record.expiresAt staleRetentionSecs ≤ now := by
  have last : record.expiresAt ≤ max record.expiresAt (record.usedAt.getD 0) := by
    change record.expiresAt ≤ if record.expiresAt ≤ record.usedAt.getD 0 then record.usedAt.getD 0 else record.expiresAt
    split
    next le => exact le
    next => exact UInt64.le_refl _
  exact UInt64.le_trans (saturatingAdd_mono last _) (of_decide_eq_true stale)

theorem TicketRecord.expired {record : TicketRecord} {now : UInt64} (stale : record.isStale now = true) :
    record.expiresAt ≤ now :=
  UInt64.le_trans (le_saturatingAdd _ _) (TicketRecord.retained stale)

private theorem TicketRecord.markUsed_ticketSha256 (now : UInt64) (record : TicketRecord) :
    (record.markUsed now).ticketSha256 = record.ticketSha256 := rfl

namespace TicketStore
variable {hashTicket : String → String} {disk : Disk StoreError} {store : TicketStore} {ticket ws : String}
  {now ttlSecs : UInt64} {name : Option String}

def fresh (store : TicketStore) (now : UInt64) : List TicketRecord := store.rows.filter fun row => !row.isStale now

private theorem mem_fresh {row : TicketRecord} : row ∈ store.fresh now ↔ row ∈ store.rows ∧ row.isStale now = false := by
  unfold fresh
  rw [List.mem_filter, Bool.not_eq_true']

def record (hashTicket : String → String) (ticket : String) (now ttlSecs : UInt64) (name : Option String) (ws : String) :
    TicketRecord where
  ticketSha256 := hashTicket ticket
  createdAt := now
  expiresAt := saturatingAdd now ttlSecs
  name := name
  ws := ws

private theorem issueAt_cases (hashTicket : String → String) (disk : Disk StoreError) (store : TicketStore) (ticket ws : String)
    (now ttlSecs : UInt64) (name : Option String) :
    (∃ error, store.issueAt hashTicket disk ticket now ttlSecs name ws = (store, .error error)) ∨
      store.issueAt hashTicket disk ticket now ttlSecs name ws =
        (⟨store.fresh now ++ [record hashTicket ticket now ttlSecs name ws]⟩,
          .ok ⟨ticket, record hashTicket ticket now ttlSecs name ws⟩) := by
  dsimp only [issueAt]
  obtain ⟨error, failed⟩ | ⟨written, result, computed, done⟩ := Disk.transact_cases disk store.rows _
  · exact .inl ⟨error, by rw [failed]⟩
  · cases computed
    exact .inr (by rw [done]; rfl)

private theorem consumeAt_cases (hashTicket : String → String) (disk : Disk StoreError) (store : TicketStore) (ticket : String)
    (now : UInt64) :
    (∃ error, store.consumeAt hashTicket disk ticket now = (store, .error error)) ∨
      ∃ row, Table.find TicketRecord.ticketSha256 store.rows (hashTicket ticket) = some row ∧ row.usedAt = none ∧
        now < row.expiresAt ∧ store.consumeAt hashTicket disk ticket now =
          (⟨Table.update TicketRecord.ticketSha256 (hashTicket ticket) (TicketRecord.markUsed now) store.rows⟩,
            .ok (row.markUsed now)) := by
  unfold consumeAt
  split
  · exact .inl ⟨_, rfl⟩
  obtain ⟨error, failed⟩ | ⟨written, result, computed, done⟩ := Disk.transact_cases disk store.rows _
  · exact .inl ⟨error, by rw [failed]⟩
  right
  rw [done]
  cases found : Table.find TicketRecord.ticketSha256 store.rows (hashTicket ticket) with
  | none =>
    simp only [found] at computed
    cases computed
  | some row =>
    simp only [found] at computed
    split at computed
    · cases computed
    next unused =>
      split at computed
      · cases computed
      next early =>
        cases computed
        exact ⟨row, rfl, Option.not_isSome_iff_eq_none.mp unused, UInt64.not_le.mp early, rfl⟩

private theorem sweepExpired_cases (disk : Disk StoreError) (store : TicketStore) (now : UInt64) :
    (∃ error, store.sweepExpired disk now = (store, .error error)) ∨
      ∃ removed, store.sweepExpired disk now = (⟨store.fresh now⟩, .ok removed) := by
  unfold sweepExpired
  obtain ⟨error, failed⟩ | ⟨written, result, computed, done⟩ := Disk.transact_cases disk store.rows _
  · exact .inl ⟨error, by rw [failed]⟩
  right
  rw [done]
  refine ⟨result, ?_⟩
  cases computed
  split
  next => rfl
  next none =>
    have few : (store.fresh now).length ≤ store.rows.length := List.length_filter_le _ _
    have all : store.fresh now = store.rows := by
      apply List.filter_sublist.eq_of_length
      unfold fresh at few
      omega
    rw [all]
    rfl

end TicketStore

namespace TicketDesk

/-- What a call can do. One that fails does nothing. -/
inductive Does (hashTicket : String → String) (desk : TicketDesk) : TicketCall → TicketDesk → Prop
  | nothing (call : TicketCall) : Does hashTicket desk call desk
  | issued (disk : Disk StoreError) (ticket : String) (now ttlSecs : UInt64) (name : Option String) (ws : String) :
      Does hashTicket desk (.issueAt disk ticket now ttlSecs name ws) { desk with
        store := ⟨desk.store.fresh now ++ [TicketStore.record hashTicket ticket now ttlSecs name ws]⟩
        issued := desk.issued ++ [⟨ticket, TicketStore.record hashTicket ticket now ttlSecs name ws⟩] }
  | redeemed (disk : Disk StoreError) (ticket : String) (now : UInt64) (row : TicketRecord)
      (found : Table.find TicketRecord.ticketSha256 desk.store.rows (hashTicket ticket) = some row)
      (unused : row.usedAt = none) (early : now < row.expiresAt) :
      Does hashTicket desk (.consumeAt disk ticket now) { desk with
        store := ⟨Table.update TicketRecord.ticketSha256 (hashTicket ticket) (TicketRecord.markUsed now) desk.store.rows⟩
        redeemed := desk.redeemed ++ [⟨ticket, now, row.markUsed now⟩] }
  | swept (disk : Disk StoreError) (now : UInt64) :
      Does hashTicket desk (.sweepExpired disk now) { desk with store := ⟨desk.store.fresh now⟩ }

theorem step_does (hashTicket : String → String) (desk : TicketDesk) (call : TicketCall) :
    Does hashTicket desk call (desk.step hashTicket call) := by
  cases call with
  | issueAt disk ticket now ttlSecs name ws =>
    unfold step
    obtain ⟨error, failed⟩ | done := desk.store.issueAt_cases hashTicket disk ticket ws now ttlSecs name
    · simp only [failed, Except.toOption, Option.toList_none, List.append_nil]
      exact .nothing _
    · simp only [done, Except.toOption, Option.toList_some]
      exact .issued ..
  | consumeAt disk ticket now =>
    unfold step
    obtain ⟨error, failed⟩ | ⟨row, found, unused, early, done⟩ := desk.store.consumeAt_cases hashTicket disk ticket now
    · simp only [failed, Except.toOption, Option.map_none, Option.toList_none, List.append_nil]
      exact .nothing _
    · simp only [done, Except.toOption, Option.map_some, Option.toList_some]
      exact .redeemed disk ticket now row found unused early
  | sweepExpired disk now =>
    unfold step
    obtain ⟨error, failed⟩ | ⟨removed, done⟩ := desk.store.sweepExpired_cases disk now
    · simp only [failed]
      exact .nothing _
    · simp only [done]
      exact .swept ..
  | reopen => exact .nothing _

def hashes (hashTicket : String → String) (desk : TicketDesk) : List String :=
  desk.issued.map fun issued => hashTicket issued.ticket

/-- A row was issued under its hash, and nothing about it changes but that it is used. -/
def Issued (desk : TicketDesk) (row : TicketRecord) : Prop :=
  ∃ issued ∈ desk.issued, row = { issued.record with usedAt := row.usedAt }

structure Books (hashTicket : String → String) (desk : TicketDesk) : Prop where
  unique : Table.Unique TicketRecord.ticketSha256 desk.store.rows
  named : ∀ issued ∈ desk.issued, issued.record.ticketSha256 = hashTicket issued.ticket
  issued : ∀ row ∈ desk.store.rows, desk.Issued row
  honoured : ∀ redemption ∈ desk.redeemed, desk.Issued redemption.record ∧
    redemption.record.ticketSha256 = hashTicket redemption.ticket ∧ redemption.record.usedAt = some redemption.now ∧
    redemption.now < redemption.record.expiresAt
  spent : ∀ redemption ∈ desk.redeemed, ∀ row ∈ desk.store.rows, row.ticketSha256 = hashTicket redemption.ticket →
    row.usedAt ≠ none
  once : (desk.redeemed.map fun redemption => hashTicket redemption.ticket).Nodup

variable {hashTicket : String → String} {desk after : TicketDesk} {call : TicketCall} {row : TicketRecord}

theorem Issued.mono (held : desk.Issued row) (more : ∀ issued ∈ desk.issued, issued ∈ after.issued) : after.Issued row := by
  obtain ⟨issued, member, same⟩ := held
  exact ⟨issued, more issued member, same⟩

private theorem Books.mem_hashes (books : desk.Books hashTicket) (held : desk.Issued row) :
    row.ticketSha256 ∈ desk.hashes hashTicket := by
  obtain ⟨issued, member, same⟩ := held
  have named := books.named issued member
  rw [same]
  exact List.mem_map.mpr ⟨issued, member, named.symm⟩

private theorem Does.hashes (does : desk.Does hashTicket call after) (distinct : (after.hashes hashTicket).Nodup) :
    (desk.hashes hashTicket).Nodup := by
  cases does with
  | issued =>
    unfold TicketDesk.hashes at distinct ⊢
    rw [List.map_append] at distinct
    exact distinct.of_append_left
  | nothing | redeemed | swept => exact distinct

theorem Books.sweep (books : desk.Books hashTicket) (now : UInt64) :
    Books hashTicket { desk with store := ⟨desk.store.fresh now⟩ } where
  unique := books.unique.filter _
  named := books.named
  issued row member := books.issued row (TicketStore.mem_fresh.mp member).1
  honoured := books.honoured
  spent redemption member row there := books.spent redemption member row (TicketStore.mem_fresh.mp there).1
  once := books.once

theorem Books.issue (books : desk.Books hashTicket) {ticket : String} {record : TicketRecord}
    (named : record.ticketSha256 = hashTicket ticket) (fresh : hashTicket ticket ∉ desk.hashes hashTicket) :
    Books hashTicket { desk with
      store := ⟨desk.store.rows ++ [record]⟩
      issued := desk.issued ++ [⟨ticket, record⟩] } := by
  have more : ∀ issued ∈ desk.issued, issued ∈ desk.issued ++ [⟨ticket, record⟩] :=
    fun issued member => List.mem_append_left _ member
  constructor
  · apply books.unique.append
    rw [Table.find_none]
    intro row member same
    exact fresh (named ▸ same ▸ books.mem_hashes (books.issued row member))
  · intro issued member
    obtain old | new := List.mem_append.mp member
    · exact books.named issued old
    · cases List.mem_singleton.mp new
      exact named
  · intro row member
    obtain old | new := List.mem_append.mp member
    · exact (books.issued row old).mono more
    · cases List.mem_singleton.mp new
      exact ⟨⟨ticket, record⟩, List.mem_append_right _ List.mem_cons_self, rfl⟩
  · intro redemption member
    obtain ⟨issued, honoured⟩ := books.honoured redemption member
    exact ⟨issued.mono more, honoured⟩
  · intro redemption member row there same
    obtain old | new := List.mem_append.mp there
    · exact books.spent redemption member row old same
    · cases List.mem_singleton.mp new
      -- a ticket that was redeemed had been issued, so its hash is not drawn again
      obtain ⟨issued, its, -⟩ := books.honoured redemption member
      have known := books.mem_hashes issued
      rw [its, ← same, named] at known
      exact absurd known fresh
  · exact books.once

private theorem mem_redeemed {rows : List TicketRecord} {hash : String} {now : UInt64}
    (unique : Table.Unique TicketRecord.ticketSha256 rows)
    (member : row ∈ Table.update TicketRecord.ticketSha256 hash (TicketRecord.markUsed now) rows) :
    (row.ticketSha256 = hash ∧ ∃ old ∈ rows, row = old.markUsed now) ∨ (row.ticketSha256 ≠ hash ∧ row ∈ rows) := by
  have keeps := TicketRecord.markUsed_ticketSha256 now
  by_cases mine : row.ticketSha256 = hash
  · left
    refine ⟨mine, ?_⟩
    have found := (unique.update keeps hash).find_eq member
    rw [Table.find_update keeps, if_pos mine] at found
    obtain ⟨old, there, same⟩ := Option.map_eq_some_iff.mp found
    exact ⟨old, (Table.find_some there).1, same.symm⟩
  · exact .inr ⟨mine, (Table.mem_update_other mine keeps).mp member⟩

private theorem Books.redeem (books : desk.Books hashTicket) {ticket : String} {now : UInt64}
    (found : Table.find TicketRecord.ticketSha256 desk.store.rows (hashTicket ticket) = some row)
    (unused : row.usedAt = none) (early : now < row.expiresAt) :
    Books hashTicket { desk with
      store := ⟨Table.update TicketRecord.ticketSha256 (hashTicket ticket) (TicketRecord.markUsed now) desk.store.rows⟩
      redeemed := desk.redeemed ++ [⟨ticket, now, row.markUsed now⟩] } := by
  obtain ⟨there, its⟩ := Table.find_some found
  have used {old : TicketRecord} (held : desk.Issued old) : desk.Issued (old.markUsed now) := by
    obtain ⟨issued, member, same⟩ := held
    exact ⟨issued, member, by rw [same]; rfl⟩
  constructor
  · exact books.unique.update (TicketRecord.markUsed_ticketSha256 now) _
  · exact books.named
  · intro other member
    obtain ⟨-, old, before, rfl⟩ | ⟨-, before⟩ := mem_redeemed books.unique member
    · exact used (books.issued old before)
    · exact books.issued other before
  · intro redemption member
    obtain old | new := List.mem_append.mp member
    · exact books.honoured redemption old
    · cases List.mem_singleton.mp new
      exact ⟨used (books.issued row there), its, rfl, early⟩
  · intro redemption member other inside same
    obtain ⟨-, old, -, rfl⟩ | ⟨apart, before⟩ := mem_redeemed books.unique inside
    · exact Option.some_ne_none now
    obtain old | new := List.mem_append.mp member
    · exact books.spent redemption old other before same
    · cases List.mem_singleton.mp new
      exact absurd same apart
  · rw [List.map_append]
    refine List.nodup_append.mpr ⟨books.once, List.nodup_singleton _, ?_⟩
    intro hash member new single same
    obtain ⟨redemption, earlier, rfl⟩ := List.mem_map.mp member
    cases List.mem_singleton.mp single
    exact books.spent redemption earlier row there (its.trans same.symm) unused

theorem Books.step (books : desk.Books hashTicket) (does : desk.Does hashTicket call after)
    (distinct : (after.hashes hashTicket).Nodup) : after.Books hashTicket := by
  cases does with
  | nothing => exact books
  | issued disk ticket now ttlSecs name ws =>
    unfold hashes at distinct
    rw [List.map_append] at distinct
    have fresh : hashTicket ticket ∉ desk.hashes hashTicket := by
      intro known
      exact (List.nodup_append.mp distinct).2.2 _ known _ List.mem_cons_self rfl
    exact (books.sweep now).issue rfl fresh
  | redeemed disk ticket now row found unused early => exact books.redeem found unused early
  | swept disk now => exact books.sweep now

private theorem run_books (hashTicket : String → String) (calls : List TicketCall) :
    (((machine hashTicket).run calls).hashes hashTicket).Nodup → ((machine hashTicket).run calls).Books hashTicket := by
  refine @Machine.run_preserves _ _ (machine hashTicket)
    (fun desk => (desk.hashes hashTicket).Nodup → desk.Books hashTicket) ?_ ?_ calls
  · intro _
    exact ⟨Table.Unique.empty _, nofun, nofun, nofun, nofun, List.nodup_nil⟩
  · intro desk call books distinct
    have does := step_does hashTicket desk call
    exact (books (does.hashes distinct)).step does distinct

end TicketDesk

def TicketCall.clock : TicketCall → Option UInt64
  | .issueAt _ _ now _ _ _ | .consumeAt _ _ now | .sweepExpired _ now => some now
  | .reopen => none

def TicketCall.own (hashTicket : String → String) : TicketCall → Option String
  | .issueAt _ ticket _ _ _ _ | .consumeAt _ ticket _ => some (hashTicket ticket)
  | .sweepExpired _ _ | .reopen => none

def TicketCall.sweeps : TicketCall → Option UInt64
  | .issueAt _ _ now _ _ _ | .sweepExpired _ now => some now
  | .consumeAt _ _ _ | .reopen => none

namespace TicketDesk
variable {hashTicket : String → String} {desk after : TicketDesk} {call : TicketCall} {row : TicketRecord}

/-- Rows of other tickets do not change, and only stale ones go. -/
theorem Does.others (does : desk.Does hashTicket call after) (apart : call.own hashTicket ≠ some row.ticketSha256) :
    (row ∈ after.store.rows → row ∈ desk.store.rows) ∧
      (row ∈ desk.store.rows → row ∈ after.store.rows ∨ ∃ now, call.clock = some now ∧ row.isStale now = true) := by
  have swept (now : UInt64) (member : row ∈ desk.store.rows) : row ∈ desk.store.fresh now ∨ row.isStale now = true := by
    by_cases stale : row.isStale now = true
    · exact .inr stale
    · exact .inl (TicketStore.mem_fresh.mpr ⟨member, Bool.eq_false_iff.mpr stale⟩)
  cases does with
  | nothing => exact ⟨id, .inl⟩
  | issued disk ticket now ttlSecs name ws =>
    constructor
    · intro member
      obtain old | new := List.mem_append.mp member
      · exact (TicketStore.mem_fresh.mp old).1
      · cases List.mem_singleton.mp new
        exact absurd rfl apart
    · intro member
      obtain kept | stale := swept now member
      · exact .inl (List.mem_append_left _ kept)
      · exact .inr ⟨now, rfl, stale⟩
  | redeemed disk ticket now redeemed found unused early =>
    have different : row.ticketSha256 ≠ hashTicket ticket := fun same => apart (congrArg some same.symm)
    have keeps := TicketRecord.markUsed_ticketSha256 now
    constructor
    · intro member
      exact (Table.mem_update_other different keeps).mp member
    · intro member
      exact .inl ((Table.mem_update_other different keeps).mpr member)
  | swept disk now =>
    constructor
    · intro member
      exact (TicketStore.mem_fresh.mp member).1
    · intro member
      obtain kept | stale := swept now member
      · exact .inl kept
      · exact .inr ⟨now, rfl, stale⟩

theorem Does.keeps (does : desk.Does hashTicket call after) {now : UInt64} (sweeps : call.sweeps = some now)
    (member : row ∈ desk.store.rows) (lives : row.isStale now = false) : row ∈ after.store.rows := by
  have kept : row ∈ desk.store.fresh now := TicketStore.mem_fresh.mpr ⟨member, lives⟩
  cases does with
  | nothing => exact member
  | issued =>
    cases sweeps
    exact List.mem_append_left _ kept
  | redeemed => cases sweeps
  | swept =>
    cases sweeps
    exact kept

end TicketDesk

section
variable (hashTicket : String → String)

/-- In every sequence of calls a ticket is redeemed at most once and before it expires, a call
that is refused changes nothing, no call touches the row of another ticket unless it is stale,
and rows are swept only after they have expired and been retained. -/
theorem tickets_redeemed_once (calls : List TicketCall)
    (distinct : (((TicketDesk.machine hashTicket).run calls).hashes hashTicket).Nodup) :
    let desk := (TicketDesk.machine hashTicket).run calls
    (∀ ticket, desk.redeemed.countP (fun redemption => redemption.ticket = ticket) ≤ 1) ∧
      (∀ redemption ∈ desk.redeemed, redemption.now < redemption.record.expiresAt ∧
        desk.Issued redemption.record ∧ redemption.record.ticketSha256 = hashTicket redemption.ticket) ∧
      (∀ disk ticket now error, (desk.store.consumeAt hashTicket disk ticket now).2 = .error error →
        (desk.store.consumeAt hashTicket disk ticket now).1 = desk.store) ∧
      (∀ call row, call.own hashTicket ≠ some row.ticketSha256 →
        (row ∈ (desk.step hashTicket call).store.rows → row ∈ desk.store.rows) ∧
        (row ∈ desk.store.rows → row ∈ (desk.step hashTicket call).store.rows ∨
          ∃ now, call.clock = some now ∧ row.isStale now = true)) ∧
      ∀ call now row, call.sweeps = some now → row ∈ desk.store.rows →
        now < row.expiresAt ∨ now < saturatingAdd row.expiresAt staleRetentionSecs →
        row ∈ (desk.step hashTicket call).store.rows := by
  intro desk
  have books : desk.Books hashTicket := TicketDesk.run_books hashTicket calls distinct
  refine ⟨?_, ?_, ?_, ?_, ?_⟩
  · intro ticket
    have once : (desk.redeemed.map Redemption.ticket).Nodup := by
      apply List.Nodup.of_map hashTicket
      rw [List.map_map]
      exact books.once
    have few := List.nodup_iff_count_le_one.mp once ticket
    rw [List.count, List.countP_map] at few
    simpa only [Function.comp_def, beq_eq_decide] using few
  · intro redemption member
    obtain ⟨issued, its, -, early⟩ := books.honoured redemption member
    exact ⟨early, issued, its⟩
  · intro disk ticket now error failed
    obtain ⟨_, unchanged⟩ | ⟨_, _, _, _, done⟩ := desk.store.consumeAt_cases hashTicket disk ticket now
    · rw [unchanged]
    · rw [done] at failed
      cases failed
  · intro call row apart
    exact (TicketDesk.step_does hashTicket desk call).others apart
  · intro call now row sweeps member early
    apply (TicketDesk.step_does hashTicket desk call).keeps sweeps member
    apply Bool.eq_false_iff.mpr
    intro stale
    obtain early | early := early
    · exact UInt64.not_le.mpr early (TicketRecord.expired stale)
    · exact UInt64.not_le.mpr early (TicketRecord.retained stale)

end

/-- Two tickets are issued, the first is redeemed, refused a second time and swept, and refused
again by a clock that has gone back; the second could not be written at first. -/
def twoTickets : List TicketCall :=
  let first := "first-ticket-0123456789-0123456789-01234567"
  let second := "other-ticket-0123456789-0123456789-01234567"
  [.issueAt {} first 100 300 (some "phone") "ws://host/ws", .consumeAt {} first 399, .consumeAt {} first 200,
    .issueAt { write := some (.io "no space left on device") } second 400 300 none "ws://host/ws",
    .issueAt {} second 4000 18446744073709551615 none "ws://host/ws", .reopen, .consumeAt {} first 101,
    .sweepExpired {} 4000, .consumeAt {} second 5000]

theorem tickets_redeemed_once_twoTickets :
    ((TicketDesk.machine id).run twoTickets).redeemed.length = 2 ∧
      ((TicketDesk.machine id).run twoTickets).redeemed.countP
        (fun redemption => redemption.ticket = "first-ticket-0123456789-0123456789-01234567") ≤ 1 :=
  ⟨by decide +kernel, (tickets_redeemed_once id twoTickets (by decide +kernel)).1 _⟩

end Vynkor
