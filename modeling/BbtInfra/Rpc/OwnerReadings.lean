import BbtInfra.Rpc.OwnerLedger

/-!
# Readings that the critical sections of an owner leave alone

The critical sections write tables and heaps and ask connections to close. A reading of the
owner that sees none of these is the same after each of them, for one reason.
-/
namespace BbtInfra.Rpc

open Lib

/-- A reading of the owner that sees no table, no heap and no close request. -/
structure Blind {α : Type*} (read : SessionOwnerState → α) : Prop where
  asked : ∀ (o : SessionOwnerState) (conn : Nat), read (o.requestClose conn) = read o
  tables : ∀ (o : SessionOwnerState) (byEndpoint byIdentity establishing : Table Bytes Nat)
    (sessions links : UInt64) (heap : List Session) (records : List Establishing),
    read { o with byEndpoint, byIdentity, establishing, sessions, links, heap, records } = read o

namespace Blind

variable {α : Type*} {read : SessionOwnerState → α}

section

variable (blind : Blind read) (o : SessionOwnerState)

include blind

/-- It does not see a session change. -/
theorem modifySession (id : Nat) (f : Session → Session) : read (o.modifySession id f) = read o :=
  blind.tables o _ _ _ _ _ _ _

/-- It does not see a record of a dial change. -/
theorem modifyRecord (record : Nat)
    (f : Establishing → Establishing) : read (o.modifyRecord record f) = read o :=
  blind.tables o _ _ _ _ _ _ _

/-- `Kill`: the session is marked, and its connection is asked to close. -/
theorem kill (id : Nat) : read (o.kill id) = read o := by
  unfold SessionOwnerState.kill
  split
  · rfl
  · split
    · rfl
    · exact (blind.asked _ _).trans (blind.modifySession o id _)

/-- One released session leaves the tables. -/
theorem releasedLocked (id : Nat) : read (o.releasedLocked id) = read o := by
  unfold SessionOwnerState.releasedLocked
  split
  · rfl
  · split
    · rfl
    · split
      · rfl
      · exact blind.tables o _ _ _ _ _ _ _

/-- `DriveRelease`: every session whose tasks have ended leaves them. -/
theorem driveRelease : read o.driveRelease = read o := by
  have swept : ∀ (ids : List Nat) (owner : SessionOwnerState),
      read (ids.foldl SessionOwnerState.releasedLocked owner) = read owner := by
    intro ids
    induction ids with
    | nil => exact fun _ => rfl
    | cons id rest ih => exact fun owner => (ih _).trans (blind.releasedLocked owner id)
  exact swept o.byIdentity.values o

/-- `JoinOrReserve`: a dial is joined, or a record is reserved. -/
theorem joinOrReserve (key : Bytes) : read (o.joinOrReserve key).1 = read o := by
  unfold SessionOwnerState.joinOrReserve
  split
  · rfl
  · split
    · rfl
    · exact blind.tables o _ _ _ _ _ _ _

/-- The entry of `GetSession`, which may find a session, a dial or neither. -/
theorem enterLocked (key : Bytes) : read (o.enterLocked key).1 = read o := by
  unfold SessionOwnerState.enterLocked
  split
  · rfl
  · dsimp only
    have swept := blind.driveRelease o
    split
    · split
      · exact (blind.joinOrReserve _ key).trans ((blind.tables _ _ _ _ _ _ _ _).trans swept)
      · exact swept
    · exact (blind.joinOrReserve _ key).trans swept

/-- A dialled connection is published in its record, or closed. -/
theorem publishConn (record conn : Nat) : read (o.publishConn record conn).1 = read o := by
  have learnt := blind.modifyRecord o record fun r => { r with conn := some conn }
  unfold SessionOwnerState.publishConn
  dsimp only
  split
  · exact (blind.asked _ conn).trans learnt
  · exact learnt

/-- A new session that loses against the mapped one is fenced. -/
theorem fenceLocked (id conn : Nat) (endpoint : Bytes) (winner : Nat) :
    read (o.fenceLocked id conn endpoint winner) = read o := by
  have closed := (blind.asked _ conn).trans
    (blind.modifySession o id fun s => { s with dead := true })
  unfold SessionOwnerState.fenceLocked
  split
  · exact closed
  · exact (blind.tables _ _ _ _ _ _ _ _).trans closed

/-- The reservation of a dial becomes its session. -/
theorem convertReservation (record : Option Nat) : read (o.convertReservation record) = read o := by
  cases record with
  | none => rfl
  | some own => exact blind.modifyRecord o own _

/-- A session is mapped under its identity and its endpoint. -/
theorem adopted (peer : Bytes) (id : Nat) (endpoint : Bytes) (evicted : Option Nat) :
    read ((o.mapIdentity peer id).adoptLocked id endpoint evicted) = read o :=
  blind.tables o _ _ _ _ _ _ _

/-- `InstallSession`, whichever of its four outcomes it has. -/
theorem installLocked (id : Nat) (session : Session) (endpoint : Bytes) (record : Option Nat) :
    read (o.installLocked id session endpoint record).1 = read o := by
  have outcome := SessionOwnerState.installLocked_outcome o id session endpoint record
  revert outcome
  generalize o.installLocked id session endpoint record = result
  intro outcome
  cases outcome with
  | refused error guard => rfl
  | fenced winner opened mapped loses => exact blind.fenceLocked o _ _ _ _
  | evicted winner opened mapped wins =>
    exact blind.adopted o session.peerIdentity id endpoint (some winner)
  | added opened absent room =>
    exact (blind.adopted _ session.peerIdentity id endpoint none).trans
      (blind.convertReservation o record)

/-- The tasks of a session start, or it is killed. -/
theorem startTasks (id : Nat)
    (reader writer : Bool) : read (o.startTasks id reader writer).1 = read o := by
  unfold SessionOwnerState.startTasks
  dsimp only
  split
  · exact blind.modifySession o id _
  · exact (blind.kill _ id).trans (blind.modifySession o id _)

/-- The record of a dial is settled and leaves its table. -/
theorem settleLocked (key : Bytes) (record : Nat)
    (made : Except Error Nat) : read (o.settleLocked key record made).1 = read o := by
  have settled := blind.modifyRecord o record fun r => r.settled made
  unfold SessionOwnerState.settleLocked
  dsimp only
  split
  · exact (blind.tables _ _ _ _ _ _ _ _).trans settled
  · exact settled

end

/-- A handshake that fails closes its connection, if it has dialled it. -/
theorem refuse (blind : Blind read) (way : Way) (o : SessionOwnerState) (conn : Nat) :
    read (way.refuse o conn) = read o := by
  cases way with
  | outbound record => exact blind.asked o conn
  | inbound => rfl

end Blind

end BbtInfra.Rpc
