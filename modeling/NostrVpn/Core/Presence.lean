import NostrVpn.Core.Signaling
import NostrVpn.Rust.Vec
import NostrVpn.Transition
import Mathlib.Data.String.Basic

/-!
# Presence of peers

`nostr-vpn-core/src/presence.rs`: the announcements of the peers that are online (`active`) and of
those that were heard of (`known`). The two books are guarded by separate timestamps, so a peer that
went stale can be brought back by an announcement older than the known one.
-/
namespace NostrVpn.Core

open Rust

structure PeerPresenceBook where
  active : HashMap String PeerAnnouncement := ∅
  known : HashMap String PeerAnnouncement := ∅
  lastSeenAt : HashMap String Nat := ∅
  activeSinceAt : HashMap String Nat := ∅

namespace PeerPresenceBook

/-- `is_none_or(|existing| existing.timestamp <= announcement.timestamp)`. -/
def supersedes (announcement : PeerAnnouncement) (existing : Option PeerAnnouncement) : Bool :=
  existing.all fun existing => existing.timestamp ≤ announcement.timestamp

def applyAnnounce (book : PeerPresenceBook) (sender : String) (announcement : PeerAnnouncement)
    (seenAt : Nat) : Bool × PeerPresenceBook :=
  let book :=
    if supersedes announcement (book.known.lookup sender) then
      { book with known := book.known.insert sender announcement }
    else book
  if supersedes announcement (book.active.lookup sender) then
    (true, { book with
      activeSinceAt :=
        if (book.active.lookup sender).isSome then book.activeSinceAt
        else book.activeSinceAt.insert sender seenAt
      active := book.active.insert sender announcement })
  else (false, book)

def applySignal (book : PeerPresenceBook) (sender : String) (payload : SignalPayload)
    (seenAt : Nat) : Bool × PeerPresenceBook :=
  let book := { book with lastSeenAt := book.lastSeenAt.insert sender seenAt }
  match payload with
  | .Announce announcement => book.applyAnnounce sender announcement seenAt
  | .Disconnect _ =>
    ((book.active.lookup sender).isSome || (book.known.lookup sender).isSome,
      { book with
        active := book.active.erase sender
        activeSinceAt := book.activeSinceAt.erase sender
        known := book.known.erase sender })
  | .Hello | .Roster _ | .JoinRequest _ _ => (false, book)

def announcementFor (book : PeerPresenceBook) (sender : String) : Option PeerAnnouncement :=
  (book.active.lookup sender).or (book.known.lookup sender)

def restoreKnown (book : PeerPresenceBook) (sender : String) (announcement : PeerAnnouncement)
    (lastSeenAt : Option Nat) : PeerPresenceBook :=
  { book with
    known := book.known.insert sender announcement
    lastSeenAt := match lastSeenAt with
      | some lastSeenAt => book.lastSeenAt.insert sender lastSeenAt
      | none => book.lastSeenAt }

/-- The peer was seen after the cutoff. -/
def fresh (book : PeerPresenceBook) (cutoff : Nat) (sender : String) : Bool :=
  (book.lastSeenAt.lookup sender).any (cutoff < ·)

def pruneStale (book : PeerPresenceBook) (now staleAfterSecs : Nat) :
    List String × PeerPresenceBook :=
  if staleAfterSecs = 0 then ([], book)
  else
    let cutoff := now - staleAfterSecs
    let removed := (book.active.toList.map Prod.fst).filter fun sender => !book.fresh cutoff sender
    (sortByKey id removed, { book with
      active := book.active.retain fun sender _ => book.fresh cutoff sender
      activeSinceAt := book.activeSinceAt.retain fun sender _ => sender ∉ removed })

def retainParticipants (book : PeerPresenceBook) (participants : List String) :
    PeerPresenceBook where
  active := book.active.retain fun participant _ => participant ∈ participants
  known := book.known.retain fun participant _ => participant ∈ participants
  lastSeenAt := book.lastSeenAt.retain fun participant _ => participant ∈ participants
  activeSinceAt := book.activeSinceAt.retain fun participant _ => participant ∈ participants

/-! ## What one call changes -/

@[simp] theorem active_applyAnnounce (book : PeerPresenceBook) (sender p : String)
    (a : PeerAnnouncement) (seenAt : Nat) :
    (book.applyAnnounce sender a seenAt).2.active.lookup p =
      if p = sender ∧ supersedes a (book.active.lookup sender) then some a
      else book.active.lookup p := by
  unfold applyAnnounce
  grind [AList.lookup_insert, AList.lookup_insert_ne]

@[simp] theorem known_applyAnnounce (book : PeerPresenceBook) (sender p : String)
    (a : PeerAnnouncement) (seenAt : Nat) :
    (book.applyAnnounce sender a seenAt).2.known.lookup p =
      if p = sender ∧ supersedes a (book.known.lookup sender) then some a
      else book.known.lookup p := by
  unfold applyAnnounce
  grind [AList.lookup_insert, AList.lookup_insert_ne]

/-- The returned flag says that the active announcement was written. -/
theorem fst_applyAnnounce (book : PeerPresenceBook) (sender : String) (a : PeerAnnouncement)
    (seenAt : Nat) :
    (book.applyAnnounce sender a seenAt).1 = supersedes a (book.active.lookup sender) := by
  unfold applyAnnounce
  grind

@[simp] theorem active_pruneStale (book : PeerPresenceBook) (now staleAfter : Nat) (p : String) :
    (book.pruneStale now staleAfter).2.active.lookup p =
      (book.active.lookup p).filter fun _ => staleAfter = 0 || book.fresh (now - staleAfter) p := by
  unfold pruneStale
  split_ifs with never
  · cases book.active.lookup p <;> simp [never, Option.filter]
  · simp [never]

@[simp] theorem known_pruneStale (book : PeerPresenceBook) (now staleAfter : Nat) :
    (book.pruneStale now staleAfter).2.known = book.known := by
  unfold pruneStale
  split_ifs <;> rfl

@[simp] theorem active_retainParticipants (book : PeerPresenceBook) (participants : List String)
    (p : String) : (book.retainParticipants participants).active.lookup p =
      (book.active.lookup p).filter fun _ => p ∈ participants := by
  simp [retainParticipants]

@[simp] theorem known_retainParticipants (book : PeerPresenceBook) (participants : List String)
    (p : String) : (book.retainParticipants participants).known.lookup p =
      (book.known.lookup p).filter fun _ => p ∈ participants := by
  simp [retainParticipants]

end PeerPresenceBook
end NostrVpn.Core
