import NostrVpn.Cli.DaemonSession
import NostrVpn.Core.PathFlags

/-!
# The peer cache of the daemon

`build_daemon_peer_cache_state`, `write_daemon_peer_cache_if_changed` and `restore_daemon_peer_cache` of
`nostr-vpn-cli/src/main.rs`. A text stands for the state that `serde_json` reads back from it.
-/
namespace NostrVpn.Core

deriving instance DecidableEq for PeerPathState, PeerPathBook

end NostrVpn.Core

namespace NostrVpn.Cli

open Rust NostrVpn.Core

deriving instance DecidableEq for DaemonPeerCacheEntry, DaemonPeerCacheState

/-- What is written, with the field that the restore does not read. -/
structure WrittenPeerCache extends DaemonPeerCacheState where
  updatedAt : Nat
  deriving DecidableEq

/-- The file of the cache. -/
inductive PeerCacheFile where
  | missing
  | unreadable (error : String)
  | readable (cache : DaemonPeerCacheState)

/-! ## Writing -/

/-- What the daemon writes from, with its cache file and the text that it wrote last. -/
structure CachingDaemon where
  codec : KeyCodec
  networkId : String
  ownPubkey : Option String
  presence : PeerPresenceBook
  pathBook : PeerPathBook
  runtimePeers : Option PeerStatuses
  file : PeerCacheFile
  lastWrittenCache : Option WrittenPeerCache

namespace CachingDaemon

def entry (daemon : CachingDaemon) (now : Nat) (participant : String) (announcement : PeerAnnouncement) :
    DaemonPeerCacheEntry :=
  let handshakeAt := (peerRuntimeLookup daemon.codec announcement daemon.runtimePeers).bind fun peer =>
    peer.lastHandshakeAt now
  let lastSeenAt := daemon.presence.lastSeenAt.lookup participant
  { participantPubkey := participant
    announcement
    lastSignalSeenAt := lastSeenAt
    cachedAt := max (max (lastSeenAt.getD announcement.timestamp) (handshakeAt.getD 0)) announcement.timestamp }

def buildDaemonPeerCacheState (daemon : CachingDaemon) (now : Nat) : Option WrittenPeerCache :=
  let peers := sortByKey DaemonPeerCacheEntry.participantPubkey (daemon.presence.known.toList.map
    fun (participant, announcement) => daemon.entry now participant announcement)
  if peers = [] then none
  else some {
    version := 1
    networkId := daemon.networkId
    ownPubkey := daemon.ownPubkey
    updatedAt := now
    peers
    pathBook := daemon.pathBook }

/-- A write that succeeds. -/
def writeDaemonPeerCacheIfChanged (daemon : CachingDaemon) (now : Nat) : CachingDaemon :=
  match daemon.buildDaemonPeerCacheState now with
  | none => daemon
  | some cache =>
    if daemon.lastWrittenCache = some cache then daemon
    else { daemon with file := .readable cache.toDaemonPeerCacheState, lastWrittenCache := some cache }

/-- The file holds the text that was written last. -/
def FileAgrees (daemon : CachingDaemon) : Prop :=
  ∀ cache, daemon.lastWrittenCache = some cache → daemon.file = .readable cache.toDaemonPeerCacheState

theorem fileAgrees_write {daemon : CachingDaemon} (agrees : daemon.FileAgrees) (now : Nat) :
    (daemon.writeDaemonPeerCacheIfChanged now).FileAgrees := by
  unfold writeDaemonPeerCacheIfChanged
  split
  · exact agrees
  · split_ifs
    · exact agrees
    · rintro cache ⟨⟩
      rfl

end CachingDaemon

/-! ## Restoring -/

structure DaemonPeerCacheRestore where
  file : PeerCacheFile
  app : AppConfig
  networkId : String
  ownPubkey : Option String
  now : Nat
  announceIntervalSecs : Nat

namespace DaemonPeerCacheRestore

/-- The checks of an entry. -/
def accepts (restore : DaemonPeerCacheRestore) (entry : DaemonPeerCacheEntry) : Bool :=
  restore.now - persistedPeerCacheTimeoutSecs restore.announceIntervalSecs < entry.cachedAt &&
    restore.app.participantPubkeysHex.contains entry.participantPubkey &&
    some entry.participantPubkey != restore.ownPubkey

/-- The entries that are restored from a file; a file of another version, network or key has none. -/
def entries (restore : DaemonPeerCacheRestore) (cache : DaemonPeerCacheState) : List DaemonPeerCacheEntry :=
  if cache.version ≠ 1 ∨ cache.networkId ≠ restore.networkId then []
  else if cache.ownPubkey.any fun cached => restore.ownPubkey.any fun current => cached ≠ current then []
  else cache.peers.filter restore.accepts

def restoreEntry (presence : PeerPresenceBook) (entry : DaemonPeerCacheEntry) : PeerPresenceBook :=
  presence.restoreKnown entry.participantPubkey entry.announcement entry.lastSignalSeenAt

def restoreDaemonPeerCache (restore : DaemonPeerCacheRestore) (presence : PeerPresenceBook)
    (pathBook : PeerPathBook) : Except String Bool × PeerPresenceBook × PeerPathBook :=
  match restore.file with
  | .missing => (.ok false, presence, pathBook)
  | .unreadable error => (.error error, presence, pathBook)
  | .readable cache =>
    let entries := restore.entries cache
    let presence := entries.foldl restoreEntry presence
    if entries = [] then (.ok false, presence, pathBook)
    else (.ok true, presence,
      (cache.pathBook.retainParticipants restore.app.participantPubkeysHex).pruneStale restore.now
        (persistedPathCacheTimeoutSecs restore.announceIntervalSecs))

theorem restore_readable {restore : DaemonPeerCacheRestore} {cache : DaemonPeerCacheState}
    (file : restore.file = .readable cache) (presence : PeerPresenceBook) (pathBook : PeerPathBook) :
    (restore.restoreDaemonPeerCache presence pathBook).2 =
      ((restore.entries cache).foldl restoreEntry presence, if restore.entries cache = [] then pathBook else
        (cache.pathBook.retainParticipants restore.app.participantPubkeysHex).pruneStale restore.now
          (persistedPathCacheTimeoutSecs restore.announceIntervalSecs)) := by
  unfold restoreDaemonPeerCache
  rw [file]
  dsimp only
  split_ifs <;> rfl

/-- The restore of a running session is this one on its own books. -/
theorem restorePeerCache_eq (env : SessionEnv) (networkId : String) (now : Nat)
    (cache : DaemonPeerCacheState) (session : Session) :
    let restored := restoreDaemonPeerCache
      ⟨.readable cache, session.app, networkId, session.ownPubkey, now, env.announceIntervalSecs⟩
      session.presence session.pathBook
    (session.restorePeerCache env networkId now cache).2 =
      { session with presence := restored.2.1, pathBook := restored.2.2 } := by
  intro restored
  have restored_eq : restored.2 = _ := restore_readable rfl session.presence session.pathBook
  rw [restored_eq, Session.restorePeerCache]
  unfold entries
  by_cases header : cache.version ≠ 1 ∨ cache.networkId ≠ networkId
  · rw [if_pos (by tauto), if_pos header]
    rfl
  · by_cases key : cache.ownPubkey.any fun cached => session.ownPubkey.any fun current => cached ≠ current
    · rw [if_pos (Or.inr (Or.inr key)), if_neg header, if_pos key]
      rfl
    · rw [if_neg (by tauto), if_neg header, if_neg key]
      by_cases empty : cache.peers.filter (accepts ⟨.readable cache, session.app, networkId,
          session.ownPubkey, now, env.announceIntervalSecs⟩) = []
      · refine (congrArg Prod.snd (if_pos (List.isEmpty_iff.mpr empty))).trans ?_
        rw [empty]
        rfl
      · refine (congrArg Prod.snd (if_neg (mt List.isEmpty_iff.mp empty))).trans ?_
        rw [if_neg empty]
        rfl

end DaemonPeerCacheRestore

/-! ## Fidelity -/

/-- A restart of the daemon after the cache was written: its network, key and participants stay. -/
structure Restart where
  app : AppConfig
  announceIntervalSecs : Nat
  now : Nat
  later : Nat

namespace Restart

variable (restart : Restart) (daemon : CachingDaemon)

def others : List String := otherParticipants restart.app daemon.ownPubkey

def request (file : PeerCacheFile) : DaemonPeerCacheRestore where
  file := file
  app := restart.app
  networkId := daemon.networkId
  ownPubkey := daemon.ownPubkey
  now := restart.later
  announceIntervalSecs := restart.announceIntervalSecs

/-- The books of the daemon after the restart. -/
def books : PeerPresenceBook × PeerPathBook :=
  ((restart.request daemon (daemon.writeDaemonPeerCacheIfChanged restart.now).file).restoreDaemonPeerCache
    {} ⟨∅⟩).2

/-- The restart happens before anything that is cached times out. -/
structure InTime : Prop where
  peers : ∀ participant ∈ restart.others daemon, ∀ announcement ∈ daemon.presence.known.lookup participant,
    restart.later - persistedPeerCacheTimeoutSecs restart.announceIntervalSecs <
      (daemon.entry restart.now participant announcement).cachedAt
  paths : ∀ peer ∈ daemon.pathBook.peers.toList, ∀ path ∈ peer.2.endpoints.toList,
    restart.later - persistedPathCacheTimeoutSecs restart.announceIntervalSecs < path.2.freshnessAt

/-- The books after the restart are those at the write, restricted to the configured other participants. -/
structure Faithful : Prop where
  known : ∀ participant, (restart.books daemon).1.known.lookup participant =
    if participant ∈ restart.others daemon then daemon.presence.known.lookup participant else none
  lastSeen : ∀ participant, (restart.books daemon).1.lastSeenAt.lookup participant =
    if participant ∈ restart.others daemon then daemon.presence.lastSeenAt.lookup participant else none
  paths : ∀ participant, (restart.books daemon).2.contents participant =
    if participant ∈ restart.others daemon then daemon.pathBook.contents participant else none

/-- Some configured other participant has announced itself. -/
def Announced : Prop := ∃ participant ∈ restart.others daemon, daemon.presence.known.lookup participant ≠ none

/-- Every configured other participant that was seen has announced itself, the path book of each of them
tracks an endpoint and the current one, and that of the own key tracks none. -/
structure Complete : Prop where
  seen : ∀ participant ∈ restart.others daemon, daemon.presence.lastSeenAt.lookup participant ≠ none →
    daemon.presence.known.lookup participant ≠ none
  paths : ∀ participant ∈ restart.others daemon, ∀ state ∈ daemon.pathBook.peers.lookup participant,
    state.endpoints.entries ≠ [] ∧ ∀ current ∈ state.currentEndpoint, state.endpoints.lookup current ≠ none
  own : ∀ own ∈ daemon.ownPubkey, own ∈ restart.app.participantPubkeysHex →
    ∀ state ∈ daemon.pathBook.peers.lookup own, state.endpoints.entries = []

/-- No configured other participant was seen or has a path, and if no announcement is known at all then
the old file restores none. -/
structure Blank : Prop where
  seen : ∀ participant ∈ restart.others daemon, daemon.presence.lastSeenAt.lookup participant = none
  paths : ∀ participant ∈ restart.others daemon, daemon.pathBook.peers.lookup participant = none
  file : daemon.presence.known.toList = [] → ∀ cache, daemon.file = .readable cache →
    (restart.request daemon daemon.file).entries cache = []

/-- The states whose cache is faithful. -/
def Restorable : Prop :=
  restart.Announced daemon ∧ restart.Complete daemon ∨ ¬ restart.Announced daemon ∧ restart.Blank daemon

end Restart

/-! ### Restored announcements -/

section Restored
variable {entries : List DaemonPeerCacheEntry} {participant : String}

/-- The known announcements after a list of entries of different participants. -/
theorem known_foldl_restoreEntry (nodup : (entries.map DaemonPeerCacheEntry.participantPubkey).Nodup)
    (presence : PeerPresenceBook) (announcement : PeerAnnouncement) :
    (entries.foldl DaemonPeerCacheRestore.restoreEntry presence).known.lookup participant = some announcement ↔
      (∃ entry ∈ entries, entry.participantPubkey = participant ∧ entry.announcement = announcement) ∨
        participant ∉ entries.map DaemonPeerCacheEntry.participantPubkey ∧
          presence.known.lookup participant = some announcement := by
  induction entries generalizing presence with
  | nil => simp
  | cons first rest ih =>
    obtain ⟨fresh, distinct⟩ := List.nodup_cons.mp nodup
    rw [List.foldl_cons, ih distinct]
    by_cases same : participant = first.participantPubkey
    · subst same
      have absent : ¬ ∃ entry ∈ rest, entry.participantPubkey = first.participantPubkey ∧
          entry.announcement = announcement :=
        fun ⟨entry, mem, eq, _⟩ => fresh (List.mem_map.mpr ⟨entry, mem, eq⟩)
      simp [DaemonPeerCacheRestore.restoreEntry, PeerPresenceBook.restoreKnown, absent, fresh]
    · simp [DaemonPeerCacheRestore.restoreEntry, PeerPresenceBook.restoreKnown, AList.lookup_insert_ne same, same,
        Ne.symm same]

/-- The last-seen times after a list of entries of different participants. -/
theorem lastSeen_foldl_restoreEntry (nodup : (entries.map DaemonPeerCacheEntry.participantPubkey).Nodup)
    (presence : PeerPresenceBook) (seenAt : Nat) :
    (entries.foldl DaemonPeerCacheRestore.restoreEntry presence).lastSeenAt.lookup participant = some seenAt ↔
      (∃ entry ∈ entries, entry.participantPubkey = participant ∧ entry.lastSignalSeenAt = some seenAt) ∨
        (∀ entry ∈ entries, entry.participantPubkey = participant → entry.lastSignalSeenAt = none) ∧
          presence.lastSeenAt.lookup participant = some seenAt := by
  induction entries generalizing presence with
  | nil => simp
  | cons first rest ih =>
    obtain ⟨fresh, distinct⟩ := List.nodup_cons.mp nodup
    rw [List.foldl_cons, ih distinct]
    by_cases same : participant = first.participantPubkey
    · subst same
      have absent : ∀ entry ∈ rest, entry.participantPubkey ≠ first.participantPubkey :=
        fun entry mem eq => fresh (List.mem_map.mpr ⟨entry, mem, eq⟩)
      cases seen : first.lastSignalSeenAt with
      | none => simp [DaemonPeerCacheRestore.restoreEntry, PeerPresenceBook.restoreKnown, seen]
      | some at' =>
        simp [DaemonPeerCacheRestore.restoreEntry, PeerPresenceBook.restoreKnown, seen]
        grind
    · cases seen : first.lastSignalSeenAt <;>
        simp [DaemonPeerCacheRestore.restoreEntry, PeerPresenceBook.restoreKnown, seen, AList.lookup_insert_ne same,
          Ne.symm same]

end Restored

/-! ### The written cache -/

namespace CachingDaemon

variable {daemon : CachingDaemon} {cache : WrittenPeerCache} {now : Nat}

theorem build_eq_none_iff : daemon.buildDaemonPeerCacheState now = none ↔ daemon.presence.known.toList = [] := by
  have empty : sortByKey DaemonPeerCacheEntry.participantPubkey (daemon.presence.known.toList.map
      fun (participant, announcement) => daemon.entry now participant announcement) = [] ↔
        daemon.presence.known.toList = [] := by
    rw [← List.length_eq_zero_iff, (perm_sortByKey _ _).length_eq, List.length_map, List.length_eq_zero_iff]
  unfold buildDaemonPeerCacheState
  dsimp only
  split_ifs with none'
  · simp [empty.mp none']
  · simp [mt empty.mpr none']

/-- The entries of the written cache, in some order. -/
theorem build_eq_some (built : daemon.buildDaemonPeerCacheState now = some cache) :
    cache.version = 1 ∧ cache.networkId = daemon.networkId ∧ cache.ownPubkey = daemon.ownPubkey ∧
      cache.pathBook = daemon.pathBook ∧ cache.peers.Perm (daemon.presence.known.toList.map
        fun (participant, announcement) => daemon.entry now participant announcement) := by
  unfold buildDaemonPeerCacheState at built
  dsimp only at built
  split_ifs at built
  obtain rfl := Option.some.inj built
  exact ⟨rfl, rfl, rfl, rfl, perm_sortByKey _ _⟩

theorem file_write (agrees : daemon.FileAgrees) (built : daemon.buildDaemonPeerCacheState now = some cache) :
    (daemon.writeDaemonPeerCacheIfChanged now).file = .readable cache.toDaemonPeerCacheState := by
  unfold writeDaemonPeerCacheIfChanged
  rw [built]
  dsimp only
  split_ifs with unchanged
  · exact agrees cache unchanged
  · rfl

end CachingDaemon

namespace Restart

variable {restart : Restart} {daemon : CachingDaemon} {cache : WrittenPeerCache}

theorem mem_others {participant : String} : participant ∈ restart.others daemon ↔
    participant ∈ restart.app.participantPubkeysHex ∧ some participant ≠ daemon.ownPubkey := by
  simp [others, otherParticipants]

/-- In time, every announcement of a configured other participant is restored from the written cache. -/
theorem mem_entries (inTime : restart.InTime daemon)
    (built : daemon.buildDaemonPeerCacheState restart.now = some cache) {file : PeerCacheFile}
    {entry : DaemonPeerCacheEntry} : entry ∈ (restart.request daemon file).entries cache.toDaemonPeerCacheState ↔
      ∃ participant ∈ restart.others daemon, ∃ announcement,
        daemon.presence.known.lookup participant = some announcement ∧
          entry = daemon.entry restart.now participant announcement := by
  obtain ⟨version, network, own, -, peers⟩ := CachingDaemon.build_eq_some built
  have ownKept : ¬ (cache.ownPubkey.any fun cached =>
      (restart.request daemon file).ownPubkey.any fun current => cached ≠ current) := by
    rw [own, request]
    cases daemon.ownPubkey <;> simp
  unfold DaemonPeerCacheRestore.entries
  rw [if_neg (by simp [version, network, request]), if_neg ownKept, List.mem_filter, peers.mem_iff, List.mem_map]
  constructor
  · rintro ⟨⟨⟨participant, announcement⟩, listed, rfl⟩, accepted⟩
    simp only [DaemonPeerCacheRestore.accepts, Bool.and_eq_true, List.contains_iff_mem, bne_iff_ne] at accepted
    exact ⟨participant, mem_others.mpr ⟨accepted.1.2, accepted.2⟩, announcement, HashMap.mem_toList.mp listed, rfl⟩
  · rintro ⟨participant, other, announcement, found, rfl⟩
    have fresh := inTime.peers participant other announcement found
    obtain ⟨configured, notOwn⟩ := mem_others.mp other
    refine ⟨⟨(participant, announcement), HashMap.mem_toList.mpr found, rfl⟩, ?_⟩
    simp only [DaemonPeerCacheRestore.accepts, Bool.and_eq_true, List.contains_iff_mem, bne_iff_ne,
      decide_eq_true_eq]
    exact ⟨⟨fresh, configured⟩, notOwn⟩

theorem nodup_entries (built : daemon.buildDaemonPeerCacheState restart.now = some cache) (file : PeerCacheFile) :
    (((restart.request daemon file).entries cache.toDaemonPeerCacheState).map DaemonPeerCacheEntry.participantPubkey).Nodup := by
  obtain ⟨-, -, -, -, peers⟩ := CachingDaemon.build_eq_some built
  have keys : (cache.peers.map DaemonPeerCacheEntry.participantPubkey).Nodup := by
    refine (peers.map _).nodup_iff.mpr ?_
    rw [List.map_map]
    exact HashMap.nodup_keys_toList daemon.presence.known
  unfold DaemonPeerCacheRestore.entries
  split_ifs
  · exact List.nodup_nil
  · exact List.nodup_nil
  · exact keys.sublist (List.filter_sublist.map _)

/-! ### Restored paths -/

theorem contents_pruneStale (book : PeerPathBook) {now staleAfterSecs : Nat} (positive : staleAfterSecs ≠ 0)
    (participant : String) : (book.pruneStale now staleAfterSecs).contents participant =
      (((book.peers.lookup participant).map fun state => state.retainPaths fun _ tracked =>
        decide (now - staleAfterSecs < tracked.freshnessAt)).filter fun state =>
          !state.endpoints.entries.isEmpty).map PeerPathState.contents := by
  simp [PeerPathBook.pruneStale, positive, PeerPathBook.contents]

/-- Pruning a state of which nothing is stale keeps its endpoints. -/
theorem endpoints_retainPaths {state : PeerPathState} {keep : String → TrackedPeerPath → Bool}
    (all : ∀ endpoint tracked, state.endpoints.lookup endpoint = some tracked → keep endpoint tracked = true) :
    (state.retainPaths keep).endpoints.entries = state.endpoints.entries :=
  List.filter_eq_self.mpr fun entry mem => all entry.1 entry.2 (AList.mem_lookup_iff.mpr mem)

theorem contents_retainPaths_eq_iff {state : PeerPathState} {keep : String → TrackedPeerPath → Bool}
    (all : ∀ endpoint tracked, state.endpoints.lookup endpoint = some tracked → keep endpoint tracked = true) :
    (state.retainPaths keep).contents = state.contents ↔
      ∀ current, state.currentEndpoint = some current → state.endpoints.lookup current ≠ none := by
  have tells := state.retainPaths_tells keep
  rw [PeerPathState.retainPathsFlagged_snd, PeerPathState.retainPathsFlagged_eq] at tells
  have kept : ¬ ∃ endpoint tracked, state.endpoints.lookup endpoint = some tracked ∧ ¬ keep endpoint tracked :=
    fun ⟨endpoint, tracked, found, dropped⟩ => dropped (all endpoint tracked found)
  rw [or_iff_right kept] at tells
  rw [← not_iff_not, ← Ne, ← tells]
  push Not
  rfl

/-- The path book that is restored from the written cache. -/
def restoredPaths (restart : Restart) (daemon : CachingDaemon) : PeerPathBook :=
  (daemon.pathBook.retainParticipants restart.app.participantPubkeysHex).pruneStale restart.later
    (persistedPathCacheTimeoutSecs restart.announceIntervalSecs)

/-- The test of the restored path book on an endpoint. -/
def keeps (restart : Restart) (_ : String) (tracked : TrackedPeerPath) : Bool :=
  decide (restart.later - persistedPathCacheTimeoutSecs restart.announceIntervalSecs < tracked.freshnessAt)

theorem contents_restoredPaths (inTime : restart.InTime daemon) (participant : String) :
    (restart.restoredPaths daemon).contents participant =
      if participant ∈ restart.app.participantPubkeysHex then
        ((daemon.pathBook.peers.lookup participant).filter fun state => !state.endpoints.entries.isEmpty).map
          fun state => (state.retainPaths restart.keeps).contents
      else none := by
  have positive : persistedPathCacheTimeoutSecs restart.announceIntervalSecs ≠ 0 := by
    unfold persistedPathCacheTimeoutSecs
    omega
  rw [restoredPaths, contents_pruneStale _ positive]
  split_ifs with configured
  · rw [PeerPathBook.lookup_retainParticipants _ configured]
    cases found : daemon.pathBook.peers.lookup participant with
    | none => rfl
    | some state =>
      have kept := @endpoints_retainPaths state restart.keeps fun endpoint tracked listed =>
        decide_eq_true (inTime.paths (participant, state) (HashMap.mem_toList.mpr found) (endpoint, tracked)
          (HashMap.mem_toList.mpr listed))
      have kept' : (state.retainPaths fun _ tracked => decide (restart.later -
          persistedPathCacheTimeoutSecs restart.announceIntervalSecs < tracked.freshnessAt)).endpoints.entries =
          state.endpoints.entries := kept
      rw [Option.map_some, Option.filter, kept', Option.filter]
      split_ifs <;> rfl
  · cases found : daemon.pathBook.peers.lookup participant <;>
      simp [PeerPathBook.retainParticipants, found, configured, Option.filter]

/-- In time, the paths are restored exactly if they are complete. -/
theorem restoredPaths_eq_iff (inTime : restart.InTime daemon) :
    (∀ participant, (restart.restoredPaths daemon).contents participant =
      if participant ∈ restart.others daemon then daemon.pathBook.contents participant else none) ↔
      (∀ participant ∈ restart.others daemon, ∀ state, daemon.pathBook.peers.lookup participant = some state →
        state.endpoints.entries ≠ [] ∧ ∀ current, state.currentEndpoint = some current →
          state.endpoints.lookup current ≠ none) ∧
      ∀ own, daemon.ownPubkey = some own → own ∈ restart.app.participantPubkeysHex →
        ∀ state, daemon.pathBook.peers.lookup own = some state → state.endpoints.entries = [] := by
  have kept (participant : String) (state : PeerPathState)
      (found : daemon.pathBook.peers.lookup participant = some state) :=
    @contents_retainPaths_eq_iff state restart.keeps fun endpoint tracked listed =>
      decide_eq_true (inTime.paths (participant, state) (HashMap.mem_toList.mpr found) (endpoint, tracked)
          (HashMap.mem_toList.mpr listed))
  constructor
  · intro restored
    constructor
    · intro participant other state found
      have here := restored participant
      rw [contents_restoredPaths inTime, if_pos (mem_others.mp other).1, if_pos other, PeerPathBook.contents,
        found] at here
      by_cases empty : state.endpoints.entries = []
      · simp [Option.filter, empty] at here
      · refine ⟨empty, (kept participant state found).mp ?_⟩
        simpa [Option.filter, empty] using here
    · intro own is configured state found
      have here := restored own
      have notOther : own ∉ restart.others daemon := fun other => (mem_others.mp other).2 is.symm
      rw [contents_restoredPaths inTime, if_pos configured, if_neg notOther, found] at here
      by_contra nonempty
      simp [Option.filter, nonempty] at here
  · rintro ⟨complete, own⟩ participant
    rw [contents_restoredPaths inTime]
    split_ifs with configured other other
    · rw [PeerPathBook.contents]
      cases found : daemon.pathBook.peers.lookup participant with
      | none => rfl
      | some state =>
        obtain ⟨nonempty, current⟩ := complete participant other state found
        simpa [Option.filter, nonempty] using (kept participant state found).mpr current
    · cases found : daemon.pathBook.peers.lookup participant with
      | none => rfl
      | some state =>
        have is : daemon.ownPubkey = some participant := by
          by_contra differs
          exact other (mem_others.mpr ⟨configured, Ne.symm differs⟩)
        simp [Option.filter, own participant is configured state found]
    · exact absurd (mem_others.mp other).1 configured
    · rfl

/-! ### The claim of the cache -/

/-- The write and the restart in the three situations: nothing is known, nothing of the known is restored,
and the books are restored. -/
theorem books_eq (agrees : daemon.FileAgrees) :
    (daemon.presence.known.toList = [] ∧
      restart.books daemon = ((restart.request daemon daemon.file).restoreDaemonPeerCache {} ⟨∅⟩).2) ∨
    ∃ cache, daemon.buildDaemonPeerCacheState restart.now = some cache ∧
      restart.books daemon = (((restart.request daemon (.readable cache.toDaemonPeerCacheState)).entries cache.toDaemonPeerCacheState).foldl
        DaemonPeerCacheRestore.restoreEntry {}, if (restart.request daemon (.readable cache.toDaemonPeerCacheState)).entries cache.toDaemonPeerCacheState = []
          then ⟨∅⟩ else restart.restoredPaths daemon) := by
  cases built : daemon.buildDaemonPeerCacheState restart.now with
  | none =>
    refine Or.inl ⟨CachingDaemon.build_eq_none_iff.mp built, ?_⟩
    rw [books, CachingDaemon.writeDaemonPeerCacheIfChanged, built]
  | some cache =>
    refine Or.inr ⟨cache, rfl, ?_⟩
    rw [books, CachingDaemon.file_write agrees built]
    obtain ⟨-, -, -, paths, -⟩ := CachingDaemon.build_eq_some built
    rw [DaemonPeerCacheRestore.restore_readable rfl, restoredPaths, paths]
    rfl

/-- The announcements restored from the written cache. -/
theorem known_restored (inTime : restart.InTime daemon)
    (built : daemon.buildDaemonPeerCacheState restart.now = some cache) (participant : String) :
    (((restart.request daemon (.readable cache.toDaemonPeerCacheState)).entries cache.toDaemonPeerCacheState).foldl DaemonPeerCacheRestore.restoreEntry
      ({} : PeerPresenceBook)).known.lookup participant =
        if participant ∈ restart.others daemon then daemon.presence.known.lookup participant else none := by
  refine Option.ext fun announcement => ?_
  rw [known_foldl_restoreEntry (nodup_entries built _), AList.lookup_empty]
  simp only [mem_entries inTime built]
  split_ifs with other
  · constructor
    · rintro (⟨entry, ⟨participant', -, announcement', found, rfl⟩, rfl, rfl⟩ | ⟨-, none'⟩)
      · exact found
      · cases none'
    · exact fun found => Or.inl ⟨_, ⟨participant, other, announcement, found, rfl⟩, rfl, rfl⟩
  · constructor
    · rintro (⟨entry, ⟨participant', other', announcement', found, rfl⟩, rfl, rfl⟩ | ⟨-, none'⟩)
      · exact absurd other' other
      · cases none'
    · intro none'
      cases none'

/-- The last-seen times restored from the written cache are those of the announced participants. -/
theorem lastSeen_restored (inTime : restart.InTime daemon)
    (built : daemon.buildDaemonPeerCacheState restart.now = some cache) (participant : String) :
    (((restart.request daemon (.readable cache.toDaemonPeerCacheState)).entries cache.toDaemonPeerCacheState).foldl DaemonPeerCacheRestore.restoreEntry
      ({} : PeerPresenceBook)).lastSeenAt.lookup participant =
        if participant ∈ restart.others daemon ∧ daemon.presence.known.lookup participant ≠ none then
          daemon.presence.lastSeenAt.lookup participant else none := by
  refine Option.ext fun seenAt => ?_
  rw [lastSeen_foldl_restoreEntry (nodup_entries built _), AList.lookup_empty]
  simp only [mem_entries inTime built]
  split_ifs with announced
  · constructor
    · rintro (⟨entry, ⟨participant', -, announcement', found, rfl⟩, rfl, seen⟩ | ⟨-, none'⟩)
      · exact seen
      · cases none'
    · intro seen
      obtain ⟨announcement, found⟩ := Option.ne_none_iff_exists'.mp announced.2
      exact Or.inl ⟨_, ⟨participant, announced.1, announcement, found, rfl⟩, rfl, seen⟩
  · constructor
    · rintro (⟨entry, ⟨participant', other', announcement', found, rfl⟩, rfl, -⟩ | ⟨-, none'⟩)
      · exact absurd ⟨other', fun none' => Option.some_ne_none _ (found.symm.trans none')⟩ announced
      · cases none'
    · intro none'
      cases none'

/-- Entries that are restored are known. -/
theorem known_isSome_foldl {entries : List DaemonPeerCacheEntry} {presence : PeerPresenceBook} {participant : String}
    (known : participant ∈ entries.map DaemonPeerCacheEntry.participantPubkey ∨
      (presence.known.lookup participant).isSome) :
    ((entries.foldl DaemonPeerCacheRestore.restoreEntry presence).known.lookup participant).isSome := by
  induction entries generalizing presence with
  | nil => simpa using known
  | cons first rest ih =>
    rw [List.foldl_cons]
    refine ih ?_
    by_cases same : participant = first.participantPubkey
    · subst same
      simp [DaemonPeerCacheRestore.restoreEntry, PeerPresenceBook.restoreKnown]
    · refine known.imp (fun mem => ?_) fun old => ?_
      · exact (List.mem_cons.mp mem).resolve_left same
      · simpa [DaemonPeerCacheRestore.restoreEntry, PeerPresenceBook.restoreKnown, AList.lookup_insert_ne same]
          using old

/-- Empty books are faithful if nothing of the configured other participants is known. -/
theorem faithful_empty_iff (empty : restart.books daemon = ({}, ⟨∅⟩)) :
    restart.Faithful daemon ↔ ∀ participant ∈ restart.others daemon,
      daemon.presence.known.lookup participant = none ∧ daemon.presence.lastSeenAt.lookup participant = none ∧
        daemon.pathBook.peers.lookup participant = none := by
  constructor
  · rintro ⟨known, lastSeen, paths⟩ participant other
    have known := known participant
    have lastSeen := lastSeen participant
    have paths := paths participant
    rw [empty, if_pos other] at known lastSeen paths
    refine ⟨known.symm, lastSeen.symm, ?_⟩
    simpa [PeerPathBook.contents] using paths.symm
  · intro none'
    refine ⟨fun participant => ?_, fun participant => ?_, fun participant => ?_⟩
    · rw [empty]
      split_ifs with other
      · exact (none' participant other).1.symm
      · rfl
    · rw [empty]
      split_ifs with other
      · exact (none' participant other).2.1.symm
      · rfl
    · rw [empty]
      split_ifs with other
      · simp [PeerPathBook.contents, (none' participant other).2.2]
      · rfl

/-- A restart before the timeouts gives the books of the daemon, restricted to the configured other
participants, exactly if the state at the write is one of `Restorable`. -/
theorem cache_is_faithful_iff (agrees : daemon.FileAgrees) (inTime : restart.InTime daemon) :
    restart.Faithful daemon ↔ restart.Restorable daemon := by
  rcases @books_eq restart daemon agrees with ⟨unknown, books⟩ | ⟨cache, built, books⟩
  · have none' (participant : String) : daemon.presence.known.lookup participant = none := by
      refine Option.eq_none_iff_forall_ne_some.mpr fun announcement found => ?_
      have mem := HashMap.mem_toList.mpr found
      rw [unknown] at mem
      cases mem
    have silent : ¬ restart.Announced daemon := fun ⟨participant, _, known⟩ => known (none' participant)
    rw [Restorable, or_iff_right fun announced => silent announced.1, and_iff_right silent]
    by_cases nothing : ∀ cache, daemon.file = .readable cache →
        (restart.request daemon daemon.file).entries cache = []
    · have empty : restart.books daemon = ({}, ⟨∅⟩) := by
        rw [books]
        cases file : daemon.file with
        | missing => rfl
        | unreadable error => rfl
        | readable cache =>
          have entries := nothing cache file
          rw [file] at entries
          rw [DaemonPeerCacheRestore.restore_readable rfl, entries]
          rfl
      rw [faithful_empty_iff empty]
      constructor
      · exact fun all => ⟨fun participant other => (all participant other).2.1,
          fun participant other => (all participant other).2.2, fun _ => nothing⟩
      · exact fun blank participant other =>
          ⟨none' participant, blank.seen participant other, blank.paths participant other⟩
    · refine iff_of_false (fun faithful => ?_) fun blank => nothing (blank.file unknown)
      push Not at nothing
      obtain ⟨cache, file, restored⟩ := nothing
      obtain ⟨entry, mem⟩ := List.exists_mem_of_ne_nil _ restored
      have known := faithful.known entry.participantPubkey
      rw [none', ite_self, books, DaemonPeerCacheRestore.restore_readable file] at known
      have some' := @known_isSome_foldl _ ({} : PeerPresenceBook) _ (Or.inl (List.mem_map_of_mem mem))
      rw [known] at some'
      cases some'
  · have nothing : (restart.request daemon (.readable cache.toDaemonPeerCacheState)).entries cache.toDaemonPeerCacheState = [] ↔ ¬ restart.Announced daemon := by
      rw [List.eq_nil_iff_forall_not_mem]
      simp only [mem_entries inTime built, Announced]
      constructor
      · rintro none' ⟨participant, other, known⟩
        obtain ⟨announcement, found⟩ := Option.ne_none_iff_exists'.mp known
        exact none' _ ⟨participant, other, announcement, found, rfl⟩
      · rintro silent entry ⟨participant, other, announcement, found, -⟩
        exact silent ⟨participant, other, by simp [found]⟩
    by_cases announced : restart.Announced daemon
    · rw [Restorable, or_iff_left fun silent => silent.1 announced, and_iff_right announced]
      have books' := books
      rw [if_neg (mt nothing.mp (not_not.mpr announced))] at books'
      have paths := restart.restoredPaths_eq_iff inTime
      constructor
      · intro faithful
        have after := faithful.paths
        rw [books'] at after
        obtain ⟨complete, own⟩ := paths.mp after
        refine ⟨fun participant other seen unknown => ?_, complete, own⟩
        have lastSeen := faithful.lastSeen participant
        rw [books, lastSeen_restored inTime built, if_pos other, if_neg fun both => both.2 unknown] at lastSeen
        exact seen lastSeen.symm
      · rintro ⟨seen, complete, own⟩
        refine ⟨fun participant => ?_, fun participant => ?_, ?_⟩
        · rw [books, known_restored inTime built]
        · rw [books, lastSeen_restored inTime built]
          by_cases other : participant ∈ restart.others daemon
          · cases at' : daemon.presence.lastSeenAt.lookup participant with
            | none => simp
            | some seenAt => rw [if_pos ⟨other, seen participant other (by simp [at'])⟩, if_pos other]
          · rw [if_neg fun both => other both.1, if_neg other]
        · rw [books']
          exact paths.mpr ⟨complete, own⟩
    · rw [Restorable, or_iff_right fun both => announced both.1, and_iff_right announced]
      have entries := nothing.mpr announced
      have empty : restart.books daemon = ({}, ⟨∅⟩) := by rw [books, entries]; rfl
      have unknown (participant : String) (other : participant ∈ restart.others daemon) :
          daemon.presence.known.lookup participant = none := by
        by_contra known
        exact announced ⟨participant, other, known⟩
      rw [faithful_empty_iff empty]
      constructor
      · intro all
        refine ⟨fun participant other => (all participant other).2.1,
          fun participant other => (all participant other).2.2, fun none' => ?_⟩
        rw [CachingDaemon.build_eq_none_iff.mpr none'] at built
        cases built
      · exact fun blank participant other =>
          ⟨unknown participant other, blank.seen participant other, blank.paths participant other⟩

end Restart

/-! ## A peer that disconnects -/

def cachedPeer : String := "c6047f9441ed7d6d3045406e95c07cd85c778e4b8cef3ca7abac09b95c709ee5"

def cachedAnnouncement : PeerAnnouncement where
  nodeId := "peer"
  publicKey := "AgICAgICAgICAgICAgICAgICAgICAgICAgICAgICAgI="
  endpoint := "203.0.113.20:51820"
  tunnelIp := "10.44.0.2/32"
  timestamp := 1760000000

/-- A network with one participant. -/
def cachedApp : AppConfig where
  networks := [{ id := "network-1", name := "Home", networkId := "mesh-home", participants := [cachedPeer] }]
  node := { id := "node-1" }

/-- The daemon after it has heard the announcement. -/
def announcedDaemon : CachingDaemon where
  codec := sampleCodec
  networkId := "mesh-home"
  ownPubkey := some "79be667ef9dcbbac55a06295ce870b07029bfcdb2dce28d959f2815b16f81798"
  presence := (({} : PeerPresenceBook).applySignal cachedPeer (.Announce cachedAnnouncement) 1760000000).2
  pathBook := (⟨∅⟩ : PeerPathBook).refreshFromAnnouncement cachedPeer cachedAnnouncement 1760000000
  runtimePeers := none
  file := .missing
  lastWrittenCache := none

/-- A restart within a minute of the write. -/
def restartAfter (now : Nat) : Restart where
  app := cachedApp
  announceIntervalSecs := 20
  now := now
  later := now + 60

/-- The cache was written, then the peer disconnects. -/
def disconnectedDaemon : CachingDaemon :=
  let written := announcedDaemon.writeDaemonPeerCacheIfChanged 1760000001
  { written with
    presence := (written.presence.applySignal cachedPeer (.Disconnect "peer") 1760000002).2
    pathBook := ⟨∅⟩ }

/-- With no announcement left nothing is written, and a restart brings the peer back. -/
theorem disconnected_peer_is_restored : disconnectedDaemon.FileAgrees ∧
    (restartAfter 1760000003).InTime disconnectedDaemon ∧ ¬ (restartAfter 1760000003).Faithful disconnectedDaemon := by
  refine ⟨@CachingDaemon.fileAgrees_write announcedDaemon ?_ 1760000001, ⟨?_, ?_⟩, fun faithful => ?_⟩
  · rintro cache ⟨⟩
  · decide +kernel
  · decide +kernel
  · have restored : ((restartAfter 1760000003).books disconnectedDaemon).1.known.lookup cachedPeer ≠
        if cachedPeer ∈ (restartAfter 1760000003).others disconnectedDaemon then
          disconnectedDaemon.presence.known.lookup cachedPeer else none := by decide +kernel
    exact restored (faithful.known cachedPeer)

/-- A peer that stays is restored with its paths. -/
theorem cache_is_faithful_of_announced : (restartAfter 1760000001).Faithful announcedDaemon :=
  (Restart.cache_is_faithful_iff (fun cache written => by cases written)
    ⟨by decide +kernel, by decide +kernel⟩).mpr (Or.inl
      ⟨⟨cachedPeer, by decide +kernel, by decide +kernel⟩,
        ⟨by decide +kernel, by decide +kernel, by decide +kernel⟩⟩)

end NostrVpn.Cli
