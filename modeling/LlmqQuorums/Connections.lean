import LlmqQuorums.QuorumManager
import LlmqQuorums.ScanCache

/-! Masternode quorum connections of one quorum type (`CQuorumManager::EnsureQuorumConnections`).
On a new tip the manager scans the last `keepOldConnections` quorums, takes the quorum hashes
that have connections from the connection manager, spares the anchor of the DKG round in
progress, and walks the scanned quorums: a quorum whose connections
`CLLMQUtils::EnsureQuorumConnections` keeps is skipped, and any other scanned quorum loses its
connections. A connected quorum that is not among the scanned ones is never visited, so the
connections of quorums that left the window stay.
-/

namespace Llmq

/-- `GetMasternodeQuorums(llmqType)` of the connection manager: whether a quorum hash has
masternode quorum connections.
-/
def MasternodeQuorums := Uint256 → Bool

namespace MasternodeQuorums

/-- The quorum gets connections. -/
def set (conns : MasternodeQuorums) (quorumHash : Uint256) : MasternodeQuorums :=
  fun h => h == quorumHash || conns h

/-- `RemoveMasternodeQuorumNodes`: the quorum's connections are dropped. -/
def remove (conns : MasternodeQuorums) (quorumHash : Uint256) : MasternodeQuorums :=
  fun h => h != quorumHash && conns h

end MasternodeQuorums

/-- What `EnsureQuorumConnections` reads for one quorum type besides its parameters: the type's
mined history on the active chain and the capacity of its scan cache, the hash of the active
chain's block at each height, and `CLLMQUtils::EnsureQuorumConnections` for the quorum anchored
at each height with this node's proTxHash. Modelled from the spec: that function is outside src;
when it returns true it has opened or kept the quorum's connections, and when it returns false
it has changed nothing.
-/
structure ConnectionEnv where
  history : MinedHistory
  maxSize : Nat
  blockHash : Nat → Uint256
  ensureQuorumConnections : Nat → Bool

/-- The loop of `EnsureQuorumConnections` over the scanned quorums, named by their anchor
heights. `connmanQuorumsToDelete` is the set taken before the loop.
-/
def ensureEach (env : ConnectionEnv) (connmanQuorumsToDelete : Uint256 → Bool)
    : MasternodeQuorums → List Nat → MasternodeQuorums
  | conns, [] => conns
  | conns, quorum :: rest =>
      let quorumHash := env.blockHash quorum
      let conns :=
        if env.ensureQuorumConnections quorum then conns.set quorumHash
        else if connmanQuorumsToDelete quorumHash then conns.remove quorumHash
        else conns
      ensureEach env connmanQuorumsToDelete conns rest

/-- `CQuorumManager::EnsureQuorumConnections(llmqType, pindexNew)` for the tip at height `tip`,
from the connections and the type's scan cache before; returns both after.
-/
def ensureQuorumConnections (env : ConnectionEnv) (consensus : Consensus) (llmqType : LLMQType)
    (cache : ScanCache) (conns : MasternodeQuorums) (tip : Nat) : MasternodeQuorums × ScanCache :=
  let llmqParams := consensus.getLLMQParams llmqType
  let (lastQuorums, cache) :=
    scanQuorums env.history env.maxSize cache (some tip) llmqParams.keepOldConnections
  let curDkgHeight := tip - tip % llmqParams.dkgInterval
  let curDkgBlock := env.blockHash curDkgHeight
  let connmanQuorumsToDelete := fun quorumHash => conns quorumHash && quorumHash != curDkgBlock
  (ensureEach env connmanQuorumsToDelete conns lastQuorums, cache)

-----------------------------------------------------------------------------------------
-- The loop
-----------------------------------------------------------------------------------------

section Loop

variable {env : ConnectionEnv} {toDelete : Uint256 → Bool}

@[simp] theorem ensureEach_cons (conns : MasternodeQuorums) (quorum : Nat) (rest : List Nat)
    : ensureEach env toDelete conns (quorum :: rest)
      = ensureEach env toDelete
          (if env.ensureQuorumConnections quorum then conns.set (env.blockHash quorum)
            else if toDelete (env.blockHash quorum) then conns.remove (env.blockHash quorum)
            else conns) rest := rfl

/-- The frame lemma: a hash no scanned quorum has keeps its connections as they were, by
induction over the scanned quorums.
-/
theorem ensureEach_outside (quorums : List Nat) {h : Uint256}
    (away : ∀ quorum ∈ quorums, env.blockHash quorum ≠ h) (conns : MasternodeQuorums)
    : ensureEach env toDelete conns quorums h = conns h := by
  induction quorums generalizing conns with
  | nil => rfl
  | cons quorum rest ih =>
      have other : env.blockHash quorum ≠ h := away quorum (List.mem_cons_self _ _)
      rw [ensureEach_cons, ih (fun q mem => away q (List.mem_cons_of_mem _ mem))]
      split_ifs <;> simp [MasternodeQuorums.set, MasternodeQuorums.remove, Ne.symm other]

/-- The loop removes only connections in `connmanQuorumsToDelete`, by induction over the scanned
quorums.
-/
theorem ensureEach_kept (quorums : List Nat) {h : Uint256} (spared : toDelete h = false)
    (conns : MasternodeQuorums) (connected : conns h = true)
    : ensureEach env toDelete conns quorums h = true := by
  induction quorums generalizing conns with
  | nil => exact connected
  | cons quorum rest ih =>
      rw [ensureEach_cons]
      apply ih
      split_ifs with kept deleted
      · simp [MasternodeQuorums.set, connected]
      · have other : h ≠ env.blockHash quorum := fun same => by simp_all
        simp [MasternodeQuorums.remove, other, connected]
      · exact connected

/-- The loop adds connections only for scanned quorums whose connections are kept, by induction
over the scanned quorums.
-/
theorem ensureEach_connected (quorums : List Nat) {h : Uint256} (conns : MasternodeQuorums)
    (connected : ensureEach env toDelete conns quorums h = true)
    : conns h = true
      ∨ ∃ quorum ∈ quorums, env.blockHash quorum = h ∧ env.ensureQuorumConnections quorum = true := by
  induction quorums generalizing conns with
  | nil => exact .inl connected
  | cons quorum rest ih =>
      rw [ensureEach_cons] at connected
      rcases ih _ connected with before | ⟨q, mem, hashed, kept⟩
      · split_ifs at before with kept deleted
        · simp only [MasternodeQuorums.set, Bool.or_eq_true, beq_iff_eq] at before
          rcases before with rfl | before
          · exact .inr ⟨quorum, List.mem_cons_self _ _, rfl, kept⟩
          · exact .inl before
        · simp only [MasternodeQuorums.remove, Bool.and_eq_true] at before
          exact .inl before.2
        · exact .inl before
      · exact .inr ⟨q, List.mem_cons_of_mem _ mem, hashed, kept⟩

/-- A hash of a scanned quorum in `connmanQuorumsToDelete` loses its connections when no scanned
quorum with that hash has them kept, by induction over the scanned quorums.
-/
theorem ensureEach_removed (quorums : List Nat) {h : Uint256} (deleted : toDelete h = true)
    (dropped : ∀ quorum ∈ quorums, env.blockHash quorum = h
      → env.ensureQuorumConnections quorum = false)
    (scanned : ∃ quorum ∈ quorums, env.blockHash quorum = h) (conns : MasternodeQuorums)
    : ensureEach env toDelete conns quorums h = false := by
  induction quorums generalizing conns with
  | nil => simp at scanned
  | cons quorum rest ih =>
      rw [ensureEach_cons]
      have restDropped := fun q mem => dropped q (List.mem_cons_of_mem _ mem)
      by_cases here : env.blockHash quorum = h
      · have notKept := dropped quorum (List.mem_cons_self _ _) here
        rw [if_neg (by simp [notKept]), if_pos (here ▸ deleted)]
        by_cases again : ∃ q ∈ rest, env.blockHash q = h
        · exact ih restDropped again _
        · push_neg at again
          rw [ensureEach_outside rest again]
          simp [MasternodeQuorums.remove, here]
      · obtain ⟨q, mem, hashed⟩ := scanned
        have later := (List.mem_cons.mp mem).resolve_left fun same => here (same ▸ hashed)
        exact ih restDropped ⟨q, later, hashed⟩ _

end Loop

-----------------------------------------------------------------------------------------
-- One call
-----------------------------------------------------------------------------------------

section Call

variable (env : ConnectionEnv) (consensus : Consensus) (llmqType : LLMQType) (cache : ScanCache)
  (conns : MasternodeQuorums) (tip : Nat)

/-- What a call ends with, over the quorums its scan returns. -/
theorem ensureQuorumConnections_eq
    : ensureQuorumConnections env consensus llmqType cache conns tip
      = (ensureEach env
          (fun quorumHash => conns quorumHash && quorumHash
            != env.blockHash (tip - tip % (consensus.getLLMQParams llmqType).dkgInterval))
          conns (scanQuorums env.history env.maxSize cache (some tip)
            (consensus.getLLMQParams llmqType).keepOldConnections).1,
        (scanQuorums env.history env.maxSize cache (some tip)
          (consensus.getLLMQParams llmqType).keepOldConnections).2) := rfl

/-- The connections of the DKG round in progress are never removed. -/
theorem ensureQuorumConnections_spares_current_round
    (connected : conns (env.blockHash (tip - tip % (consensus.getLLMQParams llmqType).dkgInterval))
      = true)
    : (ensureQuorumConnections env consensus llmqType cache conns tip).1
        (env.blockHash (tip - tip % (consensus.getLLMQParams llmqType).dkgInterval)) = true := by
  rw [ensureQuorumConnections_eq]
  exact ensureEach_kept _ (by simp) conns connected

/-- A quorum hash that the scan of the window does not return keeps its connections as they were:
whatever connections quorums outside the window had, they still have.
-/
theorem ensureQuorumConnections_outside_window {h : Uint256}
    (outside : ∀ quorum ∈ (scanQuorums env.history env.maxSize cache (some tip)
      (consensus.getLLMQParams llmqType).keepOldConnections).1, env.blockHash quorum ≠ h)
    : (ensureQuorumConnections env consensus llmqType cache conns tip).1 h = conns h := by
  rw [ensureQuorumConnections_eq]
  exact ensureEach_outside _ outside conns

/-- A quorum hash gets connections only from a scanned quorum whose connections are kept. -/
theorem ensureQuorumConnections_connected {h : Uint256}
    (connected : (ensureQuorumConnections env consensus llmqType cache conns tip).1 h = true)
    : conns h = true
      ∨ ∃ quorum ∈ (scanQuorums env.history env.maxSize cache (some tip)
          (consensus.getLLMQParams llmqType).keepOldConnections).1,
        env.blockHash quorum = h ∧ env.ensureQuorumConnections quorum = true := by
  rw [ensureQuorumConnections_eq] at connected
  exact ensureEach_connected _ conns connected

/-- A scanned quorum whose connections are not kept, other than the round in progress, loses
them.
-/
theorem ensureQuorumConnections_drops_scanned {quorum : Nat}
    (scanned : quorum ∈ (scanQuorums env.history env.maxSize cache (some tip)
      (consensus.getLLMQParams llmqType).keepOldConnections).1)
    (dropped : ∀ q ∈ (scanQuorums env.history env.maxSize cache (some tip)
      (consensus.getLLMQParams llmqType).keepOldConnections).1,
        env.blockHash q = env.blockHash quorum → env.ensureQuorumConnections q = false)
    (notCurrent : env.blockHash quorum
      ≠ env.blockHash (tip - tip % (consensus.getLLMQParams llmqType).dkgInterval))
    : (ensureQuorumConnections env consensus llmqType cache conns tip).1 (env.blockHash quorum)
      = false := by
  rw [ensureQuorumConnections_eq]
  by_cases connected : conns (env.blockHash quorum) = true
  · exact ensureEach_removed _ (by simp [connected, notCurrent]) dropped ⟨quorum, scanned, rfl⟩ _
  · by_contra stays
    rcases ensureEach_connected _ conns (by simpa using stays) with before | ⟨q, mem, hashed, kept⟩
    · exact connected before
    · simp [dropped q mem hashed] at kept

end Call

/-- Quorums of one type anchored at heights 24, 48 and 72, each mined six blocks later. -/
def threeRounds : MinedHistory where
  commitments := [⟨72, 78⟩, ⟨48, 54⟩, ⟨24, 30⟩]
  minedAfterAnchor := by decide
  minedBeforeNext := by simp

/-- A node that keeps the connections of every quorum it is asked about, over `threeRounds`,
with block hashes `1000 + height` and a scan cache of two entries.
-/
def keepingConnectionEnv : ConnectionEnv := ⟨threeRounds, 2, fun height => 1000 + height, fun _ => true⟩

theorem old_quorum_connections_kept_outside_window :
    (scanQuorums threeRounds 2 (fun _ => none) (some 80)
        (pairConsensus.getLLMQParams 1).keepOldConnections).1 = [72, 48]
      ∧ 80 - 80 % (pairConsensus.getLLMQParams 1).dkgInterval = 72
      ∧ (ensureQuorumConnections keepingConnectionEnv pairConsensus 1 (fun _ => none)
          (fun quorumHash => quorumHash == 1024) 80).1 1024 = true := by
  decide

end Llmq
