import LlmqQuorums.CacheCoherence

/-! Rebuilding a quorum after its eviction from the cache. `BuildQuorumFromCommitment` reads the
contributions back from evoDb when a vector is stored under the quorum's key, and takes the
share stored there with it; otherwise it aggregates them and writes the vector and, when valid,
the share. A share stored without a vector is therefore picked up by the second build although
the first one built none. The node's own writes never store a share without its vector, and
from stores where every share has its vector the second build returns the first build's quorum.
-/

namespace Llmq

/-- Every key of evoDb with a stored share also has a stored vector. -/
def EvoDb.SharesBacked (db : EvoDb) : Prop :=
  ∀ key, db.skShare key ≠ none → db.quorumVvec key ≠ none

/-- A quorum with a valid share has a vector. -/
def CQuorum.ShareBacked (q : CQuorum) : Prop := q.skShare ≠ none → q.quorumVvec ≠ none

/-- An eviction of the quorum cached for `(llmqType, quorumHash)`. -/
def ManagerState.evict (s : ManagerState) (llmqType : LLMQType) (quorumHash : Uint256)
    : ManagerState :=
  { s with mapQuorumsCache := s.mapQuorumsCache.erase llmqType quorumHash }

theorem EvoDb.empty_sharesBacked : EvoDb.empty.SharesBacked :=
  fun _ stored => absurd rfl stored

/-- Writing a quorum whose share has its vector keeps every share backed. -/
theorem CQuorum.writeContributions_sharesBacked {q : CQuorum} {db : EvoDb}
    (backedQ : q.ShareBacked) (backed : db.SharesBacked) : (q.writeContributions db).SharesBacked := by
  intro key stored
  rw [CQuorum.writeContributions_skShare] at stored
  rw [CQuorum.writeContributions_quorumVvec]
  split_ifs at stored ⊢
  · cases vvec : q.quorumVvec with
    | some v => simp
    | none =>
        have noShare : q.skShare = none := not_not.mp (mt backedQ (by simp [vvec]))
        rw [noShare, Option.none_or] at stored
        simpa using backed key stored
  · exact backed key stored

-----------------------------------------------------------------------------------------
-- Loading twice
-----------------------------------------------------------------------------------------

section Load

variable (env : ManagerEnv) {qc : CFinalCommitment} {quorum : CQuorum} {evoDb : EvoDb}

/-- With a vector stored under the quorum's key, loading is the read, and evoDb stays. -/
theorem loadContributions_of_stored {vvec : BLSVerificationVector}
    (stored : evoDb.quorumVvec quorum.makeQuorumKey = some vvec)
    : loadContributions env qc quorum evoDb = ((quorum.readContributions evoDb).2, evoDb) := by
  unfold loadContributions
  rw [CQuorum.readContributions_of_stored stored]

/-- Without a vector stored under the quorum's key, loading is the aggregation, written to evoDb
when it succeeds.
-/
theorem loadContributions_of_absent (absent : evoDb.quorumVvec quorum.makeQuorumKey = none)
    : loadContributions env qc quorum evoDb
      = ((buildQuorumContributions env qc quorum).2,
          if (buildQuorumContributions env qc quorum).1 then
            (buildQuorumContributions env qc quorum).2.writeContributions evoDb
          else evoDb) := by
  unfold loadContributions
  rw [CQuorum.readContributions_of_absent absent]
  dsimp only
  cases buildQuorumContributions env qc quorum with
  | mk ok built => cases ok <;> rfl

/-- Loading a fresh quorum's contributions keeps shares backed, in the quorum and in evoDb. -/
theorem loadContributions_sharesBacked (fresh : quorum.skShare = none) (backed : evoDb.SharesBacked)
    : (loadContributions env qc quorum evoDb).1.ShareBacked
      ∧ (loadContributions env qc quorum evoDb).2.SharesBacked := by
  cases stored : evoDb.quorumVvec quorum.makeQuorumKey with
  | some vvec =>
      rw [loadContributions_of_stored env stored, CQuorum.readContributions_of_stored stored]
      exact ⟨fun _ => by simp, backed⟩
  | none =>
      rw [loadContributions_of_absent env stored]
      obtain ⟨succeeded, failed⟩ := buildQuorumContributions_result env qc quorum
      cases result : (buildQuorumContributions env qc quorum).1
      · have backedQ : (buildQuorumContributions env qc quorum).2.ShareBacked := by
          rcases failed result with same | same <;> simp [CQuorum.ShareBacked, same, fresh]
        exact ⟨backedQ, backed⟩
      · have backedQ : (buildQuorumContributions env qc quorum).2.ShareBacked :=
          fun _ => succeeded result
        exact ⟨backedQ, CQuorum.writeContributions_sharesBacked backedQ backed⟩

/-- Loading a fresh quorum's contributions a second time, from the store the first load left,
gives the same quorum and store, and its read returns the first load's quorum, succeeding
exactly when that has a vector; all from a store whose shares are backed.
-/
theorem loadContributions_reload (vvecFresh : quorum.quorumVvec = none)
    (fresh : quorum.skShare = none) (backed : evoDb.SharesBacked)
    : loadContributions env qc quorum (loadContributions env qc quorum evoDb).2
        = loadContributions env qc quorum evoDb
      ∧ quorum.readContributions (loadContributions env qc quorum evoDb).2
        = ((loadContributions env qc quorum evoDb).1.hasVerificationVector,
            (loadContributions env qc quorum evoDb).1) := by
  cases stored : evoDb.quorumVvec quorum.makeQuorumKey with
  | some vvec =>
      have loaded := @loadContributions_of_stored env qc _ _ _ stored
      rw [CQuorum.readContributions_of_stored stored] at loaded
      rw [loaded]
      exact ⟨loaded, CQuorum.readContributions_of_stored stored⟩
  | none =>
      have noShare : evoDb.skShare quorum.makeQuorumKey = none :=
        not_not.mp (mt (backed quorum.makeQuorumKey) (by simp [stored]))
      have loaded := @loadContributions_of_absent env qc _ _ stored
      obtain ⟨succeeded, failed⟩ := buildQuorumContributions_result env qc quorum
      obtain ⟨builtVvec, builtShare, built⟩ := buildQuorumContributions_snd env qc quorum
      generalize buildQuorumContributions env qc quorum = result at loaded succeeded failed built
      obtain ⟨ok, q₁⟩ := result
      dsimp only at loaded succeeded failed built
      subst built
      cases ok
      · have same : ({ quorum with quorumVvec := builtVvec, skShare := builtShare } : CQuorum)
            = quorum := by
          rcases failed rfl with same | same
          · exact same
          · rw [same, ← vvecFresh]
        rw [same, if_neg Bool.false_ne_true] at loaded
        rw [loaded, CQuorum.readContributions_of_absent stored]
        exact ⟨loaded, by simp [CQuorum.hasVerificationVector, vvecFresh]⟩
      · obtain ⟨v, rfl⟩ := Option.ne_none_iff_exists'.mp (succeeded rfl)
        rw [if_pos rfl] at loaded
        have readBack := CQuorum.readContributions_writeContributions
          { quorum with quorumVvec := some v, skShare := builtShare } quorum rfl rfl fresh noShare
        have written : (CQuorum.writeContributions
            { quorum with quorumVvec := some v, skShare := builtShare } evoDb).quorumVvec
              quorum.makeQuorumKey = some v :=
          (CQuorum.writeContributions_quorumVvec _ _ _).trans (if_pos rfl)
        rw [loaded, loadContributions_of_stored env written, readBack]
        exact ⟨rfl, rfl⟩

end Load

-----------------------------------------------------------------------------------------
-- Build, evict, build again
-----------------------------------------------------------------------------------------

@[simp] theorem ManagerState.evict_mined (s : ManagerState) (llmqType : LLMQType)
    (quorumHash : Uint256) : (s.evict llmqType quorumHash).mined = s.mined := rfl

@[simp] theorem ManagerState.evict_evoDb (s : ManagerState) (llmqType : LLMQType)
    (quorumHash : Uint256) : (s.evict llmqType quorumHash).evoDb = s.evoDb := rfl

theorem rebuild_after_eviction_returns_first_build (env : ManagerEnv) (s : ManagerState)
    (llmqType : LLMQType) (pindexQuorum : CBlockIndex) (backed : s.evoDb.SharesBacked)
    : (buildQuorumFromCommitment env ((buildQuorumFromCommitment env s llmqType pindexQuorum).2.evict
          llmqType pindexQuorum.hash) llmqType pindexQuorum).1
        = (buildQuorumFromCommitment env s llmqType pindexQuorum).1
      ∧ (buildQuorumFromCommitment env ((buildQuorumFromCommitment env s llmqType pindexQuorum).2.evict
          llmqType pindexQuorum.hash) llmqType pindexQuorum).2.evoDb
        = (buildQuorumFromCommitment env s llmqType pindexQuorum).2.evoDb
      ∧ ∀ qc q, s.mined llmqType pindexQuorum.hash = some qc
        → (buildQuorumFromCommitment env s llmqType pindexQuorum).1 = some q
        → (freshQuorum env llmqType qc pindexQuorum).readContributions
            (buildQuorumFromCommitment env s llmqType pindexQuorum).2.evoDb
          = (q.hasVerificationVector, q) := by
  cases mined : s.mined llmqType pindexQuorum.hash with
  | none => simp [buildQuorumFromCommitment, mined]
  | some qc =>
      obtain ⟨reloaded, readBack⟩ := @loadContributions_reload env qc
        (freshQuorum env llmqType qc pindexQuorum) _ rfl rfl backed
      have minedAfter : ((buildQuorumFromCommitment env s llmqType pindexQuorum).2.evict llmqType
          pindexQuorum.hash).mined llmqType pindexQuorum.hash = some qc := by simp [mined]
      rw [buildQuorumFromCommitment_of_mined env minedAfter,
        buildQuorumFromCommitment_of_mined env mined]
      refine ⟨by simp [reloaded], by simp [reloaded], fun qc' q mined' built => ?_⟩
      obtain rfl := Option.some.inj mined'
      simp only [Option.some.injEq] at built
      subst built
      exact readBack

theorem rebuild_after_eviction_from_empty_store :
    EvoDb.empty.SharesBacked
      ∧ (buildQuorumFromCommitment contributingEnv.toManagerEnv
            ((buildQuorumFromCommitment contributingEnv.toManagerEnv
              (NodeState.initial sampleMined 0).toManagerState 1 ⟨7, 0⟩).2.evict 1 7) 1 ⟨7, 0⟩).1
          = (buildQuorumFromCommitment contributingEnv.toManagerEnv
              (NodeState.initial sampleMined 0).toManagerState 1 ⟨7, 0⟩).1
        ∧ (buildQuorumFromCommitment contributingEnv.toManagerEnv
            ((buildQuorumFromCommitment contributingEnv.toManagerEnv
              (NodeState.initial sampleMined 0).toManagerState 1 ⟨7, 0⟩).2.evict 1 7) 1 ⟨7, 0⟩).2.evoDb
          = (buildQuorumFromCommitment contributingEnv.toManagerEnv
              (NodeState.initial sampleMined 0).toManagerState 1 ⟨7, 0⟩).2.evoDb
        ∧ ∀ qc q, sampleMined 1 7 = some qc
          → (buildQuorumFromCommitment contributingEnv.toManagerEnv
              (NodeState.initial sampleMined 0).toManagerState 1 ⟨7, 0⟩).1 = some q
          → (freshQuorum contributingEnv.toManagerEnv 1 qc ⟨7, 0⟩).readContributions
              (buildQuorumFromCommitment contributingEnv.toManagerEnv
                (NodeState.initial sampleMined 0).toManagerState 1 ⟨7, 0⟩).2.evoDb
            = (q.hasVerificationVector, q) :=
  ⟨EvoDb.empty_sharesBacked, rebuild_after_eviction_returns_first_build contributingEnv.toManagerEnv
    (NodeState.initial sampleMined 0).toManagerState 1 ⟨7, 0⟩ EvoDb.empty_sharesBacked⟩

/-- `contributingEnv`'s manager, where the aggregated share is invalid. -/
def invalidShareEnv : ManagerEnv :=
  { contributingEnv.toManagerEnv with
    bls := { contributingEnv.bls with aggregateSecretKeys := fun _ => none } }

/-- A manager over `sampleMined` with an empty cache, whose evoDb holds a share, but no vector,
under the key of block 7's quorum.
-/
def strayShareManager : ManagerState :=
  ⟨sampleMined, fun _ _ => none, ⟨fun _ => none, fun key => if key = ⟨1, 7, [5]⟩ then some 4 else none⟩⟩

theorem rebuild_reads_stray_share :
    (buildQuorumFromCommitment invalidShareEnv strayShareManager 1 ⟨7, 0⟩).1.map (·.skShare)
        = some none
      ∧ (buildQuorumFromCommitment invalidShareEnv
          ((buildQuorumFromCommitment invalidShareEnv strayShareManager 1 ⟨7, 0⟩).2.evict 1 7)
          1 ⟨7, 0⟩).1.map (·.skShare) = some (some 4)
      ∧ (buildQuorumFromCommitment invalidShareEnv strayShareManager 1 ⟨7, 0⟩).1.map (·.quorumVvec)
        = some (some [some 1])
      ∧ (buildQuorumFromCommitment invalidShareEnv
          ((buildQuorumFromCommitment invalidShareEnv strayShareManager 1 ⟨7, 0⟩).2.evict 1 7)
          1 ⟨7, 0⟩).1.map (·.quorumVvec) = some (some [some 1]) := by
  decide

-----------------------------------------------------------------------------------------
-- Backed shares over runs
-----------------------------------------------------------------------------------------

/-- Every share evoDb holds has its vector, and so does every share of a cached quorum. -/
structure ManagerState.SharesBacked (m : ManagerState) : Prop where
  stored : m.evoDb.SharesBacked
  cached : ∀ t h q, m.mapQuorumsCache t h = some q → q.ShareBacked

section Runs

variable {env : NodeEnv} {m m' : ManagerState}

theorem ManagerState.SharesBacked.insert (backed : m.SharesBacked) {llmqType : LLMQType}
    {quorumHash : Uint256} {q : CQuorum} (backedQ : q.ShareBacked) {evoDb : EvoDb}
    (stored : evoDb.SharesBacked)
    : ({ m with mapQuorumsCache := m.mapQuorumsCache.insert llmqType quorumHash q, evoDb }
      : ManagerState).SharesBacked := by
  refine ⟨stored, fun t h q' found => ?_⟩
  simp only [QuorumsCache.insert_apply] at found
  split_ifs at found
  · cases found
    exact backedQ
  · exact backed.cached t h q' found

theorem getQuorum_sharesBacked (backed : m.SharesBacked) (llmqType : LLMQType)
    (pindexQuorum : CBlockIndex)
    : (getQuorum env.toManagerEnv m llmqType pindexQuorum).2.SharesBacked := by
  rcases getQuorum_manager env.toManagerEnv m llmqType pindexQuorum with same | ⟨qc, mined, built⟩
  · rw [same]
    exact backed
  · rw [built, buildQuorumFromCommitment_of_mined _ mined]
    obtain ⟨backedQ, stored⟩ := @loadContributions_sharesBacked env.toManagerEnv qc
      (freshQuorum env.toManagerEnv llmqType qc pindexQuorum) _ rfl backed.stored
    exact backed.insert backedQ stored

/-- The step lemma: every manager step keeps shares backed. Absorbing installs a share only
into a quorum with a vector, and writes that quorum.
-/
theorem ManagerStep.sharesBacked {allowed : MinedCommitments → Prop}
    (stepped : ManagerStep env allowed m m') (backed : m.SharesBacked) : m'.SharesBacked := by
  cases stepped with
  | stay => exact backed
  | lookup llmqType pindexQuorum => exact getQuorum_sharesBacked backed llmqType pindexQuorum
  | reorg mined within => exact ⟨backed.stored, backed.cached⟩
  | evict llmqType quorumHash =>
      refine ⟨backed.stored, fun t h q found => backed.cached t h q ?_⟩
      simp only [QuorumsCache.erase_apply] at found
      split_ifs at found
      exact found
  | absorb s request pQuorum body current cached =>
      subst current
      have backedQ := backed.cached _ _ _ cached
      rcases @absorbQData_replaces env request body pQuorum s
        with stored | ⟨quorumVvec, skShare, kept, replaced, stored | stored⟩ <;> rw [stored]
      · exact backed
      all_goals
        have backedQ' : ({ pQuorum with quorumVvec, skShare } : CQuorum).ShareBacked := by
          intro present
          by_cases same : skShare = pQuorum.skShare
          · exact kept (backedQ (same ▸ present))
          · exact replaced same
      · exact backed.insert backedQ' backed.stored
      · exact backed.insert backedQ' (CQuorum.writeContributions_sharesBacked backedQ' backed.stored)

/-- The run lemma: from a manager whose shares are backed, every run keeps them backed; by
induction over the events.
-/
theorem runNode_sharesBacked (s : NodeState) (events : List NodeEvent)
    (backed : s.toManagerState.SharesBacked) : (runNode env s events).2.toManagerState.SharesBacked := by
  induction events generalizing s with
  | nil => exact backed
  | cons event rest ih =>
      exact ih _ ((@NodeEvent.step_managerStep env s (fun _ => True) event
        (by cases event <;> trivial)).sharesBacked backed)

end Runs

/-- A node at startup has no share in evoDb and no quorum cached, so with `runNode_sharesBacked`
every evoDb a node reaches from startup has its shares backed.
-/
theorem NodeState.initial_sharesBacked (mined : MinedCommitments) (now : Nat)
    : (NodeState.initial mined now).toManagerState.SharesBacked :=
  ⟨EvoDb.empty_sharesBacked, fun _ _ _ cached => by cases cached⟩

end Llmq
