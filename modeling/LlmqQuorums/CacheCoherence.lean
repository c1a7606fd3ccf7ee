import LlmqQuorums.Absorption

/-! The quorum cache and evoDb against the chain. `GetQuorum` checks the mined store before the
cache, but nothing evicts a cached quorum when a reorganisation replaces the commitment of its
anchor, and `ReadContributions` installs whatever evoDb holds under `MakeQuorumKey`, a key that
does not name the commitment. While reorganisations only add and remove the same commitments,
the cache and evoDb stay coherent with the chain.
-/

namespace Llmq

/-- A store within `canonical`: every commitment it holds is `canonical`'s for its (type, anchor
hash).
-/
def MinedWithin (canonical mined : MinedCommitments) : Prop :=
  ∀ t h qc, mined t h = some qc → canonical t h = some qc

/-- The manager agrees with `canonical`: the mined store stays within it, and every cached
quorum carries `canonical`'s commitment and the parameters of its type.
-/
structure ManagerState.Coherent (canonical : MinedCommitments) (m : ManagerState) : Prop where
  mined : MinedWithin canonical m.mined
  cached : ∀ t h q, m.mapQuorumsCache t h = some q → canonical t h = some q.qc ∧ q.params.type = t

section Lookup

variable {env : ManagerEnv} {canonical : MinedCommitments} {m : ManagerState}

theorem getQuorum_coherent (coherent : m.Coherent canonical) (llmqType : LLMQType)
    (pindexQuorum : CBlockIndex) : (getQuorum env m llmqType pindexQuorum).2.Coherent canonical := by
  rcases getQuorum_manager env m llmqType pindexQuorum with same | ⟨qc, mined, built⟩
  · rw [same]
    exact coherent
  · rw [built, buildQuorumFromCommitment_of_mined env mined]
    refine ⟨coherent.mined, fun t h q found => ?_⟩
    simp only [QuorumsCache.insert_apply] at found
    split_ifs at found with same
    · cases found
      obtain ⟨rfl, rfl⟩ := same
      simp [coherent.mined _ _ _ mined, freshQuorum]
    · exact coherent.cached t h q found

/-- From a coherent manager, `GetQuorum` returns a quorum only with the commitment mined now for
the block it was asked for.
-/
theorem getQuorum_current (coherent : m.Coherent canonical) {llmqType : LLMQType}
    {pindexQuorum : CBlockIndex} {q : CQuorum}
    (found : (getQuorum env m llmqType pindexQuorum).1 = some q)
    : m.mined llmqType pindexQuorum.hash = some q.qc := by
  unfold getQuorum at found
  split at found
  · cases found
  · rename_i present
    obtain ⟨qc, minedQc⟩ : ∃ qc, m.mined llmqType pindexQuorum.hash = some qc :=
      Option.ne_none_iff_exists'.mp (by simpa [ManagerState.hasQuorum] using present)
    split at found
    · rename_i cachedQ
      cases found
      have canonicalQ := (coherent.cached _ _ _ cachedQ).1
      rw [coherent.mined _ _ _ minedQc, Option.some.injEq] at canonicalQ
      rw [minedQc, canonicalQ]
    · simp only [buildQuorumFromCommitment, minedQc, Option.some.injEq] at found
      rw [← found, loadContributions_qc, minedQc]

end Lookup

-----------------------------------------------------------------------------------------
-- What an event does to the manager
-----------------------------------------------------------------------------------------

/-- What an event can do to the manager state: nothing, a `GetQuorum`, a reorganisation to a
store `allowed` admits, an eviction, or absorbing a QDATA into the quorum cached for its type
and hash.
-/
inductive ManagerStep (env : NodeEnv) (allowed : MinedCommitments → Prop) (m : ManagerState)
    : ManagerState → Prop
  | stay : ManagerStep env allowed m m
  | lookup (llmqType : LLMQType) (pindexQuorum : CBlockIndex)
      : ManagerStep env allowed m (getQuorum env.toManagerEnv m llmqType pindexQuorum).2
  | reorg (mined : MinedCommitments) (within : allowed mined)
      : ManagerStep env allowed m { m with mined }
  | evict (llmqType : LLMQType) (quorumHash : Uint256)
      : ManagerStep env allowed m
          { m with mapQuorumsCache := m.mapQuorumsCache.erase llmqType quorumHash }
  | absorb (s : NodeState) (request : CQuorumDataRequest) (pQuorum : CQuorum) (body : QDataBody)
      (current : s.toManagerState = m)
      (cached : m.mapQuorumsCache request.llmqType request.quorumHash = some pQuorum)
      : ManagerStep env allowed m (absorbQData env s request pQuorum body).2.toManagerState

/-- The event's reorganisation, if it is one, leaves a store `allowed` admits. -/
def NodeEvent.reorgsWithin (allowed : MinedCommitments → Prop) : NodeEvent → Prop
  | .reorg mined => allowed mined
  | _ => True

section Events

variable {env : NodeEnv} {s : NodeState} {pFrom : CNode}

theorem requestChecks_manager (llmqType : LLMQType) (pQuorumIndex : Option CBlockIndex)
    : (requestChecks env s pFrom llmqType pQuorumIndex).2 = s.toManagerState
      ∨ ∃ pindex, (requestChecks env s pFrom llmqType pQuorumIndex).2
        = (getQuorum env.toManagerEnv s.toManagerState llmqType pindex).2 := by
  unfold requestChecks
  split_ifs
  · exact .inl rfl
  · exact .inl rfl
  · exact .inl rfl
  · split
    · exact .inl rfl
    · rename_i pindex
      refine .inr ⟨pindex, ?_⟩
      split <;> rename_i found <;> rw [found]

theorem processQGetData_manager (msg : DataRequestWire)
    : (processQGetData env s pFrom msg).2.toManagerState = s.toManagerState
      ∨ ∃ llmqType pindex, (processQGetData env s pFrom msg).2.toManagerState
        = (getQuorum env.toManagerEnv s.toManagerState llmqType pindex).2 := by
  unfold processQGetData
  split_ifs
  · exact .inl rfl
  · dsimp only
    split_ifs
    · exact .inl rfl
    · split
      · exact .inl rfl
      · rename_i pindex _
        refine .inr ⟨(CQuorumDataRequest.received msg s.now).llmqType, pindex, ?_⟩
        split <;> rename_i found <;> rw [found] <;> rfl

theorem processQData_manager (msg : DataRequestWire) (body : QDataBody)
    : (processQData env s pFrom msg body).2.toManagerState = s.toManagerState
      ∨ ∃ (s' : NodeState) (request : CQuorumDataRequest) (pQuorum : CQuorum),
          s'.toManagerState = s.toManagerState
          ∧ s.mapQuorumsCache request.llmqType request.quorumHash = some pQuorum
          ∧ (processQData env s pFrom msg body).2.toManagerState
            = (absorbQData env s' request pQuorum body).2.toManagerState := by
  unfold processQData
  split
  · exact .inl rfl
  · dsimp only
    split_ifs
    · exact .inl rfl
    · split
      · exact .inl rfl
      · rename_i pQuorum cached
        refine .inr ⟨_, _, pQuorum, ?_, cached, rfl⟩
        rfl

/-- The inversion lemma: what any event does to the manager is one `ManagerStep`. -/
theorem NodeEvent.step_managerStep {allowed : MinedCommitments → Prop} (event : NodeEvent)
    (within : event.reorgsWithin allowed)
    : ManagerStep env allowed s.toManagerState (event.step env s).2.toManagerState := by
  cases event with
  | reorg mined => exact .reorg mined within
  | getQuorum llmqType pindexQuorum => exact .lookup llmqType pindexQuorum
  | evictQuorum llmqType quorumHash => exact .evict llmqType quorumHash
  | requestQuorumData pFrom llmqType pQuorumIndex nDataMask proTxHash =>
      have manager : (Llmq.requestQuorumData env s pFrom llmqType pQuorumIndex nDataMask
          proTxHash).2.toManagerState = (requestChecks env s pFrom llmqType pQuorumIndex).2 := by
        rw [requestQuorumData_eq]
        split <;> rename_i found <;> rw [found] <;> rfl
      simp only [step_requestQuorumData, manager]
      rcases @requestChecks_manager env s pFrom llmqType pQuorumIndex with same | ⟨pindex, looked⟩
      · exact same ▸ .stay
      · exact looked ▸ .lookup llmqType pindex
  | qgetdata pFrom msg =>
      simp only [step_qgetdata]
      rcases @processQGetData_manager env s pFrom msg with same | ⟨llmqType, pindex, looked⟩
      · exact same ▸ .stay
      · exact looked ▸ .lookup llmqType pindex
  | qdata pFrom msg body =>
      simp only [step_qdata]
      rcases @processQData_manager env s pFrom msg body with same | ⟨s', request, pQuorum, current, cached, absorbed⟩
      · exact same ▸ .stay
      · exact absorbed ▸ .absorb s' request pQuorum body current cached
  | advanceClock now => exact .stay
  | updatedBlockTip synced =>
      simp only [step]
      unfold Llmq.updatedBlockTip
      split <;> exact .stay

end Events

-----------------------------------------------------------------------------------------
-- Coherence over runs
-----------------------------------------------------------------------------------------

section Coherence

variable {env : NodeEnv} {canonical : MinedCommitments} {m m' : ManagerState}

/-- Caching a quorum keeps the cache coherent when the quorum carries the commitment and
parameters of the one cached there before.
-/
theorem ManagerState.Coherent.insert (coherent : m.Coherent canonical) {llmqType : LLMQType}
    {quorumHash : Uint256} {pQuorum q : CQuorum}
    (cached : m.mapQuorumsCache llmqType quorumHash = some pQuorum) (sameQc : q.qc = pQuorum.qc)
    (sameParams : q.params = pQuorum.params) (evoDb : EvoDb)
    : ({ m with mapQuorumsCache := m.mapQuorumsCache.insert llmqType quorumHash q, evoDb }
      : ManagerState).Coherent canonical := by
  refine ⟨coherent.mined, fun t h q' found => ?_⟩
  simp only [QuorumsCache.insert_apply] at found
  split_ifs at found with same
  · cases found
    obtain ⟨rfl, rfl⟩ := same
    rw [sameQc, sameParams]
    exact coherent.cached _ _ _ cached
  · exact coherent.cached t h q' found

/-- The step lemma of coherence: every manager step keeps it, when reorganisations stay within
`canonical`.
-/
theorem ManagerStep.coherent (stepped : ManagerStep env (MinedWithin canonical) m m')
    (coherent : m.Coherent canonical) : m'.Coherent canonical := by
  cases stepped with
  | stay => exact coherent
  | lookup llmqType pindexQuorum => exact getQuorum_coherent coherent llmqType pindexQuorum
  | reorg mined within => exact ⟨within, coherent.cached⟩
  | evict llmqType quorumHash =>
      refine ⟨coherent.mined, fun t h q found => coherent.cached t h q ?_⟩
      simp only [QuorumsCache.erase_apply] at found
      split_ifs at found
      exact found
  | absorb s request pQuorum body current cached =>
      subst current
      rcases @absorbQData_manager env request body pQuorum s
        with stored | ⟨q', sameQc, sameParams, -, stored | stored⟩ <;> rw [stored]
      · exact coherent
      · exact coherent.insert cached sameQc sameParams s.evoDb
      · exact coherent.insert cached sameQc sameParams _

/-- The run lemma of coherence, by induction over the events. -/
theorem runNode_coherent (env : NodeEnv) (s : NodeState) (events : List NodeEvent)
    (coherent : s.toManagerState.Coherent canonical)
    (stable : ∀ event ∈ events, event.reorgsWithin (MinedWithin canonical))
    : (runNode env s events).2.toManagerState.Coherent canonical := by
  induction events generalizing s with
  | nil => exact coherent
  | cons event rest ih =>
      exact ih _ ((event.step_managerStep (stable event (List.mem_cons_self _ _))).coherent
        coherent) fun e mem => stable e (List.mem_cons_of_mem _ mem)

end Coherence

-----------------------------------------------------------------------------------------
-- Verification vectors over runs
-----------------------------------------------------------------------------------------

/-- `canonical` holds each commitment under its own quorum hash, as `BuildQuorumFromCommitment`
asserts of what it reads.
-/
def Anchored (canonical : MinedCommitments) : Prop :=
  ∀ t h qc, canonical t h = some qc → qc.quorumHash = h

/-- Every vector aggregated from the verified contributions for one of `canonical`'s
commitments hashes to that commitment.
-/
def AggregatesTo (env : ManagerEnv) (canonical : MinedCommitments) : Prop :=
  ∀ t h qc (pindex : CBlockIndex) vvecs skContributions vvec,
    canonical t h = some qc → pindex.hash = h
    → env.getVerifiedContributions qc.llmqType pindex qc.validMembers
      = some (vvecs, skContributions)
    → env.bls.buildQuorumVerificationVector vvecs = some vvec
    → env.bls.serializeHash vvec = qc.quorumVvecHash

/-- Every vector the manager holds hashes to the commitment it belongs to: a cached quorum's to
its own commitment, one in evoDb to `canonical`'s commitment for the type and quorum hash of its
key.
-/
structure ManagerState.VvecSound (bls : Bls) (canonical : MinedCommitments) (m : ManagerState)
    : Prop where
  cached : ∀ t h q vvec, m.mapQuorumsCache t h = some q → q.quorumVvec = some vvec →
    bls.serializeHash vvec = q.qc.quorumVvecHash
  stored : ∀ key vvec, m.evoDb.quorumVvec key = some vvec →
    ∃ qc, canonical key.llmqType key.quorumHash = some qc
      ∧ bls.serializeHash vvec = qc.quorumVvecHash

section Vectors

variable {bls : Bls} {canonical : MinedCommitments} {m : ManagerState}

/-- Caching a quorum whose vector hashes to its commitment and writing its contributions keeps
the vectors sound, when `canonical` holds that commitment under the quorum's key.
-/
theorem ManagerState.VvecSound.insert (sound : m.VvecSound bls canonical) {llmqType : LLMQType}
    {quorumHash : Uint256} {q : CQuorum}
    (hashed : ∀ vvec, q.quorumVvec = some vvec → bls.serializeHash vvec = q.qc.quorumVvecHash)
    (keyed : canonical q.makeQuorumKey.llmqType q.makeQuorumKey.quorumHash = some q.qc)
    {evoDb : EvoDb} (written : evoDb = m.evoDb ∨ evoDb = q.writeContributions m.evoDb)
    : ({ m with mapQuorumsCache := m.mapQuorumsCache.insert llmqType quorumHash q, evoDb }
      : ManagerState).VvecSound bls canonical := by
  refine ⟨fun t h q' vvec found present => ?_, fun key vvec found => ?_⟩
  · simp only [QuorumsCache.insert_apply] at found
    split_ifs at found
    · cases found
      exact hashed vvec present
    · exact sound.cached t h q' vvec found present
  · rcases written with rfl | rfl
    · exact sound.stored key vvec found
    · rw [CQuorum.writeContributions_quorumVvec] at found
      split_ifs at found with same
      · cases present : q.quorumVvec with
        | none =>
            rw [present, Option.none_or] at found
            exact sound.stored key vvec found
        | some v =>
            rw [present, Option.or_some] at found
            cases found
            subst same
            exact ⟨q.qc, keyed, hashed _ present⟩
      · exact sound.stored key vvec found

theorem getQuorum_vvecSound {env : ManagerEnv} (anchored : Anchored canonical)
    (aggregated : AggregatesTo env canonical) (coherent : m.Coherent canonical)
    (sound : m.VvecSound env.bls canonical) (llmqType : LLMQType) (pindexQuorum : CBlockIndex)
    : (getQuorum env m llmqType pindexQuorum).2.VvecSound env.bls canonical := by
  rcases getQuorum_manager env m llmqType pindexQuorum with same | ⟨qc, mined, built⟩
  · rw [same]
    exact sound
  · rw [built, buildQuorumFromCommitment_of_mined env mined]
    have canonicalQc := coherent.mined _ _ _ mined
    have anchor := anchored _ _ _ canonicalQc
    obtain ⟨hashed, written⟩ := @loadContributions_sound env
      (fun vvec => env.bls.serializeHash vvec = qc.quorumVvecHash) qc
      (freshQuorum env llmqType qc pindexQuorum) m.evoDb rfl
      (fun vvec found => by
        obtain ⟨qc', canonical', hashed'⟩ := sound.stored _ vvec found
        simp only [freshQuorum, CQuorum.makeQuorumKey, Consensus.getLLMQParams_type, anchor,
          canonicalQc, Option.some.injEq] at canonical'
        rw [canonical']
        exact hashed')
      (fun vvecs skContributions vvec found built =>
        aggregated _ _ qc pindexQuorum vvecs skContributions vvec canonicalQc rfl found built)
    refine sound.insert (fun vvec present => by simpa using hashed vvec present) ?_ written
    simp [freshQuorum, CQuorum.makeQuorumKey, anchor, canonicalQc]

/-- A quorum `GetQuorum` returns is the one cached for its type and block afterwards. -/
theorem getQuorum_cached {env : ManagerEnv} {llmqType : LLMQType} {pindexQuorum : CBlockIndex}
    {q : CQuorum} (found : (getQuorum env m llmqType pindexQuorum).1 = some q)
    : (getQuorum env m llmqType pindexQuorum).2.mapQuorumsCache llmqType pindexQuorum.hash
      = some q := by
  unfold getQuorum at found ⊢
  by_cases absent : (!m.hasQuorum llmqType pindexQuorum.hash) = true
  · simp [absent] at found
  · rw [if_neg absent] at found ⊢
    cases cachedQ : m.mapQuorumsCache llmqType pindexQuorum.hash with
    | some q' =>
        simp only [cachedQ, Option.some.injEq] at found ⊢
        exact found
    | none =>
        simp only [cachedQ, buildQuorumFromCommitment] at found ⊢
        cases minedQc : m.mined llmqType pindexQuorum.hash with
        | none => simp [minedQc] at found
        | some qc =>
            simp only [minedQc, Option.some.injEq] at found ⊢
            rw [← found]
            simp

/-- The step lemma of vector soundness: every manager step keeps it, from a coherent manager,
when `canonical` is anchored and aggregates to its commitments.
-/
theorem ManagerStep.vvecSound {env : NodeEnv} {m' : ManagerState} (anchored : Anchored canonical)
    (aggregated : AggregatesTo env.toManagerEnv canonical)
    (stepped : ManagerStep env (MinedWithin canonical) m m') (coherent : m.Coherent canonical)
    (sound : m.VvecSound env.bls canonical) : m'.VvecSound env.bls canonical := by
  cases stepped with
  | stay => exact sound
  | lookup llmqType pindexQuorum =>
      exact getQuorum_vvecSound anchored aggregated coherent sound llmqType pindexQuorum
  | reorg mined within => exact ⟨sound.cached, sound.stored⟩
  | evict llmqType quorumHash =>
      refine ⟨fun t h q vvec found => sound.cached t h q vvec ?_, sound.stored⟩
      simp only [QuorumsCache.erase_apply] at found
      split_ifs at found
      exact found
  | absorb s request pQuorum body current cached =>
      subst current
      obtain ⟨canonicalQ, typed⟩ := coherent.cached _ _ _ cached
      rcases @absorbQData_manager env request body pQuorum s
        with stored | ⟨q', sameQc, sameParams, fromVvec, stored | stored⟩ <;> rw [stored]
      · exact sound
      all_goals
        refine sound.insert (fun vvec present => ?_) ?_ (by first | exact .inl rfl | exact .inr rfl)
        · rw [sameQc]
          rcases fromVvec vvec present with kept | hashed
          · exact sound.cached _ _ _ vvec cached kept
          · exact hashed
        · simp [CQuorum.makeQuorumKey, sameQc, sameParams, typed,
            anchored _ _ _ canonicalQ, canonicalQ]

end Vectors

/-- While reorganisations only add and remove the commitments of `canonical`, at every point of
a run from startup `GetQuorum` returns a quorum only with the commitment mined for its block at
that point.
-/
theorem getQuorum_current_while_commitments_stable (env : NodeEnv)
    (canonical mined : MinedCommitments) (now : Nat) (events : List NodeEvent)
    (start : MinedWithin canonical mined)
    (stable : ∀ event ∈ events, event.reorgsWithin (MinedWithin canonical))
    {llmqType : LLMQType} {pindexQuorum : CBlockIndex} {q : CQuorum}
    (found : (getQuorum env.toManagerEnv (runNode env (.initial mined now) events).2.toManagerState
      llmqType pindexQuorum).1 = some q)
    : (runNode env (.initial mined now) events).2.mined llmqType pindexQuorum.hash = some q.qc :=
  getQuorum_current (runNode_coherent env _ events ⟨start, fun _ _ _ absent => by cases absent⟩
    stable) found

/-- The quorum `sampleNodeEnv` builds for block 7 from `sampleMined`'s commitment. -/
def staleQuorum : CQuorum :=
  ⟨⟨1, 2, 1, 1, 24, 2⟩, ⟨1, 1, 7, [true, false], [true, false], some 5, 9, some 1, some 2⟩, ⟨7, 0⟩,
    [⟨5, some 50⟩], none, none⟩

theorem getQuorum_current_sample :
    (getQuorum sampleNodeEnv.toManagerEnv
        (runNode sampleNodeEnv (.initial sampleMined 0) [.getQuorum 1 ⟨7, 0⟩]).2.toManagerState
        1 ⟨7, 0⟩).1 = some staleQuorum
      ∧ (runNode sampleNodeEnv (.initial sampleMined 0) [.getQuorum 1 ⟨7, 0⟩]).2.mined 1 7
        = some staleQuorum.qc :=
  have found : (getQuorum sampleNodeEnv.toManagerEnv
      (runNode sampleNodeEnv (.initial sampleMined 0) [.getQuorum 1 ⟨7, 0⟩]).2.toManagerState
      1 ⟨7, 0⟩).1 = some staleQuorum := by decide
  ⟨found, getQuorum_current_while_commitments_stable sampleNodeEnv sampleMined sampleMined 0 _
    (fun _ _ _ mined => mined) (by simp [NodeEvent.reorgsWithin]) found⟩

/-- Another commitment for the quorum of block 7: both members valid and signing, vector hash
10.
-/
def replacingCommitment : CFinalCommitment :=
  ⟨1, 1, 7, [true, true], [true, true], some 6, 10, some 1, some 2⟩

/-- `sampleMined` after a reorganisation that mines `replacingCommitment` for block 7. -/
def replacedMined : MinedCommitments := fun t h =>
  if t = 1 ∧ h = 7 then some replacingCommitment else sampleMined t h

/-- A lookup of block 7's quorum, the reorganisation to `replacedMined`, and the lookup again. -/
def replacedCommitmentEvents : List NodeEvent :=
  [.getQuorum 1 ⟨7, 0⟩, .reorg replacedMined, .getQuorum 1 ⟨7, 0⟩]

theorem getQuorum_returns_replaced_commitment :
    (runNode sampleNodeEnv (NodeState.initial sampleMined 0) replacedCommitmentEvents).1
        = [.quorum (some staleQuorum), .quiet, .quorum (some staleQuorum)]
      ∧ replacedMined 1 7 = some replacingCommitment ∧ staleQuorum.qc ≠ replacingCommitment := by
  decide

section RunVectors

variable {canonical : MinedCommitments}

/-- The run lemma of vector soundness, by induction over the events. -/
theorem runNode_vvecSound (env : NodeEnv) (s : NodeState) (events : List NodeEvent)
    (anchored : Anchored canonical) (aggregated : AggregatesTo env.toManagerEnv canonical)
    (coherent : s.toManagerState.Coherent canonical)
    (sound : s.toManagerState.VvecSound env.bls canonical)
    (stable : ∀ event ∈ events, event.reorgsWithin (MinedWithin canonical))
    : (runNode env s events).2.toManagerState.VvecSound env.bls canonical := by
  induction events generalizing s with
  | nil => exact sound
  | cons event rest ih =>
      have stepped := @NodeEvent.step_managerStep env s (MinedWithin canonical) event
        (stable event (List.mem_cons_self _ _))
      exact ih _ (stepped.coherent coherent) (stepped.vvecSound anchored aggregated coherent sound)
        fun e mem => stable e (List.mem_cons_of_mem _ mem)

end RunVectors

/-- `sampleNodeEnv` where the DKG yields one verified contribution, aggregated into the vector
`[some 1]`, which hashes to 9, the vector hash of `sampleMined`'s commitments.
-/
def contributingEnv : NodeEnv :=
  { sampleNodeEnv with
    bls := { acceptingBls with
      serializeHash := fun vvec => if vvec = [some 1] then 9 else 0
      buildQuorumVerificationVector := fun _ => some [some 1]
      aggregateSecretKeys := fun _ => some 3 }
    getVerifiedContributions := fun _ _ _ => some ([[some 1]], [some 3]) }

/-- While reorganisations only add and remove the commitments of an anchored `canonical` whose
verified contributions aggregate to their commitments, at every point of a run from startup each
cached quorum's vector, and so each vector `GetQuorum` returns, hashes to the quorum's own
commitment.
-/
theorem vvec_matches_commitment_while_commitments_stable (env : NodeEnv)
    (canonical mined : MinedCommitments) (now : Nat) (events : List NodeEvent)
    (anchored : Anchored canonical) (aggregated : AggregatesTo env.toManagerEnv canonical)
    (start : MinedWithin canonical mined)
    (stable : ∀ event ∈ events, event.reorgsWithin (MinedWithin canonical))
    : (∀ t h q vvec, (runNode env (.initial mined now) events).2.mapQuorumsCache t h = some q
          → q.quorumVvec = some vvec → env.bls.serializeHash vvec = q.qc.quorumVvecHash)
      ∧ ∀ t pindex q vvec, (getQuorum env.toManagerEnv
            (runNode env (.initial mined now) events).2.toManagerState t pindex).1 = some q
          → q.quorumVvec = some vvec → env.bls.serializeHash vvec = q.qc.quorumVvecHash := by
  have startCoherent : (NodeState.initial mined now).toManagerState.Coherent canonical :=
    ⟨start, fun _ _ _ absent => by cases absent⟩
  have coherent := runNode_coherent env _ events startCoherent stable
  have sound := runNode_vvecSound env _ events anchored aggregated startCoherent
    ⟨fun _ _ _ _ absent _ => (by cases absent), fun _ _ absent => (by cases absent)⟩ stable
  exact ⟨sound.cached, fun t pindex q vvec found present =>
    (getQuorum_vvecSound anchored aggregated coherent sound t pindex).cached _ _ q vvec
      (getQuorum_cached found) present⟩

theorem sampleMined_anchored : Anchored sampleMined := by
  intro t h qc mined
  simp only [sampleMined] at mined
  split_ifs at mined
  cases mined
  rfl

theorem contributingEnv_aggregatesTo : AggregatesTo contributingEnv.toManagerEnv sampleMined := by
  intro t h qc _ _ _ vvec mined _ _ built
  simp only [sampleMined] at mined
  split_ifs at mined
  cases mined
  cases built
  rfl

theorem vvec_matches_commitment_sample :
    Anchored sampleMined ∧ AggregatesTo contributingEnv.toManagerEnv sampleMined
      ∧ ((runNode contributingEnv (.initial sampleMined 0) [.getQuorum 1 ⟨7, 0⟩]).2.mapQuorumsCache
          1 7).bind (·.quorumVvec) = some [some 1]
      ∧ ∀ t h q vvec, (runNode contributingEnv (.initial sampleMined 0)
            [.getQuorum 1 ⟨7, 0⟩]).2.mapQuorumsCache t h = some q
          → q.quorumVvec = some vvec → contributingEnv.bls.serializeHash vvec = q.qc.quorumVvecHash :=
  ⟨sampleMined_anchored, contributingEnv_aggregatesTo, by decide,
    (vvec_matches_commitment_while_commitments_stable contributingEnv sampleMined sampleMined 0 _
      sampleMined_anchored contributingEnv_aggregatesTo (fun _ _ _ mined => mined)
      (by simp [NodeEvent.reorgsWithin])).1⟩

/-- A build of block 7's quorum, the reorganisation to `replacedMined`, an eviction and a
rebuild.
-/
def rebuildEvents : List NodeEvent :=
  [.getQuorum 1 ⟨7, 0⟩, .reorg replacedMined, .evictQuorum 1 7, .getQuorum 1 ⟨7, 0⟩]

theorem rebuilt_quorum_reads_replaced_vector :
    (runNode contributingEnv (NodeState.initial sampleMined 0) rebuildEvents).1.getLast?
        = some (.quorum (some ⟨⟨1, 2, 1, 1, 24, 2⟩, replacingCommitment, ⟨7, 0⟩,
            [⟨5, some 50⟩], some [some 1], some 3⟩))
      ∧ contributingEnv.bls.serializeHash [some 1] = 9
      ∧ replacingCommitment.quorumVvecHash = 10 := by
  decide

end Llmq
