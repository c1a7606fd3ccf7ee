import LlmqQuorums.Quorum

/-! The quorum cache of `CQuorumManager`: `GetQuorum` checks the mined-commitment store, then
the per-type `mapQuorumsCache`, and on a miss `BuildQuorumFromCommitment` builds the quorum from
the mined commitment, reading its contributions back from evoDb or aggregating them afresh.
Reorganisations replace the store; the cache and evoDb keep what earlier builds left.
-/

namespace Llmq

/-- `GetLLMQParams`: the parameters of a configured type. Only configured types reach the
builder; others get empty parameters here.
-/
def Consensus.getLLMQParams (consensus : Consensus) (llmqType : LLMQType) : LLMQParams :=
  (consensus.llmqs llmqType).getD ⟨llmqType, 0, 0, 0, 0, 0⟩

/-- Every type's parameters carry that type, configured or not. -/
@[simp] theorem Consensus.getLLMQParams_type (consensus : Consensus) (llmqType : LLMQType)
    : (consensus.getLLMQParams llmqType).type = llmqType := by
  unfold Consensus.getLLMQParams
  cases configured : consensus.llmqs llmqType with
  | none => rfl
  | some params => exact consensus.typed llmqType params configured

/-- The quorum block processor's store of the active chain: per type and anchor hash, the
commitment mined for it (`GetMinedCommitment`), if any.
-/
def MinedCommitments := LLMQType → Uint256 → Option CFinalCommitment

/-- `mapQuorumsCache`: per type, anchor hash to the built quorum. -/
def QuorumsCache := LLMQType → Uint256 → Option CQuorum

/-- Store `quorum` under `(llmqType, quorumHash)`. -/
def QuorumsCache.insert (cache : QuorumsCache) (llmqType : LLMQType) (quorumHash : Uint256)
    (quorum : CQuorum) : QuorumsCache :=
  fun t h => if t = llmqType ∧ h = quorumHash then some quorum else cache t h

/-- Evict the entry of `(llmqType, quorumHash)`. -/
def QuorumsCache.erase (cache : QuorumsCache) (llmqType : LLMQType) (quorumHash : Uint256)
    : QuorumsCache :=
  fun t h => if t = llmqType ∧ h = quorumHash then none else cache t h

theorem QuorumsCache.insert_apply (cache : QuorumsCache) (llmqType : LLMQType)
    (quorumHash : Uint256) (quorum : CQuorum) (t : LLMQType) (h : Uint256)
    : cache.insert llmqType quorumHash quorum t h
      = if t = llmqType ∧ h = quorumHash then some quorum else cache t h := rfl

theorem QuorumsCache.erase_apply (cache : QuorumsCache) (llmqType : LLMQType)
    (quorumHash : Uint256) (t : LLMQType) (h : Uint256)
    : cache.erase llmqType quorumHash t h
      = if t = llmqType ∧ h = quorumHash then none else cache t h := rfl

@[simp] theorem QuorumsCache.insert_same (cache : QuorumsCache) (llmqType : LLMQType)
    (quorumHash : Uint256) (quorum : CQuorum)
    : cache.insert llmqType quorumHash quorum llmqType quorumHash = some quorum := by
  simp [QuorumsCache.insert]

/-- The collaborators of the manager the model reads but does not change: chain parameters, the
BLS capability, the chain view and the DKG session manager's `GetVerifiedContributions`, which
yields the verification vectors and secret key contributions of the valid members.
-/
structure ManagerEnv where
  consensus : Consensus
  bls : Bls
  chain : ChainView
  getVerifiedContributions
    : LLMQType → CBlockIndex → List Bool → Option (List BLSVerificationVector × List CBLSSecretKey)

/-- The manager's mutable state: the mined-commitment store it consults, the quorum cache and
the evoDb contributions.
-/
structure ManagerState where
  mined : MinedCommitments
  mapQuorumsCache : QuorumsCache
  evoDb : EvoDb

section Build

variable (env : ManagerEnv)

/-- `HasQuorum`: a commitment is mined for the anchor. -/
def ManagerState.hasQuorum (s : ManagerState) (llmqType : LLMQType) (quorumHash : Uint256)
    : Bool :=
  (s.mined llmqType quorumHash).isSome

/-- `BuildQuorumContributions`: aggregate the verified contributions into the vector and the
share; without a vector it fails, and an invalid share stays reset.
-/
def buildQuorumContributions (fqc : CFinalCommitment) (quorum : CQuorum) : Bool × CQuorum :=
  match env.getVerifiedContributions fqc.llmqType quorum.pindexQuorum fqc.validMembers with
  | none => (false, quorum)
  | some (vvecs, skContributions) =>
      match env.bls.buildQuorumVerificationVector vvecs with
      | none => (false, { quorum with quorumVvec := none })
      | some vvec =>
          (true, { quorum with
            quorumVvec := some vvec
            skShare := env.bls.aggregateSecretKeys skContributions })

/-- The contribution step of `BuildQuorumFromCommitment`: read back from evoDb, or else
aggregate and, on success, write.
-/
def loadContributions (qc : CFinalCommitment) (quorum : CQuorum) (evoDb : EvoDb)
    : CQuorum × EvoDb :=
  match quorum.readContributions evoDb with
  | (true, read) => (read, evoDb)
  | (false, unread) =>
      match buildQuorumContributions env qc unread with
      | (true, built) => (built, built.writeContributions evoDb)
      | (false, failed) => (failed, evoDb)

/-- Aggregating changes at most the vector and the share. -/
theorem buildQuorumContributions_snd (fqc : CFinalCommitment) (quorum : CQuorum)
    : ∃ quorumVvec skShare,
        (buildQuorumContributions env fqc quorum).2 = { quorum with quorumVvec, skShare } := by
  unfold buildQuorumContributions
  split
  · exact ⟨quorum.quorumVvec, quorum.skShare, rfl⟩
  · split
    · exact ⟨none, quorum.skShare, rfl⟩
    · exact ⟨_, _, rfl⟩

@[simp] theorem buildQuorumContributions_qc (fqc : CFinalCommitment) (quorum : CQuorum)
    : (buildQuorumContributions env fqc quorum).2.qc = quorum.qc := by
  obtain ⟨_, _, built⟩ := buildQuorumContributions_snd env fqc quorum
  rw [built]

@[simp] theorem buildQuorumContributions_params (fqc : CFinalCommitment) (quorum : CQuorum)
    : (buildQuorumContributions env fqc quorum).2.params = quorum.params := by
  obtain ⟨_, _, built⟩ := buildQuorumContributions_snd env fqc quorum
  rw [built]

/-- A successful aggregation installs a vector; a failed one leaves the quorum as it was, up to
clearing its vector.
-/
theorem buildQuorumContributions_result (fqc : CFinalCommitment) (quorum : CQuorum)
    : ((buildQuorumContributions env fqc quorum).1 = true
        → (buildQuorumContributions env fqc quorum).2.quorumVvec ≠ none)
      ∧ ((buildQuorumContributions env fqc quorum).1 = false
        → (buildQuorumContributions env fqc quorum).2 = quorum
          ∨ (buildQuorumContributions env fqc quorum).2 = { quorum with quorumVvec := none }) := by
  unfold buildQuorumContributions
  split
  · simp
  · split <;> simp

/-- An aggregated vector comes from the verified contributions of the commitment's valid
members.
-/
theorem buildQuorumContributions_quorumVvec {fqc : CFinalCommitment} {quorum : CQuorum}
    {vvec : BLSVerificationVector}
    (built : (buildQuorumContributions env fqc quorum).2.quorumVvec = some vvec)
    : quorum.quorumVvec = some vvec
      ∨ ∃ vvecs skContributions,
        env.getVerifiedContributions fqc.llmqType quorum.pindexQuorum fqc.validMembers
          = some (vvecs, skContributions)
        ∧ env.bls.buildQuorumVerificationVector vvecs = some vvec := by
  unfold buildQuorumContributions at built
  split at built
  · exact .inl built
  · rename_i vvecs skContributions contributions
    split at built
    · cases built
    · rename_i aggregated
      cases built
      exact .inr ⟨vvecs, skContributions, contributions, aggregated⟩

/-- Loading the contributions changes at most the vector and the share. -/
theorem loadContributions_fst (qc : CFinalCommitment) (quorum : CQuorum) (evoDb : EvoDb)
    : ∃ quorumVvec skShare,
        (loadContributions env qc quorum evoDb).1 = { quorum with quorumVvec, skShare } := by
  obtain ⟨readVvec, readShare, read⟩ := quorum.readContributions_snd evoDb
  unfold loadContributions
  split
  · rename_i found
    rw [found] at read
    exact ⟨readVvec, readShare, read⟩
  · rename_i unread found
    rw [found] at read
    obtain ⟨builtVvec, builtShare, built⟩ := buildQuorumContributions_snd env qc unread
    split <;> rename_i result <;> rw [result] at built <;> subst read
    · exact ⟨builtVvec, builtShare, built⟩
    · exact ⟨builtVvec, builtShare, built⟩

@[simp] theorem loadContributions_qc (qc : CFinalCommitment) (quorum : CQuorum) (evoDb : EvoDb)
    : (loadContributions env qc quorum evoDb).1.qc = quorum.qc := by
  obtain ⟨_, _, loaded⟩ := loadContributions_fst env qc quorum evoDb
  rw [loaded]

@[simp] theorem loadContributions_params (qc : CFinalCommitment) (quorum : CQuorum)
    (evoDb : EvoDb) : (loadContributions env qc quorum evoDb).1.params = quorum.params := by
  obtain ⟨_, _, loaded⟩ := loadContributions_fst env qc quorum evoDb
  rw [loaded]

@[simp] theorem loadContributions_members (qc : CFinalCommitment) (quorum : CQuorum)
    (evoDb : EvoDb) : (loadContributions env qc quorum evoDb).1.members = quorum.members := by
  obtain ⟨_, _, loaded⟩ := loadContributions_fst env qc quorum evoDb
  rw [loaded]

/-- A quorum loaded without a vector gets one only from evoDb under its key or by aggregating
the verified contributions, and evoDb changes only by the loaded quorum's write. So a property
of the vectors both sources give holds of the loaded vector.
-/
theorem loadContributions_sound (P : BLSVerificationVector → Prop) {qc : CFinalCommitment}
    {quorum : CQuorum} {evoDb : EvoDb} (fresh : quorum.quorumVvec = none)
    (read : ∀ vvec, evoDb.quorumVvec quorum.makeQuorumKey = some vvec → P vvec)
    (aggregated : ∀ vvecs skContributions vvec,
      env.getVerifiedContributions qc.llmqType quorum.pindexQuorum qc.validMembers
        = some (vvecs, skContributions)
      → env.bls.buildQuorumVerificationVector vvecs = some vvec → P vvec)
    : let result := loadContributions env qc quorum evoDb
      (∀ vvec, result.1.quorumVvec = some vvec → P vvec)
        ∧ (result.2 = evoDb ∨ result.2 = result.1.writeContributions evoDb) := by
  have fromBuild : ∀ vvec, (buildQuorumContributions env qc quorum).2.quorumVvec = some vvec
      → P vvec := by
    intro vvec built
    rcases buildQuorumContributions_quorumVvec env built with present | ⟨vvecs, sks, found, agg⟩
    · simp [fresh] at present
    · exact aggregated vvecs sks vvec found agg
  unfold loadContributions
  split
  · rename_i readBack found
    have installed := CQuorum.readContributions_quorumVvec quorum evoDb
    rw [found, fresh, Option.or_none] at installed
    exact ⟨fun vvec stored => read vvec (installed ▸ stored), .inl rfl⟩
  · rename_i unread found
    have same := CQuorum.readContributions_unread (by rw [found] : (quorum.readContributions evoDb).1 = false)
    rw [found] at same
    subst same
    split <;> rename_i result <;> rw [result] at fromBuild
    · exact ⟨fromBuild, .inr rfl⟩
    · exact ⟨fromBuild, .inl rfl⟩

/-- `BuildQuorumFromCommitment`: the quorum of the mined commitment with the anchor block's
members and its contributions, inserted into the cache.
-/
def buildQuorumFromCommitment (s : ManagerState) (llmqType : LLMQType)
    (pindexQuorum : CBlockIndex) : Option CQuorum × ManagerState :=
  match s.mined llmqType pindexQuorum.hash with
  | none => (none, s)
  | some qc =>
      let fresh : CQuorum :=
        ⟨env.consensus.getLLMQParams llmqType, qc, pindexQuorum,
          env.chain.getAllQuorumMembers qc.llmqType pindexQuorum, none, none⟩
      let (quorum, evoDb) := loadContributions env qc fresh s.evoDb
      (some quorum,
        { s with
          evoDb := evoDb
          mapQuorumsCache := s.mapQuorumsCache.insert llmqType pindexQuorum.hash quorum })

/-- `GetQuorum(llmqType, pindexQuorum)`: null unless a commitment is mined for the anchor;
then the cached quorum, or a fresh build.
-/
def getQuorum (s : ManagerState) (llmqType : LLMQType) (pindexQuorum : CBlockIndex)
    : Option CQuorum × ManagerState :=
  if !s.hasQuorum llmqType pindexQuorum.hash then (none, s)
  else
    match s.mapQuorumsCache llmqType pindexQuorum.hash with
    | some quorum => (some quorum, s)
    | none => buildQuorumFromCommitment env s llmqType pindexQuorum

/-- `GetQuorum(llmqType, quorumHash)`: null for an unknown block. -/
def getQuorumByHash (s : ManagerState) (llmqType : LLMQType) (quorumHash : Uint256)
    : Option CQuorum × ManagerState :=
  match env.chain.lookupBlockIndex quorumHash with
  | none => (none, s)
  | some pindexQuorum => getQuorum env s llmqType pindexQuorum

/-- The quorum `BuildQuorumFromCommitment` initialises from the mined commitment and the anchor
block's members, before it loads the contributions.
-/
def freshQuorum (llmqType : LLMQType) (qc : CFinalCommitment) (pindexQuorum : CBlockIndex)
    : CQuorum :=
  ⟨env.consensus.getLLMQParams llmqType, qc, pindexQuorum,
    env.chain.getAllQuorumMembers qc.llmqType pindexQuorum, none, none⟩

/-- A build from a mined commitment loads the fresh quorum's contributions and caches it. -/
theorem buildQuorumFromCommitment_of_mined {s : ManagerState} {llmqType : LLMQType}
    {pindexQuorum : CBlockIndex} {qc : CFinalCommitment}
    (mined : s.mined llmqType pindexQuorum.hash = some qc)
    : buildQuorumFromCommitment env s llmqType pindexQuorum
      = let loaded := loadContributions env qc (freshQuorum env llmqType qc pindexQuorum) s.evoDb
        (some loaded.1, { s with
          evoDb := loaded.2
          mapQuorumsCache := s.mapQuorumsCache.insert llmqType pindexQuorum.hash loaded.1 }) := by
  simp only [buildQuorumFromCommitment, mined]
  rfl

/-- A build leaves the mined store as it was. -/
@[simp] theorem buildQuorumFromCommitment_mined (s : ManagerState) (llmqType : LLMQType)
    (pindexQuorum : CBlockIndex)
    : (buildQuorumFromCommitment env s llmqType pindexQuorum).2.mined = s.mined := by
  unfold buildQuorumFromCommitment
  split <;> rfl

/-- A lookup leaves the mined store as it was. -/
@[simp] theorem getQuorum_mined (s : ManagerState) (llmqType : LLMQType)
    (pindexQuorum : CBlockIndex) : (getQuorum env s llmqType pindexQuorum).2.mined = s.mined := by
  unfold getQuorum
  split
  · rfl
  · split <;> simp

/-- What `GetQuorum` does to the manager: nothing, or a build from the mined commitment. -/
theorem getQuorum_manager (s : ManagerState) (llmqType : LLMQType) (pindexQuorum : CBlockIndex)
    : (getQuorum env s llmqType pindexQuorum).2 = s
      ∨ ∃ qc, s.mined llmqType pindexQuorum.hash = some qc
        ∧ getQuorum env s llmqType pindexQuorum = buildQuorumFromCommitment env s llmqType pindexQuorum := by
  unfold getQuorum
  split
  · exact .inl rfl
  · rename_i present
    obtain ⟨qc, minedQc⟩ : ∃ qc, s.mined llmqType pindexQuorum.hash = some qc :=
      Option.ne_none_iff_exists'.mp (by simpa [ManagerState.hasQuorum] using present)
    split
    · exact .inl rfl
    · exact .inr ⟨qc, minedQc, rfl⟩

/-- `GetQuorum` returns null exactly when no commitment is mined for the anchor: the store is
checked first, and a build from a mined commitment always yields a quorum.
-/
theorem getQuorum_eq_none_iff (s : ManagerState) (llmqType : LLMQType)
    (pindexQuorum : CBlockIndex)
    : (getQuorum env s llmqType pindexQuorum).1 = none ↔ s.mined llmqType pindexQuorum.hash = none := by
  unfold getQuorum ManagerState.hasQuorum
  cases mined : s.mined llmqType pindexQuorum.hash with
  | none => simp
  | some qc =>
      simp only [Option.isSome_some, Bool.not_true, Bool.false_eq_true, ↓reduceIte,
        reduceCtorEq, iff_false]
      split
      · simp
      · simp [buildQuorumFromCommitment, mined]

end Build

end Llmq
