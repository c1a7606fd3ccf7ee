import LlmqQuorums.CacheCoherence
import LlmqQuorums.Recovery

/-! The index reads of the member accessors. `std::vector<bool>::operator[]` past the end is
undefined, so each accessor is modelled here again with its reads checked: `none` is a read past
the end. The total models elsewhere (`isValidMember`, `getPubKeyShare`, the loops of `Verify`)
read `false` there instead. On a quorum whose bitsets have the quorum size and whose member list
fits in it the two agree, so every read is in range; the key loop of `Verify` needs the member
bound, while its tail loop is covered by the size check `Verify` makes first.
-/

namespace Llmq

/-- The sizes of a quorum built from a mined commitment that passed `VerifySizes`, with a member
list that fits in the quorum size: both bitsets have the quorum size, which is positive.
-/
structure CQuorum.SizesAgree (q : CQuorum) : Prop where
  signers : q.qc.signers.length = q.params.size
  validMembers : q.qc.validMembers.length = q.params.size
  positive : 0 < q.params.size
  members : q.members.length ≤ q.params.size

namespace CQuorum

/-- `IsValidMember` with its read of `qc->validMembers[i]` checked. -/
def isValidMemberChecked (q : CQuorum) (proTxHash : Uint256) : Option Bool :=
  match q.members.findIdx? (·.proTxHash == proTxHash) with
  | some i => q.qc.validMembers[i]?
  | none => some false

/-- `GetPubKeyShare` with its read of `qc->validMembers[memberIdx]` checked. The condition is
evaluated left to right, so the bit is read only with a vector and an index below
`members.size()`.
-/
def getPubKeyShareChecked (bls : Bls) (q : CQuorum) (memberIdx : Nat) : Option BLSPublicKey :=
  match q.quorumVvec, q.members[memberIdx]? with
  | some vvec, some member =>
      q.qc.validMembers[memberIdx]?.map fun valid =>
        if valid then bls.buildPubKeyShare vvec member.proTxHash else none
  | _, _ => some none

end CQuorum

/-- The loop of the `StartCachePopulatorThread` worker over the member indices `idx`: the
`validMembers` bit is read, and for a set bit `GetPubKeyShare` is called. Yields the shares it
computed.
-/
def populatePubKeyShares (bls : Bls) (q : CQuorum) : List Nat → Option (List BLSPublicKey)
  | [] => some []
  | i :: rest =>
      match q.qc.validMembers[i]?, populatePubKeyShares bls q rest with
      | some true, some shares => (q.getPubKeyShareChecked bls i).map (· :: shares)
      | some false, some shares => some shares
      | _, _ => none

/-- `StartCachePopulatorThread` with its worker run over every member: nothing without a
vector. An interruption only stops the worker earlier, after a prefix of these reads.
-/
def startCachePopulatorChecked (bls : Bls) (q : CQuorum) : Option (List BLSPublicKey) :=
  if q.hasVerificationVector then populatePubKeyShares bls q (List.range q.members.length)
  else some []

/-- The tail loop of `Verify` over the indices `idx` with its reads checked: `validMembers[i]`
first, then `signers[i]` only when that bit is clear; a set bit ends the loop with `false`.
-/
def tailBitsClearChecked (validMembers signers : List Bool) : List Nat → Option Bool
  | [] => some true
  | i :: rest =>
      match validMembers[i]? with
      | none => none
      | some true => some false
      | some false =>
          match signers[i]? with
          | none => none
          | some true => some false
          | some false => tailBitsClearChecked validMembers signers rest

/-- The key loop of `Verify` with its reads of `signers[i]` checked, for `i` counting from
`start` along the member list.
-/
def memberPubKeysChecked (signers : List Bool) (start : Nat)
    : List CDeterministicMN → Option (List BLSPublicKey)
  | [] => some []
  | member :: rest =>
      match signers[start]?, memberPubKeysChecked signers (start + 1) rest with
      | some signed, some keys => some (if signed then member.pubKeyOperator :: keys else keys)
      | _, _ => none

-----------------------------------------------------------------------------------------
-- Reads in range agree with the total models
-----------------------------------------------------------------------------------------

/-- A read in range of a bitset is its `getD` with default `false`. -/
theorem getElem?_eq_some_getD {bits : List Bool} {i : Nat} (inRange : i < bits.length)
    : bits[i]? = some (bits.getD i false) := by
  simp [List.getD_eq_getElem?_getD, List.getElem?_eq_getElem inRange]

section Accessors

variable {q : CQuorum} (bls : Bls)

theorem CQuorum.isValidMemberChecked_eq (fits : q.members.length ≤ q.qc.validMembers.length)
    (proTxHash : Uint256) : q.isValidMemberChecked proTxHash = some (q.isValidMember proTxHash) := by
  unfold CQuorum.isValidMemberChecked CQuorum.isValidMember
  cases found : q.members.findIdx? (·.proTxHash == proTxHash) with
  | none => rfl
  | some i =>
      have below := (List.findIdx?_eq_some_iff_findIdx_eq.mp found).1
      exact getElem?_eq_some_getD (by omega)

theorem CQuorum.getPubKeyShareChecked_eq (fits : q.members.length ≤ q.qc.validMembers.length)
    (memberIdx : Nat) : q.getPubKeyShareChecked bls memberIdx = some (q.getPubKeyShare bls memberIdx) := by
  unfold CQuorum.getPubKeyShareChecked CQuorum.getPubKeyShare
  cases q.quorumVvec with
  | none => rfl
  | some vvec =>
      cases found : q.members[memberIdx]? with
      | none => rfl
      | some member =>
          have below : memberIdx < q.members.length := (List.getElem?_eq_some_iff.mp found).1
          rw [getElem?_eq_some_getD (by omega)]
          rfl

/-- The worker reads in range over indices below the member count, by induction over them. -/
theorem populatePubKeyShares_eq (fits : q.members.length ≤ q.qc.validMembers.length)
    (idx : List Nat) (below : ∀ i ∈ idx, i < q.members.length)
    : populatePubKeyShares bls q idx
      = some (idx.filterMap fun i =>
          if q.qc.validMembers.getD i false then some (q.getPubKeyShare bls i) else none) := by
  induction idx with
  | nil => rfl
  | cons i rest ih =>
      have inRange := getElem?_eq_some_getD (show i < q.qc.validMembers.length by
        have := below i (List.mem_cons_self _ _); omega)
      rw [populatePubKeyShares, inRange, ih fun j mem => below j (List.mem_cons_of_mem _ mem)]
      simp only [List.filterMap_cons]
      cases q.qc.validMembers.getD i false
      · rfl
      · rw [q.getPubKeyShareChecked_eq bls fits i]
        rfl

end Accessors

/-- The tail loop reads in range over indices below both bitset lengths, by induction over the
indices.
-/
theorem tailBitsClearChecked_eq {validMembers signers : List Bool} (idx : List Nat)
    (inRange : ∀ i ∈ idx, i < validMembers.length ∧ i < signers.length)
    : tailBitsClearChecked validMembers signers idx
      = some (idx.all fun i => !validMembers.getD i false && !signers.getD i false) := by
  induction idx with
  | nil => rfl
  | cons i rest ih =>
      obtain ⟨validBelow, signerBelow⟩ := inRange i (List.mem_cons_self _ _)
      rw [tailBitsClearChecked, getElem?_eq_some_getD validBelow, getElem?_eq_some_getD signerBelow,
        List.all_cons]
      cases validMembers.getD i false <;> cases signers.getD i false
        <;> simp [ih fun j mem => inRange j (List.mem_cons_of_mem _ mem)]

/-- The key loop reads in range when the bitset reaches past the member list, by induction over
the members.
-/
theorem memberPubKeysChecked_eq {signers : List Bool} (members : List CDeterministicMN)
    (start : Nat) (fits : start + members.length ≤ signers.length)
    : memberPubKeysChecked signers start members
      = some (memberPubKeys members (signers.drop start)) := by
  induction members generalizing start with
  | nil => rfl
  | cons member rest ih =>
      have next := ih (start + 1) (by simp at fits; omega)
      have inRange := getElem?_eq_some_getD (show start < signers.length by simp at fits; omega)
      have headD : (signers.drop start).headD false = signers.getD start false := by
        rw [List.headD_eq_head?_getD, List.head?_drop, List.getD_eq_getElem?_getD]
      rw [memberPubKeysChecked, inRange, next, memberPubKeys, headD, List.tail_drop]
      cases signers.getD start false <;> rfl

/-- Both loops of `Verify` read in range: the tail loop on a commitment that passed
`VerifySizes`, which `Verify` checks before it, and the key loop when the member list also fits
in the quorum size.
-/
theorem CFinalCommitment.verify_loops_in_range {c : CFinalCommitment} {params : LLMQParams}
    (members : List CDeterministicMN) (sized : c.verifySizes params = true)
    : tailBitsClearChecked c.validMembers c.signers
          (List.range' members.length (params.size - members.length))
        = some (tailBitsClear c.validMembers c.signers members.length params.size)
      ∧ (members.length ≤ params.size
          → memberPubKeysChecked c.signers 0 members = some (memberPubKeys members c.signers)) := by
  obtain ⟨signersSized, validSized⟩ : c.signers.length = params.size
      ∧ c.validMembers.length = params.size := by
    simpa [CFinalCommitment.verifySizes] using sized
  refine ⟨tailBitsClearChecked_eq _ fun i mem => ?_, fun fits => ?_⟩
  · have := List.mem_range'_1.mp mem
    omega
  · simpa using memberPubKeysChecked_eq members 0 (by omega)

/-- Without the member bound the key loop reads past the end of `signers`. -/
example : memberPubKeysChecked [true, false] 0 [⟨1, none⟩, ⟨2, none⟩, ⟨3, none⟩] = none := by
  decide

/-- On a quorum whose sizes agree, every read of the accessors is in range: `IsValidMember`,
`GetPubKeyShare` at every index (so also at `GetMemberIndex`'s `-1` as a `size_t`), the cache
populator, and `GetQuorumRecoveryStartOffset` reduces modulo a positive size.
-/
theorem CQuorum.SizesAgree.reads_in_range {q : CQuorum} (sizes : q.SizesAgree) (bls : Bls)
    : (∀ proTxHash, q.isValidMemberChecked proTxHash = some (q.isValidMember proTxHash))
      ∧ (∀ memberIdx, q.getPubKeyShareChecked bls memberIdx = some (q.getPubKeyShare bls memberIdx))
      ∧ startCachePopulatorChecked bls q
        = some (if q.hasVerificationVector then
            (List.range q.members.length).filterMap fun i =>
              if q.qc.validMembers.getD i false then some (q.getPubKeyShare bls i) else none
          else [])
      ∧ 0 < q.qc.validMembers.length := by
  have fits : q.members.length ≤ q.qc.validMembers.length := by
    have := sizes.members
    have := sizes.validMembers
    omega
  refine ⟨q.isValidMemberChecked_eq fits, q.getPubKeyShareChecked_eq bls fits, ?_,
    sizes.validMembers ▸ sizes.positive⟩
  unfold startCachePopulatorChecked
  split
  · exact populatePubKeyShares_eq bls fits _ fun i mem => List.mem_range.mp mem
  · rfl

-----------------------------------------------------------------------------------------
-- Built quorums have agreeing sizes
-----------------------------------------------------------------------------------------

/-- Every commitment of the store passed `VerifySizes` for the parameters of its type, the size
is positive, and the member list of every block with its anchor hash fits in it.
-/
def WellSized (env : ManagerEnv) (mined : MinedCommitments) : Prop :=
  ∀ t h qc, mined t h = some qc
    → qc.verifySizes (env.consensus.getLLMQParams t) = true
      ∧ 0 < (env.consensus.getLLMQParams t).size
      ∧ ∀ pindex : CBlockIndex, pindex.hash = h
        → (env.chain.getAllQuorumMembers qc.llmqType pindex).length
          ≤ (env.consensus.getLLMQParams t).size

section Build

variable {env : ManagerEnv} {s : ManagerState} {llmqType : LLMQType} {pindexQuorum : CBlockIndex}

theorem buildQuorumFromCommitment_sizesAgree {qc : CFinalCommitment} {q : CQuorum}
    (mined : s.mined llmqType pindexQuorum.hash = some qc)
    (sized : qc.verifySizes (env.consensus.getLLMQParams llmqType) = true)
    (positive : 0 < (env.consensus.getLLMQParams llmqType).size)
    (fits : (env.chain.getAllQuorumMembers qc.llmqType pindexQuorum).length
      ≤ (env.consensus.getLLMQParams llmqType).size)
    (built : (buildQuorumFromCommitment env s llmqType pindexQuorum).1 = some q)
    : q.SizesAgree := by
  simp only [buildQuorumFromCommitment, mined, Option.some.injEq] at built
  subst built
  have lengths : qc.signers.length = (env.consensus.getLLMQParams llmqType).size
      ∧ qc.validMembers.length = (env.consensus.getLLMQParams llmqType).size := by
    simpa [CFinalCommitment.verifySizes] using sized
  exact ⟨by simpa using lengths.1, by simpa using lengths.2, by simpa using positive,
    by simpa using fits⟩

end Build

-----------------------------------------------------------------------------------------
-- Every cached quorum over runs
-----------------------------------------------------------------------------------------

/-- The manager's store is well sized and every quorum it caches has agreeing sizes. -/
structure ManagerState.QuorumsSized (env : ManagerEnv) (m : ManagerState) : Prop where
  mined : WellSized env m.mined
  cached : ∀ t h q, m.mapQuorumsCache t h = some q → q.SizesAgree

section Runs

variable {env : NodeEnv} {m m' : ManagerState}

/-- Replacing the vector and the share keeps the sizes. -/
theorem CQuorum.SizesAgree.replace {q : CQuorum} (sizes : q.SizesAgree)
    (quorumVvec : Option BLSVerificationVector) (skShare : CBLSSecretKey)
    : ({ q with quorumVvec, skShare } : CQuorum).SizesAgree :=
  ⟨sizes.signers, sizes.validMembers, sizes.positive, sizes.members⟩

theorem ManagerState.QuorumsSized.insert (sized : m.QuorumsSized env.toManagerEnv)
    {llmqType : LLMQType} {quorumHash : Uint256} {q : CQuorum} (sizes : q.SizesAgree)
    (evoDb : EvoDb)
    : ({ m with mapQuorumsCache := m.mapQuorumsCache.insert llmqType quorumHash q, evoDb }
      : ManagerState).QuorumsSized env.toManagerEnv := by
  refine ⟨sized.mined, fun t h q' found => ?_⟩
  simp only [QuorumsCache.insert_apply] at found
  split_ifs at found
  · cases found
    exact sizes
  · exact sized.cached t h q' found

theorem getQuorum_quorumsSized (sized : m.QuorumsSized env.toManagerEnv) (llmqType : LLMQType)
    (pindexQuorum : CBlockIndex)
    : (getQuorum env.toManagerEnv m llmqType pindexQuorum).2.QuorumsSized env.toManagerEnv := by
  rcases getQuorum_manager env.toManagerEnv m llmqType pindexQuorum with same | ⟨qc, mined, built⟩
  · rw [same]
    exact sized
  · obtain ⟨sizedQc, positive, fits⟩ := sized.mined llmqType pindexQuorum.hash qc mined
    have sizes := buildQuorumFromCommitment_sizesAgree mined sizedQc positive (fits pindexQuorum rfl)
      (by rw [buildQuorumFromCommitment_of_mined _ mined])
    rw [built, buildQuorumFromCommitment_of_mined _ mined]
    exact sized.insert sizes _

/-- The step lemma: every manager step keeps the sizes, when reorganisations leave well-sized
stores.
-/
theorem ManagerStep.quorumsSized (stepped : ManagerStep env (WellSized env.toManagerEnv) m m')
    (sized : m.QuorumsSized env.toManagerEnv) : m'.QuorumsSized env.toManagerEnv := by
  cases stepped with
  | stay => exact sized
  | lookup llmqType pindexQuorum => exact getQuorum_quorumsSized sized llmqType pindexQuorum
  | reorg mined within => exact ⟨within, sized.cached⟩
  | evict llmqType quorumHash =>
      refine ⟨sized.mined, fun t h q found => sized.cached t h q ?_⟩
      simp only [QuorumsCache.erase_apply] at found
      split_ifs at found
      exact found
  | absorb s request pQuorum body current cached =>
      subst current
      have sizes := sized.cached _ _ _ cached
      rcases @absorbQData_replaces env request body pQuorum s
        with stored | ⟨quorumVvec, skShare, -, -, stored | stored⟩ <;> rw [stored]
      · exact sized
      · exact sized.insert (sizes.replace quorumVvec skShare) s.evoDb
      · exact sized.insert (sizes.replace quorumVvec skShare) _

/-- The run lemma: from a manager whose cached quorums have agreeing sizes, every quorum cached
along a run whose reorganisations leave well-sized stores has them too, so every accessor read
of it is in range; by induction over the events.
-/
theorem runNode_quorumsSized (s : NodeState) (events : List NodeEvent)
    (sized : s.toManagerState.QuorumsSized env.toManagerEnv)
    (wellSized : ∀ event ∈ events, event.reorgsWithin (WellSized env.toManagerEnv))
    : (runNode env s events).2.toManagerState.QuorumsSized env.toManagerEnv := by
  induction events generalizing s with
  | nil => exact sized
  | cons event rest ih =>
      exact ih _ ((event.step_managerStep (wellSized event (List.mem_cons_self _ _))).quorumsSized
        sized) fun e mem => wellSized e (List.mem_cons_of_mem _ mem)

end Runs

theorem member_accesses_in_range (env : ManagerEnv) (s : ManagerState) (llmqType : LLMQType)
    (pindexQuorum : CBlockIndex) (qc : CFinalCommitment)
    (mined : s.mined llmqType pindexQuorum.hash = some qc)
    (sized : qc.verifySizes (env.consensus.getLLMQParams llmqType) = true)
    (positive : 0 < (env.consensus.getLLMQParams llmqType).size)
    (fits : (env.chain.getAllQuorumMembers qc.llmqType pindexQuorum).length
      ≤ (env.consensus.getLLMQParams llmqType).size)
    : ∃ q, (buildQuorumFromCommitment env s llmqType pindexQuorum).1 = some q
      ∧ (∀ proTxHash, q.isValidMemberChecked proTxHash = some (q.isValidMember proTxHash))
      ∧ (∀ memberIdx, q.getPubKeyShareChecked env.bls memberIdx
          = some (q.getPubKeyShare env.bls memberIdx))
      ∧ startCachePopulatorChecked env.bls q ≠ none
      ∧ tailBitsClearChecked q.qc.validMembers q.qc.signers
          (List.range' q.members.length (q.params.size - q.members.length))
        = some (tailBitsClear q.qc.validMembers q.qc.signers q.members.length q.params.size)
      ∧ memberPubKeysChecked q.qc.signers 0 q.members = some (memberPubKeys q.members q.qc.signers)
      ∧ 0 < q.qc.validMembers.length := by
  obtain ⟨q, built⟩ : ∃ q, (buildQuorumFromCommitment env s llmqType pindexQuorum).1 = some q := by
    simp [buildQuorumFromCommitment, mined]
  have sizes := buildQuorumFromCommitment_sizesAgree mined sized positive fits built
  obtain ⟨valid, shares, populated, modulus⟩ := sizes.reads_in_range env.bls
  have commitmentSized : q.qc.verifySizes q.params = true := by
    simp [CFinalCommitment.verifySizes, sizes.signers, sizes.validMembers]
  obtain ⟨tail, keys⟩ := CFinalCommitment.verify_loops_in_range q.members commitmentSized
  exact ⟨q, built, valid, shares, by simp [populated], tail, keys sizes.members, modulus⟩

theorem member_accesses_in_range_sample :
    sampleMined 1 7 = some ⟨1, 1, 7, [true, false], [true, false], some 5, 9, some 1, some 2⟩
      ∧ CFinalCommitment.verifySizes ⟨1, 1, 7, [true, false], [true, false], some 5, 9, some 1,
          some 2⟩ (sampleNodeEnv.consensus.getLLMQParams 1) = true
      ∧ 0 < (sampleNodeEnv.consensus.getLLMQParams 1).size
      ∧ (sampleNodeEnv.chain.getAllQuorumMembers 1 ⟨7, 0⟩).length
        ≤ (sampleNodeEnv.consensus.getLLMQParams 1).size
      ∧ ∃ q, (buildQuorumFromCommitment sampleNodeEnv.toManagerEnv
            (NodeState.initial sampleMined 0).toManagerState 1 ⟨7, 0⟩).1 = some q
          ∧ (∀ proTxHash, q.isValidMemberChecked proTxHash = some (q.isValidMember proTxHash))
          ∧ (∀ memberIdx, q.getPubKeyShareChecked sampleNodeEnv.bls memberIdx
              = some (q.getPubKeyShare sampleNodeEnv.bls memberIdx))
          ∧ startCachePopulatorChecked sampleNodeEnv.bls q ≠ none
          ∧ tailBitsClearChecked q.qc.validMembers q.qc.signers
              (List.range' q.members.length (q.params.size - q.members.length))
            = some (tailBitsClear q.qc.validMembers q.qc.signers q.members.length q.params.size)
          ∧ memberPubKeysChecked q.qc.signers 0 q.members
            = some (memberPubKeys q.members q.qc.signers)
          ∧ 0 < q.qc.validMembers.length :=
  ⟨by decide, by decide, by decide, by decide,
    member_accesses_in_range sampleNodeEnv.toManagerEnv _ 1 ⟨7, 0⟩
      ⟨1, 1, 7, [true, false], [true, false], some 5, 9, some 1, some 2⟩ (by decide) (by decide)
      (by decide) (by decide)⟩

end Llmq
