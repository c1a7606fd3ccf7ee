import LlmqQuorums.Basic

/-! Final commitments and their consensus checks (`llmq/commitment.cpp`). `Verify` counts
signers over the whole bitset but collects keys only up to the computed member list, so the
check that no bit is set past the list is what makes the two agree.
-/

namespace Llmq

/-- `CFinalCommitment`, the on-chain record of a finished DKG round. -/
structure CFinalCommitment where
  nVersion : Nat
  llmqType : LLMQType
  quorumHash : Uint256
  signers : List Bool
  validMembers : List Bool
  quorumPublicKey : BLSPublicKey
  quorumVvecHash : Uint256
  quorumSig : BLSSignature
  membersSig : BLSSignature
  deriving DecidableEq, Repr

/-- A block index entry (`CBlockIndex`) as the commitment checks read it. -/
structure CBlockIndex where
  hash : Uint256
  nHeight : Nat
  deriving DecidableEq, Repr

/-- The chain-side collaborators of the commitment checks: `LookupBlockIndex`,
`CBlockIndex::GetAncestor` and `CLLMQUtils::GetAllQuorumMembers`.
-/
structure ChainView where
  lookupBlockIndex : Uint256 → Option CBlockIndex
  getAncestor : CBlockIndex → Nat → Option CBlockIndex
  getAllQuorumMembers : LLMQType → CBlockIndex → List CDeterministicMN

namespace CFinalCommitment

/-- `CountSigners`: set bits of the whole `signers` bitset. -/
def countSigners (c : CFinalCommitment) : Nat := c.signers.count true

/-- `CountValidMembers`: set bits of the whole `validMembers` bitset. -/
def countValidMembers (c : CFinalCommitment) : Nat := c.validMembers.count true

/-- `VerifySizes`: both bitsets have the quorum size of the type. -/
def verifySizes (c : CFinalCommitment) (params : LLMQParams) : Bool :=
  c.signers.length == params.size && c.validMembers.length == params.size

/-- Modelled from the spec: `IsNull` is declared in llmq/commitment.h, outside src. A null
commitment has every bit clear and no valid aggregated public key.
-/
def isNull (c : CFinalCommitment) : Bool :=
  c.signers.all (!·) && c.validMembers.all (!·) && c.quorumPublicKey.isNone

/-- `VerifyNull`: a configured type, the null form, and bitsets of the right size. -/
def verifyNull (consensus : Consensus) (c : CFinalCommitment) : Bool :=
  match consensus.llmqs c.llmqType with
  | none => false
  | some params => c.isNull && c.verifySizes params

/-- `CFinalCommitment(params, _quorumHash)`: the type and the quorum hash, both bitsets of the
quorum size with no bit set, and for the rest the defaults of `llmq/commitment.h` (outside src):
version `CURRENT_VERSION`, no public key, a null vector hash and no signatures. -/
def create (currentVersion : Nat) (params : LLMQParams) (quorumHash : Uint256) : CFinalCommitment :=
  ⟨currentVersion, params.type, quorumHash, List.replicate params.size false,
    List.replicate params.size false, none, 0, none, none⟩

/-- The commitment the constructor builds for a configured type passes `VerifyNull`. -/
theorem verifyNull_create {consensus : Consensus} {params : LLMQParams}
    (configured : consensus.llmqs params.type = some params) (currentVersion : Nat)
    (quorumHash : Uint256) : (create currentVersion params quorumHash).verifyNull consensus = true := by
  simp [verifyNull, create, configured, isNull, verifySizes]

end CFinalCommitment

/-- The loop of `Verify` over the indices `[members.size(), params.size)`: neither bit may be
set past the computed member list.
-/
def tailBitsClear (validMembers signers : List Bool) (start stop : Nat) : Bool :=
  (List.range' start (stop - start)).all fun i =>
    !validMembers.getD i false && !signers.getD i false

/-- The key-collection loop of `Verify`: walking `i` over the member list, the operator key of
`members[i]` is taken when `signers[i]` is set.
-/
def memberPubKeys : List CDeterministicMN → List Bool → List BLSPublicKey
  | [], _ => []
  | member :: rest, signers =>
      (if signers.headD false then [member.pubKeyOperator] else []) ++
        memberPubKeys rest signers.tail

namespace CFinalCommitment

/-- The signature part of `Verify`, run only when `checkSigs` is set: the aggregated members
signature over the collected operator keys, then the quorum signature under the quorum key.
-/
def verifySigs (bls : Bls) (c : CFinalCommitment) (params : LLMQParams)
    (members : List CDeterministicMN) : Bool :=
  let commitmentHash :=
    bls.buildCommitmentHash params.type c.quorumHash c.validMembers c.quorumPublicKey
      c.quorumVvecHash
  bls.verifySecureAggregated c.membersSig (memberPubKeys members c.signers) commitmentHash
    && bls.verifyInsecure c.quorumSig c.quorumPublicKey commitmentHash

/-- `CFinalCommitment::Verify`: every guard of the source in its order, each one terminal.
`currentVersion` is `CURRENT_VERSION` of the class declaration.
-/
def verify (bls : Bls) (consensus : Consensus) (chain : ChainView) (currentVersion : Nat)
    (c : CFinalCommitment) (pQuorumBaseBlockIndex : CBlockIndex) (checkSigs : Bool) : Bool :=
  (c.nVersion != 0 && c.nVersion ≤ currentVersion) &&
    match consensus.llmqs c.llmqType with
    | none => false
    | some llmqParams =>
        let members := chain.getAllQuorumMembers llmqParams.type pQuorumBaseBlockIndex
        c.verifySizes llmqParams
          && llmqParams.minSize ≤ c.countValidMembers
          && llmqParams.minSize ≤ c.countSigners
          && c.quorumPublicKey.isSome
          && c.quorumVvecHash != 0
          && c.membersSig.isSome
          && c.quorumSig.isSome
          && tailBitsClear c.validMembers c.signers members.length llmqParams.size
          && (!checkSigs || c.verifySigs bls llmqParams members)

end CFinalCommitment

/-- `CFinalCommitmentTxPayload`, the payload of a commitment transaction. -/
structure CFinalCommitmentTxPayload where
  nVersion : Nat
  nHeight : Nat
  commitment : CFinalCommitment
  deriving DecidableEq, Repr

/-- What `state.DoS(nDoS, false, REJECT_INVALID, reason)` records. -/
structure Rejection where
  nDoS : Nat
  reason : String
  deriving DecidableEq, Repr

/-- `CheckLLMQCommitment`. `qcTx?` is the result of `GetTxPayload`, `none` for a payload that
does not deserialize exactly; `payloadVersion` is `CFinalCommitmentTxPayload::CURRENT_VERSION`.
-/
def checkLLMQCommitment (bls : Bls) (consensus : Consensus) (chain : ChainView)
    (currentVersion payloadVersion : Nat) (qcTx? : Option CFinalCommitmentTxPayload)
    (pindexPrev : CBlockIndex) : Except Rejection Unit :=
  match qcTx? with
  | none => .error ⟨100, "bad-qc-payload"⟩
  | some qcTx =>
    if qcTx.nVersion = 0 ∨ payloadVersion < qcTx.nVersion then .error ⟨100, "bad-qc-version"⟩
    else if qcTx.nHeight ≠ pindexPrev.nHeight + 1 then .error ⟨100, "bad-qc-height"⟩
    else
      match chain.lookupBlockIndex qcTx.commitment.quorumHash with
      | none => .error ⟨100, "bad-qc-quorum-hash"⟩
      | some base =>
        if chain.getAncestor pindexPrev base.nHeight ≠ some base then
          .error ⟨100, "bad-qc-quorum-hash"⟩
        else if (consensus.llmqs qcTx.commitment.llmqType).isNone then .error ⟨100, "bad-qc-type"⟩
        else if qcTx.commitment.isNull then
          if qcTx.commitment.verifyNull consensus then .ok () else .error ⟨100, "bad-qc-invalid-null"⟩
        else if qcTx.commitment.verify bls consensus chain currentVersion base false then .ok ()
        else .error ⟨100, "bad-qc-invalid"⟩

-----------------------------------------------------------------------------------------
-- The member loops of `Verify`
-----------------------------------------------------------------------------------------

/-- The collected keys are the operator keys of the members paired with a set `signers` bit,
in member order, by induction over the member list.
-/
theorem memberPubKeys_eq_filterMap (members : List CDeterministicMN) (signers : List Bool)
    : memberPubKeys members signers
      = (members.zip signers).filterMap fun p => if p.2 then some p.1.pubKeyOperator else none := by
  induction members generalizing signers with
  | nil => rfl
  | cons member rest ih =>
      cases signers with
      | nil => simp [memberPubKeys, ih]
      | cons bit bits => cases bit <;> simp [memberPubKeys, ih]

/-- One key is collected per set bit among the first `members.length` bits. -/
theorem memberPubKeys_length (members : List CDeterministicMN) (signers : List Bool)
    : (memberPubKeys members signers).length = (signers.take members.length).count true := by
  induction members generalizing signers with
  | nil => simp [memberPubKeys]
  | cons member rest ih =>
      cases signers with
      | nil => simp [memberPubKeys, ih]
      | cons bit bits => cases bit <;> simp [memberPubKeys, ih, List.count_cons]

/-- The tail loop passes exactly when no bit is set in `[start, stop)`. -/
theorem tailBitsClear_iff {validMembers signers : List Bool} {start stop : Nat}
    : tailBitsClear validMembers signers start stop = true
      ↔ ∀ i, start ≤ i → i < stop
          → validMembers.getD i false = false ∧ signers.getD i false = false := by
  simp only [tailBitsClear, List.all_eq_true, List.mem_range'_1, Bool.and_eq_true,
    Bool.not_eq_true']
  exact ⟨fun h i lo hi => h i ⟨lo, by omega⟩, fun h i range => h i range.1 (by omega)⟩

/-- A bitset with no bit set from `k` on has all its set bits among the first `k`, by
induction over the bitset.
-/
theorem count_take_of_clear {bits : List Bool} {k : Nat}
    (clear : ∀ i, k ≤ i → bits.getD i false = false)
    : (bits.take k).count true = bits.count true := by
  induction bits generalizing k with
  | nil => simp
  | cons bit rest ih =>
      have shifted := @ih (k - 1) fun i hi => by simpa using clear (i + 1) (by omega)
      cases k with
      | zero =>
          have cleared : bit = false := by simpa using clear 0 le_rfl
          simp [cleared, ← shifted]
      | succ k => simpa [List.count_cons] using shifted

/-- A bitset of length `n` reads `false` from `n` on. -/
theorem getD_of_length_le {bits : List Bool} {i : Nat} (h : bits.length ≤ i)
    : bits.getD i false = false := by
  simp [List.getD_eq_getElem?_getD, List.getElem?_eq_none h]

-----------------------------------------------------------------------------------------
-- What a passing `Verify` guarantees
-----------------------------------------------------------------------------------------

section Verify

variable {bls : Bls} {consensus : Consensus} {chain : ChainView} {currentVersion : Nat}

/-- A passing `Verify` on a configured type unpacks into the guards the signer count rests on. -/
theorem CFinalCommitment.verify_guards {c : CFinalCommitment} {base : CBlockIndex}
    {checkSigs : Bool} {params : LLMQParams}
    (configured : consensus.llmqs c.llmqType = some params)
    (verified : c.verify bls consensus chain currentVersion base checkSigs = true)
    : c.verifySizes params = true ∧ params.minSize ≤ c.countValidMembers
      ∧ params.minSize ≤ c.countSigners
      ∧ tailBitsClear c.validMembers c.signers (chain.getAllQuorumMembers params.type base).length
          params.size = true
      ∧ (checkSigs = true → c.verifySigs bls params (chain.getAllQuorumMembers params.type base) = true) := by
  simp only [CFinalCommitment.verify, configured, Bool.and_eq_true, decide_eq_true_eq,
    Bool.or_eq_true, Bool.not_eq_true'] at verified
  obtain ⟨-, ⟨⟨⟨⟨⟨⟨⟨⟨sizes, valid⟩, signed⟩, -⟩, -⟩, -⟩, -⟩, tail⟩, sigs⟩⟩ := verified
  refine ⟨sizes, valid, signed, tail, fun checked => ?_⟩
  simpa [checked] using sigs

/-- A commitment that passes `Verify` counts only real signers. Both bitsets have the quorum
size, no bit is set past the computed member list, the `minSize` bounds hold for the bits
inside the list, the key loop reads `signers` only in range, and with `checkSigs` the members
signature was checked over exactly one operator key per set `signers` bit, over the commitment
hash of the commitment's own fields. Witness: the tail loop clears every bit past the list, so
counting inside the list equals `CountSigners`.
-/
theorem verify_counts_only_real_signers {c : CFinalCommitment} {base : CBlockIndex}
    {checkSigs : Bool} {params : LLMQParams} {members : List CDeterministicMN}
    (configured : consensus.llmqs c.llmqType = some params)
    (computed : chain.getAllQuorumMembers params.type base = members)
    (fits : members.length ≤ params.size)
    (verified : c.verify bls consensus chain currentVersion base checkSigs = true)
    : c.signers.length = params.size ∧ c.validMembers.length = params.size
      ∧ (∀ i, members.length ≤ i
          → c.validMembers.getD i false = false ∧ c.signers.getD i false = false)
      ∧ params.minSize ≤ (c.validMembers.take members.length).count true
      ∧ params.minSize ≤ (c.signers.take members.length).count true
      ∧ members.length ≤ c.signers.length
      ∧ (checkSigs = true →
          bls.verifySecureAggregated c.membersSig
            ((members.zip c.signers).filterMap fun p =>
              if p.2 then some p.1.pubKeyOperator else none)
            (bls.buildCommitmentHash c.llmqType c.quorumHash c.validMembers c.quorumPublicKey
              c.quorumVvecHash) = true
          ∧ ((members.zip c.signers).filterMap fun p =>
              if p.2 then some p.1.pubKeyOperator else none).length = c.countSigners
          ∧ params.minSize ≤ c.countSigners) := by
  obtain ⟨sizes, validCount, signerCount, tail, sigs⟩ := c.verify_guards configured verified
  rw [computed] at tail sigs
  have sized : c.signers.length = params.size ∧ c.validMembers.length = params.size := by
    simpa [CFinalCommitment.verifySizes] using sizes
  have clear : ∀ i, members.length ≤ i
      → c.validMembers.getD i false = false ∧ c.signers.getD i false = false := by
    intro i below
    by_cases inside : i < params.size
    · exact tailBitsClear_iff.mp tail i below inside
    · exact ⟨getD_of_length_le (by omega), getD_of_length_le (by omega)⟩
  have signerTake := count_take_of_clear fun i below => (clear i below).2
  have validTake := count_take_of_clear fun i below => (clear i below).1
  refine ⟨sized.1, sized.2, clear, validTake ▸ validCount, signerTake ▸ signerCount,
    by omega, fun checked => ?_⟩
  have keyCount := memberPubKeys_length members c.signers
  rw [signerTake, memberPubKeys_eq_filterMap] at keyCount
  have hashed := sigs checked
  simp only [CFinalCommitment.verifySigs, Bool.and_eq_true, memberPubKeys_eq_filterMap,
    consensus.typed _ _ configured] at hashed
  exact ⟨hashed.1, keyCount, signerCount⟩

/-- A BLS capability whose signature checks all pass, for concrete runs. -/
def acceptingBls : Bls where
  serializeHash _ := 0
  buildCommitmentHash _ _ _ _ _ := 0
  verifySecureAggregated _ _ _ := true
  verifyInsecure _ _ _ := true
  buildQuorumVerificationVector _ := none
  aggregateSecretKeys _ := none
  getPublicKey _ := none
  buildPubKeyShare _ _ := none
  decrypt _ _ _ := none

/-- One configured quorum type `1`, of size two with `minSize` one. -/
def pairConsensus : Consensus where
  llmqs t := if t = 1 then some ⟨1, 2, 1, 1, 24, 2⟩ else none
  typed t p configured := by
    dsimp only at configured
    split_ifs at configured with one
    cases configured
    exact one.symm

/-- A chain on which every hash resolves to block `7` and quorums have the one member `3`. -/
def oneMemberChain : ChainView where
  lookupBlockIndex _ := some ⟨7, 0⟩
  getAncestor _ _ := some ⟨7, 0⟩
  getAllQuorumMembers _ _ := [⟨3, some 30⟩]

/-- A size-two commitment signed and validated by its first member only. -/
def firstMemberCommitment : CFinalCommitment :=
  ⟨1, 1, 7, [true, false], [true, false], some 5, 9, some 1, some 2⟩

theorem verify_counts_only_real_signers_first_member :
    firstMemberCommitment.verify acceptingBls pairConsensus oneMemberChain 1 ⟨7, 0⟩ true = true
      ∧ 1 ≤ (firstMemberCommitment.signers.take 1).count true :=
  ⟨by decide,
    (@verify_counts_only_real_signers acceptingBls pairConsensus oneMemberChain 1
      firstMemberCommitment ⟨7, 0⟩ true ⟨1, 2, 1, 1, 24, 2⟩ [⟨3, some 30⟩] rfl rfl (by decide)
      (by decide)).2.2.2.2.1⟩

/-- Every non-null commitment that `CheckLLMQCommitment` accepts passes `Verify` at its anchor
block without signature checks.
-/
theorem checkLLMQCommitment_verify {payloadVersion : Nat} {qcTx : CFinalCommitmentTxPayload}
    {pindexPrev : CBlockIndex}
    (accepted : checkLLMQCommitment bls consensus chain currentVersion payloadVersion (some qcTx)
      pindexPrev = .ok ())
    (nonNull : qcTx.commitment.isNull = false)
    : ∃ base, chain.lookupBlockIndex qcTx.commitment.quorumHash = some base
      ∧ qcTx.commitment.verify bls consensus chain currentVersion base false = true := by
  cases found : chain.lookupBlockIndex qcTx.commitment.quorumHash with
  | none => simp [checkLLMQCommitment, found, ite_eq_iff] at accepted
  | some base =>
      simp [checkLLMQCommitment, found, nonNull, ite_eq_iff] at accepted
      exact ⟨base, rfl, accepted.2.2.2.2⟩

theorem CFinalCommitment.isNull_create (currentVersion : Nat) (params : LLMQParams)
    (quorumHash : Uint256) : (CFinalCommitment.create currentVersion params quorumHash).isNull = true := by
  simp [CFinalCommitment.isNull, CFinalCommitment.create]

/-- A payload carrying the null commitment that `CFinalCommitment(params, quorumHash)` builds for a
configured type passes `CheckLLMQCommitment` exactly when the payload's version is in range, its
height is the next block's, and the quorum hash names a block of `pindexPrev`'s chain: the
commitment itself never fails the check.
-/
theorem checkLLMQCommitment_null_create {params : LLMQParams}
    (configured : consensus.llmqs params.type = some params) (payloadVersion nVersion nHeight : Nat)
    (quorumHash : Uint256) (pindexPrev : CBlockIndex) :
    checkLLMQCommitment bls consensus chain currentVersion payloadVersion
        (some ⟨nVersion, nHeight, CFinalCommitment.create currentVersion params quorumHash⟩) pindexPrev
        = .ok ()
      ↔ (nVersion ≠ 0 ∧ nVersion ≤ payloadVersion) ∧ nHeight = pindexPrev.nHeight + 1
        ∧ ∃ base, chain.lookupBlockIndex quorumHash = some base
          ∧ chain.getAncestor pindexPrev base.nHeight = some base := by
  have null := CFinalCommitment.isNull_create currentVersion params quorumHash
  have valid := CFinalCommitment.verifyNull_create configured currentVersion quorumHash
  have typed : (CFinalCommitment.create currentVersion params quorumHash).llmqType = params.type := rfl
  have hashed : (CFinalCommitment.create currentVersion params quorumHash).quorumHash = quorumHash := rfl
  cases found : chain.lookupBlockIndex quorumHash with
  | none => simp [checkLLMQCommitment, hashed, found, ite_eq_iff]
  | some base =>
      simp only [checkLLMQCommitment, hashed, found, typed, configured, null, valid, Option.isNone_some,
        Bool.false_eq_true, if_true, if_false, Option.some.injEq, exists_eq_left']
      have versioned : (nVersion = 0 ∨ payloadVersion < nVersion)
          ↔ ¬(nVersion ≠ 0 ∧ nVersion ≤ payloadVersion) := by omega
      by_cases version : nVersion ≠ 0 ∧ nVersion ≤ payloadVersion
      · rw [if_neg (versioned.not.mpr (not_not.mpr version))]
        by_cases height : nHeight = pindexPrev.nHeight + 1
        · by_cases anchored : chain.getAncestor pindexPrev base.nHeight = some base <;>
            simp [version, height, anchored]
        · simp [height]
      · simp [if_pos (versioned.mpr version), version]

/-- Block `8`'s null commitment for type `1`, anchored at block `7`. -/
theorem null_commitment_accepted_sample :
    (pairConsensus.llmqs (⟨1, 2, 1, 1, 24, 2⟩ : LLMQParams).type = some ⟨1, 2, 1, 1, 24, 2⟩)
      ∧ (checkLLMQCommitment acceptingBls pairConsensus oneMemberChain 1 1
          (some ⟨1, 8, CFinalCommitment.create 1 ⟨1, 2, 1, 1, 24, 2⟩ 7⟩) ⟨7, 7⟩ = .ok ()
        ↔ (1 ≠ 0 ∧ 1 ≤ 1) ∧ 8 = 7 + 1
          ∧ ∃ base, oneMemberChain.lookupBlockIndex 7 = some base
            ∧ oneMemberChain.getAncestor ⟨7, 7⟩ base.nHeight = some base) :=
  ⟨rfl, @checkLLMQCommitment_null_create acceptingBls pairConsensus oneMemberChain 1
    ⟨1, 2, 1, 1, 24, 2⟩ rfl 1 1 8 7 ⟨7, 7⟩⟩

end Verify

end Llmq
