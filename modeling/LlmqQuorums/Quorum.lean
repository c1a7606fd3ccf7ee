import LlmqQuorums.Commitment

/-! The runtime quorum (`CQuorum`): its commitment, member list, verification vector and secret
key share; the hash-checked setters; the member lookups; and the evoDb round trip of its
contributions under `MakeQuorumKey`, a key built from the type, quorum hash and members only.
-/

namespace Llmq

/-- `CQuorum` with the fields the modelled functions read. -/
structure CQuorum where
  params : LLMQParams
  qc : CFinalCommitment
  pindexQuorum : CBlockIndex
  members : List CDeterministicMN
  quorumVvec : Option BLSVerificationVector
  skShare : CBLSSecretKey
  deriving DecidableEq, Repr

/-- What `MakeQuorumKey` hashes: the type, the quorum hash and the members' proTxHashes. Keys
compare as these tuples, so the hash is taken to be collision free.
-/
structure QuorumKey where
  llmqType : LLMQType
  quorumHash : Uint256
  proTxHashes : List Uint256
  deriving DecidableEq, Repr

/-- The contributions kept in evoDb under `(DB_QUORUM_QUORUM_VVEC, key)` and
`(DB_QUORUM_SK_SHARE, key)`.
-/
structure EvoDb where
  quorumVvec : QuorumKey → Option BLSVerificationVector
  skShare : QuorumKey → Option Nat

namespace EvoDb

/-- An empty store. -/
def empty : EvoDb := ⟨fun _ => none, fun _ => none⟩

/-- Write a verification vector under `key`. -/
def writeVvec (db : EvoDb) (key : QuorumKey) (vvec : BLSVerificationVector) : EvoDb :=
  { db with quorumVvec := fun k => if k = key then some vvec else db.quorumVvec k }

/-- Write a valid secret key share under `key`. -/
def writeSkShare (db : EvoDb) (key : QuorumKey) (share : Nat) : EvoDb :=
  { db with skShare := fun k => if k = key then some share else db.skShare k }

end EvoDb

/-- The conversion of `GetMemberIndex`'s `int` result to the `size_t` of `GetPubKeyShare`. -/
def toSizeT (i : Int) : Nat := (i % 2 ^ 64).toNat

namespace CQuorum

/-- `MakeQuorumKey`. -/
def makeQuorumKey (q : CQuorum) : QuorumKey :=
  ⟨q.params.type, q.qc.quorumHash, q.members.map (·.proTxHash)⟩

/-- `HasVerificationVector`. -/
def hasVerificationVector (q : CQuorum) : Bool := q.quorumVvec.isSome

/-- `SetVerificationVector`: the vector is installed only when it hashes to the commitment's
`quorumVvecHash`.
-/
def setVerificationVector (bls : Bls) (q : CQuorum) (quorumVecIn : BLSVerificationVector)
    : Bool × CQuorum :=
  if bls.serializeHash quorumVecIn ≠ q.qc.quorumVvecHash then (false, q)
  else (true, { q with quorumVvec := some quorumVecIn })

/-- A rejected vector leaves the quorum as it was. -/
theorem setVerificationVector_rejected {bls : Bls} {q : CQuorum} {quorumVecIn : BLSVerificationVector}
    (rejected : (q.setVerificationVector bls quorumVecIn).1 = false)
    : (q.setVerificationVector bls quorumVecIn).2 = q := by
  unfold setVerificationVector at rejected ⊢
  split_ifs at rejected ⊢
  rfl

/-- An accepted vector hashes to the commitment's `quorumVvecHash` and is installed. -/
theorem setVerificationVector_accepted {bls : Bls} {q : CQuorum} {quorumVecIn : BLSVerificationVector}
    (accepted : (q.setVerificationVector bls quorumVecIn).1 = true)
    : bls.serializeHash quorumVecIn = q.qc.quorumVvecHash
      ∧ (q.setVerificationVector bls quorumVecIn).2 = { q with quorumVvec := some quorumVecIn } := by
  unfold setVerificationVector at accepted ⊢
  split_ifs at accepted ⊢ with differs
  exact ⟨not_not.mp differs, rfl⟩

/-- `GetMemberIndex`: the first index of the member, or `-1`. -/
def getMemberIndex (q : CQuorum) (proTxHash : Uint256) : Int :=
  match q.members.findIdx? (·.proTxHash == proTxHash) with
  | some i => i
  | none => -1

/-- `IsValidMember`: the `validMembers` bit of the member's first index. -/
def isValidMember (q : CQuorum) (proTxHash : Uint256) : Bool :=
  match q.members.findIdx? (·.proTxHash == proTxHash) with
  | some i => q.qc.validMembers.getD i false
  | none => false

/-- `GetPubKeyShare`: for a valid member, the share derived from the verification vector; the
invalid key without a vector, past the member list, or for an invalid member.
-/
def getPubKeyShare (bls : Bls) (q : CQuorum) (memberIdx : Nat) : BLSPublicKey :=
  match q.quorumVvec, q.members[memberIdx]? with
  | some vvec, some member =>
      if q.qc.validMembers.getD memberIdx false then bls.buildPubKeyShare vvec member.proTxHash
      else none
  | _, _ => none

/-- `SetSecretKeyShare`: a valid share is installed when its public key is this node's public
key share; `myProTxHash` is `activeMasternodeInfo.proTxHash`.
-/
def setSecretKeyShare (bls : Bls) (myProTxHash : Uint256) (q : CQuorum)
    (secretKeyShare : CBLSSecretKey) : Bool × CQuorum :=
  match secretKeyShare with
  | none => (false, q)
  | some key =>
      if bls.getPublicKey key ≠ q.getPubKeyShare bls (toSizeT (q.getMemberIndex myProTxHash)) then
        (false, q)
      else (true, { q with skShare := some key })

/-- `SetSecretKeyShare` changes at most the share. -/
theorem setSecretKeyShare_snd (bls : Bls) (myProTxHash : Uint256) (q : CQuorum)
    (secretKeyShare : CBLSSecretKey)
    : ∃ skShare, (q.setSecretKeyShare bls myProTxHash secretKeyShare).2 = { q with skShare } := by
  unfold setSecretKeyShare
  split
  · exact ⟨q.skShare, rfl⟩
  · split_ifs
    · exact ⟨q.skShare, rfl⟩
    · exact ⟨_, rfl⟩

/-- `WriteContributions`: the vector, when set, and the share, when valid, go to evoDb. -/
def writeContributions (q : CQuorum) (db : EvoDb) : EvoDb :=
  let withVvec := match q.quorumVvec with
    | some vvec => db.writeVvec q.makeQuorumKey vvec
    | none => db
  match q.skShare with
  | some share => withVvec.writeSkShare q.makeQuorumKey share
  | none => withVvec

/-- `ReadContributions`: without a stored vector it fails and changes nothing; with one, the
vector is installed unchecked and a stored share, when there is one, replaces the share.
-/
def readContributions (q : CQuorum) (db : EvoDb) : Bool × CQuorum :=
  match db.quorumVvec q.makeQuorumKey with
  | none => (false, q)
  | some vvec =>
      (true, { q with
        quorumVvec := some vvec
        skShare := match db.skShare q.makeQuorumKey with
          | some share => some share
          | none => q.skShare })

/-- Reading back changes at most the vector and the share. -/
theorem readContributions_snd (q : CQuorum) (db : EvoDb)
    : ∃ quorumVvec skShare, (q.readContributions db).2 = { q with quorumVvec, skShare } := by
  unfold readContributions
  split
  · exact ⟨q.quorumVvec, q.skShare, rfl⟩
  · exact ⟨_, _, rfl⟩

@[simp] theorem readContributions_qc (q : CQuorum) (db : EvoDb)
    : (q.readContributions db).2.qc = q.qc := by
  obtain ⟨_, _, read⟩ := q.readContributions_snd db
  rw [read]

@[simp] theorem readContributions_params (q : CQuorum) (db : EvoDb)
    : (q.readContributions db).2.params = q.params := by
  obtain ⟨_, _, read⟩ := q.readContributions_snd db
  rw [read]

/-- A failed read leaves the quorum as it was. -/
theorem readContributions_unread {q : CQuorum} {db : EvoDb}
    (unread : (q.readContributions db).1 = false) : (q.readContributions db).2 = q := by
  unfold readContributions at unread ⊢
  split
  · rfl
  · rename_i found
    simp [found] at unread

/-- Reading back installs the stored vector, if there is one, with no check against the
commitment.
-/
theorem readContributions_quorumVvec (q : CQuorum) (db : EvoDb)
    : (q.readContributions db).2.quorumVvec = (db.quorumVvec q.makeQuorumKey).or q.quorumVvec := by
  unfold readContributions
  split <;> simp_all

/-- Writing stores the quorum's vector, when set, under its own key only. -/
theorem writeContributions_quorumVvec (q : CQuorum) (db : EvoDb) (key : QuorumKey)
    : (q.writeContributions db).quorumVvec key
      = if key = q.makeQuorumKey then q.quorumVvec.or (db.quorumVvec key)
        else db.quorumVvec key := by
  unfold writeContributions
  cases vvec : q.quorumVvec <;> cases q.skShare <;> by_cases same : key = q.makeQuorumKey
    <;> simp [vvec, same, EvoDb.writeVvec, EvoDb.writeSkShare]

/-- Writing stores the quorum's share, when valid, under its own key only. -/
theorem writeContributions_skShare (q : CQuorum) (db : EvoDb) (key : QuorumKey)
    : (q.writeContributions db).skShare key
      = if key = q.makeQuorumKey then q.skShare.or (db.skShare key) else db.skShare key := by
  unfold writeContributions
  cases q.quorumVvec <;> cases q.skShare <;> by_cases same : key = q.makeQuorumKey
    <;> simp [same, EvoDb.writeVvec, EvoDb.writeSkShare]

/-- With a vector stored under its key, reading back installs it, and the stored share if there
is one.
-/
theorem readContributions_of_stored {q : CQuorum} {db : EvoDb} {vvec : BLSVerificationVector}
    (stored : db.quorumVvec q.makeQuorumKey = some vvec)
    : q.readContributions db
      = (true, { q with quorumVvec := some vvec, skShare := (db.skShare q.makeQuorumKey).or q.skShare }) := by
  unfold readContributions
  rw [stored]
  cases db.skShare q.makeQuorumKey <;> rfl

/-- Without a vector stored under its key, reading back fails and changes nothing. -/
theorem readContributions_of_absent {q : CQuorum} {db : EvoDb}
    (absent : db.quorumVvec q.makeQuorumKey = none) : q.readContributions db = (false, q) := by
  unfold readContributions
  rw [absent]

/-- A fresh quorum with the same key reads back what `WriteContributions` stored for a quorum
with a vector, where no share was stored before. -/
theorem readContributions_writeContributions (q fresh : CQuorum) {db : EvoDb}
    {vvec : BLSVerificationVector} (key : fresh.makeQuorumKey = q.makeQuorumKey)
    (hasVvec : q.quorumVvec = some vvec) (freshShare : fresh.skShare = none)
    (noShare : db.skShare q.makeQuorumKey = none)
    : fresh.readContributions (q.writeContributions db)
      = (true, { fresh with quorumVvec := some vvec, skShare := q.skShare }) := by
  have stored : (q.writeContributions db).quorumVvec fresh.makeQuorumKey = some vvec := by
    rw [writeContributions_quorumVvec, if_pos key, hasVvec]
    rfl
  rw [readContributions_of_stored stored, writeContributions_skShare, if_pos key, key, noShare,
    freshShare]
  cases q.skShare <;> rfl

end CQuorum

end Llmq
