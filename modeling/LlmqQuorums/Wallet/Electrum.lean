import LlmqQuorums.Wallet.Rpc

/-! `importelectrumwallet` (`wallet/rpcdump.cpp`). The private keys of an Electrum export, a CSV
file of `address,private_key` lines or a JSON object from addresses to keys, are added where the
wallet holds no key under their ids, with no time and no label, and the wallet then rescans from
a start height. The parameters, pruning, the private-keys flag and the file are checked before the
first write; the start height, the rescan's reservation and the keys the database refused are
checked after the last.

Two reads are undefined. The JSON branch reads the file into a buffer of its size with no
terminating zero, which `UniValue::read(const char*)` measures with `strlen`; and
`chainActive[nStartHeight]` is null below height zero, where its block time is read.
-/

namespace Wallet

/-- What `importelectrumwallet` calls outside src beyond the collaborators of `importwallet`: the
height of the active chain, and `UniValue::read` of a text, `none` when the text is no JSON. -/
structure ElectrumEnv extends BackupEnv where
  /-- `chainActive.Height()`. -/
  chainHeight : Int
  readJson : List UInt8 → Option UniValue

/-- `get_int()`: a number that fits `int32_t`. -/
def UniValue.getInt : UniValue → Except ImportError Int
  | .num value => if -2147483648 ≤ value ∧ value ≤ 2147483647 then pure value else throw .runtime
  | _ => throw .runtime

/-- `getKeys()`: the keys of an object, none of another value. -/
def UniValue.getKeys : UniValue → List String
  | .obj entries => entries.map Prod.fst
  | _ => []

/-- `strFileName.substr(strFileName.find_last_of(".") + 1)`, `none` when the name has no dot. -/
def fileExtension (strFileName : String) : Option String :=
  if '.' ∈ strFileName.toList then
    some (String.mk (strFileName.toList.reverse.takeWhile (· ≠ '.')).reverse)
  else none

-----------------------------------------------------------------------------------------
-- Reading the export
-----------------------------------------------------------------------------------------

/-- `importelectrumwallet` up to the file's bytes: the parameters, pruning, the private-keys flag,
the lock, the file name's extension and the file, `none` when it does not open. It reads the
wallet's flag and lock only. -/
def readElectrumFile (env : ElectrumEnv) (params : List UniValue) (file : Option (List UInt8))
    (disablePrivateKeys locked : Bool) : Except ImportError (String × List UInt8) := do
  throwIf (params.length < 1 || params.length > 2) .runtime
  throwIf env.fPruneMode (.rpc ⟨.walletError, "Importing wallets is disabled in pruned mode"⟩)
  throwIf disablePrivateKeys (.rpc ⟨.walletError, "Error: Private keys are disabled for this wallet"⟩)
  ensureWalletIsUnlocked locked
  let strFileName ← (param params 0).getStr
  match fileExtension strFileName with
  | none => throw (.rpc ⟨.invalidParameter, "File has no extension, should be .json or .csv"⟩)
  | some strFileExt =>
      throwIf (strFileExt != "json" && strFileExt != "csv")
        (.rpc ⟨.invalidParameter, "File has wrong extension, should be .json or .csv"⟩)
      match file with
      | none => throw (.rpc ⟨.invalidParameter, "Cannot open Electrum wallet export file"⟩)
      | some bytes => pure (strFileExt, bytes)

/-- The key of a line of a CSV export, split at every comma: none for an empty line, the header, a
line of fewer than two fields, or a second field that does not decode. -/
def csvLineKey (formats : DumpFormats CKey) (line : List UInt8) : Option CKey :=
  if line.isEmpty || line == ascii "address,private_key" then none
  else match line.splitOn ','.toUInt8 with
    | _ :: secret :: _ => formats.decodeSecret secret
    | _ => none

/-- The text `data.read(buffer)` parses: the file up to its first zero byte, as `strlen` measures
it; `none` when the file has no zero byte, so that `strlen` reads past the buffer (for an empty
file, the one byte of the buffer is never written). -/
def jsonBufferText (bytes : List UInt8) : Option (List UInt8) :=
  if 0 ∈ bytes then some (bytes.takeWhile (· ≠ 0)) else none

/-- The keys of the JSON loop, by index below `data.size()`: the value under the index's key
(`data[vKeys[i]]`, the first entry with that key) when it is a string that decodes; `none` when an
index has no key, as in a non-empty array, where `vKeys[i]` is out of range. -/
def jsonKeys (env : ImportEnv) (data : UniValue) : Option (List CKey) :=
  ((List.range data.size).mapM fun i => data.getKeys[i]?.map fun key =>
    match data.find key with
    | .str secret => env.decodeSecret secret
    | _ => none).map (List.filterMap id)

/-- The keys of the export in file order; `none` where reading it is undefined. -/
def electrumKeys (env : ElectrumEnv) (strFileExt : String) (bytes : List UInt8) :
    Option (Except ImportError (List CKey)) :=
  if strFileExt = "csv" then some (.ok ((bytes.splitOn newline).filterMap (csvLineKey env.formats)))
  else (jsonBufferText bytes).bind fun text =>
    match env.readJson text with
    | none => some (.error (.rpc ⟨.typeError, "Cannot parse Electrum wallet export file"⟩))
    | some data => (jsonKeys env.toImportEnv data).map .ok

-----------------------------------------------------------------------------------------
-- Importing the keys
-----------------------------------------------------------------------------------------

/-- One key of the export: skipped when the wallet holds a key under its id; put through
`AddKeyPubKey` otherwise, with `fGood` cleared when the database refuses it. -/
def importElectrumKey (env : BackupEnv) (key : CKey) (fGood : Bool) (w : WalletState) :
    Bool × WalletState :=
  let pubkey := env.getPubKey key
  let keyid := env.keyID key
  if w.haveKey keyid then (fGood, w)
  else (fGood && env.databaseWrites, w.addKeyPubKey env.toImportEnv key pubkey)

def importElectrumKeys (env : BackupEnv) : List CKey → Bool → WalletState → Bool × WalletState
  | [], fGood, w => (fGood, w)
  | key :: rest, fGood, w =>
      let (fGood, w) := importElectrumKey env key fGood w
      importElectrumKeys env rest fGood w

/-- The end of `importelectrumwallet`: the start height, 0 when left out and the tip's height when
above it; the block time at that height, undefined below height zero, where
`chainActive[nStartHeight]` is null; then the rescan's reservation and the keys refused. -/
def electrumRescan (env : ElectrumEnv) (params : List UniValue) (fGood : Bool) :
    Option (Except ImportError Unit) :=
  match (param params 1).optionalParam UniValue.getInt 0 with
  | .error e => some (.error e)
  | .ok nStartHeight =>
      if min nStartHeight env.chainHeight < 0 then none
      else if !env.reserve then
        some (.error (.rpc ⟨.walletError, "Wallet is currently rescanning. Abort existing rescan or wait."⟩))
      else if !fGood then some (.error (.rpc ⟨.walletError, "Error adding some keys to wallet"⟩))
      else some (.ok ())

/-- `importelectrumwallet` on the file its name opens, as the wallet's run ends; `none` when the
run is undefined. -/
def importelectrumwallet (env : ElectrumEnv) (params : List UniValue) (file : Option (List UInt8))
    (w : WalletState) : Option (Except ImportError Unit × WalletState) :=
  match readElectrumFile env params file w.disablePrivateKeys w.locked with
  | .error e => some (.error e, w)
  | .ok (strFileExt, bytes) => (electrumKeys env strFileExt bytes).bind fun
      | .error e => some (.error e, w)
      | .ok keys =>
          let (fGood, w) := importElectrumKeys env.toBackupEnv keys true w
          (electrumRescan env params fGood).map fun result => (result, w)

-----------------------------------------------------------------------------------------
-- What an import leaves
-----------------------------------------------------------------------------------------

section Keys

variable (env : BackupEnv) {R : WalletOrder}

theorem importElectrumKey_keeps (admits : R.Admits env.toImportEnv) (key : CKey) (fGood : Bool)
    (w : WalletState) : R.rel w (importElectrumKey env key fGood w).2 := by
  unfold importElectrumKey
  dsimp only
  split
  · exact R.refl w
  · exact admits.addKey w key (Bool.eq_false_iff.mpr ‹_›)

theorem importElectrumKeys_keeps (admits : R.Admits env.toImportEnv) :
    ∀ keys fGood w, R.rel w (importElectrumKeys env keys fGood w).2
  | [], _, w => R.refl w
  | key :: rest, fGood, w =>
      R.trans (importElectrumKey_keeps env admits key fGood w)
        (importElectrumKeys_keeps admits rest _ _)

/-- After the key loop, the wallet holds a key under the id of every key of the export: the one it
held, or the key. -/
theorem importElectrumKeys_held :
    ∀ keys fGood w, ∀ key ∈ keys, (importElectrumKeys env keys fGood w).2.haveKey (env.keyID key) = true
  | [], _, _, _, mem => absurd mem (List.not_mem_nil _)
  | first :: rest, fGood, w, key, mem => by
      have kept := importElectrumKeys_keeps env (WalletOrder.extension_admits _) rest
        (importElectrumKey env first fGood w).1 (importElectrumKey env first fGood w).2
      rcases List.mem_cons.mp mem with rfl | later
      · unfold WalletState.haveKey at *
        cases held : ((importElectrumKey env key fGood w).2.mapKeys (env.keyID key)) with
        | some held' => simp [importElectrumKeys, kept.keys _ _ held]
        | none =>
            simp only [importElectrumKey] at held
            split at held <;> simp_all [WalletState.haveKey, WalletState.addKey, BackupEnv.keyID]
      · exact importElectrumKeys_held rest _ _ key later

end Keys

variable {env : ElectrumEnv}

/-- Whatever it answers, a defined run of `importelectrumwallet` keeps every order its writes keep. -/
theorem importelectrumwallet_keeps {R : WalletOrder} (admits : R.Admits env.toImportEnv)
    {params : List UniValue} {file : Option (List UInt8)} {w w' : WalletState}
    {result : Except ImportError Unit} (ran : importelectrumwallet env params file w = some (result, w')) :
    R.rel w w' := by
  unfold importelectrumwallet at ran
  cases read : readElectrumFile env params file w.disablePrivateKeys w.locked with
  | error e =>
      simp only [read, Option.some.injEq, Prod.mk.injEq] at ran
      rw [← ran.2]
      exact R.refl w
  | ok entry =>
      obtain ⟨strFileExt, bytes⟩ := entry
      simp only [read] at ran
      rcases collected : electrumKeys env strFileExt bytes with _ | _ | keys <;>
        simp only [collected, Option.none_bind, Option.some_bind] at ran
      · cases ran
      · simp only [Option.some.injEq, Prod.mk.injEq] at ran
        rw [← ran.2]
        exact R.refl w
      · simp only [Option.map_eq_some', Prod.mk.injEq] at ran
        obtain ⟨_, _, _, rfl⟩ := ran
        exact importElectrumKeys_keeps env.toBackupEnv admits keys true w

/-- A file named with a `.json` or `.csv` extension that opens passes the checks before the first
write, with one or two parameters, on an unpruned node and an unlocked wallet that allows private
keys. -/
theorem readElectrumFile_ok {rest : List UniValue} {strFileName strFileExt : String}
    {bytes : List UInt8} (sized : rest.length ≤ 1) (unpruned : env.fPruneMode = false)
    (named : fileExtension strFileName = some strFileExt) (known : strFileExt = "json" ∨ strFileExt = "csv") :
    readElectrumFile env (.str strFileName :: rest) (some bytes) false false = .ok (strFileExt, bytes) := by
  have short : (rest.length + 1 < 1 || rest.length + 1 > 2) = false := by
    simp only [Bool.or_eq_false_iff, decide_eq_false_iff_not]
    omega
  have extension : (strFileExt != "json" && strFileExt != "csv") = false := by
    rcases known with rfl | rfl <;> rfl
  simp only [readElectrumFile, param, List.getD_cons_zero, UniValue.getStr, List.length_cons, short,
    unpruned, named, extension, ensureWalletIsUnlocked, throwIf, Bool.false_eq_true, ↓reduceIte, pure_bind]
  rfl

/-- A CSV export that passes the checks before the first write is read in full, and its keys go
in; `electrumRescan` ends the run. -/
theorem importelectrumwallet_csv {strFileName : String} {rest : List UniValue} {bytes : List UInt8}
    {w : WalletState} (csv : fileExtension strFileName = some "csv") (sized : rest.length ≤ 1)
    (unpruned : env.fPruneMode = false) (enabled : w.disablePrivateKeys = false)
    (unlocked : w.locked = false) :
    importelectrumwallet env (.str strFileName :: rest) (some bytes) w
      = (electrumRescan env (.str strFileName :: rest) (importElectrumKeys env.toBackupEnv
          ((bytes.splitOn newline).filterMap (csvLineKey env.formats)) true w).1).map fun result =>
        (result, (importElectrumKeys env.toBackupEnv
          ((bytes.splitOn newline).filterMap (csvLineKey env.formats)) true w).2) := by
  have read := @readElectrumFile_ok env _ _ _ bytes sized unpruned csv (.inr rfl)
  simp only [importelectrumwallet, enabled, unlocked, read, electrumKeys, ↓reduceIte, Option.some_bind]

/-- The end of a run given a start height that fits `int32_t`. -/
theorem electrumRescan_height {strFileName : String} {nStartHeight : Int} (fGood : Bool)
    (fits : -2147483648 ≤ nStartHeight ∧ nStartHeight ≤ 2147483647) :
    electrumRescan env [.str strFileName, .num nStartHeight] fGood
      = if min nStartHeight env.chainHeight < 0 then none
        else if !env.reserve then some (.error (.rpc ⟨.walletError,
          "Wallet is currently rescanning. Abort existing rescan or wait."⟩))
        else if !fGood then some (.error (.rpc ⟨.walletError, "Error adding some keys to wallet"⟩))
        else some (.ok ()) := by
  simp only [electrumRescan, param, List.getD_cons_succ, List.getD_cons_zero, UniValue.optionalParam,
    UniValue.isNull, UniValue.getInt, fits, and_self, ↓reduceIte]
  rfl

/-- The collaborators of a worked session, over those of `sampleRpcEnv`: a chain of ten blocks, and
no text that reads as JSON. -/
def sampleElectrumEnv : ElectrumEnv :=
  { sampleRpcEnv with chainHeight := 10, readJson := fun _ => none }

/-- An import that finds a rescan running reports it only after the key loop: every key of the CSV
export is then held, under its id, as after an import that succeeds. -/
theorem importelectrumwallet_busy_after_import {strFileName : String} {nStartHeight : Int}
    {bytes : List UInt8} {w : WalletState} (csv : fileExtension strFileName = some "csv")
    (unpruned : env.fPruneMode = false) (enabled : w.disablePrivateKeys = false)
    (unlocked : w.locked = false) (fits : -2147483648 ≤ nStartHeight ∧ nStartHeight ≤ 2147483647)
    (onChain : 0 ≤ min nStartHeight env.chainHeight) (busy : env.reserve = false) :
    ∃ w', importelectrumwallet env [.str strFileName, .num nStartHeight] (some bytes) w
        = some (.error (.rpc ⟨.walletError,
          "Wallet is currently rescanning. Abort existing rescan or wait."⟩), w')
      ∧ ∀ key ∈ (bytes.splitOn newline).filterMap (csvLineKey env.formats),
        w'.haveKey (env.keyID key) = true := by
  rw [importelectrumwallet_csv csv (show [UniValue.num nStartHeight].length ≤ 1 from le_rfl) unpruned
    enabled unlocked, electrumRescan_height _ fits,
    if_neg (not_lt.mpr onChain), busy]
  exact ⟨_, rfl, importElectrumKeys_held env.toBackupEnv _ true w⟩

/-- A CSV export of key 7 under the collaborators of the worked session, with a rescan running. -/
def busyElectrumEnv : ElectrumEnv := { sampleElectrumEnv with reserve := false }

theorem electrum_busy_after_import_sample :
    ∃ w', importelectrumwallet busyElectrumEnv [.str "keys.csv", .num 0]
        (some (ascii "address,private_key\na7,x")) WalletState.empty
        = some (.error (.rpc ⟨.walletError,
          "Wallet is currently rescanning. Abort existing rescan or wait."⟩), w')
      ∧ ∀ key ∈ ((ascii "address,private_key\na7,x").splitOn newline).filterMap
        (csvLineKey busyElectrumEnv.formats), w'.haveKey (busyElectrumEnv.keyID key) = true :=
  importelectrumwallet_busy_after_import rfl rfl rfl rfl (by decide) (by decide) rfl

end Wallet
