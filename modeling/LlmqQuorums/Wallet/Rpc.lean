import LlmqQuorums.Wallet.Backup

/-! The single-item import RPCs of `wallet/rpcdump.cpp`, and `dumpprivkey`. `importprivkey` labels
the key's address and adds the key where the wallet holds none under its id; `importaddress` and
`importpubkey` add watch-only scripts, redeem scripts and labels through `ImportScript` and
`ImportAddress`. Each reads its parameters and makes its checks before its first write, and may
end with a rescan from `TIMESTAMP_MIN`, whose failure is reported after the writes. `dumpprivkey`
reads a key back as `EncodeSecret` writes it.
-/

namespace Wallet

-----------------------------------------------------------------------------------------
-- Parameters and the rescan
-----------------------------------------------------------------------------------------

/-- `request.params[i]`: `NullUniValue` past the end. -/
def param (params : List UniValue) (i : Nat) : UniValue := params.getD i .null

/-- A parameter that may be left out: `read(value)` unless the value is null, `default` then. -/
def UniValue.optionalParam {α : Type} (value : UniValue) (read : UniValue → Except ImportError α)
    (default : α) : Except ImportError α :=
  if value.isNull then pure default else read value

/-- `TIMESTAMP_MIN` of `wallet/wallet.h`, outside src. -/
def timestampMin : Int := 0

/-- What an import checks before it writes when it is to rescan: no pruning, and the rescan
reserved. -/
def reserveRescan (env : BackupEnv) (fRescan : Bool) : Except ImportError Unit := do
  throwIf (fRescan && env.fPruneMode) (.rpc ⟨.walletError, "Rescan is disabled in pruned mode"⟩)
  throwIf (fRescan && !env.reserve)
    (.rpc ⟨.walletError, "Wallet is currently rescanning. Abort existing rescan or wait."⟩)

/-- The rescan that ends `importprivkey`, `importaddress` and `importpubkey`: from
`TIMESTAMP_MIN`, with the checks that end `importwallet` and no `fGood` to report. -/
def rescanFromMin (env : BackupEnv) (fRescan : Bool) : ImportM Unit :=
  if fRescan then rescanChecks env true timestampMin else pure ()

-----------------------------------------------------------------------------------------
-- importprivkey
-----------------------------------------------------------------------------------------

/-- `importprivkey` up to its first write: the parameters, the private-keys flag, the rescan's
checks and the key. It reads the wallet's flag only. -/
def readImportPrivKey (env : BackupEnv) (disablePrivateKeys locked : Bool) (params : List UniValue) :
    Except ImportError (CKey × String × Bool) := do
  throwIf (params.length < 1 || params.length > 3) .runtime
  throwIf disablePrivateKeys
    (.rpc ⟨.walletError, "Cannot import private keys to a wallet with private keys disabled"⟩)
  ensureWalletIsUnlocked locked
  let strSecret ← (param params 0).getStr
  let strLabel ← (param params 1).optionalParam UniValue.getStr ""
  -- Whether to perform rescan after import
  let fRescan ← (param params 2).optionalParam UniValue.getBool true
  reserveRescan env fRescan
  match env.decodeSecret strSecret with
  | none => throw (.rpc ⟨.invalidAddressOrKey, "Invalid private key encoding"⟩)
  | some key => pure (key, strLabel, fRescan)

/-- The writes of `importprivkey` and its rescan: the key's address is labelled first; a key the
wallet holds ends the call there, and another gets time 1 and is added. -/
def importPrivKeyEntry (env : BackupEnv) (key : CKey) (strLabel : String) (fRescan : Bool) :
    ImportM Unit := do
  let pubkey := env.getPubKey key
  let vchAddress := env.getID pubkey
  modify (·.setAddressBook (.keyID vchAddress) strLabel "receive")
  -- Don't throw error in case a key is already there
  if (← get).haveKey vchAddress then pure ()
  else
    -- whenever a key is imported, we need to scan the whole chain
    modify (·.setKeyCreateTime vchAddress 1)
    let added ← addKeyPubKey env.toImportEnv key pubkey
    throwIf (!added) (.rpc ⟨.walletError, "Error adding key to wallet"⟩)
    rescanFromMin env fRescan

def importprivkey (env : BackupEnv) (params : List UniValue) : ImportM Unit := do
  let w ← get
  let (key, strLabel, fRescan) ← fromExcept (readImportPrivKey env w.disablePrivateKeys w.locked params)
  importPrivKeyEntry env key strLabel fRescan

-----------------------------------------------------------------------------------------
-- ImportScript and ImportAddress
-----------------------------------------------------------------------------------------

/-- `HaveWatchOnly(script) || AddWatchOnly(script, 0)`, the short circuit `ImportScript` checks. -/
def haveOrAddWatchOnly (env : ImportEnv) (script : CScript) : ImportM Bool := do
  if (← get).setWatchOnly script then pure true else addWatchOnly env script

/-- `ImportScript`, with the `ImportAddress` that the import of a redeem script calls passed in. -/
def importScriptWith (env : ImportEnv) (importAddress : CTxDestination → String → ImportM Unit)
    (script : CScript) (strLabel : String) (isRedeemScript : Bool) : ImportM Unit := do
  throwIf (!isRedeemScript && env.isMineSpendable (← get) script) (.rpc ⟨.walletError,
    "The wallet already contains the private key for this address or script"⟩)
  let watched ← haveOrAddWatchOnly env script
  throwIf (!watched) (.rpc ⟨.walletError, "Error adding address to wallet"⟩)
  if isRedeemScript then
    let held ← haveOrAddCScript env script
    throwIf (!held) (.rpc ⟨.walletError, "Error adding p2sh redeemScript to wallet"⟩)
    importAddress (.scriptID (env.scriptID script)) strLabel
  else
    match env.extractDestination script with
    | some destination => modify (·.setAddressBook destination strLabel "receive")
    | none => pure ()

/-- `ImportAddress`: the destination's script, imported as no redeem script, so that it calls no
`ImportAddress` itself, and the label of a valid destination. -/
def importAddress (env : ImportEnv) (dest : CTxDestination) (strLabel : String) : ImportM Unit := do
  importScriptWith env (fun _ _ => pure ()) (env.getScriptForDestination dest) strLabel false
  -- add to address book or update label
  if isValidDestination dest then modify (·.setAddressBook dest strLabel "receive")

def importScript (env : ImportEnv) (script : CScript) (strLabel : String) (isRedeemScript : Bool) :
    ImportM Unit :=
  importScriptWith env (importAddress env) script strLabel isRedeemScript

-----------------------------------------------------------------------------------------
-- importaddress and importpubkey
-----------------------------------------------------------------------------------------

/-- The parameters `importaddress` and `importpubkey` read first, in the same way: the label, and
whether to rescan, with the rescan's checks. -/
def readLabelRescan (env : BackupEnv) (params : List UniValue) : Except ImportError (String × Bool) := do
  throwIf (params.length < 1 || params.length > 4) .runtime
  let strLabel ← (param params 1).optionalParam UniValue.getStr ""
  -- Whether to perform rescan after import
  let fRescan ← (param params 2).optionalParam UniValue.getBool true
  reserveRescan env fRescan
  pure (strLabel, fRescan)

/-- The locked block of `importaddress`: an address is imported as one, a hex string as a script,
a redeem script with `p2sh`, and anything else is refused. -/
def importAddressOrScript (env : ImportEnv) (address : String) (strLabel : String) (fP2SH : Bool) :
    ImportM Unit :=
  let dest := env.decodeDestination address
  if isValidDestination dest then do
    throwIf fP2SH (.rpc ⟨.invalidAddressOrKey,
      "Cannot use the p2sh flag with an address - use a script instead"⟩)
    importAddress env dest strLabel
  else if env.isHex address then importScript env (env.parseHex address) strLabel fP2SH
  else throw (.rpc ⟨.invalidAddressOrKey, "Invalid PirateCash address or script"⟩)

def importaddress (env : BackupEnv) (params : List UniValue) : ImportM Unit := do
  let (strLabel, fRescan) ← fromExcept (readLabelRescan env params)
  -- Whether to import a p2sh version, too
  let fP2SH ← fromExcept ((param params 3).optionalParam UniValue.getBool false)
  let address ← fromExcept (param params 0).getStr
  importAddressOrScript env.toImportEnv address strLabel fP2SH
  rescanFromMin env fRescan

def importpubkey (env : BackupEnv) (params : List UniValue) : ImportM Unit := do
  let (strLabel, fRescan) ← fromExcept (readLabelRescan env params)
  let hex ← fromExcept (param params 0).getStr
  throwIf (!env.isHex hex) (.rpc ⟨.invalidAddressOrKey, "Pubkey must be a hex string"⟩)
  let pubKey := env.pubKeyOfBytes (env.parseHex hex)
  throwIf (!env.isFullyValid pubKey) (.rpc ⟨.invalidAddressOrKey, "Pubkey is not a valid public key"⟩)
  importAddress env.toImportEnv (.keyID (env.getID pubKey)) strLabel
  importScript env.toImportEnv (env.getScriptForRawPubKey pubKey) strLabel false
  rescanFromMin env fRescan

-----------------------------------------------------------------------------------------
-- dumpprivkey
-----------------------------------------------------------------------------------------

/-- `dumpprivkey`: the bytes of `EncodeSecret` of the key of the address given. -/
def dumpprivkey (env : BackupEnv) (params : List UniValue) (w : WalletState) :
    Except ImportError (List UInt8) := do
  throwIf (params.length != 1) .runtime
  ensureWalletIsUnlocked w.locked
  let strAddress ← (param params 0).getStr
  let dest := env.decodeDestination strAddress
  throwIf (!isValidDestination dest) (.rpc ⟨.invalidAddressOrKey, "Invalid PirateCash address"⟩)
  match dest with
  | .keyID keyID =>
      match w.mapKeys keyID with
      | some vchSecret => pure (env.formats.encodeSecret vchSecret)
      | none => throw (.rpc ⟨.walletError, "Private key for address " ++ strAddress ++ " is not known"⟩)
  | _ => throw (.rpc ⟨.typeError, "Address does not refer to a key"⟩)

-----------------------------------------------------------------------------------------
-- Orders the imports keep
--
-- Every write of these RPCs is one that `ProcessImport` makes too, so they keep each order that
-- admits those writes. Two more orders are kept: filing (every key under its public key's id, every
-- redeem script under its hash), and, by the watch-only imports, everything but the watch-only
-- set, the redeem scripts and the address book.
-----------------------------------------------------------------------------------------

namespace WalletState.Filed

variable {env : ImportEnv} {w : WalletState}

theorem addCScript (filed : w.Filed env) (script : CScript) :
    (w.addCScript (env.scriptID script) script).Filed env :=
  ⟨filed.keys, fun i held found => by
    dsimp only [WalletState.addCScript] at found
    split_ifs at found with same
    · cases found
      exact same.symm
    · exact filed.scripts i held found⟩

theorem addKeyPubKey (filed : w.Filed env) (key : CKey) :
    (w.addKeyPubKey env key (env.getPubKey key)).Filed env :=
  ⟨fun i held found => by
    simp only [WalletState.addKeyPubKey_mapKeys, WalletState.addKey] at found
    split_ifs at found with same
    · cases found
      exact same.symm
    · exact filed.keys i held found, filed.scripts⟩

end WalletState.Filed

/-- Runs from a filed wallet to a filed wallet. -/
def WalletOrder.filing (env : ImportEnv) : WalletOrder :=
  ⟨fun w w' => w.Filed env → w'.Filed env, fun _ => id, fun first second => second ∘ first⟩

theorem WalletOrder.filing_admits (env : ImportEnv) : (WalletOrder.filing env).Admits env where
  addWatchOnly _ _ filed := ⟨filed.keys, filed.scripts⟩
  addCScript _ script _ filed := filed.addCScript script
  setAddressBook _ _ _ _ filed := ⟨filed.keys, filed.scripts⟩
  addKey _ key _ filed := filed.addKeyPubKey key
  setKeyCreateTime _ _ _ filed := ⟨filed.keys, filed.scripts⟩

/-- Two orders at once. -/
def WalletOrder.both (R S : WalletOrder) : WalletOrder :=
  ⟨fun w w' => R.rel w w' ∧ S.rel w w', fun w => ⟨R.refl w, S.refl w⟩,
    fun first second => ⟨R.trans first.1 second.1, S.trans first.2 second.2⟩⟩

theorem WalletOrder.Admits.both {env : ImportEnv} {R S : WalletOrder} (r : R.Admits env)
    (s : S.Admits env) : (R.both S).Admits env where
  addWatchOnly w script := ⟨r.addWatchOnly w script, s.addWatchOnly w script⟩
  addCScript w script absent := ⟨r.addCScript w script absent, s.addCScript w script absent⟩
  setAddressBook w dest name purpose :=
    ⟨r.setAddressBook w dest name purpose, s.setAddressBook w dest name purpose⟩
  addKey w key absent := ⟨r.addKey w key absent, s.addKey w key absent⟩
  setKeyCreateTime w id nCreateTime := ⟨r.setKeyCreateTime w id nCreateTime, s.setKeyCreateTime w id nCreateTime⟩

/-- `w` with the watch-only set, the redeem scripts and the address book of `w'`. -/
def WalletState.withWatchStores (w w' : WalletState) : WalletState :=
  { w with
    setWatchOnly := w'.setWatchOnly
    mapScripts := w'.mapScripts
    mapAddressBook := w'.mapAddressBook }

/-- Runs whose every write is a watch-only script, a redeem script or an address-book entry: the
wallet after is the wallet before with those three stores replaced. -/
def WalletOrder.watchStores : WalletOrder :=
  ⟨fun w w' => w' = w.withWatchStores w', fun _ => rfl, fun first second => by rw [second, first]; rfl⟩

/-- The writes of a watch-only import are each a watch-only script, a redeem script or a label. -/
theorem WalletOrder.watchStores_admitsWatching (env : ImportEnv) :
    WalletOrder.watchStores.AdmitsWatching env :=
  ⟨fun _ _ => rfl, fun _ _ _ => rfl, fun _ _ _ _ => rfl⟩

section Keeps

variable {R : WalletOrder}

/-- A watch-only script is added only where the wallet does not watch it. -/
theorem haveOrAddWatchOnly_keeps (env : ImportEnv) (admits : R.AdmitsWatching env) (script : CScript) :
    Keeps R (haveOrAddWatchOnly env script) := by
  refine Keeps.get_bind fun w => ?_
  cases w.setWatchOnly script
  · exact admits.addWatchOnly w script
  · exact R.refl w

theorem importScriptWith_keeps (env : ImportEnv) (admits : R.AdmitsWatching env)
    {importAddress : CTxDestination → String → ImportM Unit}
    (address : ∀ dest strLabel, Keeps R (importAddress dest strLabel)) (script : CScript)
    (strLabel : String) (isRedeemScript : Bool) :
    Keeps R (importScriptWith env importAddress script strLabel isRedeemScript) := by
  refine Keeps.read.bind fun _ => (Keeps.throwIf _ _).bind fun _ =>
    (haveOrAddWatchOnly_keeps env admits script).bind fun _ => (Keeps.throwIf _ _).bind fun _ => ?_
  split
  · exact (haveOrAddCScript_keeps env admits script).bind fun _ =>
      (Keeps.throwIf _ _).bind fun _ => address _ _
  · split
    · exact fun w => admits.setAddressBook w _ _ _
    · exact Keeps.pure _

theorem importAddress_keeps (env : ImportEnv) (admits : R.AdmitsWatching env) (dest : CTxDestination)
    (strLabel : String) : Keeps R (importAddress env dest strLabel) := by
  refine (importScriptWith_keeps env admits (fun _ _ => Keeps.pure _) _ _ _).bind fun _ => ?_
  split
  · exact fun w => admits.setAddressBook w _ _ _
  · exact Keeps.pure _

theorem importScript_keeps (env : ImportEnv) (admits : R.AdmitsWatching env) (script : CScript)
    (strLabel : String) (isRedeemScript : Bool) : Keeps R (importScript env script strLabel isRedeemScript) :=
  importScriptWith_keeps env admits (importAddress_keeps env admits) script strLabel isRedeemScript

theorem importAddressOrScript_keeps (env : ImportEnv) (admits : R.AdmitsWatching env) (address : String)
    (strLabel : String) (fP2SH : Bool) : Keeps R (importAddressOrScript env address strLabel fP2SH) := by
  unfold importAddressOrScript
  dsimp only
  split
  · exact (Keeps.throwIf _ _).bind fun _ => importAddress_keeps env admits _ _
  · split
    · exact importScript_keeps env admits _ _ _
    · exact Keeps.throw _

variable (env : BackupEnv)

/-- The rescan writes nothing. -/
theorem rescanFromMin_keeps (fRescan : Bool) : Keeps R (rescanFromMin env fRescan) := fun w => by
  unfold rescanFromMin
  split
  · rw [(runImport_rescanChecks env true timestampMin w).1]
    exact R.refl w
  · exact R.refl w

/-- The key is added only where the wallet holds none, after its label and time are written. -/
theorem importPrivKeyEntry_keeps (admits : R.Admits env.toImportEnv) (key : CKey) (strLabel : String)
    (fRescan : Bool) : Keeps R (importPrivKeyEntry env key strLabel fRescan) := by
  refine Keeps.bind (fun w => admits.setAddressBook w _ _ _) fun _ => Keeps.get_bind fun w => ?_
  cases held : w.haveKey (env.getID (env.getPubKey key))
  · simp only [held, Bool.false_eq_true, ↓reduceIte]
    rw [runImport_bind, runImport_modify]
    dsimp only
    rw [runImport_bind, runImport_addKeyPubKey]
    exact R.trans (admits.setKeyCreateTime w _ 1) (R.trans (admits.addKey _ key held)
      (((Keeps.throwIf _ _).bind fun _ => rescanFromMin_keeps env fRescan) _))
  · exact R.refl w

theorem importprivkey_keeps (admits : R.Admits env.toImportEnv) (params : List UniValue) :
    Keeps R (importprivkey env params) :=
  Keeps.read.bind fun _ => (Keeps.fromExcept _).bind fun ⟨key, strLabel, fRescan⟩ =>
    importPrivKeyEntry_keeps env admits key strLabel fRescan

theorem importaddress_keeps (admits : R.AdmitsWatching env.toImportEnv) (params : List UniValue) :
    Keeps R (importaddress env params) :=
  (Keeps.fromExcept _).bind fun ⟨_, _⟩ => (Keeps.fromExcept _).bind fun _ =>
    (Keeps.fromExcept _).bind fun _ => (importAddressOrScript_keeps _ admits _ _ _).bind fun _ =>
    rescanFromMin_keeps env _

theorem importpubkey_keeps (admits : R.AdmitsWatching env.toImportEnv) (params : List UniValue) :
    Keeps R (importpubkey env params) :=
  (Keeps.fromExcept _).bind fun ⟨_, _⟩ => (Keeps.fromExcept _).bind fun _ =>
    (Keeps.throwIf _ _).bind fun _ => (Keeps.throwIf _ _).bind fun _ =>
    (importAddress_keeps _ admits _ _).bind fun _ => (importScript_keeps _ admits _ _ _).bind fun _ =>
    rescanFromMin_keeps env _

end Keeps

/-- A watch-only import changes no private key and no key time, whatever it answers: every write
of `importaddress` and `importpubkey`, through `ImportScript` and `ImportAddress`, is a watch-only
script, a redeem script or a label, so the wallet it leaves is the wallet it was given with only
those three stores replaced. -/
theorem watch_only_imports_keep_keys (env : BackupEnv) (params : List UniValue) (w : WalletState) :
    (runImport (importaddress env params) w).2.mapKeys = w.mapKeys
      ∧ (runImport (importaddress env params) w).2.mapKeyMetadata = w.mapKeyMetadata
      ∧ (runImport (importpubkey env params) w).2.mapKeys = w.mapKeys
      ∧ (runImport (importpubkey env params) w).2.mapKeyMetadata = w.mapKeyMetadata
      ∧ (runImport (importaddress env params) w).2
        = w.withWatchStores (runImport (importaddress env params) w).2
      ∧ (runImport (importpubkey env params) w).2
        = w.withWatchStores (runImport (importpubkey env params) w).2 :=
  have address := importaddress_keeps env (WalletOrder.watchStores_admitsWatching _) params w
  have pubkey := importpubkey_keeps env (WalletOrder.watchStores_admitsWatching _) params w
  ⟨congrArg (·.mapKeys) address, congrArg (·.mapKeyMetadata) address, congrArg (·.mapKeys) pubkey,
    congrArg (·.mapKeyMetadata) pubkey, address, pubkey⟩

-----------------------------------------------------------------------------------------
-- dumpprivkey and importprivkey
-----------------------------------------------------------------------------------------

theorem Holds.any {α : Type} (x : Except ImportError α) : Holds (fun _ => True) (fun _ => True) x := by
  cases x <;> trivial

/-- `get_str()` returns the string the value holds. -/
theorem UniValue.getStr_named (v : UniValue) : Holds (fun _ => True) (fun s => v = .str s) v.getStr := by
  cases v <;> trivial

section Keys

variable {env : BackupEnv}

/-- Parameters of length one are the first parameter alone. -/
theorem eq_singleton_of_param {params : List UniValue} {v : UniValue}
    (single : (params.length != 1) = false) (first : param params 0 = v) : params = [v] := by
  rcases params with _ | ⟨a, _ | ⟨b, rest⟩⟩
  · cases single
  · exact congrArg (· :: []) first
  · simp at single

/-- What `dumpprivkey` answers: on an unlocked wallet, a single address that decodes to a key id
the wallet holds a key under, with the encoding of that key. -/
theorem dumpprivkey_holds (params : List UniValue) (w : WalletState) :
    Holds (fun _ => True) (fun secret => w.locked = false ∧ ∃ strAddress keyID key,
        params = [.str strAddress] ∧ env.decodeDestination strAddress = .keyID keyID
        ∧ w.mapKeys keyID = some key ∧ secret = env.formats.encodeSecret key)
      (dumpprivkey env params w) :=
  (Holds.throwIf fun _ => trivial).bind fun _ single => (Holds.throwIf fun _ => trivial).bind
    fun _ unlocked => (UniValue.getStr_named _).bind fun strAddress named =>
    (Holds.throwIf fun _ => trivial).bind fun _ _ => by
      split
      · rename_i keyID decoded
        split
        · exact ⟨unlocked, strAddress, keyID, _, eq_singleton_of_param single named, decoded, ‹_›, rfl⟩
        · trivial
      · trivial

/-- `dumpprivkey` answers exactly on an unlocked wallet, for a single address that decodes to a
key id the wallet holds a key under, with the encoding of that key. -/
theorem dumpprivkey_eq_ok {params : List UniValue} {w : WalletState} {secret : List UInt8} :
    dumpprivkey env params w = .ok secret ↔ w.locked = false ∧ ∃ strAddress keyID key,
      params = [.str strAddress] ∧ env.decodeDestination strAddress = .keyID keyID
      ∧ w.mapKeys keyID = some key ∧ secret = env.formats.encodeSecret key := by
  constructor
  · intro dumped
    have holds := @dumpprivkey_holds env params w
    rwa [dumped] at holds
  · rintro ⟨unlocked, strAddress, keyID, key, rfl, decoded, held, rfl⟩
    simp only [dumpprivkey, ensureWalletIsUnlocked, unlocked, param, List.getD_cons_zero,
      UniValue.getStr, pure_bind, List.length_singleton, bne_self_eq_false, decoded, held]
    rfl

/-- A wallet that keeps every key and the lock answers every `dumpprivkey` it answered before,
as before. -/
theorem dumpprivkey_kept {params : List UniValue} {w w' : WalletState} {secret : List UInt8}
    (kept : w.Extends env.toImportEnv w') (dumped : dumpprivkey env params w = .ok secret) :
    dumpprivkey env params w' = .ok secret :=
  have ⟨unlocked, strAddress, keyID, key, given, decoded, held, encoded⟩ := dumpprivkey_eq_ok.mp dumped
  dumpprivkey_eq_ok.mpr ⟨kept.locked.trans unlocked, strAddress, keyID, key, given, decoded,
    kept.keys keyID key held, encoded⟩

/-- On a filed wallet, `dumpprivkey` answers only with a key whose public key has the address's id. -/
theorem dumpprivkey_filed {params : List UniValue} {w : WalletState} {secret : List UInt8}
    (filed : w.Filed env.toImportEnv) (dumped : dumpprivkey env params w = .ok secret) :
    ∃ strAddress key, params = [.str strAddress]
      ∧ env.decodeDestination strAddress = .keyID (env.keyID key)
      ∧ w.mapKeys (env.keyID key) = some key ∧ secret = env.formats.encodeSecret key := by
  obtain ⟨-, strAddress, keyID, key, given, decoded, held, encoded⟩ := dumpprivkey_eq_ok.mp dumped
  have filedAt : env.keyID key = keyID := filed.keys keyID key held
  exact ⟨strAddress, key, given, filedAt ▸ decoded, filedAt ▸ held, encoded⟩

variable (env)

/-- When its checks pass, `importprivkey` was given a string that decodes to the key it imports,
on an unlocked wallet whose flag allows private keys. -/
theorem readImportPrivKey_holds (disablePrivateKeys locked : Bool) (params : List UniValue) :
    Holds (fun _ => True) (fun read => disablePrivateKeys = false ∧ locked = false ∧ ∃ strSecret,
        param params 0 = .str strSecret ∧ env.decodeSecret strSecret = some read.1)
      (readImportPrivKey env disablePrivateKeys locked params) :=
  (Holds.throwIf fun _ => trivial).bind fun _ _ => (Holds.throwIf fun _ => trivial).bind fun _ enabled =>
    (Holds.throwIf fun _ => trivial).bind fun _ unlocked =>
    (UniValue.getStr_named _).bind fun strSecret named => (Holds.any _).bind fun _ _ =>
    (Holds.any _).bind fun _ _ => (Holds.any _).bind fun _ _ => by
      split
      · trivial
      · exact ⟨enabled, unlocked, strSecret, named, ‹_›⟩

theorem runImport_importprivkey (params : List UniValue) (w : WalletState) :
    runImport (importprivkey env params) w
      = match readImportPrivKey env w.disablePrivateKeys w.locked params with
      | .ok (key, strLabel, fRescan) => runImport (importPrivKeyEntry env key strLabel fRescan) w
      | .error e => (.error e, w) := by
  simp only [importprivkey, runImport_bind, runImport_get]
  cases readImportPrivKey env w.disablePrivateKeys w.locked params <;> rfl

/-- The wallet `importprivkey`'s writes leave, whatever it answers: the key's address labelled,
and the key with time 1 unless the wallet held a key under its id. The checks after the add and
the rescan write nothing. -/
theorem importPrivKeyEntry_wallet (key : CKey) (strLabel : String) (fRescan : Bool) (w : WalletState) :
    (runImport (importPrivKeyEntry env key strLabel fRescan) w).2
      = if w.haveKey (env.keyID key) then w.setAddressBook (.keyID (env.keyID key)) strLabel "receive"
        else ((w.setAddressBook (.keyID (env.keyID key)) strLabel "receive").setKeyCreateTime
          (env.keyID key) 1).addKeyPubKey env.toImportEnv key (env.getPubKey key) := by
  unfold importPrivKeyEntry
  rw [runImport_bind, runImport_modify]
  dsimp only
  rw [runImport_bind, runImport_get]
  dsimp only
  split <;> split <;> rename_i labelled held
  · rfl
  · exact absurd labelled held
  · exact absurd held labelled
  · rw [runImport_bind, runImport_modify]
    dsimp only
    rw [runImport_bind, runImport_addKeyPubKey]
    exact ((((Keeps.throwIf _ _).bind fun _ => rescanFromMin_keeps env fRescan :
      Keeps WalletOrder.unchanged _) _)).symm

/-- Whatever it answers after its checks, `importprivkey` leaves a key under the key's id: the one
the wallet held, or the key. -/
theorem importPrivKeyEntry_mapKeys (key : CKey) (strLabel : String) (fRescan : Bool) (w : WalletState) :
    (runImport (importPrivKeyEntry env key strLabel fRescan) w).2.mapKeys (env.keyID key)
      = some ((w.mapKeys (env.keyID key)).getD key) := by
  rw [importPrivKeyEntry_wallet]
  unfold WalletState.haveKey BackupEnv.keyID
  cases held : w.mapKeys (env.getID (env.getPubKey key)) <;>
    simp [held, WalletState.setAddressBook, WalletState.setKeyCreateTime, WalletState.addKey]

variable {env}

/-- The round trip of `importprivkey` and `dumpprivkey`: after `importprivkey` succeeds, the
address of its key dumps as `EncodeSecret` of the key the wallet held under the key's id, or of
the imported key if it held none. -/
theorem dumpprivkey_importprivkey {params : List UniValue} {w : WalletState}
    {strSecret strAddress : String} {key : CKey} (secret : param params 0 = .str strSecret)
    (decoded : env.decodeSecret strSecret = some key)
    (imported : (runImport (importprivkey env params) w).1 = .ok ())
    (addressed : env.decodeDestination strAddress = .keyID (env.keyID key)) :
    dumpprivkey env [.str strAddress] (runImport (importprivkey env params) w).2
      = .ok (env.formats.encodeSecret ((w.mapKeys (env.keyID key)).getD key)) := by
  have holds := readImportPrivKey_holds env w.disablePrivateKeys w.locked params
  rw [runImport_importprivkey] at imported ⊢
  cases read : readImportPrivKey env w.disablePrivateKeys w.locked params with
  | error e => simp only [read] at imported; cases imported
  | ok entry =>
      obtain ⟨key', strLabel, fRescan⟩ := entry
      rw [read] at holds
      obtain ⟨-, unlocked, strSecret', given, decoded'⟩ := holds
      have same : key' = key := by
        rw [secret, UniValue.str.injEq] at given
        rw [← given, decoded] at decoded'
        exact (Option.some.inj decoded').symm
      subst same
      have kept := importPrivKeyEntry_keeps env (WalletOrder.extension_admits _) key' strLabel fRescan w
      exact dumpprivkey_eq_ok.mpr ⟨kept.locked.trans unlocked, strAddress, _, _, rfl, addressed,
        importPrivKeyEntry_mapKeys env key' strLabel fRescan w, rfl⟩

end Keys

/-- The collaborators of a worked import, over those of `sampleBackupEnv`: the secret `k7`
decodes to key 7, and the address `a7` to its id. -/
def sampleRpcEnv : BackupEnv :=
  { sampleBackupEnv with
    decodeSecret := fun secret => if secret = "k7" then some 7 else none
    decodeDestination := fun address => if address = "a7" then .keyID 7 else .noDestination }

theorem importprivkey_dumpprivkey_sample :
    param [.str "k7"] 0 = .str "k7" ∧ sampleRpcEnv.decodeSecret "k7" = some 7
      ∧ (runImport (importprivkey sampleRpcEnv [.str "k7"]) WalletState.empty).1 = .ok ()
      ∧ sampleRpcEnv.decodeDestination "a7" = .keyID (sampleRpcEnv.keyID 7)
      ∧ dumpprivkey sampleRpcEnv [.str "a7"]
          (runImport (importprivkey sampleRpcEnv [.str "k7"]) WalletState.empty).2
        = .ok (sampleRpcEnv.formats.encodeSecret 7) :=
  have imported : (runImport (importprivkey sampleRpcEnv [.str "k7"]) WalletState.empty).1 = .ok () :=
    rfl
  ⟨rfl, rfl, imported, rfl, dumpprivkey_importprivkey rfl rfl imported rfl⟩

end Wallet
