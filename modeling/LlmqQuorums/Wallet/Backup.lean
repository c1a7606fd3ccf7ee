import LlmqQuorums.Wallet.Dump
import LlmqQuorums.Wallet.ImportMulti

/-! Wallet backups (`wallet/rpcdump.cpp`). `dumpwallet` writes a file of lines: a commented header,
one line for each private key in order of key birth, one line for each redeem script, and a last
comment. `importwallet` reads a file line by line, collects the keys and scripts, and then adds
those the wallet does not hold, with their times and labels, before it rescans from the earliest
time it added. The files are bytes; `std::getline` cuts them at each newline.
-/

namespace Wallet

/-- The newline byte that ends every line `dumpwallet` writes. -/
def newline : UInt8 := '\n'.toUInt8

/-- `HexStr` of a byte string: two lowercase digits a byte. -/
def hexString (bytes : List UInt8) : List UInt8 := bytes.flatMap hexStr

/-- What `dumpwallet` and `importwallet` call outside src beyond `ProcessImport`'s collaborators:
the formats of a key line, `ParseHex` and `EncodeDestination` on bytes, the bytes of an
address-book name (a `String` here, a `std::string` of its UTF-8 bytes in the source), and the
chain: pruning, the rescan reserver, the tip's time and `RescanFromTime`. The laws are those of
the encoders outside src that a dump relies on.
-/
structure BackupEnv extends ImportEnv where
  formats : DumpFormats CKey
  nameBytes : String → List UInt8
  nameOfBytes : List UInt8 → String
  /-- `ParseHex` of a field of a dump line. -/
  parseHexBytes : List UInt8 → List UInt8
  encodeDestination : CTxDestination → List UInt8
  fPruneMode : Bool
  /-- Whether `WalletRescanReserver::reserve` succeeds, that is, no rescan is running. -/
  reserve : Bool
  /-- `chainActive.Tip()->GetBlockTime()` when the import starts. -/
  tipTime : Int
  /-- `RescanFromTime(startTime)`: the time the rescan got to. -/
  rescanFromTime : Int → Int
  /-- `IsAbortingRescan()` after the rescan. -/
  abortingRescan : Bool
  nameOfBytes_nameBytes : ∀ name, nameOfBytes (nameBytes name) = name
  /-- `IsHex` accepts what `HexStr` writes for a non-empty script. -/
  isHex_hexString : ∀ script : CScript, script ≠ [] → formats.isHex (hexString script) = true
  parseHexBytes_hexString : ∀ script : CScript, parseHexBytes (hexString script) = script
  formatISO8601DateTime_oneLine : ∀ nTime, newline ∉ formats.formatISO8601DateTime nTime
  encodeDestination_oneLine : ∀ dest, newline ∉ encodeDestination dest

-----------------------------------------------------------------------------------------
-- dumpwallet
-----------------------------------------------------------------------------------------

/-- The decrypted HD chain as `dumpwallet` writes it: the mnemonic and its passphrase, the seed,
`EncodeExtKey` of the master key and of its public key, and for each account index below
`CountAccounts()` its external and internal chain counters, `none` when `GetAccount` fails.
-/
structure HDChainView where
  mnemonic : List UInt8
  mnemonicPassphrase : List UInt8
  seed : List UInt8
  extKey : List UInt8
  extPubKey : List UInt8
  accounts : List (Option (Nat × Nat))

/-- What the header of a dump reports: `CLIENT_BUILD`, `GetTime()`, the tip's height, hash
(`ToString()`) and time, and the HD chain if the wallet has one. -/
structure DumpHeader where
  clientBuild : List UInt8
  now : Int
  height : Int
  bestBlockHash : List UInt8
  tipTime : Int
  hdChain : Option HDChainView

/-- The lines of the HD section, without their newlines. -/
def hdChainLines (hd : HDChainView) : List (List UInt8) :=
  [ascii "# mnemonic: " ++ hd.mnemonic, ascii "# mnemonic passphrase: " ++ hd.mnemonicPassphrase, [],
    ascii "# HD seed: " ++ hexString hd.seed, [],
    ascii "# extended private masterkey: " ++ hd.extKey,
    ascii "# extended public masterkey: " ++ hd.extPubKey, []]
  ++ hd.accounts.enum.flatMap fun (i, account) => match account with
    | some (nExternalChainCounter, nInternalChainCounter) =>
        [ascii "# external chain counter: " ++ ascii (toString nExternalChainCounter),
          ascii "# internal chain counter: " ++ ascii (toString nInternalChainCounter), []]
    | none => [ascii "# WARNING: ACCOUNT " ++ ascii (toString i) ++ ascii " IS MISSING!", []]

/-- The header lines of a dump, without their newlines. -/
def headerLines (formats : DumpFormats CKey) (header : DumpHeader) : List (List UInt8) :=
  [ascii "# Wallet dump created by PirateCash Core " ++ header.clientBuild,
    ascii "# * Created on " ++ formats.formatISO8601DateTime header.now,
    ascii "# * Best block at time of backup was " ++ ascii (toString header.height) ++ ascii " ("
      ++ header.bestBlockHash ++ ascii "),",
    ascii "#   mined on " ++ formats.formatISO8601DateTime header.tipTime, []]
  ++ (header.hdChain.map hdChainLines).getD []

/-- What `dumpwallet` reads from the wallet beside `WalletState`: `mapKeyBirth` from
`GetKeyBirthTimes`, keeping its key ids (a map, so each id once), the key pool of
`GetAllReserveKeys`, the HD key paths of `mapHdPubKeys`, the ids of `GetCScripts` (a set, so in
increasing order) and the creation times of `m_script_metadata`.
-/
structure DumpSource where
  mapKeyBirth : List (CKeyID × Int)
  mapKeyBirth_nodup : (mapKeyBirth.map Prod.fst).Nodup
  mapKeyPool : CKeyID → Bool
  mapHdPubKeys : CKeyID → Option (List UInt8)
  /-- `CHDPubKey::GetKeyPath()`, such as `m/44'/5'/0'/0/1`, is one line. -/
  mapHdPubKeys_oneLine : ∀ keyid path, mapHdPubKeys keyid = some path → newline ∉ path
  scripts : List CScriptID
  scripts_sorted : scripts.Sorted (· < ·)
  scriptCreateTime : CScriptID → Option Int

/-- The order of `std::sort` on `std::pair<int64_t, CKeyID>`: by time, then by key id. -/
def birthBefore (a b : Int × CKeyID) : Bool := a.1 < b.1 || (a.1 == b.1 && a.2 ≤ b.2)

/-- `vKeyBirth`: the key births, sorted. -/
def vKeyBirth (src : DumpSource) : List (Int × CKeyID) :=
  (src.mapKeyBirth.map fun (keyid, time) => (time, keyid)).insertionSort
    fun a b => birthBefore a b = true

/-- The key births whose key `GetKey` finds, with the key: the keys `dumpwallet` writes, in
order. -/
def dumpedKeys (src : DumpSource) (w : WalletState) : List (Int × CKeyID × CKey) :=
  (vKeyBirth src).filterMap fun (time, keyid) => (w.mapKeys keyid).map ((time, keyid, ·))

/-- The key lines, one for each dumped key. -/
def dumpKeyLines (env : BackupEnv) (src : DumpSource) (w : WalletState) : List (List UInt8) :=
  (dumpedKeys src w).map fun (time, keyid, key) =>
    dumpKeyLine env.formats key time ((w.mapAddressBook (.keyID keyid)).map (env.nameBytes ·.1))
      (src.mapKeyPool keyid) (env.encodeDestination (.keyID keyid)) (src.mapHdPubKeys keyid)

/-- The line of a redeem script: its hex, its creation time (`0` without metadata), `script=1`
and a comment with its address. -/
def dumpScriptLine (script : CScript) (createTime : List UInt8) (address : List UInt8) :
    List UInt8 :=
  hexString script ++ ascii " " ++ createTime ++ ascii " script=1" ++ ascii " # addr=" ++ address

/-- The script ids whose script `GetCScript` finds, with the script: the scripts `dumpwallet`
writes, in order. -/
def dumpedScripts (src : DumpSource) (w : WalletState) : List (CScriptID × CScript) :=
  src.scripts.filterMap fun scriptid => (w.mapScripts scriptid).map ((scriptid, ·))

/-- The creation time a script line carries: that of its metadata, or `0`. -/
def scriptCreateTimeText (formats : DumpFormats CKey) (src : DumpSource) (scriptid : CScriptID) :
    List UInt8 :=
  ((src.scriptCreateTime scriptid).map formats.formatISO8601DateTime).getD (ascii "0")

/-- The script lines, one for each dumped script. -/
def dumpScriptLines (env : BackupEnv) (src : DumpSource) (w : WalletState) : List (List UInt8) :=
  (dumpedScripts src w).map fun (scriptid, script) =>
    dumpScriptLine script (scriptCreateTimeText env.formats src scriptid)
      (env.encodeDestination (.scriptID scriptid))

/-- The file `dumpwallet` is asked for: its path, and what `fs::exists` and `ofstream::open`
report. -/
structure DumpFile where
  filepath : String
  fileExists : Bool
  opens : Bool

/-- What `dumpwallet` writes and returns: the lines of the file, without their newlines, and the
`keys` count of its result, the size of `vKeyBirth`. -/
structure DumpOutput where
  lines : List (List UInt8)
  keys : Nat

def dumpWallet (env : BackupEnv) (file : DumpFile) (header : DumpHeader) (src : DumpSource)
    (w : WalletState) : Except ImportError DumpOutput := do
  ensureWalletIsUnlocked w.locked
  if file.fileExists then
    throw (.rpc ⟨.invalidParameter, file.filepath
      ++ " already exists. If you are sure this is what you want, move it out of the way first"⟩)
  else if !file.opens then throw (.rpc ⟨.invalidParameter, "Cannot open wallet dump file"⟩)
  else pure ⟨headerLines env.formats header ++ dumpKeyLines env src w ++ [[]]
      ++ dumpScriptLines env src w ++ [[], ascii "# End of dump"], (vKeyBirth src).length⟩

/-- The bytes of a file written line by line, each line ended by a newline. -/
def fileBytes (lines : List (List UInt8)) : List UInt8 := lines.flatMap (· ++ [newline])

-----------------------------------------------------------------------------------------
-- importwallet
-----------------------------------------------------------------------------------------

/-- An entry of `keys`: `std::tuple<CKey, int64_t, bool, std::string>`. -/
structure DumpKey where
  key : CKey
  time : Int
  hasLabel : Bool
  label : List UInt8
  deriving DecidableEq

/-- An entry of `scripts`: the script `ParseHex` reads from the first field, and its birth time. -/
structure DumpScript where
  script : CScript
  birthTime : Int
  deriving DecidableEq

/-- What one parsed line adds in front of the entries collected from the lines after it: a key
to `keys`, a script (`ParseHex` of its first field) to `scripts`; `none` for the undefined
`front()` of an empty field. -/
def DumpLine.collect (env : BackupEnv) :
    DumpLine CKey → List DumpKey × List DumpScript → Option (List DumpKey × List DumpScript)
  | .skipped, entries => some entries
  | .key decoded nTime fLabel strLabel, (keys, scripts) =>
      some (⟨decoded, nTime, fLabel, strLabel⟩ :: keys, scripts)
  | .script hex birthTime, (keys, scripts) =>
      some (keys, ⟨env.parseHexBytes hex, birthTime⟩ :: scripts)
  | .undefined, _ => none

/-- The read loop of `importwallet` over the lines of the file. -/
def collectDumpLines (env : BackupEnv) : List (List UInt8) → Option (List DumpKey × List DumpScript)
  | [] => some ([], [])
  | line :: rest => (collectDumpLines env rest).bind ((parseDumpLine env.formats line).collect env)

/-- The file as `std::getline` hands it over, one piece between newlines at a time. -/
def readDumpFile (env : BackupEnv) (file : List UInt8) : Option (List DumpKey × List DumpScript) :=
  collectDumpLines env (file.splitOn newline)

/-- The id `importwallet` files a key under: that of its public key. -/
def BackupEnv.keyID (env : BackupEnv) (key : CKey) : CKeyID := env.getID (env.getPubKey key)

/-- One turn of the key loop, returning `fGood`, `nTimeBegin` and the wallet: a key the wallet
holds is skipped; another goes through `AddKeyPubKey`, and when the database takes it, gets its
time and, with `has_label`, its address-book entry, and its time joins `nTimeBegin`.
-/
def importDumpKey (env : BackupEnv) (entry : DumpKey) (fGood : Bool) (nTimeBegin : Int)
    (w : WalletState) : Bool × Int × WalletState :=
  let pubkey := env.getPubKey entry.key
  let keyid := env.keyID entry.key
  if w.haveKey keyid then (fGood, nTimeBegin, w)
  else if !env.databaseWrites then (false, nTimeBegin, w.addKeyPubKey env.toImportEnv entry.key pubkey)
  else
    let w := (w.addKeyPubKey env.toImportEnv entry.key pubkey).setKeyCreateTime keyid entry.time
    let w := if entry.hasLabel then
        w.setAddressBook (.keyID keyid) (env.nameOfBytes entry.label) "receive"
      else w
    (fGood, min nTimeBegin entry.time, w)

def importDumpKeys (env : BackupEnv) : List DumpKey → Bool → Int → WalletState → Bool × Int × WalletState
  | [], fGood, nTimeBegin, w => (fGood, nTimeBegin, w)
  | entry :: rest, fGood, nTimeBegin, w =>
      let (fGood, nTimeBegin, w) := importDumpKey env entry fGood nTimeBegin w
      importDumpKeys env rest fGood nTimeBegin w

/-- One turn of the script loop: a script the wallet holds is skipped; another is added, and when
the database takes it, a positive birth time joins `nTimeBegin`. -/
def importDumpScript (env : BackupEnv) (entry : DumpScript) (fGood : Bool) (nTimeBegin : Int)
    (w : WalletState) : Bool × Int × WalletState :=
  let id := env.scriptID entry.script
  if w.haveCScript id then (fGood, nTimeBegin, w)
  else if !env.databaseWrites then (false, nTimeBegin, w.addCScript id entry.script)
  else if entry.birthTime > 0 then (fGood, min nTimeBegin entry.birthTime, w.addCScript id entry.script)
  else (fGood, nTimeBegin, w.addCScript id entry.script)

def importDumpScripts (env : BackupEnv) : List DumpScript → Bool → Int → WalletState → Bool × Int × WalletState
  | [], fGood, nTimeBegin, w => (fGood, nTimeBegin, w)
  | entry :: rest, fGood, nTimeBegin, w =>
      let (fGood, nTimeBegin, w) := importDumpScript env entry fGood nTimeBegin w
      importDumpScripts env rest fGood nTimeBegin w

/-- Both loops, from `fGood` true and `nTimeBegin` the tip's time. -/
def importDumpLoops (env : BackupEnv) (keys : List DumpKey) (scripts : List DumpScript)
    (w : WalletState) : Bool × Int × WalletState :=
  let (fGood, nTimeBegin, w) := importDumpKeys env keys true env.tipTime w
  importDumpScripts env scripts fGood nTimeBegin w

/-- The end of `importwallet`: the rescan from `nTimeBegin`, then the `fGood` check. -/
def rescanChecks (env : BackupEnv) (fGood : Bool) (nTimeBegin : Int) : ImportM Unit := do
  throwIf env.abortingRescan (.rpc ⟨.miscError, "Rescan aborted by user."⟩)
  throwIf (env.rescanFromTime nTimeBegin > nTimeBegin) (.rpc ⟨.walletError,
    "Rescan was unable to fully rescan the blockchain. Some transactions may be missing."⟩)
  throwIf (!fGood) (.rpc ⟨.walletError, "Error adding some keys/scripts to wallet"⟩)

/-- `importwallet` after the file is read: the private-keys check, the two loops and the end. -/
def importDumpEntries (env : BackupEnv) (keys : List DumpKey) (scripts : List DumpScript) :
    ImportM Unit := do
  throwIf (!keys.isEmpty && (← get).disablePrivateKeys)
    (.rpc ⟨.walletError, "Importing wallets is disabled when private keys are disabled"⟩)
  let (fGood, nTimeBegin) ← modifyGet fun w =>
    let (fGood, nTimeBegin, w) := importDumpLoops env keys scripts w
    ((fGood, nTimeBegin), w)
  rescanChecks env fGood nTimeBegin

/-- `importwallet` on a file (`none` when it does not open), as the wallet's run ends; `none`
when reading the file is undefined. -/
def importWallet (env : BackupEnv) (file : Option (List UInt8)) (w : WalletState) :
    Option (Except ImportError Unit × WalletState) :=
  if env.fPruneMode then
    some (.error (.rpc ⟨.walletError, "Importing wallets is disabled in pruned mode"⟩), w)
  else if !env.reserve then
    some (.error (.rpc ⟨.walletError,
      "Wallet is currently rescanning. Abort existing rescan or wait."⟩), w)
  else if w.locked then some (.error unlockNeeded, w)
  else match file with
    | none => some (.error (.rpc ⟨.invalidParameter, "Cannot open wallet dump file"⟩), w)
    | some bytes => (readDumpFile env bytes).map fun (keys, scripts) =>
        runImport (importDumpEntries env keys scripts) w

-----------------------------------------------------------------------------------------
-- Reading a dump back
--
-- The lines of a dump hold no newline, so cutting the file at its newlines gives them back; the
-- header's lines are comments; a key line is read as its key (the round trip of `Dump`), and a
-- script line, whose hex does not decode as a key, as its script.
-----------------------------------------------------------------------------------------

section Lines

/-- A line `importwallet` skips for what it starts with: an empty one, or a comment. -/
def DumpComment (line : List UInt8) : Prop := line = [] ∨ line.head? = some '#'.toUInt8

/-- The texts of a header from outside the wallet's encoders hold no newline: the build name,
the block hash and, the one a user chooses, the mnemonic and its passphrase. -/
structure DumpHeader.OneLine (header : DumpHeader) : Prop where
  clientBuild : newline ∉ header.clientBuild
  bestBlockHash : newline ∉ header.bestBlockHash
  hdChain : ∀ hd ∈ header.hdChain, newline ∉ hd.mnemonic ∧ newline ∉ hd.mnemonicPassphrase
    ∧ newline ∉ hd.extKey ∧ newline ∉ hd.extPubKey

/-- The decimal digits `toDigits` writes. -/
theorem toDigitsCore_isDigit (fuel n : Nat) (ds : List Char) (digits : ∀ c ∈ ds, c.isDigit) :
    ∀ c ∈ Nat.toDigitsCore 10 fuel n ds, c.isDigit := by
  induction fuel generalizing n ds with
  | zero => exact digits
  | succ fuel ih =>
      have digit : (Nat.digitChar (n % 10)).isDigit := by
        have : n % 10 < 10 := Nat.mod_lt n (by decide)
        generalize n % 10 = d at this
        interval_cases d <;> decide
      have extended : ∀ c ∈ Nat.digitChar (n % 10) :: ds, c.isDigit := by
        simpa [digit] using digits
      simp only [Nat.toDigitsCore]
      split
      · exact extended
      · exact ih _ _ extended

theorem digit_ne_newline {c : Char} (digit : c.isDigit) : c.toUInt8 ≠ newline := by
  simp only [Char.isDigit, Bool.and_eq_true, decide_eq_true_eq] at digit
  have low : 48 ≤ c.toNat := digit.1
  have high : c.toNat ≤ 57 := digit.2
  intro same
  have bytes := congrArg UInt8.toNat same
  rw [char_toUInt8] at bytes
  change c.toNat % 256 = 10 at bytes
  omega

/-- `%i` writes a number on one line. -/
theorem newline_not_mem_toString_nat (n : Nat) : newline ∉ ascii (toString n) := fun mem => by
  obtain ⟨c, digit, byte⟩ := List.mem_map.mp mem
  exact digit_ne_newline (toDigitsCore_isDigit (n + 1) n [] nofun c digit) byte

theorem newline_not_mem_toString_int (n : Int) : newline ∉ ascii (toString n) := by
  cases n with
  | ofNat m => exact newline_not_mem_toString_nat m
  | negSucc m =>
      have digits := newline_not_mem_toString_nat (m + 1)
      simp only [ascii, List.mem_map] at digits ⊢
      rintro ⟨c, mem, byte⟩
      change c ∈ '-' :: (toString (m + 1)).toList at mem
      rcases List.mem_cons.mp mem with rfl | later
      · revert byte; decide
      · exact digits ⟨c, later, byte⟩

/-- `HexStr` writes only digits and lowercase letters. -/
theorem hexString_printable (bytes : List UInt8) :
    ∀ b ∈ hexString bytes, 32 < b.toNat ∧ b.toNat < 128 ∧ b ≠ '#'.toUInt8 := by
  have digits : ∀ nibble < 16, hexDigit nibble ≠ '#'.toUInt8 := by decide
  intro b mem
  obtain ⟨c, -, here⟩ := List.mem_flatMap.mp mem
  have bound : c.toNat < 256 := c.toNat_lt_size
  simp only [hexStr, List.mem_cons, List.mem_singleton, List.not_mem_nil, or_false] at here
  rcases here with rfl | rfl
  · exact ⟨(hexDigit_printable _ (by omega)).1, (hexDigit_printable _ (by omega)).2,
      digits _ (by omega)⟩
  · exact ⟨(hexDigit_printable _ (by omega)).1, (hexDigit_printable _ (by omega)).2,
      digits _ (by omega)⟩

theorem newline_not_mem_hexString (bytes : List UInt8) : newline ∉ hexString bytes := fun mem => by
  have := (hexString_printable bytes newline mem).1
  revert this; decide

theorem space_not_mem_hexString (bytes : List UInt8) : ' '.toUInt8 ∉ hexString bytes := fun mem => by
  have := (hexString_printable bytes _ mem).1
  revert this; decide

/-- A comment line: a prefix that starts with `#` and holds no newline, then text with none. -/
theorem commentLine_oneLine {pre rest : List UInt8}
    (comment : newline ∉ pre ∧ pre.head? = some '#'.toUInt8) (plain : newline ∉ rest) :
    newline ∉ pre ++ rest ∧ DumpComment (pre ++ rest) := by
  obtain ⟨noNewline, hash⟩ := comment
  refine ⟨by simp [noNewline, plain], .inr ?_⟩
  cases pre with
  | nil => cases hash
  | cons c pre => exact hash

theorem blankLine_oneLine : newline ∉ ([] : List UInt8) ∧ DumpComment [] :=
  ⟨List.not_mem_nil _, .inl rfl⟩

theorem hdChainLines_oneLine {hd : HDChainView} (texts : newline ∉ hd.mnemonic
    ∧ newline ∉ hd.mnemonicPassphrase ∧ newline ∉ hd.extKey ∧ newline ∉ hd.extPubKey) :
    ∀ line ∈ hdChainLines hd, newline ∉ line ∧ DumpComment line := by
  obtain ⟨mnemonic, passphrase, extKey, extPubKey⟩ := texts
  simp only [hdChainLines, List.mem_append, List.mem_cons, List.mem_singleton, List.not_mem_nil,
    or_false, List.mem_flatMap]
  rintro line ((rfl | rfl | rfl | rfl | rfl | rfl | rfl | rfl) | ⟨⟨i, account⟩, -, mem⟩)
  · exact commentLine_oneLine (by decide) mnemonic
  · exact commentLine_oneLine (by decide) passphrase
  · exact blankLine_oneLine
  · exact commentLine_oneLine (by decide) (newline_not_mem_hexString _)
  · exact blankLine_oneLine
  · exact commentLine_oneLine (by decide) extKey
  · exact commentLine_oneLine (by decide) extPubKey
  · exact blankLine_oneLine
  rcases account with _ | ⟨nExternal, nInternal⟩
  · simp only [List.mem_cons, List.mem_singleton, List.not_mem_nil, or_false] at mem
    rcases mem with rfl | rfl
    · rw [List.append_assoc]
      exact commentLine_oneLine (by decide) (by
        simp only [List.mem_append, not_or]
        exact ⟨newline_not_mem_toString_nat i, by decide⟩)
    · exact blankLine_oneLine
  · simp only [List.mem_cons, List.mem_singleton, List.not_mem_nil, or_false] at mem
    rcases mem with rfl | rfl | rfl
    · exact commentLine_oneLine (by decide) (newline_not_mem_toString_nat nExternal)
    · exact commentLine_oneLine (by decide) (newline_not_mem_toString_nat nInternal)
    · exact blankLine_oneLine

theorem headerLines_oneLine (env : BackupEnv) {header : DumpHeader} (oneLine : header.OneLine) :
    ∀ line ∈ headerLines env.formats header, newline ∉ line ∧ DumpComment line := by
  have times := env.formatISO8601DateTime_oneLine
  simp only [headerLines, List.mem_append, List.mem_cons, List.mem_singleton, List.not_mem_nil,
    or_false]
  rintro line ((rfl | rfl | rfl | rfl | rfl) | hd)
  · exact commentLine_oneLine (by decide) oneLine.clientBuild
  · exact commentLine_oneLine (by decide) (times _)
  · simp only [List.append_assoc]
    exact commentLine_oneLine (by decide) (by
      simp only [List.mem_append, not_or]
      exact ⟨newline_not_mem_toString_int _, by decide, oneLine.bestBlockHash, by decide⟩)
  · exact commentLine_oneLine (by decide) (times _)
  · exact blankLine_oneLine
  cases chain : header.hdChain with
  | none => simp [chain] at hd
  | some hd' =>
      rw [chain] at hd
      exact hdChainLines_oneLine (oneLine.hdChain hd' chain) line hd

theorem newline_not_mem_dumpKeyLine (env : BackupEnv) (src : DumpSource) (key : CKey)
    (nTime : Int) (addressBookName : Option (List UInt8)) (inKeyPool : Bool) (keyid : CKeyID) :
    newline ∉ dumpKeyLine env.formats key nTime addressBookName inKeyPool
      (env.encodeDestination (.keyID keyid)) (src.mapHdPubKeys keyid) := by
  have secret : newline ∉ env.formats.encodeSecret key := fun mem => by
    have := (env.formats.encodeSecret_base58 key).2 _ mem
    revert this; decide
  have tag : newline ∉ keyTag addressBookName inKeyPool := by
    cases addressBookName with
    | some name =>
        intro mem
        rcases List.mem_append.mp mem with literal | encoded
        · revert literal; decide
        · have := encodeDumpString_printable name _ encoded
          revert this; decide
    | none => cases inKeyPool <;> decide
  have path : newline ∉ ((src.mapHdPubKeys keyid).map (ascii " hdkeypath=" ++ ·)).getD [] := by
    cases found : src.mapHdPubKeys keyid with
    | none => simp
    | some path => simpa +decide using src.mapHdPubKeys_oneLine keyid path found
  simp +decide [dumpKeyLine, secret, tag, path, env.formatISO8601DateTime_oneLine,
    env.encodeDestination_oneLine]

theorem newline_not_mem_dumpScriptLine (env : BackupEnv) (src : DumpSource) (script : CScript)
    (scriptid : CScriptID) :
    newline ∉ dumpScriptLine script (scriptCreateTimeText env.formats src scriptid)
      (env.encodeDestination (.scriptID scriptid)) := by
  have time : newline ∉ scriptCreateTimeText env.formats src scriptid := by
    unfold scriptCreateTimeText
    cases src.scriptCreateTime scriptid with
    | none => exact (by decide : newline ∉ ascii "0")
    | some nTime => exact env.formatISO8601DateTime_oneLine nTime
  simp +decide [dumpScriptLine, newline_not_mem_hexString, time, env.encodeDestination_oneLine]

end Lines

section Reading

variable (env : BackupEnv)

theorem splitOn_append_cons {sep : UInt8} {field : List UInt8} (plain : sep ∉ field)
    (rest : List UInt8) : (field ++ sep :: rest).splitOn sep = field :: rest.splitOn sep :=
  List.splitOnP_first _ field (fun _ mem => by simpa using ne_of_mem_of_not_mem mem plain) _
    (by simp) rest

theorem fileBytes_cons (line : List UInt8) (lines : List (List UInt8)) :
    fileBytes (line :: lines) = line ++ newline :: fileBytes lines := by
  simp [fileBytes]

/-- Cutting a file at its newlines gives back its lines and the empty piece after the last
newline, when no line holds a newline; by induction over the lines. -/
theorem fileBytes_splitOn (lines : List (List UInt8)) (oneLine : ∀ line ∈ lines, newline ∉ line) :
    (fileBytes lines).splitOn newline = lines ++ [[]] := by
  induction lines with
  | nil => rfl
  | cons line rest ih =>
      rw [fileBytes_cons, splitOn_append_cons (oneLine line (List.mem_cons_self _ _)),
        ih fun l mem => oneLine l (List.mem_cons_of_mem _ mem)]
      rfl

theorem parseDumpLine_comment (formats : DumpFormats CKey) {line : List UInt8}
    (comment : DumpComment line) : parseDumpLine formats line = .skipped := by
  rcases comment with rfl | front
  · rfl
  · cases line with
    | nil => rfl
    | cons first more =>
        simp only [List.head?_cons, Option.some.injEq] at front
        simp [parseDumpLine, front]

/-- A key line reads back as its key, its time read from the text written for it, and its
label. -/
theorem parseDumpLine_dumpKeyLine (formats : DumpFormats CKey) (key : CKey) (nTime : Int)
    (addressBookName : Option (List UInt8)) (inKeyPool : Bool) (strAddr : List UInt8)
    (hdKeyPath : Option (List UInt8)) :
    parseDumpLine formats (dumpKeyLine formats key nTime addressBookName inKeyPool strAddr hdKeyPath)
      = .key key (formats.parseISO8601DateTime (formats.formatISO8601DateTime nTime))
          addressBookName.isSome (addressBookName.getD []) := by
  obtain ⟨nonempty, base58⟩ := formats.encodeSecret_base58 key
  obtain ⟨first, more, secret⟩ := List.exists_cons_of_ne_nil nonempty
  have front : (dumpKeyLine formats key nTime addressBookName inKeyPool strAddr hdKeyPath).head?
      = some first := by
    simp [dumpKeyLine, secret]
  exact parseDumpLine_key formats front
    (base58Alphabet_plain first (base58 first (by simp [secret]))).2
    (dumpKeyLine_splitOn formats key nTime addressBookName inKeyPool strAddr hdKeyPath)
    (formats.decodeSecret_encodeSecret key) (readLabel_keyTag addressBookName inKeyPool [] _)

/-- A line whose first field is hex and no key is read as a script with the time of its second
field. -/
theorem parseDumpLine_script (formats : DumpFormats CKey) {line secret time : List UInt8}
    {fields : List (List UInt8)} {first : UInt8} (front : line.head? = some first)
    (uncommented : first ≠ '#'.toUInt8) (split : line.splitOn ' '.toUInt8 = secret :: time :: fields)
    (undecoded : formats.decodeSecret secret = none) (hex : formats.isHex secret = true) :
    parseDumpLine formats line = .script secret (formats.parseISO8601DateTime time) := by
  cases line with
  | nil => cases front
  | cons first' more =>
      cases front
      simp only [parseDumpLine, if_neg uncommented, split, undecoded, hex, if_true]

theorem parseDumpLine_dumpScriptLine {script : CScript} (nonempty : script ≠ [])
    (undecoded : env.formats.decodeSecret (hexString script) = none)
    {createTime : List UInt8} (plainTime : ' '.toUInt8 ∉ createTime) (address : List UInt8) :
    parseDumpLine env.formats (dumpScriptLine script createTime address)
      = .script (hexString script) (env.formats.parseISO8601DateTime createTime) := by
  have hexNonempty : hexString script ≠ [] := by
    obtain ⟨c, rest, rfl⟩ := List.exists_cons_of_ne_nil nonempty
    simp [hexString, hexStr]
  obtain ⟨first, more, hex⟩ := List.exists_cons_of_ne_nil hexNonempty
  have space : ∀ rest, ascii " " ++ rest = ' '.toUInt8 :: rest := fun _ => rfl
  have field : ∀ rest, ascii " script=1" ++ rest = ' '.toUInt8 :: (ascii "script=1" ++ rest) :=
    fun _ => rfl
  have front : (dumpScriptLine script createTime address).head? = some first := by
    simp [dumpScriptLine, hex]
  have split : (dumpScriptLine script createTime address).splitOn ' '.toUInt8
      = hexString script :: createTime :: (ascii "script=1" ++ ascii " # addr=" ++ address).splitOn
        ' '.toUInt8 := by
    simp only [dumpScriptLine, List.append_assoc]
    rw [space, field, splitOn_append_cons (space_not_mem_hexString script),
      splitOn_append_cons plainTime]
  exact parseDumpLine_script env.formats front (hexString_printable script first (by simp [hex])).2.2
    split undecoded (env.isHex_hexString script nonempty)

theorem DumpLine.collect_append {parsed : DumpLine CKey} {keys keys' : List DumpKey}
    {scripts scripts' : List DumpScript} (more : List DumpKey × List DumpScript)
    (collected : parsed.collect env (keys, scripts) = some (keys', scripts')) :
    parsed.collect env (keys ++ more.1, scripts ++ more.2) = some (keys' ++ more.1, scripts' ++ more.2) := by
  cases parsed with
  | skipped | key | script => cases collected; rfl
  | undefined => cases collected

/-- The entries of two runs of lines follow each other; by induction over the first. -/
theorem collectDumpLines_append {front back : List (List UInt8)} {keys : List DumpKey}
    {scripts : List DumpScript} (more : List DumpKey × List DumpScript)
    (first : collectDumpLines env front = some (keys, scripts))
    (second : collectDumpLines env back = some more) :
    collectDumpLines env (front ++ back) = some (keys ++ more.1, scripts ++ more.2) := by
  induction front generalizing keys scripts with
  | nil =>
      cases first
      simpa using second
  | cons line rest ih =>
      rw [collectDumpLines] at first
      obtain ⟨⟨keys₀, scripts₀⟩, restCollected, lineCollected⟩ := Option.bind_eq_some.mp first
      rw [List.cons_append, collectDumpLines, ih restCollected, Option.some_bind]
      exact DumpLine.collect_append env more lineCollected

theorem collectDumpLines_skipped (lines : List (List UInt8))
    (skipped : ∀ line ∈ lines, parseDumpLine env.formats line = .skipped) :
    collectDumpLines env lines = some ([], []) := by
  induction lines with
  | nil => rfl
  | cons line rest ih =>
      simp [collectDumpLines, ih fun l mem => skipped l (List.mem_cons_of_mem _ mem),
        skipped line (List.mem_cons_self _ _), DumpLine.collect]

/-- The entry `importwallet` collects from the line of a dumped key. -/
def dumpedKeyEntry (w : WalletState) : Int × CKeyID × CKey → DumpKey
  | (time, keyid, key) =>
      ⟨key, env.formats.parseISO8601DateTime (env.formats.formatISO8601DateTime time),
        (w.mapAddressBook (.keyID keyid)).isSome,
        ((w.mapAddressBook (.keyID keyid)).map (env.nameBytes ·.1)).getD []⟩

/-- The entry `importwallet` collects from the line of a dumped script. -/
def dumpedScriptEntry (src : DumpSource) : CScriptID × CScript → DumpScript
  | (scriptid, script) =>
      ⟨script, env.formats.parseISO8601DateTime (scriptCreateTimeText env.formats src scriptid)⟩

theorem collectDumpLines_dumpKeyLines (src : DumpSource) (w : WalletState) :
    collectDumpLines env (dumpKeyLines env src w)
      = some ((dumpedKeys src w).map (dumpedKeyEntry env w), []) := by
  unfold dumpKeyLines
  induction dumpedKeys src w with
  | nil => rfl
  | cons dumped rest ih =>
      obtain ⟨time, keyid, key⟩ := dumped
      simp [collectDumpLines, ih, parseDumpLine_dumpKeyLine, DumpLine.collect, dumpedKeyEntry]

theorem collectDumpLines_dumpScriptLines (src : DumpSource) (w : WalletState)
    (readable : ∀ dumped ∈ dumpedScripts src w,
      dumped.2 ≠ [] ∧ env.formats.decodeSecret (hexString dumped.2) = none) :
    collectDumpLines env (dumpScriptLines env src w)
      = some ([], (dumpedScripts src w).map (dumpedScriptEntry env src)) := by
  unfold dumpScriptLines
  generalize dumpedScripts src w = dumped at readable ⊢
  induction dumped with
  | nil => rfl
  | cons dumped rest ih =>
      obtain ⟨scriptid, script⟩ := dumped
      obtain ⟨nonempty, undecoded⟩ := readable _ (List.mem_cons_self _ _)
      have plainTime : ' '.toUInt8 ∉ scriptCreateTimeText env.formats src scriptid := by
        unfold scriptCreateTimeText
        cases src.scriptCreateTime scriptid with
        | none => exact (by decide : ' '.toUInt8 ∉ ascii "0")
        | some nTime => exact env.formats.formatISO8601DateTime_plain nTime
      simp [collectDumpLines, ih fun d mem => readable d (List.mem_cons_of_mem _ mem),
        parseDumpLine_dumpScriptLine env nonempty undecoded plainTime, DumpLine.collect,
        dumpedScriptEntry, env.parseHexBytes_hexString]

end Reading

-----------------------------------------------------------------------------------------
-- The import loops
--
-- Each turn of a loop writes only the entries of its own key id or script id. From a wallet that
-- holds none of the ids, and with ids that do not repeat, every entry is written as it was read.
-----------------------------------------------------------------------------------------

/-- `w'` is `w` except for the key, key time and address-book entry of the key ids `keyids`, the
redeem scripts of the script ids `scriptids`, and the watch-only scripts `unwatched`, which may
only leave the set. -/
structure WalletState.SameBut (keyids : CKeyID → Prop) (scriptids : CScriptID → Prop)
    (unwatched : CScript → Prop) (w w' : WalletState) : Prop where
  keys : ∀ i, ¬keyids i → w'.mapKeys i = w.mapKeys i
  keyMetadata : ∀ i, ¬keyids i → w'.mapKeyMetadata i = w.mapKeyMetadata i
  addressBook : ∀ d, (∀ i, d = .keyID i → ¬keyids i) → w'.mapAddressBook d = w.mapAddressBook d
  scripts : ∀ i, ¬scriptids i → w'.mapScripts i = w.mapScripts i
  watchOnly : ∀ s, ¬unwatched s → w'.setWatchOnly s = w.setWatchOnly s
  watchedBefore : ∀ s, w'.setWatchOnly s = true → w.setWatchOnly s = true
  flag : w'.disablePrivateKeys = w.disablePrivateKeys

/-- The wallet files each key under the id of its public key and each redeem script under its
hash, as `CBasicKeyStore` does. -/
structure WalletState.Filed (env : ImportEnv) (w : WalletState) : Prop where
  keys : ∀ keyid key, w.mapKeys keyid = some key → env.getID (env.getPubKey key) = keyid
  scripts : ∀ scriptid script, w.mapScripts scriptid = some script → env.scriptID script = scriptid

namespace WalletState.SameBut

variable {K K' : CKeyID → Prop} {S S' : CScriptID → Prop} {U U' : CScript → Prop} {a b c : WalletState}

theorem refl (w : WalletState) : w.SameBut K S U w :=
  ⟨fun _ _ => rfl, fun _ _ => rfl, fun _ _ => rfl, fun _ _ => rfl, fun _ _ => rfl, fun _ => id, rfl⟩

theorem trans (first : a.SameBut K S U b) (second : b.SameBut K' S' U' c) :
    a.SameBut (fun i => K i ∨ K' i) (fun i => S i ∨ S' i) (fun s => U s ∨ U' s) c :=
  ⟨fun i out => (second.keys i fun h => out (.inr h)).trans (first.keys i fun h => out (.inl h)),
    fun i out => (second.keyMetadata i fun h => out (.inr h)).trans
      (first.keyMetadata i fun h => out (.inl h)),
    fun d out => (second.addressBook d fun i same h => out i same (.inr h)).trans
      (first.addressBook d fun i same h => out i same (.inl h)),
    fun i out => (second.scripts i fun h => out (.inr h)).trans (first.scripts i fun h => out (.inl h)),
    fun s out => (second.watchOnly s fun h => out (.inr h)).trans (first.watchOnly s fun h => out (.inl h)),
    fun s watched => first.watchedBefore s (second.watchedBefore s watched),
    second.flag.trans first.flag⟩

theorem mono (same : a.SameBut K S U b) (keys : ∀ i, K i → K' i) (scripts : ∀ i, S i → S' i)
    (unwatched : ∀ s, U s → U' s) : a.SameBut K' S' U' b :=
  ⟨fun i out => same.keys i (mt (keys i) out), fun i out => same.keyMetadata i (mt (keys i) out),
    fun d out => same.addressBook d fun i here => mt (keys i) (out i here),
    fun i out => same.scripts i (mt (scripts i) out), fun s out => same.watchOnly s (mt (unwatched s) out),
    same.watchedBefore, same.flag⟩

/-- Writes to the same ids compose. -/
theorem comp (first : a.SameBut K S U b) (second : b.SameBut K S U c) : a.SameBut K S U c :=
  (first.trans second).mono (fun _ held => held.elim id id) (fun _ held => held.elim id id)
    (fun _ held => held.elim id id)

end WalletState.SameBut

namespace WalletState

variable (w : WalletState) (keyid : CKeyID) {U : CScript → Prop}

/-- `AddKeyPubKey` writes the key of its public key's id, and takes the key's scripts out of the
watch-only set. -/
theorem sameBut_addKeyPubKey (env : ImportEnv) (key : CKey) (pubkey : CPubKey) :
    w.SameBut (· = env.getID pubkey) (fun _ => False) (· ∈ env.keyScripts pubkey)
      (w.addKeyPubKey env key pubkey) :=
  { SameBut.refl (U := (· ∈ env.keyScripts pubkey)) w with
    keys := fun i out => by simp [addKey, out]
    watchOnly := fun s out => by simp [out]
    watchedBefore := fun s watched => by
      rw [addKeyPubKey_setWatchOnly, Bool.and_eq_true] at watched
      exact watched.1 }

theorem sameBut_setKeyCreateTime (nCreateTime : Int) :
    w.SameBut (· = keyid) (fun _ => False) U (w.setKeyCreateTime keyid nCreateTime) :=
  { SameBut.refl w with keyMetadata := fun i out => by simp [setKeyCreateTime, out] }

theorem sameBut_setAddressBook (name purpose : String) :
    w.SameBut (· = keyid) (fun _ => False) U (w.setAddressBook (.keyID keyid) name purpose) :=
  { SameBut.refl w with
    addressBook := fun d out => by
      have : d ≠ .keyID keyid := fun same => out keyid same rfl
      simp [setAddressBook, this] }

theorem sameBut_addCScript (scriptid : CScriptID) (script : CScript) :
    w.SameBut (fun _ => False) (· = scriptid) U (w.addCScript scriptid script) :=
  { SameBut.refl (K := fun _ => False) (S := (· = scriptid)) w with
    scripts := fun i out => by simp [addCScript, out] }

end WalletState

section Loops

variable (env : BackupEnv)

/-- A key turn writes only its key's entries, and takes out of the watch-only set only its key's
scripts. -/
theorem importDumpKey_sameBut (entry : DumpKey) (fGood : Bool) (nTimeBegin : Int) (w : WalletState) :
    w.SameBut (· = env.keyID entry.key) (fun _ => False) (· ∈ env.keyScripts (env.getPubKey entry.key))
      (importDumpKey env entry fGood nTimeBegin w).2.2 := by
  dsimp only [importDumpKey]
  split
  · exact .refl w
  · split
    · exact w.sameBut_addKeyPubKey _ entry.key _
    · have timed := (w.sameBut_addKeyPubKey env.toImportEnv entry.key (env.getPubKey entry.key)).comp
        (WalletState.sameBut_setKeyCreateTime _ _ entry.time)
      split
      · exact timed.comp (WalletState.sameBut_setAddressBook _ _ _ _)
      · exact timed

/-- The key loop writes only the entries of its keys, and takes out of the watch-only set only
their scripts; by induction over the keys. -/
theorem importDumpKeys_sameBut (entries : List DumpKey) (fGood : Bool) (nTimeBegin : Int)
    (w : WalletState) :
    w.SameBut (· ∈ entries.map (env.keyID ·.key)) (fun _ => False)
      (fun s => ∃ entry ∈ entries, s ∈ env.keyScripts (env.getPubKey entry.key))
      (importDumpKeys env entries fGood nTimeBegin w).2.2 := by
  induction entries generalizing fGood nTimeBegin w with
  | nil => exact .refl w
  | cons entry rest ih =>
      exact ((importDumpKey_sameBut env entry fGood nTimeBegin w).trans (ih _ _ _)).mono
        (fun _ held => held.elim (fun same => same ▸ List.mem_cons_self _ _) (List.mem_cons_of_mem _))
        (fun _ held => held.elim id id)
        (fun _ held => held.elim (fun mine => ⟨entry, List.mem_cons_self _ _, mine⟩)
          fun ⟨other, mem, mine⟩ => ⟨other, List.mem_cons_of_mem _ mem, mine⟩)


/-- A key turn on a key the wallet does not hold, when the database takes it: the key, its time
and, with `has_label`, its name under purpose `receive`; neither of the key's scripts is
watch-only. -/
structure DumpKey.Written (entry : DumpKey) (w w' : WalletState) : Prop where
  key : w'.mapKeys (env.keyID entry.key) = some entry.key
  time : w'.mapKeyMetadata (env.keyID entry.key) = some entry.time
  label : w'.mapAddressBook (.keyID (env.keyID entry.key))
    = if entry.hasLabel then some (env.nameOfBytes entry.label, "receive")
      else w.mapAddressBook (.keyID (env.keyID entry.key))
  unwatched : ∀ s ∈ env.keyScripts (env.getPubKey entry.key), w'.setWatchOnly s = false

theorem DumpKey.Written.sameBut {entry : DumpKey} {w w₁ w₂ : WalletState} {K : CKeyID → Prop}
    {S : CScriptID → Prop} {U : CScript → Prop} (written : entry.Written env w w₁)
    (same : w₁.SameBut K S U w₂) (untouched : ¬K (env.keyID entry.key)) : entry.Written env w w₂ :=
  ⟨(same.keys _ untouched).trans written.key, (same.keyMetadata _ untouched).trans written.time,
    (same.addressBook _ fun _ h => CTxDestination.keyID.inj h ▸ untouched).trans written.label,
    fun s mine => Bool.eq_false_iff.mpr fun watched =>
      absurd (same.watchedBefore s watched) (by simp [written.unwatched s mine])⟩

theorem importDumpKey_fresh (writes : env.databaseWrites = true) {entry : DumpKey} {w : WalletState}
    (fresh : w.haveKey (env.keyID entry.key) = false) (fGood : Bool) (nTimeBegin : Int) :
    (importDumpKey env entry fGood nTimeBegin w).1 = fGood
      ∧ entry.Written env w (importDumpKey env entry fGood nTimeBegin w).2.2 := by
  dsimp only [importDumpKey]
  rw [if_neg (by simp [fresh]), if_neg (by simp [writes])]
  refine ⟨rfl, ?_, ?_, ?_, ?_⟩ <;> cases entry.hasLabel
    <;> simp [BackupEnv.keyID, ImportEnv.keyScripts, WalletState.addKey, WalletState.setKeyCreateTime,
      WalletState.setAddressBook]

/-- From a wallet holding none of the keys, with no key id twice, the key loop writes every
key; by induction over the keys, with the frame of the later turns for the earlier keys. -/
theorem importDumpKeys_fresh (writes : env.databaseWrites = true) (entries : List DumpKey)
    (fGood : Bool) (nTimeBegin : Int) (w : WalletState)
    (distinct : (entries.map (env.keyID ·.key)).Nodup)
    (fresh : ∀ entry ∈ entries, w.haveKey (env.keyID entry.key) = false) :
    (importDumpKeys env entries fGood nTimeBegin w).1 = fGood
      ∧ ∀ entry ∈ entries, entry.Written env w (importDumpKeys env entries fGood nTimeBegin w).2.2 := by
  induction entries generalizing fGood nTimeBegin w with
  | nil => exact ⟨rfl, nofun⟩
  | cons entry rest ih =>
      rw [List.map_cons, List.nodup_cons] at distinct
      obtain ⟨good, written⟩ := importDumpKey_fresh env writes (fresh entry (List.mem_cons_self _ _))
        fGood nTimeBegin
      have step := importDumpKey_sameBut env entry fGood nTimeBegin w
      have apart : ∀ later ∈ rest, env.keyID later.key ≠ env.keyID entry.key := fun later mem same =>
        distinct.1 (same ▸ List.mem_map_of_mem _ mem)
      obtain ⟨laterGood, laterWritten⟩ := ih (importDumpKey env entry fGood nTimeBegin w).1
        (importDumpKey env entry fGood nTimeBegin w).2.1 _ distinct.2 fun later mem => by
          rw [WalletState.haveKey, step.keys _ (apart later mem)]
          exact fresh later (List.mem_cons_of_mem _ mem)
      refine ⟨laterGood.trans good, fun e mem => ?_⟩
      rcases List.mem_cons.mp mem with rfl | later
      · exact written.sameBut env (importDumpKeys_sameBut env rest _ _ _) distinct.1
      · have done := laterWritten e later
        exact ⟨done.key, done.time, done.label.trans (by rw [step.addressBook _ fun _ same h =>
          apart e later ((CTxDestination.keyID.inj same).trans h)]), done.unwatched⟩


/-- A script turn writes only its script. -/
theorem importDumpScript_sameBut (entry : DumpScript) (fGood : Bool) (nTimeBegin : Int)
    (w : WalletState) :
    w.SameBut (fun _ => False) (· = env.scriptID entry.script) (fun _ => False)
      (importDumpScript env entry fGood nTimeBegin w).2.2 := by
  dsimp only [importDumpScript]
  split
  · exact .refl w
  · split
    · exact w.sameBut_addCScript _ entry.script
    · split <;> exact w.sameBut_addCScript _ entry.script

/-- The script loop writes only its scripts; by induction over the scripts. -/
theorem importDumpScripts_sameBut (entries : List DumpScript) (fGood : Bool) (nTimeBegin : Int)
    (w : WalletState) :
    w.SameBut (fun _ => False) (· ∈ entries.map (env.scriptID ·.script)) (fun _ => False)
      (importDumpScripts env entries fGood nTimeBegin w).2.2 := by
  induction entries generalizing fGood nTimeBegin w with
  | nil => exact .refl w
  | cons entry rest ih =>
      exact ((importDumpScript_sameBut env entry fGood nTimeBegin w).trans (ih _ _ _)).mono
        (fun _ held => held.elim id id)
        (fun _ held => held.elim (fun same => same ▸ List.mem_cons_self _ _) (List.mem_cons_of_mem _))
        (fun _ held => held.elim id id)

theorem importDumpScript_fresh (writes : env.databaseWrites = true) {entry : DumpScript}
    {w : WalletState} (fresh : w.haveCScript (env.scriptID entry.script) = false) (fGood : Bool)
    (nTimeBegin : Int) :
    (importDumpScript env entry fGood nTimeBegin w).1 = fGood
      ∧ (importDumpScript env entry fGood nTimeBegin w).2.2.mapScripts (env.scriptID entry.script)
        = some entry.script := by
  dsimp only [importDumpScript]
  rw [if_neg (by simp [fresh]), if_neg (by simp [writes])]
  split <;> simp [WalletState.addCScript]

/-- From a wallet holding none of the scripts, with no script id twice, the script loop writes
every script; by induction over the scripts. -/
theorem importDumpScripts_fresh (writes : env.databaseWrites = true) (entries : List DumpScript)
    (fGood : Bool) (nTimeBegin : Int) (w : WalletState)
    (distinct : (entries.map (env.scriptID ·.script)).Nodup)
    (fresh : ∀ entry ∈ entries, w.haveCScript (env.scriptID entry.script) = false) :
    (importDumpScripts env entries fGood nTimeBegin w).1 = fGood
      ∧ ∀ entry ∈ entries, (importDumpScripts env entries fGood nTimeBegin w).2.2.mapScripts
        (env.scriptID entry.script) = some entry.script := by
  induction entries generalizing fGood nTimeBegin w with
  | nil => exact ⟨rfl, nofun⟩
  | cons entry rest ih =>
      rw [List.map_cons, List.nodup_cons] at distinct
      obtain ⟨good, written⟩ := importDumpScript_fresh env writes
        (fresh entry (List.mem_cons_self _ _)) fGood nTimeBegin
      have step := importDumpScript_sameBut env entry fGood nTimeBegin w
      have apart : ∀ later ∈ rest, env.scriptID later.script ≠ env.scriptID entry.script :=
        fun later mem same => distinct.1 (same ▸ List.mem_map_of_mem _ mem)
      obtain ⟨laterGood, laterWritten⟩ := ih (importDumpScript env entry fGood nTimeBegin w).1
        (importDumpScript env entry fGood nTimeBegin w).2.1 _ distinct.2 fun later mem => by
          rw [WalletState.haveCScript, step.scripts _ (apart later mem)]
          exact fresh later (List.mem_cons_of_mem _ mem)
      refine ⟨laterGood.trans good, fun e mem => ?_⟩
      rcases List.mem_cons.mp mem with rfl | later
      · exact ((importDumpScripts_sameBut env rest _ _ _).scripts _ distinct.1).trans written
      · exact laterWritten e later

end Loops

-----------------------------------------------------------------------------------------
-- The round trip
-----------------------------------------------------------------------------------------

section RoundTrip

variable (env : BackupEnv)

theorem mem_dumpedKeys {src : DumpSource} {w : WalletState} {time : Int} {keyid : CKeyID}
    {key : CKey} :
    (time, keyid, key) ∈ dumpedKeys src w ↔ (keyid, time) ∈ src.mapKeyBirth ∧ w.mapKeys keyid = some key := by
  have sorted : ∀ birth, birth ∈ vKeyBirth src ↔ (birth.2, birth.1) ∈ src.mapKeyBirth := by
    intro birth
    rw [vKeyBirth, (List.perm_insertionSort _ _).mem_iff, List.mem_map]
    exact ⟨fun ⟨_, mem, same⟩ => same ▸ mem, fun mem => ⟨_, mem, rfl⟩⟩
  rw [dumpedKeys, List.mem_filterMap]
  constructor
  · rintro ⟨⟨time', keyid'⟩, mem, found⟩
    simp only [Option.map_eq_some', Prod.mk.injEq] at found
    obtain ⟨_, found, rfl, rfl, rfl⟩ := found
    exact ⟨(sorted _).mp mem, found⟩
  · rintro ⟨mem, found⟩
    exact ⟨(time, keyid), (sorted _).mpr mem, by simp [found]⟩

theorem mem_dumpedScripts {src : DumpSource} {w : WalletState} {scriptid : CScriptID}
    {script : CScript} :
    (scriptid, script) ∈ dumpedScripts src w ↔ scriptid ∈ src.scripts ∧ w.mapScripts scriptid = some script := by
  simp [dumpedScripts]

/-- `mapKeyBirth` is a map, so the dump writes each key id once. -/
theorem dumpedKeys_nodup (src : DumpSource) (w : WalletState) :
    ((dumpedKeys src w).map (·.2.1)).Nodup := by
  have sub : ∀ births : List (Int × CKeyID),
      ((births.filterMap fun (time, keyid) => (w.mapKeys keyid).map ((time, keyid, ·))).map
        (·.2.1)).Sublist (births.map Prod.snd) := by
    intro births
    induction births with
    | nil => exact .slnil
    | cons birth rest ih =>
        obtain ⟨time, keyid⟩ := birth
        cases found : w.mapKeys keyid with
        | none => simpa [found] using ih.cons keyid
        | some key => simpa [found] using ih.cons₂ keyid
  have sorted : ((vKeyBirth src).map Prod.snd).Perm (src.mapKeyBirth.map Prod.fst) := by
    rw [vKeyBirth]
    refine ((List.perm_insertionSort _ _).map Prod.snd).trans ?_
    simp [Function.comp_def]
  exact ((src.mapKeyBirth_nodup.perm sorted.symm).sublist (sub _))

/-- `GetCScripts` is a set, so the dump writes each script id once. -/
theorem dumpedScripts_nodup (src : DumpSource) (w : WalletState) :
    ((dumpedScripts src w).map Prod.fst).Nodup := by
  have sub : ∀ ids : List CScriptID,
      ((ids.filterMap fun scriptid => (w.mapScripts scriptid).map ((scriptid, ·))).map Prod.fst).Sublist ids := by
    intro ids
    induction ids with
    | nil => exact .slnil
    | cons scriptid rest ih =>
        cases found : w.mapScripts scriptid with
        | none => simpa [found] using ih.cons scriptid
        | some script => simpa [found] using ih.cons₂ scriptid
  exact src.scripts_sorted.nodup.sublist (sub _)

/-- `dumpwallet` writes only from an unlocked wallet, and then the header's lines, the keys', a
blank line, the scripts' and the closing lines. -/
theorem dumpWallet_eq_ok {file : DumpFile} {header : DumpHeader} {src : DumpSource}
    {w : WalletState} {out : DumpOutput} (dumped : dumpWallet env file header src w = .ok out) :
    w.locked = false ∧ out = ⟨headerLines env.formats header ++ dumpKeyLines env src w ++ [[]]
      ++ dumpScriptLines env src w ++ [[], ascii "# End of dump"], (vKeyBirth src).length⟩ := by
  cases locked : w.locked
  · simp only [dumpWallet, ensureWalletIsUnlocked, throwIf, locked, Bool.false_eq_true, ↓reduceIte,
      pure_bind] at dumped
    split at dumped
    · cases dumped
    split at dumped
    · cases dumped
    exact ⟨rfl, (Except.ok.inj dumped).symm⟩
  · simp only [dumpWallet, ensureWalletIsUnlocked, throwIf, locked, ↓reduceIte] at dumped
    cases dumped

/-- A dump reads back as the dumped keys, each with the time read from the text written for it
and its label, and as the dumped scripts with theirs: the file cuts back into its lines, the
header and the blank lines are skipped, and each key or script line is read as what it was
written for. -/
theorem readDumpFile_dumpWallet {file : DumpFile} {header : DumpHeader} {src : DumpSource}
    {w : WalletState} {out : DumpOutput} (dumped : dumpWallet env file header src w = .ok out)
    (oneLine : header.OneLine)
    (readable : ∀ dumped ∈ dumpedScripts src w,
      dumped.2 ≠ [] ∧ env.formats.decodeSecret (hexString dumped.2) = none) :
    readDumpFile env (fileBytes out.lines) = some ((dumpedKeys src w).map (dumpedKeyEntry env w),
      (dumpedScripts src w).map (dumpedScriptEntry env src)) := by
  obtain ⟨-, rfl⟩ := dumpWallet_eq_ok env dumped
  have skip : ∀ lines : List (List UInt8), (∀ line ∈ lines, DumpComment line) →
      collectDumpLines env lines = some ([], []) := fun lines comments =>
    collectDumpLines_skipped env lines fun line mem => parseDumpLine_comment env.formats (comments line mem)
  have oneLines : ∀ line ∈ headerLines env.formats header ++ dumpKeyLines env src w ++ [[]]
      ++ dumpScriptLines env src w ++ [[], ascii "# End of dump"], newline ∉ line := by
    simp only [List.mem_append, dumpKeyLines, dumpScriptLines, List.mem_map, List.mem_singleton]
    rintro line ((((header | ⟨⟨time, keyid, key⟩, -, rfl⟩) | rfl) | ⟨⟨scriptid, script⟩, -, rfl⟩) | last)
    · exact (headerLines_oneLine env oneLine line header).1
    · exact newline_not_mem_dumpKeyLine env src key time _ _ keyid
    · exact List.not_mem_nil _
    · exact newline_not_mem_dumpScriptLine env src script scriptid
    · simp only [List.mem_cons, List.mem_singleton, List.not_mem_nil, or_false] at last
      rcases last with rfl | rfl <;> decide
  have tail := collectDumpLines_append env ([], []) (collectDumpLines_dumpScriptLines env src w readable)
    (skip [[], ascii "# End of dump", []] (by simp +decide [DumpComment]))
  have blank := collectDumpLines_append env _ (skip [[]] (by simp [DumpComment])) tail
  have keys := collectDumpLines_append env _ (collectDumpLines_dumpKeyLines env src w) blank
  have all := collectDumpLines_append env _
    (skip _ fun line mem => (headerLines_oneLine env oneLine line mem).2) keys
  rw [readDumpFile, fileBytes_splitOn _ oneLines]
  simpa using all

@[simp] theorem runImport_modifyGet {α : Type} (f : WalletState → α × WalletState) (w : WalletState) :
    runImport (modifyGet f) w = (.ok (f w).1, (f w).2) := rfl

/-- The rescan and the `fGood` check write nothing, and pass when the rescan reaches its start and
every key and script went in. -/
theorem runImport_rescanChecks (fGood : Bool) (nTimeBegin : Int) (w : WalletState) :
    (runImport (rescanChecks env fGood nTimeBegin) w).2 = w
      ∧ (env.abortingRescan = false → env.rescanFromTime nTimeBegin ≤ nTimeBegin → fGood = true →
        (runImport (rescanChecks env fGood nTimeBegin) w).1 = .ok ()) := by
  unfold rescanChecks
  refine ⟨?_, fun aborted reached good => ?_⟩
  · simp only [runImport_bind, runImport_throwIf_wallet]
    cases env.abortingRescan <;> cases decide (env.rescanFromTime nTimeBegin > nTimeBegin)
      <;> cases fGood <;> rfl
  · simp only [aborted, throwIf_false, gt_iff_lt, not_lt.mpr reached, decide_False, good,
      Bool.not_true, bind_pure_comp, map_pure, runImport_pure]

/-- On a wallet with private keys enabled, the import of the collected entries leaves the wallet
of the two loops and ends with the checks after the rescan. -/
theorem runImport_importDumpEntries (keys : List DumpKey) (scripts : List DumpScript)
    {w : WalletState} (enabled : w.disablePrivateKeys = false) :
    runImport (importDumpEntries env keys scripts) w
      = runImport (rescanChecks env (importDumpLoops env keys scripts w).1
          (importDumpLoops env keys scripts w).2.1) (importDumpLoops env keys scripts w).2.2 := by
  simp [importDumpEntries, runImport_bind, enabled]

/-- What importing a dump of `w` into `w₀` leaves in `w'`: every dumped key, with the time read
back from the text written for its birth; its address-book name with purpose `receive` if it had
an entry, and `w₀`'s entry if not; every dumped redeem script; neither the P2PKH nor the P2PK
script of a dumped key watch-only; and `w₀` as it was everywhere else. -/
structure Restored (src : DumpSource) (w w₀ w' : WalletState) : Prop where
  keys : ∀ keyid time key, (keyid, time) ∈ src.mapKeyBirth → w.mapKeys keyid = some key →
    w'.mapKeys keyid = some key ∧ w'.mapKeyMetadata keyid
      = some (env.formats.parseISO8601DateTime (env.formats.formatISO8601DateTime time))
  labels : ∀ keyid time key, (keyid, time) ∈ src.mapKeyBirth → w.mapKeys keyid = some key →
    (∀ name purpose, w.mapAddressBook (.keyID keyid) = some (name, purpose) →
        w'.mapAddressBook (.keyID keyid) = some (name, "receive"))
      ∧ (w.mapAddressBook (.keyID keyid) = none →
        w'.mapAddressBook (.keyID keyid) = w₀.mapAddressBook (.keyID keyid))
  scripts : ∀ scriptid script, scriptid ∈ src.scripts → w.mapScripts scriptid = some script →
    w'.mapScripts scriptid = some script
  unwatched : ∀ keyid time key, (keyid, time) ∈ src.mapKeyBirth → w.mapKeys keyid = some key →
    ∀ script ∈ env.keyScripts (env.getPubKey key), w'.setWatchOnly script = false
  rest : w₀.SameBut (fun keyid => ∃ time, (keyid, time) ∈ src.mapKeyBirth ∧ (w.mapKeys keyid).isSome)
    (fun scriptid => scriptid ∈ src.scripts ∧ (w.mapScripts scriptid).isSome)
    (fun script => ∃ keyid time key, (keyid, time) ∈ src.mapKeyBirth ∧ w.mapKeys keyid = some key
      ∧ script ∈ env.keyScripts (env.getPubKey key)) w'

theorem dumpedKeyEntry_keyID {src : DumpSource} {w : WalletState} (filed : w.Filed env.toImportEnv)
    {dumped : Int × CKeyID × CKey} (mem : dumped ∈ dumpedKeys src w) :
    env.keyID (dumpedKeyEntry env w dumped).key = dumped.2.1 :=
  filed.keys _ _ (mem_dumpedKeys.mp mem).2

theorem dumpedScriptEntry_scriptID {src : DumpSource} {w : WalletState}
    (filed : w.Filed env.toImportEnv) {dumped : CScriptID × CScript} (mem : dumped ∈ dumpedScripts src w) :
    env.scriptID (dumpedScriptEntry env src dumped).script = dumped.1 :=
  filed.scripts _ _ (mem_dumpedScripts.mp mem).2


/-- The two loops on the entries read back from a dump of a filed wallet, into a wallet holding
none of them, with the database taking every record: every entry goes in, so `fGood` stays true,
and the wallet is restored; the key loop by its run lemma, the script loop after it by its own,
each with the other's frame. -/
theorem importDumpLoops_dumped {src : DumpSource} {w w₀ : WalletState}
    (filed : w.Filed env.toImportEnv) (writes : env.databaseWrites = true)
    (freshKeys : ∀ keyid time key, (keyid, time) ∈ src.mapKeyBirth → w.mapKeys keyid = some key →
      w₀.haveKey keyid = false)
    (freshScripts : ∀ scriptid script, scriptid ∈ src.scripts → w.mapScripts scriptid = some script →
      w₀.haveCScript scriptid = false) :
    (importDumpLoops env ((dumpedKeys src w).map (dumpedKeyEntry env w))
        ((dumpedScripts src w).map (dumpedScriptEntry env src)) w₀).1 = true
      ∧ Restored env src w w₀ (importDumpLoops env ((dumpedKeys src w).map (dumpedKeyEntry env w))
        ((dumpedScripts src w).map (dumpedScriptEntry env src)) w₀).2.2 := by
  have keyIds : ((dumpedKeys src w).map (dumpedKeyEntry env w)).map (env.keyID ·.key)
      = (dumpedKeys src w).map (·.2.1) := by
    rw [List.map_map]
    exact List.map_congr_left fun _ mem => dumpedKeyEntry_keyID env filed mem
  have scriptIds : ((dumpedScripts src w).map (dumpedScriptEntry env src)).map (env.scriptID ·.script)
      = (dumpedScripts src w).map Prod.fst := by
    rw [List.map_map]
    exact List.map_congr_left fun _ mem => dumpedScriptEntry_scriptID env filed mem
  obtain ⟨keysGood, keysWritten⟩ := importDumpKeys_fresh env writes _ true env.tipTime w₀
    (keyIds ▸ dumpedKeys_nodup src w) fun entry mem => by
      obtain ⟨dumped, dumpedMem, rfl⟩ := List.mem_map.mp mem
      rw [dumpedKeyEntry_keyID env filed dumpedMem]
      exact freshKeys _ _ _ (mem_dumpedKeys.mp dumpedMem).1 (mem_dumpedKeys.mp dumpedMem).2
  have keysFrame := importDumpKeys_sameBut env ((dumpedKeys src w).map (dumpedKeyEntry env w)) true
    env.tipTime w₀
  obtain ⟨scriptsGood, scriptsWritten⟩ := importDumpScripts_fresh env writes
    ((dumpedScripts src w).map (dumpedScriptEntry env src)) _ _ _ (scriptIds ▸ dumpedScripts_nodup src w)
    fun entry mem => by
      obtain ⟨dumped, dumpedMem, rfl⟩ := List.mem_map.mp mem
      rw [WalletState.haveCScript, keysFrame.scripts _ not_false, dumpedScriptEntry_scriptID env filed dumpedMem]
      exact freshScripts _ _ (mem_dumpedScripts.mp dumpedMem).1 (mem_dumpedScripts.mp dumpedMem).2
  have scriptsFrame := importDumpScripts_sameBut env ((dumpedScripts src w).map (dumpedScriptEntry env src))
    (importDumpKeys env ((dumpedKeys src w).map (dumpedKeyEntry env w)) true env.tipTime w₀).1
    (importDumpKeys env ((dumpedKeys src w).map (dumpedKeyEntry env w)) true env.tipTime w₀).2.1
    (importDumpKeys env ((dumpedKeys src w).map (dumpedKeyEntry env w)) true env.tipTime w₀).2.2
  have entryWritten : ∀ {keyid time key}, (keyid, time) ∈ src.mapKeyBirth → w.mapKeys keyid = some key →
      (dumpedKeyEntry env w (time, keyid, key)).Written env w₀
        (importDumpKeys env ((dumpedKeys src w).map (dumpedKeyEntry env w)) true env.tipTime w₀).2.2
      ∧ env.keyID (dumpedKeyEntry env w (time, keyid, key)).key = keyid := fun birth held =>
    ⟨keysWritten _ (List.mem_map_of_mem _ (mem_dumpedKeys.mpr ⟨birth, held⟩)),
      dumpedKeyEntry_keyID env filed (mem_dumpedKeys.mpr ⟨birth, held⟩)⟩
  refine ⟨scriptsGood.trans keysGood, ⟨fun keyid time key birth held => ?_,
    fun keyid time key birth held => ?_, fun scriptid script listed held => ?_,
    fun keyid time key birth held script mine => ?_, ?_⟩⟩
  · obtain ⟨written, id⟩ := entryWritten birth held
    rw [importDumpLoops, scriptsFrame.keys _ not_false, scriptsFrame.keyMetadata _ not_false,
      ← id, written.key, written.time]
    exact ⟨rfl, rfl⟩
  · obtain ⟨written, id⟩ := entryWritten birth held
    have label := written.label
    rw [id] at label
    rw [importDumpLoops, scriptsFrame.addressBook _ fun _ _ => not_false, label]
    constructor
    · intro name purpose named
      simp [dumpedKeyEntry, named, env.nameOfBytes_nameBytes]
    · intro unnamed
      simp [dumpedKeyEntry, unnamed]
  · have mem := mem_dumpedScripts.mpr ⟨listed, held⟩
    have written := scriptsWritten _ (List.mem_map_of_mem _ mem)
    rwa [dumpedScriptEntry_scriptID env filed mem] at written
  · rw [importDumpLoops, scriptsFrame.watchOnly _ not_false]
    exact (entryWritten birth held).1.unwatched script mine
  · refine (keysFrame.trans scriptsFrame).mono (fun keyid dumped => ?_) (fun scriptid dumped => ?_)
      (fun script dumped => ?_)
    · rcases dumped with inKeys | impossible
      · rw [keyIds, List.mem_map] at inKeys
        obtain ⟨⟨time, keyid', key⟩, mem, rfl⟩ := inKeys
        obtain ⟨birth, held⟩ := mem_dumpedKeys.mp mem
        exact ⟨time, birth, by simp [held]⟩
      · exact impossible.elim
    · rcases dumped with impossible | inScripts
      · exact impossible.elim
      · rw [scriptIds, List.mem_map] at inScripts
        obtain ⟨⟨scriptid', script⟩, mem, rfl⟩ := inScripts
        obtain ⟨listed, held⟩ := mem_dumpedScripts.mp mem
        exact ⟨listed, by simp [held]⟩
    · rcases dumped with ⟨entry, inKeys, mine⟩ | impossible
      · obtain ⟨⟨time, keyid, key⟩, mem, rfl⟩ := List.mem_map.mp inKeys
        obtain ⟨birth, held⟩ := mem_dumpedKeys.mp mem
        exact ⟨keyid, time, key, birth, held, mine⟩
      · exact impossible.elim


end RoundTrip

-----------------------------------------------------------------------------------------
-- A worked restore
--
-- Collaborators that meet every law of a dump: the unary key formats of `Dump`, hex accepted when
-- it is not empty and read back two digits a byte, and names kept as three bytes a character.
-----------------------------------------------------------------------------------------

/-- The value of a lowercase hex digit. -/
def hexNibble (digit : UInt8) : Nat :=
  if digit.toNat < 58 then digit.toNat - 48 else digit.toNat - 87

/-- Hex read back two digits a byte. -/
def parseHexPairs : List UInt8 → List UInt8
  | high :: low :: rest => UInt8.ofNat (hexNibble high * 16 + hexNibble low) :: parseHexPairs rest
  | _ => []

theorem hexNibble_hexDigit {nibble : Nat} (small : nibble < 16) :
    hexNibble (hexDigit nibble) = nibble := by
  have byte : ∀ n, n < 256 → (UInt8.ofNat n).toNat = n := fun _ => UInt8.toNat_ofNat_of_lt
  by_cases digit : nibble < 10
  · have value : (hexDigit nibble).toNat = 48 + nibble := by
      rw [hexDigit, if_pos digit, byte _ (by omega)]
    rw [hexNibble, value, if_pos (by omega)]
    omega
  · have value : (hexDigit nibble).toNat = 87 + nibble := by
      rw [hexDigit, if_neg digit, byte _ (by omega)]
    rw [hexNibble, value, if_neg (by omega)]
    omega

theorem parseHexPairs_hexString (bytes : List UInt8) : parseHexPairs (hexString bytes) = bytes := by
  induction bytes with
  | nil => rfl
  | cons b rest ih =>
      have bound : b.toNat < 256 := b.toNat_lt_size
      have byte : hexNibble (hexDigit (b.toNat / 16)) * 16 + hexNibble (hexDigit (b.toNat % 16))
          = b.toNat := by
        rw [hexNibble_hexDigit (by omega), hexNibble_hexDigit (by omega)]
        omega
      change UInt8.ofNat (hexNibble (hexDigit (b.toNat / 16)) * 16 + hexNibble (hexDigit (b.toNat % 16)))
        :: parseHexPairs (hexString rest) = b :: rest
      rw [byte, ih, UInt8.toNat.inj (UInt8.toNat_ofNat_of_lt b.toNat_lt_size)]

/-- A character as three bytes, high byte first: every code point is below `2^24`. -/
def charBytes (c : Char) : List UInt8 :=
  [UInt8.ofNat (c.toNat / 65536), UInt8.ofNat (c.toNat / 256), UInt8.ofNat c.toNat]

/-- Characters read back three bytes each. -/
def charsOfBytes : List UInt8 → List Char
  | high :: middle :: low :: rest =>
      Char.ofNat (high.toNat * 65536 + middle.toNat * 256 + low.toNat) :: charsOfBytes rest
  | _ => []

theorem charsOfBytes_charBytes (chars : List Char) : charsOfBytes (chars.flatMap charBytes) = chars := by
  induction chars with
  | nil => rfl
  | cons c rest ih =>
      have valid : c.toNat < 0x110000 := by
        have := c.valid
        simp only [UInt32.isValidChar, Nat.isValidChar] at this
        unfold Char.toNat
        omega
      have code : c.toNat / 65536 % 256 * 65536 + c.toNat / 256 % 256 * 256 + c.toNat % 256
          = c.toNat := by
        omega
      change Char.ofNat (c.toNat / 65536 % 256 * 65536 + c.toNat / 256 % 256 * 256 + c.toNat % 256)
        :: charsOfBytes (rest.flatMap charBytes) = c :: rest
      rw [code, Char.ofNat_toNat, ih]

/-- The collaborators of a worked restore, over those of `sampleImportEnv`: the tip was mined at
time 100 and the rescan reaches any time it starts from. -/
def sampleBackupEnv : BackupEnv where
  toImportEnv := sampleImportEnv
  formats := { unaryFormats with isHex := fun hex => !hex.isEmpty }
  nameBytes name := name.toList.flatMap charBytes
  nameOfBytes bytes := ⟨charsOfBytes bytes⟩
  parseHexBytes := parseHexPairs
  encodeDestination _ := ascii "yAddr"
  fPruneMode := false
  reserve := true
  tipTime := 100
  rescanFromTime nTime := nTime
  abortingRescan := false
  nameOfBytes_nameBytes name := by
    change String.mk (charsOfBytes (name.data.flatMap charBytes)) = name
    rw [charsOfBytes_charBytes]
  isHex_hexString script nonempty := by
    cases script with
    | nil => exact absurd rfl nonempty
    | cons b rest => rfl
  parseHexBytes_hexString := parseHexPairs_hexString
  formatISO8601DateTime_oneLine _ := (by decide : newline ∉ ascii "0")
  encodeDestination_oneLine _ := (by decide : newline ∉ ascii "yAddr")

/-- A wallet with key 7, sent to under the name `main`, and the one-byte script `0x00`. -/
def sampleBackupWallet : WalletState :=
  ((WalletState.empty.addKey 7 7).setAddressBook (.keyID 7) "main" "send").addCScript 0 [0]

/-- Key 7 was born at time 50, and script 0 created at time 60. -/
def sampleDumpSource : DumpSource where
  mapKeyBirth := [(7, 50)]
  mapKeyBirth_nodup := by decide
  mapKeyPool _ := false
  mapHdPubKeys _ := none
  mapHdPubKeys_oneLine _ _ := nofun
  scripts := [0]
  scripts_sorted := List.sorted_singleton 0
  scriptCreateTime _ := some 60

def sampleDumpHeader : DumpHeader := ⟨ascii "v0.1", 0, 10, ascii "00ab", 100, none⟩

end Wallet
