import AgentProxy.Lib.Text
import AgentProxy.Storage.Seed
import Mathlib.Data.UInt

namespace AgentProxy.Storage.SeedOps

structure SeedManifestEntry where
  file : String
  sha256 : String

abbrev NamedEntry := String × SeedManifestEntry

/-- The entries in the order in which the `HashMap` yields them. -/
structure SeedManifest where
  version : UInt32
  entries : Table (Prod.fst : NamedEntry → String)

structure SeedEntryStatus where
  name : String
  localSha256 : Option String
  remoteSha256 : Option String
  changed : Bool
  deriving DecidableEq

structure SeedStatus where
  localVersion : UInt32
  remoteVersion : Option UInt32
  updateAvailable : Bool
  source : String
  entries : List SeedEntryStatus
  lastRefreshAt : Option String
  lastError : Option String
  deriving DecidableEq

inductive FetchError where
  | client (e : String)
  | send (e : String)
  | status (code : String)
  | body (e : String)

def FetchError.toStorage (url : String) : FetchError → StorageError
  | client e => .backend ("failed to create HTTP client: " ++ e)
  | send e => .backend ("failed to fetch " ++ url ++ ": " ++ e)
  | status code => .backend ("fetch " ++ url ++ " returned " ++ code)
  | body e => .backend ("failed to read response body from " ++ url ++ ": " ++ e)

/-- What a call takes from outside: the answer to the request for each entry, the digest, the JSON
decoders and the clock at the time each entry is applied. -/
structure Outside where
  fetch : String → Except FetchError String
  sha256 : String → String
  providers : String → Except String (List Provider)
  models : String → Except String (List Model)
  channels : String → Except String (List SeedChannel)
  mappings : String → Except String (List ModelMapping)
  clock : String → ℤ
  finishedAt : String

structure SeedStore where
  db : Database
  metadata : String → Option String

namespace SeedStore

def setMetadata (s : SeedStore) (key value : String) : SeedStore :=
  { s with metadata := Function.update s.metadata key (some value) }

def localVersion (s : SeedStore) : UInt32 :=
  match (s.metadata "version").bind fun v => Text.unsigned? v.toList with
  | some n => if n < 2 ^ 32 then UInt32.ofNat n else 0
  | none => 0

end SeedStore

def hashKey (name : String) : String := name ++ ":sha256"

def entryStatus (s : SeedStore) (remote : Option SeedManifest) (name : String) : SeedEntryStatus :=
  let localSha256 := s.metadata (hashKey name)
  let remoteSha256 := remote.bind fun m => (m.entries.find? name).map (·.2.sha256)
  { name, localSha256, remoteSha256
    changed := match localSha256, remoteSha256 with
      | some l, some r => decide (l ≠ r)
      | none, some _ => true
      | _, none => false }

def buildStatus (s : SeedStore) (remote : Option SeedManifest) : SeedStatus where
  localVersion := s.localVersion
  remoteVersion := remote.map (·.version)
  updateAvailable := (remote.map (·.version)).any fun v => decide (s.localVersion < v)
  source := (s.metadata "source").getD "unknown"
  entries := ["providers", "models", "channels", "model_mappings"].map (entryStatus s remote)
  lastRefreshAt := s.metadata "last_refresh_at"
  lastError := (s.metadata "last_error").filter fun e => !e.isEmpty

def rowsOf {α : Type} (label : String) (row : α → SeedRow) :
    Except String (List α) → Except StorageError (List SeedRow)
  | .ok xs => .ok (xs.map row)
  | .error e => .error (.backend (label ++ e))

section

variable (o : Outside)

def decode (name json : String) : Except StorageError (List SeedRow) :=
  if name = "providers" then rowsOf "invalid providers: " .provider (o.providers json)
  else if name = "models" then rowsOf "invalid models: " .model (o.models json)
  else if name = "channels" then rowsOf "invalid channels: " .channel (o.channels json)
  else if name = "modelMappings" ∨ name = "model_mappings" then
    rowsOf "invalid model_mappings: " .mapping (o.mappings json)
  else .error (.backend ("unknown seed entry type: " ++ name))

def upsertNamed (db : Database) (name json : String) : Database × Except StorageError Unit :=
  match decode o name json with
  | .ok rows => upsertEntry db (o.clock name) rows
  | .error e => (db, .error e)

def fetchEntry (base : String) (e : NamedEntry) : Except StorageError String :=
  match o.fetch e.1 with
  | .error err => .error (err.toStorage (base ++ "/" ++ e.2.file))
  | .ok body =>
    if o.sha256 body = e.2.sha256 then .ok body
    else .error (.backend ("SHA-256 mismatch for " ++ e.1 ++ ": expected " ++ e.2.sha256 ++ ", got " ++
      o.sha256 body))

def fetchAndApplyEntry (base : String) (s : SeedStore) (e : NamedEntry) : SeedStore × Except StorageError Unit :=
  match fetchEntry o base e with
  | .error err => (s, .error err)
  | .ok body =>
    match upsertNamed o s.db e.1 body with
    | (db, .error err) => ({ s with db }, .error err)
    | (db, .ok ()) => (({ s with db } : SeedStore).setMetadata (hashKey e.1) e.2.sha256, .ok ())

def message (name : String) (err : StorageError) : String := name ++ ": " ++ err.toString

def refreshEntry (base : String) (s : SeedStore) (e : NamedEntry) : SeedStore × Option String :=
  if s.metadata (hashKey e.1) = some e.2.sha256 then (s, none)
  else
    match fetchAndApplyEntry o base s e with
    | (s', .ok ()) => (s', none)
    | (s', .error err) => (s', some (message e.1 err))

def refreshEntries (base : String) (s : SeedStore) : List NamedEntry → SeedStore × List String
  | [] => (s, [])
  | e :: es =>
    let first := refreshEntry o base s e
    let rest := refreshEntries base first.1 es
    (rest.1, first.2.toList ++ rest.2)

def finishRefresh (base : String) (version : UInt32) (s : SeedStore) (errors : List String) : SeedStore :=
  if errors.isEmpty then
    ((((s.setMetadata "version" (toString version.toNat)).setMetadata "last_refresh_at" o.finishedAt).setMetadata
      "last_error" "").setMetadata "source" "remote").setMetadata "remote_url" base
  else s.setMetadata "last_error" ("; ".intercalate errors)

/-- `base` is the resolved URL. A manifest that cannot be fetched ends the call before any statement. -/
def seedRefresh (base : String) (s : SeedStore) (fetched : Except StorageError SeedManifest) :
    SeedStore × Except StorageError SeedStatus :=
  match fetched with
  | .error e => (s, .error e)
  | .ok manifest =>
    if manifest.version ≤ s.localVersion then (s, .ok (buildStatus s (some manifest)))
    else
      let applied := refreshEntries o base s manifest.entries.rows
      let s := finishRefresh o base manifest.version applied.1 applied.2
      (s, .ok (buildStatus s (some manifest)))

structure Embedded where
  providers : String
  models : String
  channels : String
  mappings : String
  version : Except String UInt32

def applyEach (db : Database) : List (String × String) → Database × Except StorageError Unit
  | [] => (db, .ok ())
  | (name, json) :: rest =>
    match upsertNamed o db name json with
    | (db, .ok ()) => applyEach db rest
    | (db, .error e) => (db, .error e)

def applyAllEntries (s : SeedStore) (b : Embedded) (source : String) : SeedStore × Except StorageError Unit :=
  let bodies := [("providers", b.providers), ("models", b.models), ("channels", b.channels),
    ("model_mappings", b.mappings)]
  match applyEach o s.db bodies with
  | (db, .error e) => ({ s with db }, .error e)
  | (db, .ok ()) =>
    let hashed := bodies.foldl (fun s p => s.setMetadata (hashKey p.1) (o.sha256 p.2)) { s with db }
    (hashed.setMetadata "source" source, .ok ())

def seedInit (b : Embedded) (s : SeedStore) : SeedStore × Except StorageError SeedStatus :=
  if 0 < s.localVersion then (s, .ok (buildStatus s none))
  else
    match applyAllEntries o s b "embedded" with
    | (s, .error e) => (s, .error e)
    | (s, .ok ()) =>
      match b.version with
      | .error e => (s, .error (.backend ("failed to parse embedded manifest: " ++ e)))
      | .ok version =>
        let s := s.setMetadata "version" (toString version.toNat)
        (s, .ok (buildStatus s none))

end

namespace Sample

def providersText : String := "[\x7b\"id\":\"deepseek\",\"name\":\"DeepSeek\"\x7d]"

def modelsText : String :=
  "[\x7b\"id\":\"sonnet\",\"provider_id\":\"deepseek\",\"client_name\":\"sonnet\",\"price_input\":1.0\x7d]"

def mappingsText : String :=
  "[\x7b\"id\":\"m1\",\"channel_id\":\"deepseek\",\"client_name\":\"sonnet\",\"upstream_name\":\"deepseek-chat\"\x7d]"

def providersHash : String := "3debf983391ce2ceab852ee938ec2cdb2264989a258493c4b1224308a6b0b48d"

def modelsHash : String := "5b09db3e9d641a31d9b94909fdafebbf619bebb5235d290d53d7ff63560a1e53"

def mappingsHash : String := "cf3bb8c1fa6cb98f7e1af26ab4cb258a269b942f3ab04be4eb579e9beaa9c18a"

def provider : Provider := ⟨"deepseek", "DeepSeek", 0⟩

def model (priceInput : ℚ) : Model := ⟨"sonnet", "deepseek", "sonnet", priceInput, 0, "USD", 0, 0⟩

def mapping (enabled : Bool) : ModelMapping where
  id := "m1"
  channelId := "deepseek"
  clientName := "sonnet"
  upstreamName := "deepseek-chat"
  billing := "metered"
  pricingJson := ""
  weight := 100
  enabled := enabled
  protocols := "[]"

def channel (apiKey : String) : Channel where
  id := "deepseek"
  name := "DeepSeek"
  apiKey := apiKey
  protocol := "openai_chat"
  protocols := "[]"
  isBuiltin := true
  enabled := true
  createdAt := 0
  updatedAt := 0
  healthStatus := "Healthy"
  cooldownUntil := none
  consecutiveFailures := 0
  billingType := "metered"
  monthlyQuota := none
  quotaPolicy := "fallback"
  priority := 0
  forceProtocol := none

def outside : Outside where
  fetch := fun name =>
    if name = "providers" then .ok providersText
    else if name = "models" then .ok modelsText
    else if name = "model_mappings" then .ok mappingsText
    else .error (.status "404 Not Found")
  sha256 := fun body =>
    if body = providersText then providersHash
    else if body = modelsText then modelsHash
    else if body = mappingsText then mappingsHash
    else ""
  providers := fun body => if body = providersText then .ok [provider] else .error "expected value at line 1 column 1"
  models := fun body => if body = modelsText then .ok [model 1] else .error "expected value at line 1 column 1"
  channels := fun _ => .error "expected value at line 1 column 1"
  mappings := fun body =>
    if body = mappingsText then .ok [mapping true] else .error "expected value at line 1 column 1"
  clock := fun _ => 0
  finishedAt := "1970-01-01T00:00:00+00:00"

def base : String := "https://seed.example"

def providersEntry : NamedEntry := ("providers", ⟨"providers.json", providersHash⟩)

def modelsEntry : NamedEntry := ("models", ⟨"models.json", modelsHash⟩)

def mappingsEntry : NamedEntry := ("model_mappings", ⟨"model_mappings.json", mappingsHash⟩)

def metadata (key : String) : Option String :=
  if key = "version" then some "1" else if key = "source" then some "embedded" else none

end Sample

end AgentProxy.Storage.SeedOps
