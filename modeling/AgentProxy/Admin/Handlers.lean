import AgentProxy.Router.Middleware
import AgentProxy.Storage.Seed

namespace AgentProxy.Admin

open Storage Router

structure AppError where
  status : ℕ
  code : String
  message : String
  deriving DecidableEq

namespace AppError

def notFound (resource : String) : AppError := ⟨404, "not_found", resource ++ " not found"⟩

def badRequest (message : String) : AppError := ⟨400, "bad_request", message⟩

def fromStorage (e : StorageError) : AppError := ⟨500, "internal_error", e.toString⟩

def missing (resource : String) : StorageError → AppError
  | .notFound _ => notFound resource
  | e => fromStorage e

end AppError

structure AdminState where
  storage : Database
  router : RouterState

namespace AdminState

variable (serde : Serde)

def reloadChannels (s : AdminState) : AdminState :=
  { s with router := { s.router with channels := resolveChannels serde s.storage } }

def writeThenReload (s : AdminState) (result : Except StorageError Database) (onError : StorageError → AppError) :
    Except AppError Unit × AdminState :=
  match result with
  | .ok db => (.ok (), { s with storage := db }.reloadChannels serde)
  | .error e => (.error (onError e), s)

def setKey (s : AdminState) (id : String) (key : Option String) : AdminState :=
  { s with router := { s.router with channelApiKeys := Function.update s.router.channelApiKeys id key } }

def setHealth (s : AdminState) (id : String) (entry : Option ChannelState) : AdminState :=
  { s with router := { s.router with health := Function.update s.router.health id entry } }

def markUnhealthy (s : AdminState) (id : String) (now : ℕ) : AdminState :=
  s.setHealth id (some (((s.router.health id).getD .new).markUnhealthy now))

end AdminState

inductive ProbeResult where
  | healthy
  | invalidKey
  | rateLimited
  | unreachable
  | noModels
  | noProtocols
  | unknown
  deriving DecidableEq

def ProbeResult.isHealthy : ProbeResult → Bool
  | healthy | rateLimited => true
  | _ => false

/-- What a handler takes from outside: the clock of the process, the clock of the database in
seconds, the text of the instant in five minutes and the outcome of the health probe. -/
structure Moment where
  now : ℕ
  unix : ℤ
  cooldown : String
  probe : ProbeResult

structure UpdateMappingBody where
  upstreamName : Option String := none
  clientName : Option String := none
  billing : Option String := none
  pricingJson : Option String := none
  weight : Option ℕ := none
  enabled : Option Bool := none
  protocols : Option String := none

def UpdateMappingBody.apply (body : UpdateMappingBody) (m : ModelMapping) : ModelMapping :=
  { m with
    upstreamName := body.upstreamName.getD m.upstreamName
    clientName := body.clientName.getD m.clientName
    billing := body.billing.getD m.billing
    pricingJson := body.pricingJson.getD m.pricingJson
    weight := body.weight.getD m.weight
    enabled := body.enabled.getD m.enabled
    protocols := body.protocols.getD m.protocols }

section

variable (serde : Serde) (debugList : List String → String)

def validateForceProtocol (s : AdminState) (id : String) (body : ChannelUpdate) : Except AppError Unit :=
  match body.forceProtocol with
  | none => .ok ()
  | some fp =>
    match body.protocols.or ((getChannel s.storage id).map (·.protocols)) with
    | none => .error (.notFound ("channel " ++ id))
    | some protocolsJson =>
      match serde.protocolEntries protocolsJson with
      | .error e => .error (.badRequest ("invalid protocols JSON: " ++ e))
      | .ok entries =>
        if entries.any fun e => e.protocol = fp then .ok ()
        else .error (.badRequest ("force_protocol '" ++ fp ++ "' not found in channel protocols. Supported: " ++
          debugList (entries.map (·.protocol))))

def updateChannel (s : AdminState) (t : Moment) (id : String) (body : ChannelUpdate) :
    Except AppError Unit × AdminState :=
  match validateForceProtocol serde debugList s id body with
  | .error e => (.error e, s)
  | .ok () => s.writeThenReload serde (Storage.updateChannel s.storage id body t.unix) (.missing ("channel " ++ id))

def deleteChannel (s : AdminState) (id : String) : Except AppError Unit × AdminState :=
  s.writeThenReload serde (Storage.deleteChannel s.storage id) (.missing ("channel " ++ id))

def createModelMapping (s : AdminState) (body : ModelMapping) : Except AppError Unit × AdminState :=
  s.writeThenReload serde (upsertMapping s.storage body) .fromStorage

def updateModelMapping (s : AdminState) (id : String) (body : UpdateMappingBody) :
    Except AppError Unit × AdminState :=
  match (listAllMappings s.storage).find? fun m => m.id = id with
  | none => (.error (.notFound ("mapping " ++ id)), s)
  | some existing => s.writeThenReload serde (upsertMapping s.storage (body.apply existing)) .fromStorage

def deleteModelMapping (s : AdminState) (id : String) : Except AppError Unit × AdminState :=
  s.writeThenReload serde (deleteMapping s.storage id) (.missing ("mapping " ++ id))

/-- No reload follows; the override alone carries the new key to the router. -/
def setChannelApiKey (s : AdminState) (t : Moment) (id key : String) : Except AppError Unit × AdminState :=
  match Storage.setChannelApiKey s.storage id key t.unix with
  | .error e => (.error (.fromStorage e), s)
  | .ok db =>
    let s := { s with storage := db }
    if key.isEmpty then
      let s := (s.setKey id none).markUnhealthy id t.now
      (.ok (), { s with storage := (recordChannelFailure s.storage id t.unix t.cooldown).1 })
    else
      let s := s.setKey id (some key)
      match getChannel s.storage id with
      | none => (.error (.notFound ("channel " ++ id)), s)
      | some _ =>
        if t.probe.isHealthy then
          let s := s.setHealth id none
          (.ok (), { s with storage := ((markChannelHealthy s.storage id t.unix).toOption.getD s.storage) })
        else (.ok (), s.markUnhealthy id t.now)

/-- Unlike `setChannelApiKey`, the handler leaves the entry alone when nothing could be probed. -/
def probeChannelHandler (s : AdminState) (t : Moment) (id : String) : Except AppError Unit × AdminState :=
  match getChannel s.storage id with
  | none => (.error (.notFound ("channel " ++ id)), s)
  | some _ =>
    if t.probe.isHealthy then
      let s := s.setHealth id none
      (.ok (), { s with storage := ((markChannelHealthy s.storage id t.unix).toOption.getD s.storage) })
    else if t.probe = .noModels ∨ t.probe = .noProtocols then (.ok (), s)
    else (.ok (), s.markUnhealthy id t.now)

def markChannelHealthy (s : AdminState) (t : Moment) (id : String) : Except AppError Unit × AdminState :=
  match Storage.markChannelHealthy s.storage id t.unix with
  | .error e => (.error (.fromStorage e), s)
  | .ok db => (.ok (), { s with storage := db })

def recordChannelFailure (s : AdminState) (t : Moment) (id : String) : Except AppError Unit × AdminState :=
  match Storage.recordChannelFailure s.storage id t.unix t.cooldown with
  | (db, .error e) => (.error (.fromStorage e), { s with storage := db })
  | (db, .ok ()) => (.ok (), { s with storage := db })

def seedRefreshHandler (s : AdminState) (t : Moment) (entries : List (List SeedRow)) : AdminState :=
  { s with storage := seedRefresh s.storage t.unix entries }

end

end AgentProxy.Admin
