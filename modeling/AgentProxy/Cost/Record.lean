import AgentProxy.Cost.Usage

namespace AgentProxy.Cost

structure CostRecord where
  id : String
  channelId : String
  upstreamChannel : String
  upstreamModel : String
  requestTimeMs : Int64
  project : String
  userId : String
  agentType : String
  inputTokens : Int64
  outputTokens : Int64
  cacheWriteTokens : Int64
  cacheReadTokens : Int64
  thinkingTokens : Int64
  cost : ℚ
  schemaSavedTokens : Int64
  responseSavedTokens : Int64
  rtkSavedTokens : Int64
  preCompressTokens : Int64
  postCompressTokens : Int64
  compressionTokensSaved : Int64
  unit : String
  timestamp : String
  pricingSnapshotJson : String
  sessionId : Option String
  beforeTokens : Int64
  afterTokens : Int64
  tokensSaved : Int64
  compressionBreakdownJson : String

structure RecordEnv where
  userName : String
  id : String
  now : ℕ
  timestamp : String

def millisSince (started now : ℕ) : Int64 := Int64.ofNat (min ((now - started) / 1000000) (2 ^ 63 - 1))

def compressionSaved (ctx : ConnectionContext) : UInt64 :=
  let stats := ctx.compressionStats.getD {}
  stats.tokenlessSaved + stats.tokenlessExperimental + (ctx.tokenlessSchemaSaved + stats.proxySchemaSaved) +
    (ctx.tokenlessResponseSaved + stats.proxyResponseSaved) + (ctx.tokenlessRtkSaved + stats.rtkSaved)

def record (env : RecordEnv) (ctx : ConnectionContext) (responseBody : Json) : CostRecord :=
  let stats := ctx.compressionStats.getD {}
  let usage := extractUsage responseBody ctx.detectedFormat
  let cost :=
    match ctx.selectedMapping.bind (·.pricing) with
    | some pricing => calcCost usage pricing
    | none => (0, "USD")
  let afterTokens := usage.inputTokens + usage.outputTokens
  let totalSaved := ctx.tokenlessSavedTokens + compressionSaved ctx
  { id := env.id
    channelId := (ctx.selectedMapping.map (·.channelId)).getD ""
    upstreamChannel := (ctx.selectedChannel.map (·.name)).getD ""
    upstreamModel := (ctx.selectedMapping.map (·.upstreamName)).getD ""
    requestTimeMs := millisSince ctx.startedAt env.now
    project := ctx.projectPath.getD ""
    userId := ctx.userName.getD env.userName
    agentType := ctx.agentType.display
    inputTokens := usage.inputTokens.toInt64
    outputTokens := usage.outputTokens.toInt64
    cacheWriteTokens := usage.cacheWriteTokens.toInt64
    cacheReadTokens := usage.cacheReadTokens.toInt64
    thinkingTokens := usage.thinkingTokens.toInt64
    cost := cost.1
    schemaSavedTokens := (ctx.tokenlessSchemaSaved + stats.proxySchemaSaved).toInt64
    responseSavedTokens := (ctx.tokenlessResponseSaved + stats.proxyResponseSaved).toInt64
    rtkSavedTokens := (ctx.tokenlessRtkSaved + stats.rtkSaved).toInt64
    preCompressTokens := (stats.tokenlessPre + stats.proxyReqPre).toInt64
    postCompressTokens := (stats.tokenlessPost + stats.proxyReqPost).toInt64
    compressionTokensSaved := (compressionSaved ctx).toInt64
    unit := cost.2
    timestamp := env.timestamp
    pricingSnapshotJson := (ctx.selectedMapping.map (·.pricingSnapshotJson)).getD ""
    sessionId := ctx.sessionId
    beforeTokens := (afterTokens + totalSaved).toInt64
    afterTokens := afterTokens.toInt64
    tokensSaved := totalSaved.toInt64
    compressionBreakdownJson := ctx.tokenlessBreakdownJson.getD "" }

end AgentProxy.Cost
