import AgentProxy.Router.Resolve

namespace AgentProxy.Router

def protocolToStr : ApiFormat → String
  | .anthropicMessages => "anthropic_messages"
  | .openaiChat => "openai_chat"
  | .openaiResponses => "openai_responses"

def parseProtocol (s : String) : Except ProxyError ApiFormat :=
  if s = "anthropic_messages" then .ok .anthropicMessages
  else if s = "openai_chat" then .ok .openaiChat
  else if s = "openai_responses" then .ok .openaiResponses
  else .error (.internal ("unknown protocol in storage: " ++ s))

theorem protocolToStr_parseProtocol {fp : String} {target : ApiFormat} (h : parseProtocol fp = .ok target) :
    protocolToStr target = fp := by
  unfold parseProtocol at h
  split_ifs at h with h1 h2 h3
  all_goals
    cases h
    symm
    assumption

def offers (protocols : List ProtocolEntry) (p : String) : Bool := protocols.any fun e => e.protocol = p

def fallbackProtocol (protocols : List ProtocolEntry) : Except ProxyError ApiFormat :=
  match protocols.head? with
  | some first =>
    if first.protocol.isEmpty then .error (.internal "channel has no protocols configured")
    else parseProtocol first.protocol
  | none => .error (.internal "channel has no protocols configured")

def resolveTargetProtocol (forceProtocol : Option String) (detectedFormat : Option ApiFormat)
    (protocols : List ProtocolEntry) : Except ProxyError ApiFormat :=
  match forceProtocol with
  | some fp => do
    let target ← parseProtocol fp
    if offers protocols (protocolToStr target) then .ok target
    else .error (.internal ("force_protocol '" ++ fp ++ "' not found in channel protocols"))
  | none =>
    match detectedFormat with
    | some df => if offers protocols (protocolToStr df) then .ok df else fallbackProtocol protocols
    | none => fallbackProtocol protocols

def debugStrings (xs : List String) : String := "[" ++ ", ".intercalate (xs.map String.quote) ++ "]"

def constrainProtocol (channel : ResolvedChannel) (mapping : ResolvedMapping) (target : ApiFormat) :
    Except ProxyError ApiFormat :=
  if mapping.allowedProtocols.isEmpty ∨ protocolToStr target ∈ mapping.allowedProtocols then .ok target
  else
    match channel.protocols.find? fun pe => pe.protocol ∈ mapping.allowedProtocols with
    | some entry => parseProtocol entry.protocol
    | none => .error (.internal ("mapping '" ++ mapping.mappingId ++ "' protocol constraint " ++
        debugStrings mapping.allowedProtocols ++ " incompatible with channel protocols " ++
        debugStrings (channel.protocols.map (·.protocol))))

def targetProtocol (channel : ResolvedChannel) (mapping : ResolvedMapping) (detected : Option ApiFormat) :
    Except ProxyError ApiFormat := do
  let target ← resolveTargetProtocol channel.forceProtocol detected channel.protocols
  constrainProtocol channel mapping target

def resolveUpstreamUrl (protocol : ApiFormat) (protocols : List ProtocolEntry) :
    Except ProxyError (String × Option String) :=
  match protocols.find? fun e => e.protocol = protocolToStr protocol with
  | none => .error (.internal
      ("no protocol entry for '" ++ protocolToStr protocol ++ "' in channel protocols"))
  | some entry =>
    if entry.baseUrl.isEmpty then .error (.internal
      ("protocol entry '" ++ protocolToStr protocol ++ "' has empty base_url"))
    else .ok (entry.baseUrl, entry.rewritePath)

end AgentProxy.Router
