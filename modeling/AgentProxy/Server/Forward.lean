import AgentProxy.Server.Context
import AgentProxy.Router.Resolve

namespace AgentProxy.Server

structure Outgoing where
  method : String
  url : String
  headers : HeaderMap
  body : Body

def droppedRequestHeaders : List String :=
  ["transfer-encoding", "connection", "keep-alive", "accept-encoding", "host", "content-length",
    "authorization", "x-api-key"]

def upstreamPath (channel : ChannelConfig) (req : ProxyRequest) : String :=
  (channel.rewritePath.filter fun p => !p.isEmpty).getD req.path

def outgoing (req : ProxyRequest) (channel : ChannelConfig) : Outgoing where
  method := req.method
  url := Router.trimEndSlashes channel.url ++ upstreamPath channel req
  headers := req.headers.filter (fun h => h.1 ∉ droppedRequestHeaders) ++
    if channel.apiKey.isEmpty then [] else [("authorization", .text ("Bearer " ++ channel.apiKey))]
  body := req.body

inductive TransportError where
  | timeout (e : String)
  | connect (e : String)
  | other (e : String)
  deriving DecidableEq

def TransportError.toProxyError : TransportError → ProxyError
  | timeout e => .upstream ("upstream timeout: " ++ e)
  | connect e => .upstream ("upstream connection failed: " ++ e)
  | other e => .upstream ("upstream request failed: " ++ e)

/-- What becomes of an outgoing request: `send` fails, or the status arrives and then the body or an
error while reading it. -/
inductive UpstreamOutcome where
  | failed (e : TransportError)
  | answered (status : StatusCode) (headers : HeaderMap) (body : Except String Body)

def droppedResponseHeaders : List String :=
  ["transfer-encoding", "connection", "keep-alive", "content-length", "host", "authorization", "x-api-key"]

def forwardHeaders (headers : HeaderMap) : HeaderMap :=
  headers.foldl (fun hs h =>
    if h.1 ∈ droppedResponseHeaders then hs else hs.filter (fun g => g.1 ≠ h.1) ++ [h]) []

def buildAxumResponse (res : ProxyResponse) : ProxyResponse := { res with headers := forwardHeaders res.headers }

end AgentProxy.Server
