import AgentProxy.Server.Chain
import AgentProxy.Lib.Text

namespace AgentProxy.Server

open Text

/-- `tokenless_schema`, which is not part of the repository. -/
structure Compressors where
  schema : Json → Json
  response : Json → Json

def countTokens : Body → UInt64
  | .utf8 text => UInt64.ofNat ((text.length + 3) / 4)
  | .binary _ => 0

/-- `&s[..n]`: `none` when byte `n` is not on a character boundary, where the source panics. -/
def sliceTo (n : ℕ) (s : List Char) : Option (List Char) :=
  (List.range (s.length + 1)).map (fun i => s.take i) |>.find? fun p => byteLen p = n

def abbreviates (tool : Json) : Bool :=
  let desc := (((tool.get "description").bind Json.asStr).getD "").toList
  byteLen desc ≤ 400 || (sliceTo 400 desc).isSome

def abbreviateToolsForLog (tools : List Json) : Bool := tools.all abbreviates

structure ResponseStats where
  preTokens : UInt64
  postTokens : UInt64
  deriving DecidableEq

section

variable (serde : Serde) (compressors : Compressors)

def compressTools (tools : List Json) : List Json × Bool :=
  (tools.map fun tool => if compressors.schema tool != tool then compressors.schema tool else tool,
    tools.any fun tool => compressors.schema tool != tool)

def compressOnRequest (req : ProxyRequest) (ctx : ConnectionContext) :
    Except Abort (ProxyRequest × ConnectionContext) :=
  match serde.fromSlice req.body with
  | .error e => .error (.error (.badRequest ("invalid JSON: " ++ e)))
  | .ok body =>
    match (body.get "tools").bind Json.asArray with
    | none => .ok (req, ctx)
    | some tools =>
      if abbreviateToolsForLog tools = false then .error .panic
      else if (compressTools compressors tools).2 = false then .ok (req, ctx)
      else if abbreviateToolsForLog (compressTools compressors tools).1 = false then .error .panic
      else
        let req' := req.withJson serde (body.replace "tools" (.arr (compressTools compressors tools).1))
        let stats := { ctx.compressionStats.getD {} with
          proxyReqPre := countTokens req.body, proxyReqPost := countTokens req'.body }
        .ok (req', { ctx with compressionStats := some stats })

def compressOnResponse (res : ProxyResponse) : Option ResponseStats × ProxyResponse :=
  if res.isStreaming then (none, res)
  else
    match serde.fromSlice res.body with
    | .error _ => (none, res)
    | .ok bodyVal =>
      if compressors.response bodyVal != bodyVal then
        let body := Body.utf8 (serde.valueToString (compressors.response bodyVal))
        (some ⟨countTokens res.body, countTokens body⟩, { res with body })
      else (none, res)

end

end AgentProxy.Server
