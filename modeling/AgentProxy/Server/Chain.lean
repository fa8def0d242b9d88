import AgentProxy.Core.Types

namespace AgentProxy.Server

inductive Abort where
  | error (e : ProxyError)
  | panic
  deriving DecidableEq

/-- A middleware over a shared state `σ`; its `on_response` performs operations `ω` on that state. -/
structure Middleware (σ ω : Type) where
  name : String
  onRequest : σ → ProxyRequest → ConnectionContext → Except Abort (ProxyRequest × ConnectionContext) × σ
  onResponse : σ → ProxyResponse → ConnectionContext → List ω × Except ProxyError ProxyResponse

section

variable {σ ω : Type}

def runOnRequestChain : List (Middleware σ ω) → σ → ProxyRequest → ConnectionContext →
    Except Abort (ProxyRequest × ConnectionContext) × σ
  | [], s, req, ctx => (.ok (req, ctx), s)
  | mw :: rest, s, req, ctx =>
    match mw.onRequest s req ctx with
    | (.ok (req', ctx'), s') => runOnRequestChain rest s' req' ctx'
    | (.error e, s') => (.error e, s')

def runResponses (s : σ) (ctx : ConnectionContext) :
    List (Middleware σ ω) → ProxyResponse → List ω × Except ProxyError ProxyResponse
  | [], res => ([], .ok res)
  | mw :: rest, res =>
    match mw.onResponse s res ctx with
    | (ops, .ok res') => (ops ++ (runResponses s ctx rest res').1, (runResponses s ctx rest res').2)
    | (ops, .error e) => (ops, .error e)

def runOnResponseChain (middlewares : List (Middleware σ ω)) (s : σ) (res : ProxyResponse)
    (ctx : ConnectionContext) : List ω × Except ProxyError ProxyResponse :=
  runResponses s ctx middlewares.reverse res

theorem runOnRequestChain_cons {mw : Middleware σ ω} {rest : List (Middleware σ ω)} {s : σ}
    {req : ProxyRequest} {ctx : ConnectionContext} {out : ProxyRequest × ConnectionContext}
    (h : (runOnRequestChain (mw :: rest) s req ctx).1 = .ok out) :
    ∃ req' ctx' s', mw.onRequest s req ctx = (.ok (req', ctx'), s') ∧
      (runOnRequestChain rest s' req' ctx').1 = .ok out := by
  simp only [runOnRequestChain] at h
  split at h
  · rename_i req' ctx' s' hmw
    exact ⟨req', ctx', s', hmw, h⟩
  · cases h

theorem runOnRequestChain_view {α : Type} {view : σ → α} {middlewares : List (Middleware σ ω)}
    (h : ∀ mw ∈ middlewares, ∀ s req ctx, view (mw.onRequest s req ctx).2 = view s) (s : σ) (req : ProxyRequest)
    (ctx : ConnectionContext) : view (runOnRequestChain middlewares s req ctx).2 = view s := by
  induction middlewares generalizing s req ctx with
  | nil => rfl
  | cons mw rest ih =>
    obtain ⟨hmw, hrest⟩ := List.forall_mem_cons.mp h
    have hview := hmw s req ctx
    simp only [runOnRequestChain]
    split
    · rename_i req' ctx' s' hout
      rw [hout] at hview
      exact (ih hrest s' req' ctx').trans hview
    · rename_i e s' hout
      rw [hout] at hview
      exact hview

theorem runOnRequestChain_append (as bs : List (Middleware σ ω)) (s : σ) (req : ProxyRequest)
    (ctx : ConnectionContext) : runOnRequestChain (as ++ bs) s req ctx =
      match runOnRequestChain as s req ctx with
      | (.ok (req', ctx'), s') => runOnRequestChain bs s' req' ctx'
      | (.error e, s') => (.error e, s') := by
  induction as generalizing s req ctx with
  | nil => rfl
  | cons mw as ih =>
    simp only [List.cons_append, runOnRequestChain]
    split
    · exact ih _ _ _
    · rfl

theorem runResponses_append (s : σ) (ctx : ConnectionContext) (as bs : List (Middleware σ ω)) (res : ProxyResponse) :
    runResponses s ctx (as ++ bs) res =
      match runResponses s ctx as res with
      | (ops, .ok res') => (ops ++ (runResponses s ctx bs res').1, (runResponses s ctx bs res').2)
      | (ops, .error e) => (ops, .error e) := by
  induction as generalizing res with
  | nil => rfl
  | cons mw as ih =>
    simp only [List.cons_append, runResponses]
    split
    · rename_i ops res' _
      rw [ih res']
      rcases runResponses s ctx as res' with ⟨later, e | last⟩
      · rfl
      · simp only [List.append_assoc]
    · rfl

/-- A middleware that is registered later sees the response first. -/
theorem runOnResponseChain_append (outer inner : List (Middleware σ ω)) (s : σ) (res : ProxyResponse)
    (ctx : ConnectionContext) : runOnResponseChain (outer ++ inner) s res ctx =
      match runOnResponseChain inner s res ctx with
      | (ops, .ok res') => (ops ++ (runOnResponseChain outer s res' ctx).1, (runOnResponseChain outer s res' ctx).2)
      | (ops, .error e) => (ops, .error e) := by
  rw [runOnResponseChain, List.reverse_append, runResponses_append]
  rfl

theorem runOnResponseChain_cons (mw : Middleware σ ω) (inner : List (Middleware σ ω)) (s : σ) (res : ProxyResponse)
    (ctx : ConnectionContext) : runOnResponseChain (mw :: inner) s res ctx =
      match runOnResponseChain inner s res ctx with
      | (ops, .ok res') => (ops ++ (mw.onResponse s res' ctx).1, (mw.onResponse s res' ctx).2)
      | (ops, .error e) => (ops, .error e) := by
  have hsingle : ∀ res', runOnResponseChain [mw] s res' ctx = mw.onResponse s res' ctx := by
    intro res'
    simp only [runOnResponseChain, List.reverse_singleton, runResponses, List.append_nil]
    rcases mw.onResponse s res' ctx with ⟨ops, e | last⟩
    · rfl
    · rfl
  rw [← List.singleton_append, runOnResponseChain_append]
  simp only [hsingle]

end

section

variable (serde : Serde)

def aliasOnRequest (aliasMap : String → Option String) (req : ProxyRequest) : Except ProxyError ProxyRequest :=
  match serde.fromSlice req.body with
  | .error e => .error (.badRequest ("invalid JSON body: " ++ e))
  | .ok json =>
    match (json.get "model").bind Json.asStr with
    | none => .ok req
    | some model =>
      if model.isEmpty then .ok req
      else
        match aliasMap model with
        | none => .ok req
        | some target => .ok (req.withJson serde (json.replace "model" (.str target)))

def modelAlias {σ ω : Type} (aliasMap : String → Option String) : Middleware σ ω where
  name := "model-alias"
  onRequest s req ctx := ((aliasOnRequest serde aliasMap req).mapError Abort.error |>.map (·, ctx), s)
  onResponse _ res _ := ([], .ok res)

end

end AgentProxy.Server
