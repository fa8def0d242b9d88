import AgentProxy.Server.Bookkeeping
import AgentProxy.Server.ErrorResponse

namespace AgentProxy.Server.Transport

inductive Kind where
  | timeout
  | connect
  | other
  | bodyRead
  deriving DecidableEq

/-- The `Display` text of a `reqwest::Error`, which is not part of the repository: a text for the kind of failure
around the URL of the request as `reqwest` has parsed it. -/
structure ErrorText where
  before : Kind → String
  after : Kind → String
  url : String → String

def ErrorText.display (text : ErrorText) (kind : Kind) (url : String) : String :=
  text.before kind ++ text.url url ++ text.after kind

def requestUrl (f : Forwarded) : String := (outgoing f.req f.channel).url

def FailsWith (text : ErrorText) (kind : Kind) (f : Forwarded) : Prop :=
  match kind with
  | .timeout => f.outcome = .failed (.timeout (text.display kind (requestUrl f)))
  | .connect => f.outcome = .failed (.connect (text.display kind (requestUrl f)))
  | .other => f.outcome = .failed (.other (text.display kind (requestUrl f)))
  | .bodyRead => ∃ status headers, f.outcome = .answered status headers (.error (text.display kind (requestUrl f)))

def lead (streaming : Bool) : Kind → String
  | .timeout => "upstream timeout: "
  | .connect => "upstream connection failed: "
  | .other => "upstream request failed: "
  | .bodyRead => if streaming then "failed to read streaming response: " else "failed to read upstream response: "

/-- The two runs ask the same URL, and fail to read the body in the same mode, or both texts contain `429`. -/
def Alike (text : ErrorText) (kind : Kind) (url url' : String) (streaming streaming' : Bool) : Prop :=
  (text.url url = text.url url' ∧ (kind = .bodyRead → streaming = streaming')) ∨
    contains (text.display kind url) "429" = true ∧ contains (text.display kind url') "429" = true

section

variable {text : ErrorText} {kind : Kind}

theorem handleOutcome_fails {σ ω : Type} (serde : Serde) (middlewares : List (Middleware σ ω)) (s : σ)
    (ctx : ConnectionContext) {f : Forwarded} (h : FailsWith text kind f) :
    (handleOutcome serde middlewares s ctx f.req f.outcome).reply =
      .failed (.upstream (lead (f.req.isStreaming serde) kind ++ text.display kind (requestUrl f))) := by
  cases kind with
  | timeout | connect | other =>
    rw [show f.outcome = _ from h]
    rfl
  | bodyRead =>
    obtain ⟨status, headers, ho⟩ := h
    rw [ho]
    simp only [handleOutcome, lead]
    split <;> rfl

theorem contains_append {initial shown : String} (h : '4' ∉ initial.toList) :
    contains (initial ++ shown) "429" = contains shown "429" := by
  have hlist : ∀ l : List Char, '4' ∉ l → ("429".toList <:+: l ++ shown.toList ↔ "429".toList <:+: shown.toList) := by
    intro l hl
    induction l with
    | nil => rfl
    | cons c l ih =>
      obtain ⟨hc, hl⟩ := not_or.mp (mt List.mem_cons.mpr hl)
      rw [List.cons_append, List.infix_cons_iff, ih hl]
      simp [List.cons_prefix_cons, hc]
  simp only [contains, String.toList_append, hlist _ h]

theorem lead_digits (streaming : Bool) (kind : Kind) : '4' ∉ (lead streaming kind).toList := by
  cases streaming <;> cases kind <;> decide

theorem display_inj {url url' : String} : text.display kind url = text.display kind url' ↔ text.url url = text.url url' := by
  simp [ErrorText.display]

theorem read_errors_differ (shown shown' : String) :
    lead true .bodyRead ++ shown ≠ lead false .bodyRead ++ shown' := by
  intro h
  have hlist := congrArg (fun s => s.toList.take 16) h
  simp [lead] at hlist

theorem lead_append_inj {streaming streaming' : Bool} {shown shown' : String} :
    lead streaming kind ++ shown = lead streaming' kind ++ shown' ↔
      shown = shown' ∧ (kind = .bodyRead → streaming = streaming') := by
  cases kind with
  | timeout | connect | other => simp [lead]
  | bodyRead =>
    cases streaming with
    | false =>
      cases streaming' with
      | false => simp [lead]
      | true => simp [(read_errors_differ shown' shown).symm]
    | true =>
      cases streaming' with
      | false => simp [read_errors_differ shown shown']
      | true => simp [lead]

end

theorem transport_failure_answers_alike (text : ErrorText) (fixed : ℕ → ℕ → String) (kind : Kind)
    (inst inst' : Installation) (around around' : Surroundings) (upstream upstream' : Outgoing → UpstreamOutcome)
    (maxBodySize maxBodySize' : ℕ) (s s' : ProxyState) (inc : Incoming) (requestId : UInt64) (startedAt : ℕ)
    (f f' : Forwarded)
    (hf : (handleProxyRequest inst.serde inst.middlewares around upstream maxBodySize s inc).forwarded = some f)
    (hf' : (handleProxyRequest inst'.serde inst'.middlewares around' upstream' maxBodySize' s'
      { inc with requestId, startedAt }).forwarded = some f')
    (hfail : FailsWith text kind f) (hfail' : FailsWith text kind f') :
    ∃ e e', (handleProxyRequest inst.serde inst.middlewares around upstream maxBodySize s inc).phase.reply =
        .failed e ∧
      (handleProxyRequest inst'.serde inst'.middlewares around' upstream' maxBodySize' s'
        { inc with requestId, startedAt }).phase.reply = .failed e' ∧
      (e.toResponse fixed = e'.toResponse fixed ↔ Alike text kind (requestUrl f) (requestUrl f')
        (f.req.isStreaming inst.serde) (f'.req.isStreaming inst'.serde)) := by
  obtain ⟨-, t, -, -, -, -, hphase⟩ := handle_forwarded inst.serde inst.middlewares around upstream hf
  obtain ⟨-, t', -, -, -, -, hphase'⟩ := handle_forwarded inst'.serde inst'.middlewares around' upstream' hf'
  have hreply := handleOutcome_fails inst.serde inst.middlewares t f.ctx hfail
  have hreply' := handleOutcome_fails inst'.serde inst'.middlewares t' f'.ctx hfail'
  rw [← hphase] at hreply
  rw [← hphase'] at hreply'
  refine ⟨_, _, hreply, hreply', ?_⟩
  rw [ProxyError.toResponse_upstream_eq, lead_append_inj, display_inj, contains_append (lead_digits _ _),
    contains_append (lead_digits _ _), Alike]

def Sample.protocolsText (baseUrl : String) : String :=
  "[\x7b\"protocol\":\"openai_chat\",\"baseUrl\":\"" ++ baseUrl ++ "\"\x7d]"

def Sample.serde : Serde :=
  { Router.Sample.serde with
    protocolEntries := fun s =>
      match ["https://a.example", "https://a.example/", "https://b.example"].find?
          fun baseUrl => Sample.protocolsText baseUrl = s with
      | some baseUrl => .ok [⟨"openai_chat", baseUrl, none⟩]
      | none => .error AgentProxy.Sample.parseError }

def Sample.installation : Installation := { Server.Sample.installation with serde := Sample.serde }

def Sample.state (baseUrl : String) : ProxyState :=
  ⟨Router.fromStorage Sample.serde
    { Router.Sample.database "deepseek" "deepseek" "sk" with
      channels := .single
        { Router.Sample.channel "deepseek" "deepseek" "sk" with protocols := Sample.protocolsText baseUrl } }, true⟩

def Sample.text : ErrorText := ⟨fun _ => "error sending request for url (", fun _ => ")", id⟩

def Sample.refused (out : Outgoing) : UpstreamOutcome := .failed (.connect (Sample.text.display .connect out.url))

def Sample.handled (baseUrl : String) : Handled ProxyState SharedOp :=
  handleProxyRequest Sample.serde Sample.installation.middlewares Server.Sample.around Sample.refused 1024
    (Sample.state baseUrl) Server.Sample.incoming

theorem trailing_slash_same_answer : ∃ e e', (Sample.handled "https://a.example").phase.reply = .failed e ∧
    (Sample.handled "https://a.example/").phase.reply = .failed e' ∧
      e.toResponse (fun _ _ => "") = e'.toResponse (fun _ _ => "") := by
  obtain ⟨e, e', he, he', hiff⟩ := transport_failure_answers_alike Sample.text (fun _ _ => "") .connect
    Sample.installation Sample.installation Server.Sample.around Server.Sample.around Sample.refused Sample.refused
    1024 1024 (Sample.state "https://a.example") (Sample.state "https://a.example/") Server.Sample.incoming 1 0
    _ _ rfl rfl rfl rfl
  exact ⟨e, e', he, he', hiff.mpr (.inl ⟨by decide +kernel, nofun⟩)⟩

theorem refused_connection_names_channel : ∃ f f' e e', (Sample.handled "https://a.example").forwarded = some f ∧
    (Sample.handled "https://b.example").forwarded = some f' ∧ FailsWith Sample.text .connect f ∧
    FailsWith Sample.text .connect f' ∧ (Sample.handled "https://a.example").phase.reply = .failed e ∧
    (Sample.handled "https://b.example").phase.reply = .failed e' ∧
      e.toResponse (fun _ _ => "") ≠ e'.toResponse (fun _ _ => "") :=
  ⟨_, _, _, _, rfl, rfl, rfl, rfl, rfl, rfl, by decide +kernel⟩

end AgentProxy.Server.Transport
