import AgentProxy.Server.Context

namespace AgentProxy.Server

structure ErrorBody where
  code : String
  message : String
  detail : Option String := none
  deriving DecidableEq

structure ErrorResponse where
  status : StatusCode
  error : ErrorBody
  deriving DecidableEq

end AgentProxy.Server

namespace AgentProxy.ProxyError

open Server

/-- `fixed` is `format!("{secs:.n}")` of a duration in nanoseconds, taken as `f64` seconds. -/
def toResponse (fixed : ℕ → ℕ → String) : ProxyError → ErrorResponse
  | .badRequest msg => ⟨.badRequest, "bad_request", msg, none⟩
  | .unauthorized => ⟨.unauthorized, "unauthorized", "invalid proxy API key", none⟩
  | .rateLimited retryAfter => ⟨.tooManyRequests, "rate_limited",
      "rate limit exceeded, retry after " ++ fixed 1 retryAfter ++ "s",
      some ("retry_after_seconds: " ++ fixed 0 retryAfter)⟩
  | .upstream source =>
    if contains source "429" then ⟨.tooManyRequests, "upstream_rate_limited", "upstream rate limited", none⟩
    else ⟨.badGateway, "upstream_error", source, none⟩
  | .protocolConversion msg => ⟨.badGateway, "protocol_conversion", msg, none⟩
  | .channelSelection model =>
    ⟨.serviceUnavailable, "no_channel", "no channel available for model '" ++ model ++ "'", none⟩
  | .circuitOpen channel =>
    ⟨.serviceUnavailable, "circuit_open", "circuit breaker open for channel '" ++ channel ++ "'", none⟩
  | .compression msg => ⟨.internalServerError, "compression_error", msg, none⟩
  | .internal _ => ⟨.internalServerError, "internal_error", "internal server error", none⟩

def statusCode : ProxyError → StatusCode
  | .badRequest _ => .badRequest
  | .unauthorized => .unauthorized
  | .rateLimited _ => .tooManyRequests
  | .upstream source => if contains source "429" then .tooManyRequests else .badGateway
  | .protocolConversion _ => .badGateway
  | .circuitOpen _ | .channelSelection _ => .serviceUnavailable
  | .compression _ | .internal _ => .internalServerError

def errorCode : ProxyError → String
  | .badRequest _ => "bad_request"
  | .unauthorized => "unauthorized"
  | .rateLimited _ => "rate_limited"
  | .upstream source => if contains source "429" then "upstream_rate_limited" else "upstream_error"
  | .protocolConversion _ => "protocol_conversion"
  | .circuitOpen _ => "circuit_open"
  | .channelSelection _ => "no_channel"
  | .compression _ => "compression_error"
  | .internal _ => "internal_error"

theorem toResponse_codes (fixed : ℕ → ℕ → String) (e : ProxyError) :
    (e.toResponse fixed).status = e.statusCode ∧ (e.toResponse fixed).error.code = e.errorCode := by
  cases e with
  | upstream source =>
    simp only [toResponse, statusCode, errorCode]
    split <;> exact ⟨rfl, rfl⟩
  | _ => exact ⟨rfl, rfl⟩

theorem toResponse_upstream_eq {fixed : ℕ → ℕ → String} {source source' : String} :
    (upstream source).toResponse fixed = (upstream source').toResponse fixed ↔
      source = source' ∨ contains source "429" = true ∧ contains source' "429" = true := by
  constructor
  · intro h
    simp only [toResponse] at h
    split at h
    · rename_i hs
      split at h
      · rename_i hs'
        exact .inr ⟨hs, hs'⟩
      · cases h
    · split at h
      · cases h
      · exact .inl (ErrorBody.mk.inj (ErrorResponse.mk.inj h).2).2.1
  · rintro (rfl | ⟨hs, hs'⟩)
    · rfl
    · simp only [toResponse, hs, hs', if_true]

end AgentProxy.ProxyError
