import AgentProxy.Cost.QuotaAgreement
import AgentProxy.Storage.CostRecords

namespace AgentProxy.Cost

open Counter Router Storage

def storeRecord (records : Table CostRecord.id) (env : RecordEnv) (ctx : ConnectionContext) (body : Json) :
    Except ProxyError (Table CostRecord.id) :=
  match insertCostRecord records (record env ctx body) with
  | .ok t => .ok t
  | .error e => .error (.internal e.toString)

section

variable (ctx : ConnectionContext) (usage : Usage)

def schemaSavings : ℕ := ctx.tokenlessSchemaSaved.toNat + (ctx.compressionStats.getD {}).proxySchemaSaved.toNat

def responseSavings : ℕ := ctx.tokenlessResponseSaved.toNat + (ctx.compressionStats.getD {}).proxyResponseSaved.toNat

def rtkSavings : ℕ := ctx.tokenlessRtkSaved.toNat + (ctx.compressionStats.getD {}).rtkSaved.toNat

def preCompress : ℕ := (ctx.compressionStats.getD {}).tokenlessPre.toNat + (ctx.compressionStats.getD {}).proxyReqPre.toNat

def postCompress : ℕ :=
  (ctx.compressionStats.getD {}).tokenlessPost.toNat + (ctx.compressionStats.getD {}).proxyReqPost.toNat

def compressionSavings : ℕ :=
  (ctx.compressionStats.getD {}).tokenlessSaved.toNat + (ctx.compressionStats.getD {}).tokenlessExperimental.toNat +
    schemaSavings ctx + responseSavings ctx + rtkSavings ctx

def allSavings : ℕ := ctx.tokenlessSavedTokens.toNat + compressionSavings ctx

/-- The token columns of a record with the exact sum of the counters that each is computed from. -/
def exactColumns : List ((CostRecord → Int64) × ℕ) :=
  [((·.inputTokens), usage.inputTokens.toNat), ((·.outputTokens), usage.outputTokens.toNat),
    ((·.cacheWriteTokens), usage.cacheWriteTokens.toNat), ((·.cacheReadTokens), usage.cacheReadTokens.toNat),
    ((·.thinkingTokens), usage.thinkingTokens.toNat), ((·.schemaSavedTokens), schemaSavings ctx),
    ((·.responseSavedTokens), responseSavings ctx), ((·.rtkSavedTokens), rtkSavings ctx),
    ((·.preCompressTokens), preCompress ctx), ((·.postCompressTokens), postCompress ctx),
    ((·.compressionTokensSaved), compressionSavings ctx), ((·.tokensSaved), allSavings ctx),
    ((·.afterTokens), usage.inputTokens.toNat + usage.outputTokens.toNat),
    ((·.beforeTokens), usage.inputTokens.toNat + usage.outputTokens.toNat + allSavings ctx)]

structure Faithful (r : CostRecord) : Prop where
  exact : ∀ column ∈ exactColumns ctx usage, 0 ≤ (column.1 r).toInt ∧ (column.1 r).toInt = column.2
  after : r.afterTokens.toInt = usage.inputTokens.toNat + usage.outputTokens.toNat
  before : r.beforeTokens.toInt = r.afterTokens.toInt + r.tokensSaved.toInt

def CountersFit : Prop :=
  usage.cacheWriteTokens.toNat < 2 ^ 63 ∧ usage.cacheReadTokens.toNat < 2 ^ 63 ∧ preCompress ctx < 2 ^ 63 ∧
    postCompress ctx < 2 ^ 63 ∧ usage.inputTokens.toNat + usage.outputTokens.toNat + allSavings ctx < 2 ^ 63

end

def reportedTokens (body : Json) : ℕ :=
  (u64At (usageField body) "input_tokens").toNat + (u64At (usageField body) "output_tokens").toNat

structure QuotaExact (u : QuotaUsage) (month : ℕ) (body : Json) : Prop where
  extracted : (extractTokenCount body).toNat = reportedTokens body
  requests : (u.recordUsage month (extractTokenCount body)).requestsThisMonth.toNat =
    (u.maybeReset month).requestsThisMonth.toNat + 1
  tokens : (u.recordUsage month (extractTokenCount body)).tokensThisMonth.toNat =
    (u.maybeReset month).tokensThisMonth.toNat + reportedTokens body

def QuotaFits (u : QuotaUsage) (month : ℕ) (body : Json) : Prop :=
  (u.maybeReset month).requestsThisMonth.toNat + 1 < 2 ^ 64 ∧
    (u.maybeReset month).tokensThisMonth.toNat + reportedTokens body < 2 ^ 64

structure CountersKept (records : Table CostRecord.id) (env : RecordEnv) (ctx : ConnectionContext) (body : Json)
    (u : QuotaUsage) (month : ℕ) : Prop where
  stored : ∀ t, storeRecord records env ctx body = .ok t →
    ∃ r, t.rows = records.rows ++ [r] ∧ Faithful ctx (extractUsage body ctx.detectedFormat) r
  quota : QuotaExact u month body

section

variable {env : RecordEnv} {ctx : ConnectionContext} {body : Json}

theorem extractUsage_thinking (body : Json) (format : Option ApiFormat) :
    (extractUsage body format).thinkingTokens = 0 := by
  have hplain : (extractAnthropic body).thinkingTokens = 0 ∧ (extractOpenaiChat body).thinkingTokens = 0 ∧
      (extractOpenaiResponses body).thinkingTokens = 0 := by
    rcases hu : body.get "usage" with _ | usage <;>
      simp [extractAnthropic, extractOpenaiChat, extractOpenaiResponses, hu]
  obtain ⟨hanthropic, hchat, hresponses⟩ := hplain
  rcases format with _ | format
  · rcases hu : body.get "usage" with _ | usage
    · simp [extractUsage, autoDetectUsage, hu]
    · simp only [extractUsage, autoDetectUsage, hu]
      split_ifs
      all_goals first | assumption | rfl
  · cases format <;> assumption

theorem record_columns (env : RecordEnv) (ctx : ConnectionContext) (body : Json) :
    ∀ column ∈ exactColumns ctx (extractUsage body ctx.detectedFormat),
      ∃ x : UInt64, column.1 (record env ctx body) = x.toInt64 ∧ x.toNat = column.2 % 2 ^ 64 := by
  have hsum (x y : UInt64) : (x + y).toNat = (x.toNat + y.toNat) % 2 ^ 64 := UInt64.toNat_add x y
  have hcompression : (compressionSaved ctx).toNat = compressionSavings ctx % 2 ^ 64 :=
    toNat_add_eq_mod (toNat_add_eq_mod (toNat_add_eq_mod (hsum _ _) (hsum _ _)) (hsum _ _)) (hsum _ _)
  have hall := toNat_add_eq_mod (toNat_eq_mod ctx.tokenlessSavedTokens) hcompression
  simp only [exactColumns, List.forall_mem_cons]
  exact ⟨⟨_, rfl, toNat_eq_mod _⟩, ⟨_, rfl, toNat_eq_mod _⟩, ⟨_, rfl, toNat_eq_mod _⟩, ⟨_, rfl, toNat_eq_mod _⟩,
    ⟨_, rfl, toNat_eq_mod _⟩, ⟨_, rfl, hsum _ _⟩, ⟨_, rfl, hsum _ _⟩, ⟨_, rfl, hsum _ _⟩, ⟨_, rfl, hsum _ _⟩,
    ⟨_, rfl, hsum _ _⟩, ⟨_, rfl, hcompression⟩, ⟨_, rfl, hall⟩, ⟨_, rfl, hsum _ _⟩,
    ⟨_, rfl, toNat_add_eq_mod (hsum _ _) hall⟩, by simp⟩

theorem columns_fit_iff {usage : Usage} (hthinking : usage.thinkingTokens = 0) :
    (∀ column ∈ exactColumns ctx usage, column.2 < 2 ^ 63) ↔ CountersFit ctx usage := by
  have hzero : usage.thinkingTokens.toNat = 0 := by
    rw [hthinking]
    rfl
  simp only [exactColumns, List.forall_mem_cons, List.not_mem_nil, false_imp_iff, implies_true, and_true, CountersFit,
    allSavings, compressionSavings, hzero]
  omega

theorem faithful_iff (env : RecordEnv) (ctx : ConnectionContext) (body : Json) :
    Faithful ctx (extractUsage body ctx.detectedFormat) (record env ctx body) ↔
      CountersFit ctx (extractUsage body ctx.detectedFormat) := by
  rw [← columns_fit_iff (extractUsage_thinking _ _)]
  constructor
  · intro h column hcolumn
    obtain ⟨x, hx, hmod⟩ := record_columns env ctx body column hcolumn
    have hexact := (h.exact column hcolumn).2
    rw [hx] at hexact
    exact (toInt64_eq_iff_lt hmod).mp hexact
  · intro h
    have hexact : ∀ column ∈ exactColumns ctx (extractUsage body ctx.detectedFormat),
        (column.1 (record env ctx body)).toInt = column.2 := by
      intro column hcolumn
      obtain ⟨x, hx, hmod⟩ := record_columns env ctx body column hcolumn
      rw [hx]
      exact (toInt64_eq_iff_lt hmod).mpr (h column hcolumn)
    have htotals := hexact
    simp only [exactColumns, List.forall_mem_cons] at htotals
    obtain ⟨-, -, -, -, -, -, -, -, -, -, -, hsaved, hafter, hbefore, -⟩ := htotals
    refine ⟨fun column hcolumn => ⟨?_, hexact column hcolumn⟩, ?_, ?_⟩
    · rw [hexact column hcolumn]
      exact Int.natCast_nonneg _
    · exact hafter
    · omega

theorem quotaExact_iff (u : QuotaUsage) (month : ℕ) (body : Json) : QuotaExact u month body ↔ QuotaFits u month body := by
  have hcount : (extractTokenCount body).toNat = reportedTokens body % 2 ^ 64 := by
    rw [extractTokenCount_eq]
    exact UInt64.toNat_add _ _
  have hone : (1 : UInt64).toNat = 1 % 2 ^ 64 := rfl
  have hrequests := @toNat_add_eq_iff (u.maybeReset month).requestsThisMonth 1 1 hone
  have htokens := @toNat_add_eq_iff (u.maybeReset month).tokensThisMonth _ _ hcount
  constructor
  · intro h
    exact ⟨hrequests.mp h.requests, htokens.mp h.tokens⟩
  · rintro ⟨hr, ht⟩
    refine ⟨?_, hrequests.mpr hr, htokens.mpr ht⟩
    omega

end

theorem counters_kept_iff (records : Table CostRecord.id) (env : RecordEnv) (ctx : ConnectionContext) (body : Json)
    (u : QuotaUsage) (month : ℕ) :
    CountersKept records env ctx body u month ↔
      ((∃ r ∈ records.rows, r.id = env.id) ∨ CountersFit ctx (extractUsage body ctx.detectedFormat)) ∧
        QuotaFits u month body := by
  have hinsert : (∃ r ∈ records.rows, r.id = env.id) ↔ records.insert? (record env ctx body) = none := by
    rw [Table.insert?_eq_none]
    rfl
  rw [← quotaExact_iff, hinsert, ← faithful_iff env]
  rcases hstore : records.insert? (record env ctx body) with _ | t
  · have herror (t : Table CostRecord.id) : storeRecord records env ctx body ≠ .ok t := by
      simp [storeRecord, insertCostRecord, hstore]
    exact ⟨fun h => ⟨.inl rfl, h.quota⟩, fun h => ⟨fun t ht => absurd ht (herror t), h.2⟩⟩
  · have hok : storeRecord records env ctx body = .ok t := by
      simp [storeRecord, insertCostRecord, hstore]
    have hrows := Table.rows_insert? hstore
    constructor
    · intro h
      obtain ⟨r, hr, hfaithful⟩ := h.stored t hok
      rw [hrows, List.append_cancel_left_eq, List.singleton_inj] at hr
      rw [← hr] at hfaithful
      exact ⟨.inr hfaithful, h.quota⟩
    · rintro ⟨hfaithful, hquota⟩
      refine ⟨fun t' ht' => ?_, hquota⟩
      rw [hok] at ht'
      cases ht'
      exact ⟨_, hrows, hfaithful.resolve_left (by simp)⟩

namespace Sample

def firstRecord : RecordEnv := ⟨"user", "r1", 0, "2026-01-01T00:00:00+00:00"⟩

def hugeBody : Json := .obj [("usage", .obj [("input_tokens", .num (.posInt (2 ^ 63)))])]

def anthropic : ConnectionContext :=
  ⟨1, .claude, none, some .anthropicMessages, 0, none, none, none, none, none, none, none, none, 0, 0, 0, 0, none⟩

end Sample

theorem huge_input_stored_negative :
    ¬ CountersKept Table.empty Sample.firstRecord Sample.anthropic Sample.hugeBody (QuotaUsage.new 0) 0 := by
  intro h
  obtain ⟨r, hr, hfaithful⟩ := h.stored _ rfl
  have hrecord : r = record Sample.firstRecord Sample.anthropic Sample.hugeBody := by
    cases hr
    rfl
  have hnonneg := (hfaithful.exact _ List.mem_cons_self).1
  rw [hrecord] at hnonneg
  exact absurd hnonneg (by decide +kernel)

end AgentProxy.Cost
