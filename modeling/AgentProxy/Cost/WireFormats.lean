import AgentProxy.Cost.Rates
import AgentProxy.Cost.StreamedUsage
import Mathlib.Tactic.NormNum

namespace AgentProxy.Cost

/-- The response bodies of one consumption: `p` uncached and `c` cached input tokens, `o` output tokens. OpenAI
counts the cached tokens inside the prompt. -/
def wireBody (p c o : UInt64) : ApiFormat → Json
  | .anthropicMessages => .obj [("usage", .obj [("input_tokens", tokenCount p), ("cache_read_input_tokens", tokenCount c),
      ("output_tokens", tokenCount o)])]
  | .openaiChat => .obj [("usage", .obj [("prompt_tokens", tokenCount (p + c)),
      ("prompt_tokens_details", .obj [("cached_tokens", tokenCount c)]), ("completion_tokens", tokenCount o)])]
  | .openaiResponses => .obj [("usage", .obj [("input_tokens", tokenCount (p + c)),
      ("input_tokens_details", .obj [("cached_tokens", tokenCount c)]), ("output_tokens", tokenCount o)])]

def wireCost (pricing : Pricing) (p c o : UInt64) (format : ApiFormat) : ℚ :=
  (calcCost (extractUsage (wireBody p c o format) (some format)) pricing).1

def SameCost (pricing : Pricing) (p c o : UInt64) : Prop :=
  ∀ format format', wireCost pricing p c o format = wireCost pricing p c o format'

/-- Billing the cached tokens as input tokens costs what the change of tier saves. -/
def Offset (pricing : Pricing) (p c o : UInt64) : Prop :=
  let apart := ratesAt pricing (p + o)
  let together := ratesAt pricing (p + c + o)
  c.toNat * together.input = p.toNat * (apart.input - together.input) + o.toNat * (apart.output - together.output) +
    c.toNat * (apart.cacheRead - together.cacheRead)

/-- Input tokens are free, and the other rates do not depend on the tier. -/
def InputFree (pricing : Pricing) : Prop :=
  ∀ total, (ratesAt pricing total).input = 0 ∧ (ratesAt pricing total).output = (ratesAt pricing 0).output ∧
    (ratesAt pricing total).cacheRead = (ratesAt pricing 0).cacheRead

section

variable {pricing : Pricing} {p c o : UInt64}

theorem chatTokens_wireBody (total c o : UInt64) :
    chatTokens (.obj [("prompt_tokens", tokenCount total),
      ("prompt_tokens_details", .obj [("cached_tokens", tokenCount c)]), ("completion_tokens", tokenCount o)]) =
        (total, o) := by
  have hprompt : (Json.obj [("prompt_tokens", tokenCount total),
      ("prompt_tokens_details", .obj [("cached_tokens", tokenCount c)]),
      ("completion_tokens", tokenCount o)]).counter "prompt_tokens" = total := rfl
  have hcompletion : (Json.obj [("prompt_tokens", tokenCount total),
      ("prompt_tokens_details", .obj [("cached_tokens", tokenCount c)]),
      ("completion_tokens", tokenCount o)]).counter "completion_tokens" = o := rfl
  simp only [chatTokens, hprompt, hcompletion]
  split
  · rfl
  · -- neither total nor alternative names are reported, and both counters are 0
    rename_i h
    rw [not_or, UInt64.not_lt, UInt64.not_lt, UInt64.le_zero_iff, UInt64.le_zero_iff] at h
    rw [h.1, h.2]
    rfl

theorem extractUsage_wireBody (p c o : UInt64) (format : ApiFormat) :
    extractUsage (wireBody p c o format) (some format) =
      { inputTokens := if format = .anthropicMessages then p else p + c, outputTokens := o, cacheReadTokens := c } := by
  cases format with
  | anthropicMessages => rfl
  | openaiResponses => rfl
  | openaiChat =>
    have hextract : extractUsage (wireBody p c o .openaiChat) (some .openaiChat) =
        { inputTokens := (chatTokens (.obj [("prompt_tokens", tokenCount (p + c)),
            ("prompt_tokens_details", .obj [("cached_tokens", tokenCount c)]),
            ("completion_tokens", tokenCount o)])).1
          outputTokens := (chatTokens (.obj [("prompt_tokens", tokenCount (p + c)),
            ("prompt_tokens_details", .obj [("cached_tokens", tokenCount c)]),
            ("completion_tokens", tokenCount o)])).2
          cacheReadTokens := c } := rfl
    rw [hextract, chatTokens_wireBody]
    rfl

theorem fixed_ratesAt (pricing : Pricing) (m n : UInt64) : (ratesAt pricing m).fixed = (ratesAt pricing n).fixed := by
  have htier : ∀ tiers total, (tierRates tiers total).fixed = 0 := by
    intro tiers total
    unfold tierRates
    rcases tiers.find? (PricingTier.covers total) with _ | ⟨upTo, price⟩
    · rfl
    · cases price <;> rfl
  cases pricing with
  | tiered dimension tiers currency =>
    cases dimension with
    | tokens => exact (htier tiers m).trans (htier tiers n).symm
    | duration resolution => rfl
    | images quality => rfl
  | _ => rfl

theorem sameCost_iff (h : p.toNat + c.toNat < 2 ^ 64) : SameCost pricing p c o ↔ Offset pricing p c o := by
  have hsum : (p + c).toNat = p.toNat + c.toNat := by rw [UInt64.toNat_add, Nat.mod_eq_of_lt h]
  have hfixed := fixed_ratesAt pricing (p + o) (p + c + o)
  have hcost : ∀ format, wireCost pricing p c o format = if format = .anthropicMessages then
      p.toNat * (ratesAt pricing (p + o)).input + o.toNat * (ratesAt pricing (p + o)).output +
        c.toNat * (ratesAt pricing (p + o)).cacheRead + (ratesAt pricing (p + o)).fixed
      else (p.toNat + c.toNat) * (ratesAt pricing (p + c + o)).input + o.toNat * (ratesAt pricing (p + c + o)).output +
        c.toNat * (ratesAt pricing (p + c + o)).cacheRead + (ratesAt pricing (p + c + o)).fixed := by
    intro format
    rw [wireCost, extractUsage_wireBody, calcCost_amount]
    split
    · simp [Rates.amount]
    · simp [Rates.amount, hsum]
  unfold Offset
  constructor
  · intro hsame
    have hchat := hsame .anthropicMessages .openaiChat
    rw [hcost, hcost, if_pos rfl, if_neg ApiFormat.noConfusion] at hchat
    linarith
  · intro hoffset format format'
    rw [hcost, hcost]
    split
    · split
      · rfl
      · linarith
    · split
      · linarith
      · rfl

theorem offset_of_inputFree (h : InputFree pricing) (p c o : UInt64) : Offset pricing p c o := by
  obtain ⟨hinput, houtput, hread⟩ := h (p + o)
  obtain ⟨hinput', houtput', hread'⟩ := h (p + c + o)
  simp only [Offset, hinput, hinput', houtput, houtput', hread, hread']
  ring

theorem cacheRead_of_offset (h : ∀ p c o : UInt64, p.toNat + c.toNat < 2 ^ 64 → Offset pricing p c o) {n : UInt64}
    (hn : n ≠ 0) : (ratesAt pricing n).cacheRead = (ratesAt pricing 0).cacheRead - (ratesAt pricing n).input := by
  have hpos : (n.toNat : ℚ) ≠ 0 := by
    rw [Nat.cast_ne_zero]
    intro hzero
    exact hn (UInt64.toNat_inj.mp hzero)
  have hfit : (0 : UInt64).toNat + n.toNat < 2 ^ 64 := by
    rw [UInt64.toNat_zero, Nat.zero_add]
    exact n.toNat_lt
  have hoffset := h 0 n 0 hfit
  simp only [Offset, UInt64.toNat_zero, UInt64.zero_add, UInt64.add_zero, Nat.cast_zero, zero_mul] at hoffset
  have hcancel := mul_left_cancel₀ hpos (hoffset.trans (by ring : _ = (n.toNat : ℚ) *
    ((ratesAt pricing 0).cacheRead - (ratesAt pricing n).cacheRead)))
  linarith

theorem input_of_offset (h : ∀ p c o : UInt64, p.toNat + c.toNat < 2 ^ 64 → Offset pricing p c o) {m n : UInt64}
    (hm : m ≠ 0) (hle : m ≤ n) :
    m.toNat * (ratesAt pricing n).input = (2 * m.toNat - n.toNat) * (ratesAt pricing m).input := by
  have hnat := UInt64.le_iff_toNat_le.mp hle
  have hn : n ≠ 0 := by
    rintro rfl
    exact hm (UInt64.le_zero_iff.mp hle)
  have hsub : ((n - m).toNat : ℚ) = n.toNat - m.toNat := by
    rw [UInt64.toNat_sub_of_le _ _ hle, Nat.cast_sub hnat]
  have hfit : m.toNat + (n - m).toNat < 2 ^ 64 := by
    have hlt := n.toNat_lt
    rw [UInt64.toNat_sub_of_le _ _ hle]
    omega
  have hsum : m + (n - m) = n := by rw [UInt64.add_comm, UInt64.sub_add_cancel]
  have hoffset := h m (n - m) 0 hfit
  simp only [Offset, hsum, hsub, UInt64.toNat_zero, UInt64.add_zero, Nat.cast_zero, zero_mul, Rat.add_zero] at hoffset
  rw [cacheRead_of_offset h hm, cacheRead_of_offset h hn] at hoffset
  linarith

theorem input_eq_zero (h : ∀ p c o : UInt64, p.toNat + c.toNat < 2 ^ 64 → Offset pricing p c o) {n : UInt64}
    (hn : n ≠ 0) : (ratesAt pricing n).input = 0 := by
  have hone : ((1 : UInt64).toNat : ℚ) = 1 := rfl
  have htwo : ((2 : UInt64).toNat : ℚ) = 2 := rfl
  have hthree : ((3 : UInt64).toNat : ℚ) = 3 := rfl
  have h12 := @input_of_offset pricing h 1 2 (by decide) (by decide)
  have h13 := @input_of_offset pricing h 1 3 (by decide) (by decide)
  have h23 := @input_of_offset pricing h 2 3 (by decide) (by decide)
  rw [hone, htwo] at h12
  rw [hone, hthree] at h13
  rw [htwo, hthree] at h23
  have hsecond : (ratesAt pricing 2).input = 0 := by linarith
  by_cases hle : 2 ≤ n
  · have h2n := @input_of_offset pricing h 2 n (by decide) hle
    rw [htwo, hsecond, mul_zero] at h2n
    linarith
  · have hfirst : n = 1 := by
      rw [UInt64.le_iff_toNat_le] at hle
      rw [ne_eq, ← UInt64.toNat_inj] at hn
      rw [← UInt64.toNat_inj]
      have hlt : (2 : UInt64).toNat = 2 := rfl
      have hone : (1 : UInt64).toNat = 1 := rfl
      have hzero : (0 : UInt64).toNat = 0 := rfl
      omega
    rw [hfirst]
    linarith

theorem output_of_offset (h : ∀ p c o : UInt64, p.toNat + c.toNat < 2 ^ 64 → Offset pricing p c o) {n : UInt64}
    (hn : n ≠ 0) : (ratesAt pricing n).output = (ratesAt pricing 1).output := by
  have hsum : n - 1 + 1 = n := UInt64.sub_add_cancel n 1
  have hfit : (0 : UInt64).toNat + (n - 1).toNat < 2 ^ 64 := by
    rw [UInt64.toNat_zero, Nat.zero_add]
    exact (n - 1).toNat_lt
  have hone : ((1 : UInt64).toNat : ℚ) = 1 := rfl
  have hne : (1 : UInt64) ≠ 0 := by decide
  have hoffset := h 0 (n - 1) 1 hfit
  simp only [Offset, UInt64.zero_add, hsum, hone, UInt64.toNat_zero, Nat.cast_zero, zero_mul] at hoffset
  rw [cacheRead_of_offset h hn, cacheRead_of_offset h hne, input_eq_zero h hn, input_eq_zero h hne] at hoffset
  linarith

theorem zero_of_offset (h : ∀ p c o : UInt64, p.toNat + c.toNat < 2 ^ 64 → Offset pricing p c o) :
    (ratesAt pricing 0).input = 0 ∧ (ratesAt pricing 1).output = (ratesAt pricing 0).output := by
  have hhalf : ((9223372036854775808 : UInt64).toNat : ℚ) = 9223372036854775808 := rfl
  have hbelow : ((9223372036854775807 : UInt64).toNat : ℚ) = 9223372036854775807 := rfl
  have habove : ((9223372036854775809 : UInt64).toNat : ℚ) = 9223372036854775809 := rfl
  have hone : ((1 : UInt64).toNat : ℚ) = 1 := rfl
  have hne : (1 : UInt64) ≠ 0 := by decide
  have heven := h 9223372036854775808 1 9223372036854775808 (by decide)
  have hodd := h 9223372036854775807 1 9223372036854775809 (by decide)
  have hwrap : (9223372036854775808 : UInt64) + 9223372036854775808 = 0 := by decide
  have hwrap' : (9223372036854775807 : UInt64) + 9223372036854775809 = 0 := by decide
  have hnext : (9223372036854775808 : UInt64) + 1 + 9223372036854775808 = 1 := by decide
  have hnext' : (9223372036854775807 : UInt64) + 1 + 9223372036854775809 = 1 := by decide
  simp only [Offset, hwrap, hnext, hhalf, hone] at heven
  simp only [Offset, hwrap', hnext', hbelow, habove, hone] at hodd
  rw [cacheRead_of_offset h hne, input_eq_zero h hne] at heven hodd
  constructor
  · linarith
  · linarith

theorem inputFree_of_offset (h : ∀ p c o : UInt64, p.toNat + c.toNat < 2 ^ 64 → Offset pricing p c o) :
    InputFree pricing := by
  obtain ⟨hinput, houtput⟩ := zero_of_offset h
  intro n
  by_cases hn : n = 0
  · rw [hn]
    exact ⟨hinput, rfl, rfl⟩
  · refine ⟨input_eq_zero h hn, (output_of_offset h hn).trans houtput, ?_⟩
    rw [cacheRead_of_offset h hn, input_eq_zero h hn, sub_zero]

end

theorem wire_formats_agree_iff (pricing : Pricing) :
    (∀ p c o : UInt64, p.toNat + c.toNat < 2 ^ 64 → (SameCost pricing p c o ↔ Offset pricing p c o)) ∧
    ((∀ p c o : UInt64, p.toNat + c.toNat < 2 ^ 64 → SameCost pricing p c o) ↔ InputFree pricing) := by
  refine ⟨fun p c o h => sameCost_iff h, fun hall => ?_, fun hfree p c o h => ?_⟩
  · exact inputFree_of_offset fun p c o h => (sameCost_iff h).mp (hall p c o h)
  · exact (sameCost_iff h).mpr (offset_of_inputFree hfree p c o)

def Sample.cachedRead : Pricing := .perToken 3 15 none (some (3 / 10)) none "USD"

theorem cached_prompt_billed_twice : ¬ SameCost Sample.cachedRead 0 1000000 0 := by
  have hmillion : ((1000000 : UInt64).toNat : ℚ) = 1000000 := rfl
  rw [sameCost_iff (by decide), Offset, hmillion]
  simp only [Sample.cachedRead, ratesAt, Rates.perMillion, UInt64.toNat_zero, Nat.cast_zero]
  norm_num

end AgentProxy.Cost
