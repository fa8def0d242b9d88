import AgentProxy.Cost.Rates
import AgentProxy.Cost.Record
import AgentProxy.Lib.Run
import Mathlib.Algebra.Order.Field.Basic
import Mathlib.Tactic.Positivity

namespace AgentProxy.Cost

open Transition

structure Billed where
  env : RecordEnv
  ctx : ConnectionContext
  body : Json

namespace Billed

def usage (b : Billed) : Usage := extractUsage b.body b.ctx.detectedFormat

def tokens (b : Billed) : ℕ := b.usage.inputTokens.toNat + b.usage.outputTokens.toNat

def costRecord (b : Billed) : CostRecord := record b.env b.ctx b.body

def On (b : Billed) (mappingId : String) (pricing : Pricing) : Prop :=
  ∃ info, b.ctx.selectedMapping = some info ∧ info.mappingId = mappingId ∧ info.pricing = some pricing

end Billed

def volume (billed : List Billed) : ℕ := (billed.map Billed.tokens).sum

structure Bills where
  billed : List Billed := []
  records : List CostRecord := []

def bill (s : Bills) (b : Billed) : Option Bills := some ⟨s.billed ++ [b], s.records ++ [b.costRecord]⟩

def PricedByVolume (tiers : List PricingTier) (s : Bills) : Prop :=
  ∀ k b r tier, s.billed[k]? = some b → s.records[k]? = some r →
    firstTier tiers (volume (s.billed.take (k + 1))) = some tier →
    r.cost = (TierPrice.rates tier.price).amount b.usage

/-- The first tier that covers the request alone also covers it together with the requests before it. -/
def SameTier (tiers : List PricingTier) (s : Bills) (b : Billed) : Prop :=
  b.tokens < 2 ^ 64 ∧ ∀ tier, firstTier tiers b.tokens = some tier → reaches (volume s.billed + b.tokens) tier

section

variable {tiers : List PricingTier} {b : Billed} {s t : Bills}

theorem reaches_of_le {m n : ℕ} (h : m ≤ n) {tier : PricingTier} (ht : reaches n tier = true) :
    reaches m tier = true := by
  unfold reaches at ht ⊢
  split at ht
  · rfl
  · rw [decide_eq_true_eq] at ht ⊢
    omega

theorem firstTier_of_le {m n : ℕ} (h : m ≤ n) (hsame : ∀ tier, firstTier tiers m = some tier → reaches n tier) :
    firstTier tiers n = firstTier tiers m := by
  induction tiers with
  | nil => rfl
  | cons tier tiers ih =>
    simp only [firstTier, List.find?_cons] at hsame ih ⊢
    by_cases hm : reaches m tier = true
    · rw [hm] at hsame ⊢
      rw [hsame tier rfl]
    · have hn : reaches n tier = false := by
        rw [← Bool.not_eq_true]
        exact fun hn => hm (reaches_of_le h hn)
      rw [Bool.not_eq_true] at hm
      rw [hm] at hsame ⊢
      rw [hn]
      exact ih hsame

theorem cost_eq {mappingId currency : String} (hon : b.On mappingId (.tiered .tokens tiers currency))
    (hfit : b.tokens < 2 ^ 64) :
    b.costRecord.cost = (((firstTier tiers b.tokens).map fun t => TierPrice.rates t.price).getD {}).amount b.usage := by
  obtain ⟨info, hinfo, -, hpricing⟩ := hon
  have hcost : b.costRecord.cost = (calcCost b.usage (.tiered .tokens tiers currency)).1 := by
    simp only [Billed.costRecord, record, hinfo, Option.bind_some, hpricing]
    rfl
  rw [hcost, calcCost_amount, ratesAt, tierRates_sum hfit]
  rfl

theorem volume_concat (billed : List Billed) (b : Billed) : volume (billed ++ [b]) = volume billed + b.tokens := by
  simp [volume]

structure Priced (tiers : List PricingTier) (s : Bills) : Prop where
  length : s.records.length = s.billed.length
  priced : PricedByVolume tiers s

theorem bill_priced {mappingId currency : String} (hs : Priced tiers s)
    (hb : b.On mappingId (.tiered .tokens tiers currency) ∧ SameTier tiers s b) (h : bill s b = some t) :
    Priced tiers t := by
  obtain ⟨hon, hfit, hsame⟩ := hb
  cases h
  refine ⟨by simp [hs.length], fun k b' r tier hb' hr htier => ?_⟩
  by_cases hk : k < s.billed.length
  · rw [List.getElem?_append_left hk] at hb'
    rw [List.getElem?_append_left (hs.length ▸ hk)] at hr
    rw [List.take_append_of_le_length hk] at htier
    exact hs.priced k b' r tier hb' hr htier
  · have hlast : k = s.billed.length := by
      obtain ⟨hlt, -⟩ := List.getElem?_eq_some_iff.mp hb'
      rw [List.length_append, List.length_singleton] at hlt
      omega
    subst hlast
    rw [List.getElem?_concat_length] at hb'
    rw [← hs.length, List.getElem?_concat_length] at hr
    cases hb'
    cases hr
    -- the tier of the volume is the one that covers the request alone
    rw [List.take_of_length_le (by simp), volume_concat, firstTier_of_le (Nat.le_add_left _ _) hsame] at htier
    rw [cost_eq hon hfit, htier]
    rfl

theorem run_billed {requests : List Billed} (h : run bill s requests = some t) : t.billed = s.billed ++ requests := by
  induction requests generalizing s with
  | nil =>
    cases h
    exact (List.append_nil _).symm
  | cons b requests ih =>
    obtain ⟨u, hu, ht⟩ := run_cons.mp h
    cases hu
    rw [ih ht]
    exact List.append_assoc _ _ _

end

theorem tiers_follow_volume (tiers : List PricingTier) (currency mappingId : String) (requests : List Billed)
    (hon : ∀ b ∈ requests, b.On mappingId (.tiered .tokens tiers currency))
    (hsame : Meets bill (SameTier tiers) {} requests) :
    ∃ s, run bill {} requests = some s ∧ s.billed = requests ∧ PricedByVolume tiers s := by
  obtain ⟨s, hs⟩ := run_total (fun s b => ⟨_, rfl⟩ : ∀ s b, ∃ t, bill s b = some t) {} requests
  have hstart : Priced tiers {} := ⟨rfl, fun k b r tier hb => absurd hb (by simp)⟩
  have hmeets : Meets bill (fun s b => b.On mappingId (.tiered .tokens tiers currency) ∧ SameTier tiers s b) {} requests :=
    meets_and.mpr ⟨meets_of_forall (fun b hb _ => hon b hb) _, hsame⟩
  have hpriced := run_invariant (Priced tiers) (fun _ _ _ hs hb => bill_priced hs hb) hstart hmeets hs
  exact ⟨s, hs, run_billed hs, hpriced.priced⟩

namespace Sample

def volumeTiers : List PricingTier :=
  [⟨some 1000000, .token 1 2 none none none⟩, ⟨none, .token (1 / 2) 1 none none none⟩]

def volumeMapping : SelectedMappingInfo where
  channelId := "deepseek"
  mappingId := "m1"
  clientName := "deepseek-chat"
  upstreamName := "deepseek-chat"
  isFlatFee := false
  pricing := some (.tiered .tokens volumeTiers "CNY")
  pricingSnapshotJson := ""

def inputOf (tokens : UInt64) : Billed where
  env := ⟨"user", "r1", 0, "2026-01-01T00:00:00+00:00"⟩
  ctx := ⟨1, .claude, none, some .anthropicMessages, 0, none, none, some volumeMapping, none, none, none, none, none, 0, 0,
    0, 0, none⟩
  body := .obj [("usage", .obj [("input_tokens", .num (.posInt tokens))])]

end Sample

theorem sample_sameTier (s : Bills) {tokens : UInt64} (htokens : volume s.billed + tokens.toNat ≤ 1000000) :
    SameTier Sample.volumeTiers s (Sample.inputOf tokens) := by
  have hsum : (Sample.inputOf tokens).tokens = tokens.toNat := rfl
  have hlimit : (1000000 : UInt64).toNat = 1000000 := rfl
  have hown : reaches tokens.toNat ⟨some 1000000, .token 1 2 none none none⟩ = true := by
    rw [reaches, decide_eq_true_eq, hlimit]
    omega
  refine ⟨by rw [hsum]; omega, fun tier htier => ?_⟩
  rw [hsum, firstTier, Sample.volumeTiers, List.find?_cons_of_pos hown] at htier
  cases htier
  rw [hsum, reaches, decide_eq_true_eq, hlimit]
  exact htokens

theorem tiers_follow_volume_first_tier : ∃ s, run bill {} [Sample.inputOf 300000, Sample.inputOf 300000] = some s ∧
    s.billed = [Sample.inputOf 300000, Sample.inputOf 300000] ∧ PricedByVolume Sample.volumeTiers s := by
  apply tiers_follow_volume Sample.volumeTiers "CNY" "m1"
  · intro b hb
    have hone : b = Sample.inputOf 300000 := by simpa using hb
    rw [hone]
    exact ⟨Sample.volumeMapping, rfl, rfl, rfl⟩
  · refine ⟨sample_sameTier _ (by decide), fun t ht => ⟨?_, fun _ _ => trivial⟩⟩
    cases ht
    exact sample_sameTier _ (by decide)

theorem second_request_priced_alone : ∃ s, run bill {} [Sample.inputOf 600000, Sample.inputOf 600000] = some s ∧
    ¬ PricedByVolume Sample.volumeTiers s := by
  refine ⟨_, rfl, fun h => ?_⟩
  have hsecond := h 1 (Sample.inputOf 600000) (Sample.inputOf 600000).costRecord ⟨none, .token (1 / 2) 1 none none none⟩
    rfl rfl rfl
  exact absurd hsecond (by decide +kernel)

end AgentProxy.Cost
