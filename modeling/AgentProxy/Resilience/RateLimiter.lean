import AgentProxy.Core.Types
import AgentProxy.Lib.Bucket
import Mathlib.Algebra.Order.Ring.Rat
import Mathlib.Logic.Function.Basic

namespace AgentProxy.Resilience.RateLimiter

structure RateLimitConfig where
  maxRequests : UInt32
  window : ℕ

/-- The tokens are exact rationals where the source has `f64`; times and durations are nanoseconds. -/
structure TokenBucket where
  capacity : UInt32
  tokens : ℚ
  refillRate : ℚ
  lastRefill : ℕ

def asSecs (nanos : ℕ) : ℚ := nanos / 1000000000

namespace TokenBucket

def new (maxRequests : UInt32) (window now : ℕ) : TokenBucket where
  capacity := maxRequests
  tokens := maxRequests.toNat
  refillRate := maxRequests.toNat / asSecs window
  lastRefill := now

def refill (b : TokenBucket) (now : ℕ) : TokenBucket :=
  let elapsed := asSecs (now - b.lastRefill)
  let added := elapsed * b.refillRate
  { b with tokens := min (b.tokens + added) b.capacity.toNat, lastRefill := now }

def tryConsume (b : TokenBucket) (now : ℕ) : Bool × TokenBucket :=
  let b := b.refill now
  if 1 ≤ b.tokens then (true, { b with tokens := b.tokens - 1 }) else (false, b)

end TokenBucket

abbrev Buckets := String → Option TokenBucket

def checkRateLimit (config : RateLimitConfig) (now : ℕ) (buckets : Buckets) (channelId : String) :
    Buckets × Except ProxyError Unit :=
  let bucket := (buckets channelId).getD (.new config.maxRequests config.window now)
  let consumed := bucket.tryConsume now
  (Function.update buckets channelId (some consumed.2),
    if consumed.1 then .ok () else .error (.rateLimited config.window))

def onRequest (config : RateLimitConfig) (now : ℕ) (buckets : Buckets) (ctx : ConnectionContext) :
    Buckets × Except ProxyError Unit :=
  let channelId := (ctx.selectedChannel.map ChannelConfig.name).getD ""
  if channelId.isEmpty then (buckets, .ok ()) else checkRateLimit config now buckets channelId

/-- The calls of `check_rate_limit` in the order in which they take the lock, each with its channel. -/
def after (config : RateLimitConfig) (buckets : Buckets) (calls : List (ℕ × String)) : Buckets :=
  calls.foldl (fun m e => (checkRateLimit config e.1 m e.2).1) buckets

def outcomes (config : RateLimitConfig) (buckets : Buckets) : List (ℕ × String) → List ((ℕ × String) × Bool)
  | [] => []
  | e :: calls => (e, (checkRateLimit config e.1 buckets e.2).2.toBool) ::
      outcomes config (checkRateLimit config e.1 buckets e.2).1 calls

def empty : Buckets := fun _ => none

/-- The calls on one channel, with their times in seconds and whether each was admitted. -/
def logOn (config : RateLimitConfig) (channel : String) (buckets : Buckets) (calls : List (ℕ × String)) :
    List (ℚ × Bool) :=
  ((outcomes config buckets calls).filter fun e => e.1.2 = channel).map fun e => (asSecs e.1.1, e.2)

def timesOn (channel : String) (calls : List (ℕ × String)) : List ℕ :=
  (calls.filter fun e => e.2 = channel).map Prod.fst

def capacity (config : RateLimitConfig) : ℚ := config.maxRequests.toNat

def rate (config : RateLimitConfig) : ℚ := capacity config / asSecs config.window

def TokenBucket.level (b : TokenBucket) : Bucket.Level ℚ := ⟨b.tokens, asSecs b.lastRefill⟩

structure TokenBucket.Of (config : RateLimitConfig) (b : TokenBucket) : Prop where
  capacity : b.capacity = config.maxRequests
  refillRate : b.refillRate = rate config

section

variable {config : RateLimitConfig} {channel : String} {buckets : Buckets} {calls : List (ℕ × String)}
  {b : TokenBucket} {now : ℕ}

theorem asSecs_sub {m n : ℕ} (h : m ≤ n) : asSecs (n - m) = asSecs n - asSecs m := by
  rw [asSecs, asSecs, asSecs, Nat.cast_sub h, sub_div]

theorem asSecs_mono {m n : ℕ} (h : m ≤ n) : asSecs m ≤ asSecs n :=
  div_le_div_of_nonneg_right (Nat.cast_le.mpr h) (by norm_num)

theorem capacity_nonneg : 0 ≤ capacity config := Nat.cast_nonneg _

theorem rate_nonneg : 0 ≤ rate config :=
  div_nonneg capacity_nonneg (div_nonneg (Nat.cast_nonneg _) (by norm_num))

theorem new_of (config : RateLimitConfig) (now : ℕ) :
    (TokenBucket.new config.maxRequests config.window now).Of config := ⟨rfl, rfl⟩

theorem TokenBucket.Of.tryConsume (h : b.Of config) (now : ℕ) : (b.tryConsume now).2.Of config := by
  unfold TokenBucket.tryConsume
  dsimp only
  split
  · exact ⟨h.capacity, h.refillRate⟩
  · exact ⟨h.capacity, h.refillRate⟩

theorem tryConsume_level (h : b.Of config) (hnow : b.lastRefill ≤ now) :
    (b.tryConsume now).1 = (Bucket.take (capacity config) (rate config) b.level (asSecs now)).1 ∧
    (b.tryConsume now).2.level = (Bucket.take (capacity config) (rate config) b.level (asSecs now)).2 := by
  have havailable : (b.refill now).tokens =
      Bucket.available (capacity config) (rate config) b.level (asSecs now) := by
    simp only [TokenBucket.refill, Bucket.available, TokenBucket.level, asSecs_sub hnow, h.refillRate, h.capacity]
    rfl
  simp only [TokenBucket.tryConsume, havailable, Bucket.take]
  split
  · exact ⟨rfl, rfl⟩
  · refine ⟨rfl, ?_⟩
    rw [← havailable]
    rfl

theorem tryConsume_lastRefill (b : TokenBucket) (now : ℕ) : (b.tryConsume now).2.lastRefill = now := by
  unfold TokenBucket.tryConsume
  dsimp only
  split <;> rfl

theorem checkRateLimit_other (config : RateLimitConfig) (now : ℕ) (buckets : Buckets) {other : String}
    (h : other ≠ channel) : (checkRateLimit config now buckets other).1 channel = buckets channel :=
  Function.update_of_ne h.symm _ _

theorem checkRateLimit_self (config : RateLimitConfig) (now : ℕ) (buckets : Buckets) (channel : String) :
    (checkRateLimit config now buckets channel).1 channel =
      some (((buckets channel).getD (.new config.maxRequests config.window now)).tryConsume now).2 :=
  Function.update_self _ _ _

theorem checkRateLimit_toBool (config : RateLimitConfig) (now : ℕ) (buckets : Buckets) (channel : String) :
    (checkRateLimit config now buckets channel).2.toBool =
      (((buckets channel).getD (.new config.maxRequests config.window now)).tryConsume now).1 := by
  simp only [checkRateLimit]
  split
  · rename_i h
    rw [h]
    rfl
  · rename_i h
    rw [Bool.not_eq_true] at h
    rw [h]
    rfl

theorem logOn_cons (config : RateLimitConfig) (channel : String) (buckets : Buckets) (e : ℕ × String)
    (calls : List (ℕ × String)) : logOn config channel buckets (e :: calls) =
      (if e.2 = channel then
        [(asSecs e.1, (((buckets channel).getD (.new config.maxRequests config.window e.1)).tryConsume e.1).1)]
      else []) ++ logOn config channel (checkRateLimit config e.1 buckets e.2).1 calls := by
  by_cases h : e.2 = channel
  · subst h
    simp [logOn, outcomes, checkRateLimit_toBool]
  · simp [logOn, outcomes, h]

/-- `b` is the bucket of the channel, or the one its next call creates. -/
def Holds (config : RateLimitConfig) (channel : String) (buckets : Buckets) (calls : List (ℕ × String))
    (b : TokenBucket) : Prop :=
  buckets channel = some b ∨ buckets channel = none ∧ ∃ t, (timesOn channel calls).head? = some t ∧
    b = .new config.maxRequests config.window t

theorem Holds.other {e : ℕ × String} (h : Holds config channel buckets (e :: calls) b) (he : e.2 ≠ channel) :
    Holds config channel (checkRateLimit config e.1 buckets e.2).1 calls b := by
  simpa [Holds, checkRateLimit_other config e.1 buckets he, timesOn, he] using h

theorem Holds.getD (h : Holds config channel buckets ((now, channel) :: calls) b) :
    (buckets channel).getD (.new config.maxRequests config.window now) = b := by
  obtain h | ⟨h, t, ht, rfl⟩ := h
  · rw [h, Option.getD_some]
  · obtain rfl : now = t := by simpa [timesOn] using ht
    rw [h, Option.getD_none]

theorem after_level (hof : b.Of config) (hold : Holds config channel buckets calls b)
    (hord : (b.lastRefill :: timesOn channel calls).Pairwise (· ≤ ·)) :
    logOn config channel buckets calls =
      Bucket.log (capacity config) (rate config) b.level ((timesOn channel calls).map asSecs) ∧
    ∃ b', after config buckets calls channel = some b' ∧
      b'.level = Bucket.after (capacity config) (rate config) b.level ((timesOn channel calls).map asSecs) := by
  induction calls generalizing buckets b with
  | nil =>
    obtain h | ⟨-, t, ht, -⟩ := hold
    · exact ⟨rfl, b, h, rfl⟩
    · cases ht
  | cons e calls ih =>
    rw [logOn_cons]
    by_cases he : e.2 = channel
    · obtain ⟨now, other⟩ := e
      dsimp only at he
      subst other
      have htimes : timesOn channel ((now, channel) :: calls) = now :: timesOn channel calls := by simp [timesOn]
      rw [htimes] at hord ⊢
      obtain ⟨hle, hrest⟩ := List.pairwise_cons.mp hord
      obtain ⟨hfst, hsnd⟩ := tryConsume_level hof (hle now (by simp))
      have hnext : (checkRateLimit config now buckets channel).1 channel = some (b.tryConsume now).2 := by
        rw [checkRateLimit_self, hold.getD]
      obtain ⟨hlog, b', hb', hlevel⟩ := ih (hof.tryConsume now) (.inl hnext)
        (by rw [tryConsume_lastRefill]; exact hrest)
      rw [hsnd] at hlog hlevel
      refine ⟨?_, b', hb', hlevel⟩
      rw [if_pos rfl, hold.getD, hfst, hlog]
      rfl
    · have htimes : timesOn channel (e :: calls) = timesOn channel calls := by simp [timesOn, he]
      rw [htimes] at hord ⊢
      rw [if_neg he]
      exact ih hof (hold.other he) hord

theorem after_untouched (h : timesOn channel calls = []) :
    logOn config channel buckets calls = [] ∧ after config buckets calls channel = buckets channel := by
  induction calls generalizing buckets with
  | nil => exact ⟨rfl, rfl⟩
  | cons e calls ih =>
    have he : e.2 ≠ channel := by
      intro he
      simp [timesOn, he] at h
    have hrest : timesOn channel calls = [] := by simpa [timesOn, he] using h
    obtain ⟨hlog, hafter⟩ := @ih (checkRateLimit config e.1 buckets e.2).1 hrest
    rw [logOn_cons, if_neg he]
    exact ⟨hlog, hafter.trans (checkRateLimit_other config e.1 buckets he)⟩

theorem logOn_filter {other : Buckets} (h : buckets channel = other channel) :
    logOn config channel buckets calls = logOn config channel other (calls.filter fun e => e.2 = channel) := by
  induction calls generalizing buckets other with
  | nil => rfl
  | cons e calls ih =>
    rw [logOn_cons]
    by_cases he : e.2 = channel
    · cases he
      rw [List.filter_cons_of_pos (by simp), logOn_cons, h]
      congr 1
      apply ih
      rw [checkRateLimit_self, checkRateLimit_self, h]
    · rw [List.filter_cons_of_neg (by simpa using he), if_neg he]
      exact ih ((checkRateLimit_other config e.1 buckets he).trans h)

theorem logOn_empty (hord : (timesOn channel calls).Pairwise (· ≤ ·)) :
    Bucket.Exact (capacity config) (rate config) (logOn config channel empty calls) ∧
    ∀ b, after config empty calls channel = some b → 0 ≤ b.tokens ∧ b.tokens ≤ capacity config := by
  cases htimes : timesOn channel calls with
  | nil =>
    obtain ⟨hlog, hafter⟩ := @after_untouched config channel empty calls htimes
    rw [hlog, hafter]
    exact ⟨fun k t ok h => by simp at h, nofun⟩
  | cons t times =>
    rw [htimes] at hord
    have hord' : (t :: t :: times).Pairwise (· ≤ ·) :=
      List.pairwise_cons.mpr ⟨fun u hu => by
        obtain rfl | hu := List.mem_cons.mp hu
        · exact le_refl _
        · exact (List.pairwise_cons.mp hord).1 u hu, hord⟩
    have hsecs : ((t :: t :: times).map asSecs).Pairwise (· ≤ ·) := hord'.map asSecs fun _ _ => asSecs_mono
    obtain ⟨hlog, b', hb', hlevel⟩ := @after_level config channel empty calls _ (new_of config t)
      (.inr ⟨rfl, t, by rw [htimes]; rfl, rfl⟩) (by rw [htimes]; exact hord')
    rw [htimes] at hlog hlevel
    refine ⟨?_, ?_⟩
    · rw [hlog]
      exact Bucket.exact_log rate_nonneg hsecs
    · intro b hb
      cases Option.some.inj (hb'.symm.trans hb)
      change 0 ≤ b'.level.tokens ∧ b'.level.tokens ≤ capacity config
      rw [hlevel]
      exact Bucket.after_within capacity_nonneg rate_nonneg hsecs ⟨capacity_nonneg, le_refl _⟩

end

/-- A zero window makes the rate infinite in the source, so the window is positive. -/
theorem token_bucket_exact (config : RateLimitConfig) (channel : String) (calls : List (ℕ × String))
    (_hwindow : 0 < config.window) (hord : (timesOn channel calls).Pairwise (· ≤ ·)) :
    (∀ b, after config empty calls channel = some b → 0 ≤ b.tokens ∧ b.tokens ≤ config.maxRequests.toNat) ∧
    (∀ k t ok, (logOn config channel empty calls)[k]? = some (t, ok) →
      (ok = true ↔ ∀ j ≤ k, ∀ e, (logOn config channel empty calls)[j]? = some e →
        ((((logOn config channel empty calls).take k).drop j).countP (fun f => f.2) : ℚ) + 1 ≤
          config.maxRequests.toNat + config.maxRequests.toNat / asSecs config.window * (t - e.1))) ∧
    (∀ start length : ℚ, 0 ≤ length →
      ((logOn config channel empty calls).countP
        (fun e => e.2 && decide (start ≤ e.1 ∧ e.1 ≤ start + length)) : ℚ) ≤
          config.maxRequests.toNat + config.maxRequests.toNat / asSecs config.window * length) ∧
    logOn config channel empty calls = logOn config channel empty (calls.filter fun e => e.2 = channel) := by
  obtain ⟨hexact, hwithin⟩ := @logOn_empty config channel calls hord
  refine ⟨hwithin, hexact, fun start length hlength => ?_, logOn_filter rfl⟩
  exact Bucket.interval_admitted_le capacity_nonneg rate_nonneg hexact start hlength

theorem token_bucket_exact_sample :
    logOn ⟨1, 2⟩ "a" empty [(0, "a"), (1, "b"), (1, "a")] = [(asSecs 0, true), (asSecs 1, false)] ∧
    logOn ⟨1, 2⟩ "a" empty [(0, "a"), (1, "b"), (1, "a")] = logOn ⟨1, 2⟩ "a" empty [(0, "a"), (1, "a")] :=
  ⟨by decide +kernel, (token_bucket_exact ⟨1, 2⟩ "a" [(0, "a"), (1, "b"), (1, "a")] (by decide) (by decide +kernel)).2.2.2⟩

end AgentProxy.Resilience.RateLimiter
