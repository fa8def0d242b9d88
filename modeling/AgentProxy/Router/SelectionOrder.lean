import AgentProxy.Lib.Ranking
import AgentProxy.Router.Selection

namespace AgentProxy.Router

open Ranking

instance (now : ℕ) (r : RouterState) (id : String) : Decidable (Usable now r id) :=
  inferInstanceAs (Decidable (_ ∧ _))

namespace Candidate

def usable (now : ℕ) (r : RouterState) (c : Candidate) : Bool := Usable now r c.1.channelId

def isFlatFee (c : Candidate) : Bool := c.2.billing.isFlatFee

def priority (c : Candidate) : ℕ := c.1.priority

def withinQuota (month : ℕ) (r : RouterState) (c : Candidate) : Bool :=
  match c.2.billing with
  | .flatFee _ quota _ => (r.quotaEntry month c.2.mappingId).isWithinQuota quota
  | .metered _ => false

def blocks (c : Candidate) : Bool :=
  match c.2.billing with
  | .flatFee _ _ onExhausted => onExhausted = .block
  | .metered _ => false

/-- The first loop stops at the candidate: within its quota, or exhausted and to be answered with an error. -/
def settles (month : ℕ) (r : RouterState) (c : Candidate) : Bool := withinQuota month r c || blocks c

def settle (month : ℕ) (r : RouterState) (clientName : String) (c : Candidate) : Except ProxyError Candidate :=
  if withinQuota month r c then .ok c else .error (.channelSelection clientName)

end Candidate

open Candidate

/-- What `selectChannel` is to return, given the usable candidates and their two rankings. -/
def preferred (month : ℕ) (r : RouterState) (clientName : String) (usable flatFee metered : List Candidate) :
    Except ProxyError Candidate :=
  match flatFee.find? (settles month r) with
  | some c => settle month r clientName c
  | none =>
    match metered.head? with
    | some c => .ok c
    | none =>
      match usable.head? with
      | some c => .ok c
      | none => .error (.channelSelection clientName)

section

variable {now month : ℕ} {clientName : String} {r r' : RouterState} {cs : List Candidate} {c : Candidate}

theorem usable_eq_of_sameView (h : SameView r r') : Candidate.usable now r' = Candidate.usable now r := by
  funext c
  simp only [Candidate.usable, h.usable]

theorem withinQuota_eq_of_quotaEntry (h : ∀ id, r'.quotaEntry month id = r.quotaEntry month id) :
    withinQuota month r' = withinQuota month r := by
  funext c
  simp only [withinQuota, h]

theorem settles_eq_of_quotaEntry (h : ∀ id, r'.quotaEntry month id = r.quotaEntry month id) :
    settles month r' = settles month r := by
  funext c
  rw [settles, settles, withinQuota_eq_of_quotaEntry h]

theorem settle_eq_of_quotaEntry (h : ∀ id, r'.quotaEntry month id = r.quotaEntry month id) :
    settle month r' clientName = settle month r clientName := by
  funext c
  rw [settle, settle, withinQuota_eq_of_quotaEntry h]

theorem usable_iff : Candidate.usable now r c = true ↔ Usable now r c.1.channelId := decide_eq_true_iff

theorem filter_usable_of_not {ch : ResolvedChannel} {m : ResolvedMapping} (rest : List Candidate)
    (h : (!r.hasApiKey ch.channelId) = true ∨ ¬ r.isHealthy now ch.channelId = true) :
    ((ch, m) :: rest).filter (Candidate.usable now r) = rest.filter (Candidate.usable now r) := by
  rw [List.filter_cons, if_neg]
  rw [usable_iff]
  rintro ⟨hk, hh⟩
  obtain hkey | hhealth := h
  · rw [hk] at hkey
    cases hkey
  · exact hhealth hh

theorem filter_usable_of_checks {ch : ResolvedChannel} {m : ResolvedMapping} (rest : List Candidate)
    (hkey : ¬ (!r.hasApiKey ch.channelId) = true) (hhealthy : r.isHealthy now ch.channelId = true) :
    ((ch, m) :: rest).filter (Candidate.usable now r) = (ch, m) :: rest.filter (Candidate.usable now r) := by
  rw [List.filter_cons, if_pos]
  exact usable_iff.mpr ⟨by simpa using hkey, hhealthy⟩

theorem tryFlatFee_eq (r : RouterState) (cs : List Candidate) : (tryFlatFee now month clientName r cs).1 =
    ((cs.filter (Candidate.usable now r)).find? (settles month r)).map (settle month r clientName) := by
  fun_induction tryFlatFee now month clientName r cs with
  | case1 r => rfl
  | case2 r ch m rest hk ih => rw [ih, filter_usable_of_not rest (.inl hk)]
  | case3 r ch m rest hk hh ih => rw [ih, filter_usable_of_not rest (.inr (by simpa using hh))]
  | case4 r ch m rest hk hh hint quota onExhausted hb check hc =>
    have hwithin : withinQuota month r (ch, m) = true := by
      rw [withinQuota, hb]
      exact hc
    rw [filter_usable_of_checks rest hk (by simpa using hh), List.find?_cons, settles, hwithin]
    simp [settle, hwithin]
  | case5 r ch m rest hk hh hint quota check hc hb =>
    have hwithin : withinQuota month r (ch, m) = false := by
      rw [withinQuota, hb]
      exact Bool.eq_false_iff.mpr hc
    have hblocks : blocks (ch, m) = true := by
      rw [blocks, hb]
      rfl
    rw [filter_usable_of_checks rest hk (by simpa using hh), List.find?_cons, settles, hwithin, hblocks]
    simp [settle, hwithin]
  | case6 r ch m rest hk hh hint quota onExhausted hb check hc hb' ih =>
    have hwithin : withinQuota month r (ch, m) = false := by
      rw [withinQuota, hb]
      exact Bool.eq_false_iff.mpr hc
    have hblocks : blocks (ch, m) = false := by
      rw [blocks, hb]
      exact decide_eq_false hb'
    have hquota : ∀ id, check.2.quotaEntry month id = r.quotaEntry month id :=
      fun id => quotaEntry_quotaCheck r month m.mappingId id quota
    have husable := @usable_eq_of_sameView now r check.2 (quotaCheck_sameView r month m.mappingId quota)
    have hsettles : settles month r (ch, m) = false := by rw [settles, hwithin, hblocks, Bool.or_false]
    rw [ih, filter_usable_of_checks rest hk (by simpa using hh), List.find?_cons, hsettles, husable,
      settles_eq_of_quotaEntry hquota, settle_eq_of_quotaEntry hquota]
  | case7 r ch m rest hk hh p hb ih =>
    have hsettles : settles month r (ch, m) = false := by simp [settles, withinQuota, blocks, hb]
    rw [ih, filter_usable_of_checks rest hk (by simpa using hh), List.find?_cons, hsettles]

theorem tryMetered_eq (r : RouterState) (cs : List Candidate) :
    tryMetered now r cs = (cs.filter (Candidate.usable now r)).head? := by
  fun_induction tryMetered now r cs with
  | case1 => rfl
  | case2 ch m rest hk ih => rw [ih, filter_usable_of_not rest (.inl hk)]
  | case3 ch m rest hk hh => rw [filter_usable_of_checks rest hk hh, List.head?_cons]
  | case4 ch m rest hk hh ih => rw [ih, filter_usable_of_not rest (.inr hh)]

theorem tryPastCooldown_eq (r : RouterState) (cs : List Candidate) :
    tryPastCooldown now r cs = (cs.filter (Candidate.usable now r)).head? := by
  rw [tryPastCooldown_eq_tryMetered, tryMetered_eq]

theorem selectChannel_eq (r : RouterState) (cs : List Candidate) : (selectChannel now month r cs clientName).1 =
    preferred month r clientName (cs.filter (Candidate.usable now r))
      ((flatFeeFirst cs).filter (Candidate.usable now r)) ((meteredNext cs).filter (Candidate.usable now r)) := by
  have hfirst := @tryFlatFee_eq now month clientName r (flatFeeFirst cs)
  have husable := @usable_eq_of_sameView now _ _ (tryFlatFee_sameView now month clientName r (flatFeeFirst cs))
  unfold selectChannel preferred
  split
  · rename_i result r' hf
    rw [hf] at hfirst
    obtain ⟨c, hc, hresult⟩ := Option.map_eq_some_iff.mp hfirst.symm
    rw [hc]
    exact hresult.symm
  · rename_i r' hf
    rw [hf] at hfirst husable
    rw [Option.map_eq_none_iff.mp hfirst.symm, tryMetered_eq, tryPastCooldown_eq, husable]
    rcases hmetered : ((meteredNext cs).filter (Candidate.usable now r)).head? with _ | c
    · rcases hany : (cs.filter (Candidate.usable now r)).head? with _ | c
      · rfl
      · rfl
    · rfl

theorem ranked_usable (p : Candidate → Bool) (cs : List Candidate) : Ranked priority
    ((cs.filter (Candidate.usable now r)).filter p) ((sortByPriority (cs.filter p)).filter (Candidate.usable now r)) := by
  have hranked : Ranked priority (cs.filter p) (sortByPriority (cs.filter p)) := ranked_insertionSort priority _
  have hcomm : (cs.filter (Candidate.usable now r)).filter p = (cs.filter p).filter (Candidate.usable now r) := by
    simp only [List.filter_filter, Bool.and_comm]
  rw [hcomm]
  exact hranked.filter _

section

variable {usable flatFee metered : List Candidate}

theorem settle_eq_ok_iff {d : Candidate} :
    settle month r clientName d = .ok c ↔ d = c ∧ withinQuota month r d = true := by
  unfold settle
  split
  · rename_i h
    simp [h]
  · rename_i h
    simp [h]

theorem preferred_mem (hflat : Ranked priority (usable.filter isFlatFee) flatFee)
    (hmetered : Ranked priority (usable.filter fun c => !isFlatFee c) metered)
    (h : preferred month r clientName usable flatFee metered = .ok c) : c ∈ usable := by
  unfold preferred at h
  split at h
  · rename_i d hd
    obtain ⟨rfl, -⟩ := settle_eq_ok_iff.mp h
    exact (List.mem_filter.mp (hflat.mem_iff.mp (List.mem_of_find?_eq_some hd))).1
  · split at h
    · rename_i d hd
      cases h
      exact (List.mem_filter.mp (hmetered.mem_iff.mp (List.mem_of_head? hd))).1
    · split at h
      · rename_i d hd
        cases h
        exact List.mem_of_head? hd
      · cases h

theorem usable_ne_nil_of_find? (hflat : Ranked priority (usable.filter isFlatFee) flatFee)
    (h : flatFee.find? (settles month r) = some c) : usable ≠ [] := by
  rintro rfl
  rw [hflat.nil_iff.mpr rfl] at h
  cases h

theorem usable_ne_nil_of_head? (hmetered : Ranked priority (usable.filter fun c => !isFlatFee c) metered)
    (h : metered.head? = some c) : usable ≠ [] := by
  rintro rfl
  rw [hmetered.nil_iff.mpr rfl] at h
  cases h

theorem preferred_error_iff (hflat : Ranked priority (usable.filter isFlatFee) flatFee)
    (hmetered : Ranked priority (usable.filter fun c => !isFlatFee c) metered) :
    (∃ e, preferred month r clientName usable flatFee metered = .error e) ↔
      (∃ c, flatFee.find? (settles month r) = some c ∧ withinQuota month r c = false) ∨ usable = [] := by
  unfold preferred
  rcases hfind : flatFee.find? (settles month r) with _ | d
  · rcases hhead : metered.head? with _ | d
    · rcases husable : usable.head? with _ | d
      · simp [List.head?_eq_none_iff.mp husable]
      · have hne : usable ≠ [] := by
          rintro rfl
          cases husable
        simp [hne]
    · simp [usable_ne_nil_of_head? hmetered hhead]
  · by_cases hwithin : withinQuota month r d = true
    · simp [settle, hwithin, usable_ne_nil_of_find? hflat hfind]
    · simp [settle, hwithin, usable_ne_nil_of_find? hflat hfind]

/-- No usable candidate is metered, and none of the flat-fee ones ends the first loop. -/
def AllExhausted (month : ℕ) (r : RouterState) (usable : List Candidate) : Prop :=
  ∀ c ∈ usable, isFlatFee c = true ∧ settles month r c = false

theorem preferred_of_allExhausted (hflat : Ranked priority (usable.filter isFlatFee) flatFee)
    (hmetered : Ranked priority (usable.filter fun c => !isFlatFee c) metered) (h : AllExhausted month r usable)
    (hhead : usable.head? = some c) : preferred month r clientName usable flatFee metered = .ok c := by
  have hfind : flatFee.find? (settles month r) = none := by
    rw [List.find?_eq_none]
    intro d hd
    rw [(h d (List.mem_filter.mp (hflat.mem_iff.mp hd)).1).2]
    exact Bool.false_ne_true
  have hnone : metered = [] := by
    rw [hmetered.nil_iff, List.filter_eq_nil_iff]
    intro d hd
    rw [(h d hd).1]
    exact Bool.false_ne_true
  simp [preferred, hfind, hnone, hhead]

theorem preferred_within (hflat : Ranked priority (usable.filter isFlatFee) flatFee)
    (hmetered : Ranked priority (usable.filter fun c => !isFlatFee c) metered) (h : ¬ AllExhausted month r usable)
    (hpreferred : preferred month r clientName usable flatFee metered = .ok c) (hfee : isFlatFee c = true) :
    withinQuota month r c = true := by
  unfold preferred at hpreferred
  split at hpreferred
  · obtain ⟨rfl, hwithin⟩ := settle_eq_ok_iff.mp hpreferred
    exact hwithin
  · rename_i hfind
    split at hpreferred
    · rename_i d hd
      cases hpreferred
      have hnot := (List.mem_filter.mp (hmetered.mem_iff.mp (List.mem_of_head? hd))).2
      rw [hfee] at hnot
      cases hnot
    · rename_i hhead
      have hnone := List.filter_eq_nil_iff.mp (hmetered.nil_iff.mp (List.head?_eq_none_iff.mp hhead))
      exfalso
      apply h
      intro d hd
      have hflatFee : isFlatFee d = true := by simpa using hnone d hd
      have hmem : d ∈ flatFee := hflat.mem_iff.mpr (List.mem_filter.mpr ⟨hd, hflatFee⟩)
      exact ⟨hflatFee, Bool.eq_false_iff.mpr (List.find?_eq_none.mp hfind d hmem)⟩

theorem not_allExhausted_iff {cs : List Candidate} :
    ¬ AllExhausted month r (cs.filter (Candidate.usable now r)) ↔ ∃ c ∈ cs, Usable now r c.1.channelId ∧
      (isFlatFee c = false ∨ withinQuota month r c = true ∨ blocks c = true) := by
  simp only [AllExhausted, not_forall, List.mem_filter, usable_iff, settles, Bool.or_eq_false_iff, not_and_or,
    Bool.not_eq_true, Bool.not_eq_false, exists_prop, and_assoc]

end

end

theorem selection_exact (now month : ℕ) (r : RouterState) (channels : List ResolvedChannel) (clientName : String) :
    let usable := (findCandidates channels clientName).filter (Candidate.usable now r)
    let result := (selectChannel now month r (findCandidates channels clientName) clientName).1
    ∃ flatFee metered, Ranked priority (usable.filter isFlatFee) flatFee ∧
      Ranked priority (usable.filter fun c => !isFlatFee c) metered ∧
      result = preferred month r clientName usable flatFee metered ∧
      ((∃ e, result = .error e) ↔
        (∃ c, flatFee.find? (settles month r) = some c ∧ withinQuota month r c = false) ∨ usable = []) ∧
      ∀ c, result = .ok c → c ∈ usable := by
  intro usable result
  have hflat := @ranked_usable now r isFlatFee (findCandidates channels clientName)
  have hmetered := @ranked_usable now r (fun c => !isFlatFee c) (findCandidates channels clientName)
  have hresult : result = _ := selectChannel_eq r (findCandidates channels clientName)
  refine ⟨_, _, hflat, hmetered, hresult, ?_, ?_⟩
  · rw [hresult]
    exact preferred_error_iff hflat hmetered
  · intro c hc
    rw [hresult] at hc
    exact preferred_mem hflat hmetered hc

theorem exhausted_unselected_iff (now month : ℕ) (r : RouterState) (channels : List ResolvedChannel)
    (clientName : String) :
    (∀ c, (selectChannel now month r (findCandidates channels clientName) clientName).1 = .ok c →
        isFlatFee c = true → withinQuota month r c = true) ↔
      (∀ c ∈ findCandidates channels clientName, ¬ Usable now r c.1.channelId) ∨
        ∃ c ∈ findCandidates channels clientName, Usable now r c.1.channelId ∧
          (isFlatFee c = false ∨ withinQuota month r c = true ∨ blocks c = true) := by
  have hflat := @ranked_usable now r isFlatFee (findCandidates channels clientName)
  have hmetered := @ranked_usable now r (fun c => !isFlatFee c) (findCandidates channels clientName)
  rw [selectChannel_eq, ← not_allExhausted_iff]
  constructor
  · intro h
    by_cases hall : AllExhausted month r ((findCandidates channels clientName).filter (Candidate.usable now r))
    · rcases hhead : ((findCandidates channels clientName).filter (Candidate.usable now r)).head? with _ | c
      · refine .inl fun c hc husable => ?_
        exact List.filter_eq_nil_iff.mp (List.head?_eq_none_iff.mp hhead) c hc (usable_iff.mpr husable)
      · obtain ⟨hfee, hexhausted⟩ := hall c (List.mem_of_head? hhead)
        have hwithin := h c (preferred_of_allExhausted hflat hmetered hall hhead) hfee
        rw [settles, hwithin, Bool.true_or] at hexhausted
        cases hexhausted
    · exact .inr hall
  · rintro (hnone | hall) c hc hfee
    · obtain ⟨hmem, husable⟩ := List.mem_filter.mp (preferred_mem hflat hmetered hc)
      exact absurd (usable_iff.mp husable) (hnone c hmem)
    · exact preferred_within hflat hmetered hall hc hfee

def Sample.plan : ResolvedMapping := ⟨"m1", "sonnet", "sonnet", .flatFee none (some (.maxRequests 1)) .fallbackToMetered, []⟩

def Sample.planChannel : ResolvedChannel :=
  ⟨"deepseek", "DeepSeek", "sk", [⟨"openai_chat", "https://api.example", none⟩], true, none, 0, [Sample.plan]⟩

def Sample.drained : RouterState where
  channels := [Sample.planChannel]
  health := fun _ => none
  quotaUsage := fun _ => some ⟨1, 0, 0⟩
  channelApiKeys := fun _ => none

theorem exhausted_plan_selected :
    (selectChannel 0 0 Sample.drained (findCandidates Sample.drained.channels "sonnet") "sonnet").1 =
        .ok (Sample.planChannel, Sample.plan) ∧
      isFlatFee (Sample.planChannel, Sample.plan) = true ∧
      withinQuota 0 Sample.drained (Sample.planChannel, Sample.plan) = false := by
  decide +kernel

end AgentProxy.Router
