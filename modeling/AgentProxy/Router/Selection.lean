import AgentProxy.Router.Resolve

namespace AgentProxy.Router

def findCandidates (channels : List ResolvedChannel) (clientName : String) : List Candidate :=
  channels.flatMap fun ch =>
    if ch.enabled then (ch.mappings.filter fun m => m.clientName = clientName).map fun m => (ch, m) else []

/-- `sort_by_key(Reverse(priority))`: insertion sort is stable, as the source's sort is. -/
def sortByPriority (candidates : List Candidate) : List Candidate :=
  candidates.insertionSort fun a b => b.1.priority ≤ a.1.priority

def flatFeeFirst (candidates : List Candidate) : List Candidate :=
  sortByPriority (candidates.filter fun c => c.2.billing.isFlatFee)

def meteredNext (candidates : List Candidate) : List Candidate :=
  sortByPriority (candidates.filter fun c => !c.2.billing.isFlatFee)

namespace RouterState

def hasApiKey (r : RouterState) (id : String) : Bool :=
  match r.channelApiKeys id with
  | some key => !key.isEmpty
  | none => r.channels.any fun ch => ch.channelId = id ∧ ch.apiKey.isEmpty = false

def isTryablePastCooldown (r : RouterState) (now : ℕ) (id : String) : Bool :=
  match r.health id with
  | none => true
  | some s => s.isTryablePastCooldown now

def isHealthy (r : RouterState) (now : ℕ) (id : String) : Bool :=
  match r.health id with
  | none => true
  | some s => s.isTryablePastCooldown now

def quotaEntry (r : RouterState) (month : ℕ) (id : String) : QuotaUsage :=
  (r.quotaUsage id).getD (QuotaUsage.new month)

def setQuota (r : RouterState) (id : String) (u : QuotaUsage) : RouterState :=
  { r with quotaUsage := Function.update r.quotaUsage id (some u) }

def setHealth (r : RouterState) (id : String) (s : ChannelState) : RouterState :=
  { r with health := Function.update r.health id (some s) }

def quotaCheck (r : RouterState) (month : ℕ) (id : String) (quota : Option Quota) : Bool × RouterState :=
  ((r.quotaEntry month id).isWithinQuota quota, r.setQuota id (r.quotaEntry month id))

end RouterState

def tryFlatFee (now month : ℕ) (clientName : String) :
    RouterState → List Candidate → Option (Except ProxyError Candidate) × RouterState
  | r, [] => (none, r)
  | r, (ch, m) :: rest =>
    if !r.hasApiKey ch.channelId then tryFlatFee now month clientName r rest
    else if !r.isHealthy now ch.channelId then tryFlatFee now month clientName r rest
    else
      match m.billing with
      | .flatFee _ quota onExhausted =>
        let check := r.quotaCheck month m.mappingId quota
        if check.1 then (some (.ok (ch, m)), check.2)
        else if onExhausted = .block then (some (.error (.channelSelection clientName)), check.2)
        else tryFlatFee now month clientName check.2 rest
      | .metered _ => tryFlatFee now month clientName r rest

def tryMetered (now : ℕ) (r : RouterState) : List Candidate → Option Candidate
  | [] => none
  | (ch, m) :: rest =>
    if !r.hasApiKey ch.channelId then tryMetered now r rest
    else if r.isHealthy now ch.channelId then some (ch, m)
    else tryMetered now r rest

def tryPastCooldown (now : ℕ) (r : RouterState) : List Candidate → Option Candidate
  | [] => none
  | (ch, m) :: rest =>
    if !r.hasApiKey ch.channelId then tryPastCooldown now r rest
    else if r.isTryablePastCooldown now ch.channelId then some (ch, m)
    else tryPastCooldown now r rest

def selectChannel (now month : ℕ) (r : RouterState) (candidates : List Candidate) (clientName : String) :
    Except ProxyError Candidate × RouterState :=
  match tryFlatFee now month clientName r (flatFeeFirst candidates) with
  | (some result, r') => (result, r')
  | (none, r') =>
    match tryMetered now r' (meteredNext candidates) with
    | some c => (.ok c, r')
    | none =>
      match tryPastCooldown now r' candidates with
      | some c => (.ok c, r')
      | none => (.error (.channelSelection clientName), r')

def Usable (now : ℕ) (r : RouterState) (id : String) : Prop :=
  r.hasApiKey id = true ∧ r.isTryablePastCooldown now id = true

def SameView (r r' : RouterState) : Prop :=
  r'.channels = r.channels ∧ r'.health = r.health ∧ r'.channelApiKeys = r.channelApiKeys

theorem SameView.refl (r : RouterState) : SameView r r := ⟨rfl, rfl, rfl⟩

theorem SameView.trans {r s t : RouterState} (h : SameView r s) (h' : SameView s t) : SameView r t :=
  ⟨h'.1.trans h.1, h'.2.1.trans h.2.1, h'.2.2.trans h.2.2⟩

theorem SameView.usable {r r' : RouterState} (h : SameView r r') {now : ℕ} {id : String} :
    Usable now r' id ↔ Usable now r id := by
  obtain ⟨hc, hh, hk⟩ := h
  simp only [Usable, RouterState.hasApiKey, RouterState.isTryablePastCooldown, hc, hh, hk]

theorem quotaCheck_sameView (r : RouterState) (month : ℕ) (id : String) (quota : Option Quota) :
    SameView r (r.quotaCheck month id quota).2 := ⟨rfl, rfl, rfl⟩

theorem tryFlatFee_sameView (now month : ℕ) (clientName : String) (r : RouterState) (cs : List Candidate) :
    SameView r (tryFlatFee now month clientName r cs).2 := by
  fun_induction tryFlatFee now month clientName r cs with
  | case1 r => exact SameView.refl r
  | case2 r ch m rest hk ih => exact ih
  | case3 r ch m rest hk hh ih => exact ih
  | case4 r ch m rest hk hh hint quota => exact quotaCheck_sameView r month m.mappingId quota
  | case5 r ch m rest hk hh hint quota => exact quotaCheck_sameView r month m.mappingId quota
  | case6 r ch m rest hk hh hint quota onExhausted hb check hc hb' ih =>
    exact (quotaCheck_sameView r month m.mappingId quota).trans ih
  | case7 r ch m rest hk hh p hb ih => exact ih

theorem tryFlatFee_usable {now month : ℕ} {clientName : String} {r : RouterState} {cs : List Candidate}
    {c : Candidate} (h : (tryFlatFee now month clientName r cs).1 = some (.ok c)) :
    c ∈ cs ∧ Usable now r c.1.channelId := by
  fun_induction tryFlatFee now month clientName r cs with
  | case1 r => cases h
  | case2 r ch m rest hk ih => exact ⟨List.mem_cons_of_mem _ (ih h).1, (ih h).2⟩
  | case3 r ch m rest hk hh ih => exact ⟨List.mem_cons_of_mem _ (ih h).1, (ih h).2⟩
  | case4 r ch m rest hk hh hint quota onExhausted hb check hc =>
    cases h
    have hh' : r.isHealthy now ch.channelId = true := by simpa using hh
    exact ⟨List.mem_cons_self, by simpa using hk, hh'⟩
  | case5 => cases h
  | case6 r ch m rest hk hh hint quota onExhausted hb check hc hb' ih =>
    exact ⟨List.mem_cons_of_mem _ (ih h).1, (quotaCheck_sameView r month m.mappingId quota).usable.mp (ih h).2⟩
  | case7 r ch m rest hk hh p hb ih => exact ⟨List.mem_cons_of_mem _ (ih h).1, (ih h).2⟩

theorem tryMetered_usable {now : ℕ} {r : RouterState} {cs : List Candidate} {c : Candidate}
    (h : tryMetered now r cs = some c) : c ∈ cs ∧ Usable now r c.1.channelId := by
  fun_induction tryMetered now r cs with
  | case1 => cases h
  | case2 ch m rest hk ih => exact ⟨List.mem_cons_of_mem _ (ih h).1, (ih h).2⟩
  | case3 ch m rest hk hh =>
    cases h
    exact ⟨List.mem_cons_self, by simpa using hk, hh⟩
  | case4 ch m rest hk hh ih => exact ⟨List.mem_cons_of_mem _ (ih h).1, (ih h).2⟩

/-- The last resort asks of a channel what the metered pass asks. -/
theorem tryPastCooldown_eq_tryMetered (now : ℕ) (r : RouterState) (cs : List Candidate) :
    tryPastCooldown now r cs = tryMetered now r cs := by
  have htryable : r.isTryablePastCooldown now = r.isHealthy now := rfl
  induction cs with
  | nil => rfl
  | cons c cs ih => rw [tryPastCooldown, tryMetered, ih, htryable]

theorem tryPastCooldown_usable {now : ℕ} {r : RouterState} {cs : List Candidate} {c : Candidate}
    (h : tryPastCooldown now r cs = some c) : c ∈ cs ∧ Usable now r c.1.channelId := by
  rw [tryPastCooldown_eq_tryMetered] at h
  exact tryMetered_usable h

theorem mem_sortByPriority {candidates : List Candidate} {c : Candidate} :
    c ∈ sortByPriority candidates ↔ c ∈ candidates := (List.perm_insertionSort _ _).mem_iff

theorem selectChannel_sameView (now month : ℕ) (r : RouterState) (candidates : List Candidate)
    (clientName : String) : SameView r (selectChannel now month r candidates clientName).2 := by
  have h := tryFlatFee_sameView now month clientName r (flatFeeFirst candidates)
  unfold selectChannel
  split
  · rename_i hf; rwa [hf] at h
  · rename_i hf
    rw [hf] at h
    split
    · exact h
    · split <;> exact h

theorem selectChannel_usable {now month : ℕ} {r : RouterState} {candidates : List Candidate}
    {clientName : String} {c : Candidate}
    (h : (selectChannel now month r candidates clientName).1 = .ok c) :
    c ∈ candidates ∧ Usable now r c.1.channelId := by
  have hview := tryFlatFee_sameView now month clientName r (flatFeeFirst candidates)
  unfold selectChannel at h
  split at h
  · rename_i result r' hf
    obtain ⟨hm, hu⟩ := tryFlatFee_usable (c := c) (by rw [hf]; exact congrArg some h)
    exact ⟨(List.mem_filter.mp (mem_sortByPriority.mp hm)).1, hu⟩
  · rename_i r' hf
    rw [hf] at hview
    split at h
    · rename_i d hd
      cases h
      obtain ⟨hm, hu⟩ := tryMetered_usable hd
      exact ⟨(List.mem_filter.mp (mem_sortByPriority.mp hm)).1, hview.usable.mp hu⟩
    · split at h
      · rename_i d hd
        cases h
        obtain ⟨hm, hu⟩ := tryPastCooldown_usable hd
        exact ⟨hm, hview.usable.mp hu⟩
      · cases h

theorem tryFlatFee_error {now month : ℕ} {clientName : String} {r : RouterState} {cs : List Candidate}
    {e : ProxyError} (h : (tryFlatFee now month clientName r cs).1 = some (.error e)) :
    e = .channelSelection clientName := by
  fun_induction tryFlatFee now month clientName r cs with
  | case1 r => cases h
  | case2 r ch m rest hk ih => exact ih h
  | case3 r ch m rest hk hh ih => exact ih h
  | case4 r ch m rest hk hh hint quota => cases h
  | case5 r ch m rest hk hh hint quota =>
    cases h
    rfl
  | case6 r ch m rest hk hh hint quota onExhausted hb check hc hb' ih => exact ih h
  | case7 r ch m rest hk hh p hb ih => exact ih h

theorem selectChannel_error {now month : ℕ} {r : RouterState} {candidates : List Candidate} {clientName : String}
    {e : ProxyError} (h : (selectChannel now month r candidates clientName).1 = .error e) :
    e = .channelSelection clientName := by
  unfold selectChannel at h
  split at h
  · rename_i result r' hf
    exact tryFlatFee_error (by rw [hf]; exact congrArg some h)
  · split at h
    · cases h
    · split at h
      · cases h
      · cases h
        rfl

theorem mem_findCandidates {channels : List ResolvedChannel} {clientName : String} {c : Candidate}
    (h : c ∈ findCandidates channels clientName) : c.1 ∈ channels ∧ c.2 ∈ c.1.mappings := by
  obtain ⟨ch, hch, hc⟩ := List.mem_flatMap.mp h
  split_ifs at hc with he
  · obtain ⟨m, hm, rfl⟩ := List.mem_map.mp hc
    exact ⟨hch, (List.mem_filter.mp hm).1⟩
  · cases hc

section

variable {now month : ℕ} {clientName : String} {r : RouterState} {cs : List Candidate} {c : Candidate}

theorem quotaEntry_quotaCheck (r : RouterState) (month : ℕ) (id id' : String) (quota : Option Quota) :
    (r.quotaCheck month id quota).2.quotaEntry month id' = r.quotaEntry month id' := by
  simp only [RouterState.quotaCheck, RouterState.setQuota, RouterState.quotaEntry]
  by_cases h : id' = id
  · subst h
    rw [Function.update_self, Option.getD_some]
  · rw [Function.update_of_ne h]

theorem tryFlatFee_quotaEntry (r : RouterState) (cs : List Candidate) (id : String) :
    (tryFlatFee now month clientName r cs).2.quotaEntry month id = r.quotaEntry month id := by
  fun_induction tryFlatFee now month clientName r cs with
  | case1 r => rfl
  | case2 r ch m rest hk ih => exact ih
  | case3 r ch m rest hk hh ih => exact ih
  | case4 r ch m rest hk hh hint quota => exact quotaEntry_quotaCheck r month m.mappingId id quota
  | case5 r ch m rest hk hh hint quota => exact quotaEntry_quotaCheck r month m.mappingId id quota
  | case6 r ch m rest hk hh hint quota onExhausted hb check hc hb' ih =>
    exact ih.trans (quotaEntry_quotaCheck r month m.mappingId id quota)
  | case7 r ch m rest hk hh p hb ih => exact ih

theorem selectChannel_quotaEntry (r : RouterState) (candidates : List Candidate) (id : String) :
    (selectChannel now month r candidates clientName).2.quotaEntry month id = r.quotaEntry month id := by
  have h := @tryFlatFee_quotaEntry now month clientName r (flatFeeFirst candidates) id
  unfold selectChannel
  split
  · rename_i hf
    rwa [hf] at h
  · rename_i hf
    rw [hf] at h
    split
    · exact h
    · split
      · exact h
      · exact h

theorem tryFlatFee_within (h : (tryFlatFee now month clientName r cs).1 = some (.ok c)) :
    ∃ hint quota onExhausted, c.2.billing = .flatFee hint quota onExhausted ∧
      (r.quotaEntry month c.2.mappingId).isWithinQuota quota = true := by
  fun_induction tryFlatFee now month clientName r cs with
  | case1 r => cases h
  | case2 r ch m rest hk ih => exact ih h
  | case3 r ch m rest hk hh ih => exact ih h
  | case4 r ch m rest hk hh hint quota onExhausted hb check hc =>
    cases h
    exact ⟨hint, quota, onExhausted, hb, hc⟩
  | case5 => cases h
  | case6 r ch m rest hk hh hint quota onExhausted hb check hc hb' ih =>
    obtain ⟨hint', quota', onExhausted', hbilling, hwithin⟩ := ih h
    exact ⟨hint', quota', onExhausted', hbilling, by rwa [quotaEntry_quotaCheck] at hwithin⟩
  | case7 r ch m rest hk hh p hb ih => exact ih h

theorem tryFlatFee_none (h : (tryFlatFee now month clientName r cs).1 = none) (hc : c ∈ cs)
    (hu : Usable now r c.1.channelId) {hint : Option ℚ} {quota : Option Quota} {onExhausted : ExhaustedAction}
    (hbilling : c.2.billing = .flatFee hint quota onExhausted) : onExhausted ≠ .block := by
  fun_induction tryFlatFee now month clientName r cs with
  | case1 r => cases hc
  | case2 r ch m rest hk ih =>
    obtain rfl | hc := List.mem_cons.mp hc
    · rw [hu.1] at hk
      cases hk
    · exact ih h hc hu
  | case3 r ch m rest hk hh ih =>
    obtain rfl | hc := List.mem_cons.mp hc
    · have hhealthy : r.isHealthy now ch.channelId = true := hu.2
      rw [hhealthy] at hh
      cases hh
    · exact ih h hc hu
  | case4 r ch m rest hk hh hint quota onExhausted hb check hcheck => cases h
  | case5 => cases h
  | case6 r ch m rest hk hh hint' quota' onExhausted' hb check hcheck hb' ih =>
    obtain rfl | hc := List.mem_cons.mp hc
    · rw [hb] at hbilling
      cases hbilling
      exact hb'
    · exact ih h hc ((quotaCheck_sameView r month m.mappingId quota').usable.mpr hu)
  | case7 r ch m rest hk hh p hb ih =>
    obtain rfl | hc := List.mem_cons.mp hc
    · rw [hb] at hbilling
      cases hbilling
    · exact ih h hc hu

theorem selectChannel_within {hint : Option ℚ} {quota : Option Quota}
    (h : (selectChannel now month r cs clientName).1 = .ok c) (hbilling : c.2.billing = .flatFee hint quota .block) :
    (r.quotaEntry month c.2.mappingId).isWithinQuota quota = true := by
  have hflat : c.2.billing.isFlatFee = true := by rw [hbilling]; rfl
  have hview := tryFlatFee_sameView now month clientName r (flatFeeFirst cs)
  unfold selectChannel at h
  split at h
  · rename_i result r' hf
    have hfirst : (tryFlatFee now month clientName r (flatFeeFirst cs)).1 = some (.ok c) := by
      rw [hf]
      exact congrArg some h
    obtain ⟨hint', quota', onExhausted', hbilling', hwithin⟩ := tryFlatFee_within hfirst
    rw [hbilling] at hbilling'
    cases hbilling'
    exact hwithin
  · rename_i r' hf
    rw [hf] at hview
    have hnone : (tryFlatFee now month clientName r (flatFeeFirst cs)).1 = none := by rw [hf]
    split at h
    · rename_i d hd
      cases h
      have hmetered := (List.mem_filter.mp (mem_sortByPriority.mp (tryMetered_usable hd).1)).2
      rw [hflat] at hmetered
      cases hmetered
    · split at h
      · rename_i d hd
        cases h
        obtain ⟨hmem, hu⟩ := tryPastCooldown_usable hd
        have hfirst : c ∈ flatFeeFirst cs := mem_sortByPriority.mpr (List.mem_filter.mpr ⟨hmem, hflat⟩)
        exact absurd rfl (tryFlatFee_none hnone hfirst (hview.usable.mp hu) hbilling)
      · cases h

end

end AgentProxy.Router
