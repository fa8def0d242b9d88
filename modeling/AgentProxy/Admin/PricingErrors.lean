import AgentProxy.Admin.Handlers

namespace AgentProxy.Admin.PricingErrors

open Storage Router

/-- The stored pricing does not deserialize into what the mapping's billing mode expects. -/
def Unparseable (serde : Serde) (m : ModelMapping) : Prop :=
  (m.billing = "metered" ∧ ∃ e, serde.pricing m.pricingJson = .error e) ∨
    (m.billing = "flatfee" ∧ ∃ e, serde.flatFee m.pricingJson = .error e)

def billingOf (serde : Serde) (m : ModelMapping) : Except String ChannelBilling :=
  ChannelBilling.fromStorage serde.pricing serde.flatFee m.billing m.pricingJson

def Routed (channels : List ResolvedChannel) (id : String) : Prop := ∃ ch ∈ channels, ∃ rm ∈ ch.mappings, rm.mappingId = id

structure Refused (serde : Serde) (s : AdminState) (m : ModelMapping) : Prop where
  billing : ∃ e, billingOf serde m = .error e
  loaded : ¬ Routed (fromStorage serde s.storage).channels m.id
  reloaded : ¬ Routed (s.reloadChannels serde).router.channels m.id
  limited : ∀ hint onExhausted, billingOf serde m ≠ .ok (.flatFee hint none onExhausted)

section

variable {serde : Serde} {db : Database} {m : ModelMapping}

theorem resolveMapping_eq_none_iff : resolveMapping serde m = none ↔ ∃ e, billingOf serde m = .error e := by
  unfold resolveMapping billingOf
  split
  · rename_i billing h
    simp [h]
  · rename_i e h
    simp [h]

theorem mem_listMappings {id : String} : m ∈ listMappings db id ↔ m ∈ db.mappings.rows ∧ m.channelId = id := by
  rw [listMappings, List.mem_insertionSort, List.mem_filter, decide_eq_true_eq]

theorem resolveMapping_id {rm : ResolvedMapping} (h : resolveMapping serde m = some rm) : rm.mappingId = m.id := by
  unfold resolveMapping at h
  split at h
  · cases h
    rfl
  · cases h

theorem not_routed_of_refused (hm : m ∈ db.mappings.rows) (h : resolveMapping serde m = none) :
    ¬ Routed (resolveChannels serde db) m.id := by
  rintro ⟨rc, hrc, rm, hrm, hid⟩
  obtain ⟨ch, -, hresolve⟩ := List.mem_filterMap.mp hrc
  rw [resolveChannel_mappings serde hresolve] at hrm
  obtain ⟨row, hrow, hrowrm⟩ := List.mem_filterMap.mp hrm
  have hstored := (mem_listMappings.mp (List.mem_filter.mp hrow).1).1
  have hsame : row = m := db.mappings.key_inj hstored hm ((resolveMapping_id hrowrm).symm.trans hid)
  rw [hsame, h] at hrowrm
  cases hrowrm

theorem billingOf_metered {e : String} (hbilling : m.billing = "metered") (h : serde.pricing m.pricingJson = .error e) :
    billingOf serde m = .error ("failed to parse pricing JSON: " ++ e) := by
  simp [billingOf, ChannelBilling.fromStorage, hbilling, h]

theorem billingOf_flatFee {e : String} (hbilling : m.billing = "flatfee") (h : serde.flatFee m.pricingJson = .error e) :
    billingOf serde m = .ok (.flatFee none none .fallbackToMetered) := by
  simp [billingOf, ChannelBilling.fromStorage, hbilling, h, Except.toOption]

theorem refused_of_error {s : AdminState} {e : String} (hm : m ∈ s.storage.mappings.rows)
    (h : billingOf serde m = .error e) : Refused serde s m := by
  have hnone := resolveMapping_eq_none_iff.mpr ⟨e, h⟩
  refine ⟨⟨e, h⟩, not_routed_of_refused hm hnone, not_routed_of_refused hm hnone, ?_⟩
  intro hint onExhausted hok
  rw [h] at hok
  cases hok

end

theorem unparseable_refused_iff (serde : Serde) (s : AdminState) (m : ModelMapping)
    (hm : m ∈ s.storage.mappings.rows) (h : Unparseable serde m) : Refused serde s m ↔ m.billing = "metered" := by
  constructor
  · intro hrefused
    obtain ⟨hmetered, -⟩ | ⟨hflat, e, he⟩ := h
    · exact hmetered
    · exact absurd (billingOf_flatFee hflat he) (hrefused.limited none .fallbackToMetered)
  · intro hmetered
    obtain ⟨-, e, he⟩ | ⟨hflat, -⟩ := h
    · exact refused_of_error hm (billingOf_metered hmetered he)
    · rw [hmetered] at hflat
      exact absurd hflat (by decide)

namespace Sample

def badPlan : String :=
  "\x7b\"quota\":\x7b\"MaxRequests\":\x7b\"per_month\":\"100\"\x7d\x7d,\"on_exhausted\":\"block\"\x7d"

def mapping (billing : String) : ModelMapping := Router.Sample.mapping "m1" "deepseek" billing badPlan

def admin (billing : String) : AdminState :=
  let db : Database :=
    { Database.empty with
      channels := .single (Router.Sample.channel "deepseek" "DeepSeek" "sk"), mappings := .single (mapping billing) }
  ⟨db, fromStorage Router.Sample.serde db⟩

end Sample

theorem unparseable_metered_refused : Unparseable Router.Sample.serde (Sample.mapping "metered") ∧
    Refused Router.Sample.serde (Sample.admin "metered") (Sample.mapping "metered") := by
  have hbad : Unparseable Router.Sample.serde (Sample.mapping "metered") := .inl ⟨rfl, _, rfl⟩
  have hm : Sample.mapping "metered" ∈ (Sample.admin "metered").storage.mappings.rows := List.mem_singleton_self _
  exact ⟨hbad, (unparseable_refused_iff _ _ _ hm hbad).mpr rfl⟩

theorem unparseable_plan_unlimited : Unparseable Router.Sample.serde (Sample.mapping "flatfee") ∧
    billingOf Router.Sample.serde (Sample.mapping "flatfee") = .ok (.flatFee none none .fallbackToMetered) ∧
    Routed (fromStorage Router.Sample.serde (Sample.admin "flatfee").storage).channels "m1" ∧
    Routed ((Sample.admin "flatfee").reloadChannels Router.Sample.serde).router.channels "m1" :=
  ⟨.inr ⟨rfl, _, rfl⟩, rfl, ⟨_, List.mem_cons_self, _, List.mem_cons_self, rfl⟩,
    _, List.mem_cons_self, _, List.mem_cons_self, rfl⟩

end AgentProxy.Admin.PricingErrors
