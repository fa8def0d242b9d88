import AgentProxy.Admin.ProbeUrl
import AgentProxy.Lib.Ranking
import Mathlib.Order.Lattice

namespace AgentProxy.Admin

open Storage Router

def byProvider (a b : Model) : Prop :=
  a.providerId < b.providerId ∨ (a.providerId = b.providerId ∧ a.clientName ≤ b.clientName)

instance : DecidableRel byProvider := fun _ _ => inferInstanceAs (Decidable (_ ∨ _))

def listModels (db : Database) : List Model := db.models.rows.insertionSort byProvider

section

variable {Total : Type} (add : ℚ → ℚ → Total)

/-- `add` is the addition of `f64`, which rounds. -/
def totalPrice (models : List Model) (mapping : ModelMapping) : Option Total :=
  (models.find? fun model => model.clientName = mapping.clientName).map fun model =>
    add model.priceInput model.priceOutput

structure Priced (db : Database) (channelId : String) (mapping : ModelMapping) (price : Total) : Prop where
  stored : mapping ∈ db.mappings.rows
  channel : mapping.channelId = channelId
  enabled : mapping.enabled = true
  total : totalPrice add (listModels db) mapping = some price

variable {add} {db : Database} {channelId : String} {mapping : ModelMapping} {price : Total} {models : List Model}
  {mappings : List ModelMapping}

variable (add) in
def priced (models : List Model) (mappings : List ModelMapping) : List (Total × ModelMapping) :=
  mappings.filterMap fun mapping => (totalPrice add models mapping).map fun price => (price, mapping)

variable (add) in
theorem priced_concat (models : List Model) (mappings : List ModelMapping) (mapping : ModelMapping) :
    priced add models (mappings ++ [mapping]) =
      priced add models mappings ++ ((totalPrice add models mapping).map fun price => (price, mapping)).toList := by
  rw [priced, List.filterMap_append]
  congr 1

theorem mem_priced : (price, mapping) ∈ priced add models mappings ↔
    mapping ∈ mappings ∧ totalPrice add models mapping = some price := by
  simp only [priced, List.mem_filterMap, Option.map_eq_some_iff, Prod.mk.injEq]
  constructor
  · rintro ⟨_, hmem, _, hprice, rfl, rfl⟩
    exact ⟨hmem, hprice⟩
  · rintro ⟨hmem, hprice⟩
    exact ⟨mapping, hmem, price, hprice, rfl, rfl⟩

theorem mem_enabled : mapping ∈ (listMappings db channelId).filter (·.enabled) ↔
    mapping ∈ db.mappings.rows ∧ mapping.channelId = channelId ∧ mapping.enabled = true := by
  simp [listMappings, and_assoc]

theorem mem_priced_enabled : (price, mapping) ∈ priced add (listModels db) ((listMappings db channelId).filter (·.enabled)) ↔
    Priced add db channelId mapping price := by
  rw [mem_priced, mem_enabled]
  constructor
  · rintro ⟨⟨hstored, hchannel, henabled⟩, hprice⟩
    exact ⟨hstored, hchannel, henabled, hprice⟩
  · intro h
    exact ⟨⟨h.stored, h.channel, h.enabled⟩, h.total⟩

variable (add) in
theorem priced_sorted (db : Database) (channelId : String) :
    (priced add (listModels db) ((listMappings db channelId).filter (·.enabled))).Pairwise fun a b => a.2.id ≤ b.2.id := by
  have htotal : Std.Total fun a b : ModelMapping => a.id ≤ b.id := ⟨fun a b => le_total a.id b.id⟩
  have htrans : IsTrans ModelMapping fun a b => a.id ≤ b.id := ⟨fun _ _ _ hab hbc => hab.trans hbc⟩
  have hsorted : (listMappings db channelId).Pairwise fun a b => a.id ≤ b.id := List.pairwise_insertionSort _ _
  apply List.Pairwise.filterMap _ _ (hsorted.filter _)
  intro a b hab p hp q hq
  obtain ⟨_, -, rfl⟩ := Option.map_eq_some_iff.mp hp
  obtain ⟨_, -, rfl⟩ := Option.map_eq_some_iff.mp hq
  exact hab

end

section

variable {Total : Type} [LinearOrder Total] (add : ℚ → ℚ → Total)

def consider (models : List Model) (cheapest : Option (Total × String)) (mapping : ModelMapping) :
    Option (Total × String) :=
  match totalPrice add models mapping with
  | none => cheapest
  | some total =>
    if cheapest.all fun best => total < best.1 then some (total, mapping.upstreamName) else cheapest

def findCheapestModel (db : Database) (channelId : String) : Option String :=
  let enabled := (listMappings db channelId).filter (·.enabled)
  if enabled.isEmpty then none
  else (enabled.foldl (consider add (listModels db)) none).map Prod.snd

structure Cheapest (db : Database) (channelId : String) (mapping : ModelMapping) (price : Total) : Prop
    extends Priced add db channelId mapping price where
  least : ∀ other price', Priced add db channelId other price' →
    price < price' ∨ price = price' ∧ mapping.id ≤ other.id

variable {add} {db : Database} {channelId : String} {mapping : ModelMapping} {price : Total}

variable (add) in
theorem foldl_consider (models : List Model) (mappings : List ModelMapping) :
    mappings.foldl (consider add models) none =
      ((priced add models mappings).argmin Prod.fst).map fun best => (best.1, best.2.upstreamName) := by
  induction mappings using List.reverseRecOn with
  | nil => rfl
  | append_singleton mappings mapping ih =>
    rw [List.foldl_append, List.foldl_cons, List.foldl_nil, ih, priced_concat, consider]
    cases totalPrice add models mapping with
    | none => rw [Option.map_none, Option.toList_none, List.append_nil]
    | some total =>
      rw [Option.map_some, Option.toList_some, List.argmin_concat]
      cases (priced add models mappings).argmin Prod.fst with
      | none => rfl
      | some best =>
        simp only [Option.map_some, Option.all_some, decide_eq_true_eq]
        split_ifs
        · rfl
        · rfl

theorem cheapest_of_argmin
    (h : (priced add (listModels db) ((listMappings db channelId).filter (·.enabled))).argmin Prod.fst =
      some (price, mapping)) : Cheapest add db channelId mapping price := by
  obtain ⟨hmem, hleast⟩ := Ranking.argmin_first (priced_sorted add db channelId) h
  refine ⟨mem_priced_enabled.mp hmem, fun other price' hother => ?_⟩
  rcases hleast _ (mem_priced_enabled.mpr hother) with hlt | ⟨heq, hsame | hle⟩
  · exact .inl hlt
  · cases hsame
    exact .inr ⟨rfl, le_refl _⟩
  · exact .inr ⟨heq, hle⟩

theorem Cheapest.unique {other : ModelMapping} {price' : Total} (h : Cheapest add db channelId mapping price)
    (h' : Cheapest add db channelId other price') : mapping = other := by
  apply db.mappings.key_inj h.stored h'.stored
  rcases h.least other price' h'.toPriced with hlt | ⟨heq, hle⟩
  · rcases h'.least mapping price h.toPriced with hlt' | ⟨heq', -⟩
    · exact absurd (hlt.trans hlt') (lt_irrefl _)
    · exact absurd hlt (by rw [heq']; exact lt_irrefl _)
  · rcases h'.least mapping price h.toPriced with hlt' | ⟨-, hle'⟩
    · exact absurd hlt' (by rw [heq]; exact lt_irrefl _)
    · exact le_antisymm hle hle'

variable (add) in
theorem findCheapestModel_eq (db : Database) (channelId : String) :
    findCheapestModel add db channelId =
      ((priced add (listModels db) ((listMappings db channelId).filter (·.enabled))).argmin Prod.fst).map
        fun best => best.2.upstreamName := by
  simp only [findCheapestModel, foldl_consider, Option.map_map]
  split_ifs with hempty
  · rw [List.isEmpty_iff.mp hempty]
    rfl
  · rfl

theorem findCheapestModel_iff {name : String} : findCheapestModel add db channelId = some name ↔
    ∃ mapping price, Cheapest add db channelId mapping price ∧ mapping.upstreamName = name := by
  rw [findCheapestModel_eq, Option.map_eq_some_iff]
  constructor
  · rintro ⟨⟨price, mapping⟩, hmin, hname⟩
    exact ⟨mapping, price, cheapest_of_argmin hmin, hname⟩
  · rintro ⟨mapping, price, hcheapest, hname⟩
    cases hmin : (priced add (listModels db) ((listMappings db channelId).filter (·.enabled))).argmin Prod.fst with
    | none =>
      have hmem := mem_priced_enabled.mpr hcheapest.toPriced
      rw [List.argmin_eq_none.mp hmin] at hmem
      cases hmem
    | some best =>
      have hsame := hcheapest.unique (cheapest_of_argmin hmin)
      exact ⟨best, rfl, by rw [← hsame, hname]⟩

theorem findCheapestModel_none : findCheapestModel add db channelId = none ↔
    ∀ mapping price, ¬ Priced add db channelId mapping price := by
  rw [findCheapestModel_eq, Option.map_eq_none_iff, List.argmin_eq_none]
  constructor
  · intro hnil mapping price hpriced
    have hmem := mem_priced_enabled.mpr hpriced
    rw [hnil] at hmem
    cases hmem
  · intro hnone
    apply List.eq_nil_iff_forall_not_mem.mpr
    rintro ⟨price, mapping⟩ hmem
    exact hnone mapping price (mem_priced_enabled.mp hmem)

end

section

theorem buildProbeRequest_model {e : ProtocolEntry} {modelName url : String} {body : Json}
    (h : buildProbeRequest e modelName = some (url, body)) : body.get "model" = some (.str modelName) := by
  unfold buildProbeRequest at h
  split_ifs at h
  all_goals
    cases h
    rfl

theorem sendProbe_answer (serde : Serde) (client : ProbeClient) (channel : Channel) (protocol : ProtocolEntry)
    (url : String) (body : Json) (modelName : String) :
    (sendProbe serde client channel protocol url body modelName).model = modelName ∧
      (sendProbe serde client channel protocol url body modelName).result ≠ .noModels := by
  unfold sendProbe
  split_ifs
  · exact ⟨rfl, fun h => by cases h⟩
  · split
    · refine ⟨rfl, fun h => ?_⟩
      simp only [probeResult] at h
      split_ifs at h
    · exact ⟨rfl, fun h => by cases h⟩

end

structure ProbesCheapest {Total : Type} [LinearOrder Total] (add : ℚ → ℚ → Total) (serde : Serde) (client : ProbeClient) (db : Database) (channel : Channel)
    (response : ProbeResponse) : Prop where
  noModels : response.result = .noModels ↔
    parseProtocols serde channel ≠ [] ∧ ∀ mapping price, ¬ Priced add db channel.id mapping price
  reported : ∀ mapping price, parseProtocols serde channel ≠ [] → Cheapest add db channel.id mapping price →
    response.model = mapping.upstreamName
  requested : ∀ e p mapping price, (parseProtocols serde channel).head? = some e → e.protocol = protocolToStr p →
    Cheapest add db channel.id mapping price → ∃ body : Json, body.get "model" = some (.str mapping.upstreamName) ∧
      response = sendProbe serde client channel e (trimEndSlashes e.baseUrl ++ standardPath p) body mapping.upstreamName

theorem probe_names_cheapest {Total : Type} [LinearOrder Total] (add : ℚ → ℚ → Total) (serde : Serde)
    (client : ProbeClient) (db : Database) (channel : Channel) :
    ProbesCheapest add serde client db channel (probeChannel serde client (findCheapestModel add db) channel) := by
  have hname : ∀ mapping price, Cheapest add db channel.id mapping price →
      findCheapestModel add db channel.id = some mapping.upstreamName :=
    fun mapping price h => findCheapestModel_iff.mpr ⟨mapping, price, h, rfl⟩
  constructor
  · rw [← findCheapestModel_none, probeChannel]
    cases hprotocols : parseProtocols serde channel with
    | nil => simp [noProtocolResponse]
    | cons e rest =>
      rw [List.head?_cons]
      dsimp only
      cases hmodel : findCheapestModel add db channel.id with
      | none => simp [noModelResponse]
      | some modelName =>
        dsimp only
        cases buildProbeRequest e modelName with
        | none => simp
        | some request =>
          have hanswer := (sendProbe_answer serde client channel e request.1 request.2 modelName).2
          simp [hanswer]
  · intro mapping price hne hcheapest
    obtain ⟨e, rest, hprotocols⟩ := List.exists_cons_of_ne_nil hne
    rw [probeChannel, hprotocols, List.head?_cons, hname mapping price hcheapest]
    dsimp only
    cases buildProbeRequest e mapping.upstreamName with
    | none => rfl
    | some request => exact (sendProbe_answer serde client channel e request.1 request.2 mapping.upstreamName).1
  · intro e p mapping price hfirst hprotocol hcheapest
    have hurl := buildProbeRequest_url hprotocol mapping.upstreamName
    obtain ⟨⟨url, body⟩, hbuild, hsame⟩ := Option.map_eq_some_iff.mp hurl
    refine ⟨body, buildProbeRequest_model hbuild, ?_⟩
    rw [probeChannel, hfirst, hname mapping price hcheapest]
    dsimp only
    rw [hbuild, ← hsame]

end AgentProxy.Admin
