import AgentProxy.Storage.Aliases
import AgentProxy.Server.Chain
import AgentProxy.Router.Middleware

namespace AgentProxy.Server.Aliases

open Storage.Aliases

/-- `serde_json` reads back the model of a document it has read, after that model has been replaced. -/
def RereadsModel (serde : Serde) : Prop :=
  ∀ text json model, serde.value text = .ok json →
    ∃ json', serde.value (serde.valueToString (json.replace "model" (.str model))) = .ok json' ∧
      json'.get "model" = (json.replace "model" (.str model)).get "model"

def HasModel (serde : Serde) (req : ProxyRequest) : Prop :=
  ∃ json model, serde.fromSlice req.body = .ok json ∧ (json.get "model").bind Json.asStr = some model ∧ model ≠ ""

def missingModel : ProxyError := .badRequest "request body missing 'model' field"

section

variable {serde : Serde} {req : ProxyRequest} {json : Json} {model : String}

theorem lookup_setField {fields : List (String × Json)} {k : String} {old : Json} (v : Json)
    (h : fields.lookup k = some old) : (Json.setField k v fields).lookup k = some v := by
  induction fields with
  | nil => cases h
  | cons field fields ih =>
    obtain ⟨name, value⟩ := field
    by_cases hname : name = k
    · simp [Json.setField, hname]
    · have hne : (k == name) = false := by simpa using Ne.symm hname
      simp only [List.lookup_cons, hne] at h
      simp only [Json.setField, hname, if_false, List.lookup_cons, hne]
      exact ih h

theorem get_replace {k : String} {old : Json} (v : Json) (h : json.get k = some old) :
    (json.replace k v).get k = some v := by
  cases json with
  | obj fields => exact lookup_setField v h
  | _ => cases h

theorem get_of_asStr {k : String} (h : (json.get k).bind Json.asStr = some model) : json.get k = some (.str model) := by
  obtain ⟨v, hv, hstr⟩ := Option.bind_eq_some_iff.mp h
  cases v with
  | str s =>
    cases hstr
    exact hv
  | _ => cases hstr

theorem hasModel_iff (hjson : serde.fromSlice req.body = .ok json) :
    HasModel serde req ↔ Router.clientModel json ≠ "" := by
  constructor
  · rintro ⟨v, m, hv, hm, hne⟩
    cases hjson.symm.trans hv
    rwa [Router.clientModel, hm]
  · intro hne
    cases hm : (json.get "model").bind Json.asStr with
    | none =>
      rw [Router.clientModel, hm] at hne
      exact absurd rfl hne
    | some m =>
      rw [Router.clientModel, hm] at hne
      exact ⟨json, m, hjson, hm, hne⟩

theorem selectFor_missing (hjson : serde.fromSlice req.body = .ok json) (now month : ℕ) (r : Router.RouterState) :
    (Router.selectFor serde now month r req).1 = .error missingModel ↔ Router.clientModel json = "" := by
  simp only [Router.selectFor, hjson, String.isEmpty_iff]
  constructor
  · intro h
    by_contra hne
    rw [if_neg hne] at h
    split at h
    · cases h
    · split at h
      · cases h
      · rename_i e r' herror
        cases h
        cases Router.selectChannel_error (congrArg Prod.fst herror)
  · intro hempty
    rw [if_pos hempty]
    rfl

theorem aliasOnRequest_json (aliasMap : String → Option String) (hjson : serde.fromSlice req.body = .ok json)
    (hmodel : (json.get "model").bind Json.asStr = some model) (hne : model ≠ "") :
    aliasOnRequest serde aliasMap req = .ok ((aliasMap model).elim req fun target =>
      req.withJson serde (json.replace "model" (.str target))) := by
  simp only [aliasOnRequest, hjson, hmodel, String.isEmpty_iff, if_neg hne]
  cases aliasMap model <;> rfl

theorem clientModel_of_get (h : json.get "model" = some (.str model)) : Router.clientModel json = model := by
  rw [Router.clientModel, h]
  rfl

theorem aliased_model (hserde : RereadsModel serde) (aliasMap : String → Option String)
    (hjson : serde.fromSlice req.body = .ok json) (hmodel : (json.get "model").bind Json.asStr = some model)
    (hne : model ≠ "") : ∃ req' json', aliasOnRequest serde aliasMap req = .ok req' ∧
      serde.fromSlice req'.body = .ok json' ∧ Router.clientModel json' = (aliasMap model).getD model := by
  rw [aliasOnRequest_json aliasMap hjson hmodel hne]
  have hget := get_of_asStr hmodel
  cases aliasMap model with
  | none => exact ⟨req, json, rfl, hjson, clientModel_of_get hget⟩
  | some target =>
    have htext : ∃ text, serde.value text = .ok json := by
      cases hbody : req.body with
      | utf8 text =>
        rw [hbody] at hjson
        exact ⟨text, hjson⟩
      | binary bytes =>
        rw [hbody] at hjson
        cases hjson
    obtain ⟨text, htext⟩ := htext
    obtain ⟨json', hread, hsame⟩ := hserde text json target htext
    refine ⟨_, json', rfl, hread, clientModel_of_get ?_⟩
    rw [hsame]
    exact get_replace _ hget

end

theorem alias_keeps_model_iff_settled (serde : Serde) (hserde : RereadsModel serde) (now : String)
    (ops : List AliasOp) (hops : ∀ op ∈ ops, op.HasTarget) (req : ProxyRequest) (json : Json) (model : String)
    (hjson : serde.fromSlice req.body = .ok json) (hmodel : (json.get "model").bind Json.asStr = some model)
    (hne : model ≠ "") : ∃ req', aliasOnRequest serde (aliasMap (reached now ops)) req = .ok req' ∧
      (HasModel serde req' ↔ ¬ Unsettled ops model) ∧
      ∀ time month r, (Router.selectFor serde time month r req').1 ≠ .error missingModel ↔
        ¬ Unsettled ops model := by
  obtain ⟨req', json', halias, hread, hclient⟩ := aliased_model hserde (aliasMap (reached now ops)) hjson hmodel hne
  have hempty : Router.clientModel json' = "" ↔ Unsettled ops model := by
    rw [hclient, ← aliasMap_reached hops]
    cases aliasMap (reached now ops) model with
    | none => simp [hne]
    | some target => simp
  refine ⟨req', halias, ?_, fun time month r => ?_⟩
  · rw [hasModel_iff hread, Ne, hempty]
  · rw [Ne, selectFor_missing hread, hempty]

def Sample.modelSerde : Serde :=
  { AgentProxy.Sample.serdeOn [] with
    value := fun s =>
      let model := String.ofList ((s.toList.drop 10).dropLast.dropLast)
      if s = AgentProxy.Sample.compact (.obj [("model", .str model)]) then .ok (.obj [("model", .str model)])
      else .error AgentProxy.Sample.parseError }

theorem Sample.compact_model (model : String) : (AgentProxy.Sample.compact (.obj [("model", .str model)])).toList =
    "\x7b\"model\":\"".toList ++ (model.toList ++ ['"', '\x7d']) := by
  simp [AgentProxy.Sample.compact, AgentProxy.Sample.compactFields, String.intercalate_singleton]

theorem Sample.modelSerde_value (model : String) :
    Sample.modelSerde.value (AgentProxy.Sample.compact (.obj [("model", .str model)])) =
      .ok (.obj [("model", .str model)]) := by
  have hmodel : String.ofList
      (((AgentProxy.Sample.compact (.obj [("model", .str model)])).toList.drop 10).dropLast.dropLast) = model := by
    rw [Sample.compact_model]
    simp
  simp only [Sample.modelSerde, hmodel, if_true]

theorem Sample.modelSerde_rereads : RereadsModel Sample.modelSerde := by
  intro text json model htext
  simp only [Sample.modelSerde] at htext
  split at htext
  · cases htext
    exact ⟨_, Sample.modelSerde_value model, rfl⟩
  · cases htext

def Sample.request (model : String) : ProxyRequest :=
  ⟨"POST", "/v1/chat/completions", [], .utf8 (AgentProxy.Sample.compact (.obj [("model", .str model)]))⟩

theorem alias_keeps_model_settled : ∃ req', aliasOnRequest Sample.modelSerde
    (aliasMap (reached "" [.upsert 6 "" ⟨"gpt-5.5", "qwen3.7-plus", true⟩])) (Sample.request "gpt-5.5") = .ok req' ∧
      HasModel Sample.modelSerde req' := by
  obtain ⟨req', hok, hmodel, -⟩ := alias_keeps_model_iff_settled Sample.modelSerde Sample.modelSerde_rereads ""
    [.upsert 6 "" ⟨"gpt-5.5", "qwen3.7-plus", true⟩] (by simp [AliasOp.HasTarget]) (Sample.request "gpt-5.5") _
    "gpt-5.5" (Sample.modelSerde_value "gpt-5.5") rfl (by decide)
  refine ⟨req', hok, hmodel.mpr ?_⟩
  rintro ⟨row, -, hname, hops⟩
  exact hops _ (List.mem_singleton.mpr rfl) hname.symm

theorem seeded_alias_empties_model : ∃ req', aliasOnRequest Sample.modelSerde (aliasMap (reached "" []))
    (Sample.request "gpt-5.5") = .ok req' ∧ ¬ HasModel Sample.modelSerde req' ∧
      ∀ time month r ctx, (Router.onRequest Sample.modelSerde time month r req' ctx).1 = .error missingModel := by
  have hmap : aliasMap (reached "" []) "gpt-5.5" = some "" := by
    rw [aliasMap_reached (by simp)]
    exact ⟨(1, "gpt-5.5"), by decide, rfl, nofun⟩
  obtain ⟨req', json', hok, hread, hclient⟩ := @aliased_model Sample.modelSerde (Sample.request "gpt-5.5") _ "gpt-5.5"
    Sample.modelSerde_rereads (aliasMap (reached "" [])) (Sample.modelSerde_value "gpt-5.5") rfl (by decide)
  rw [hmap] at hclient
  refine ⟨req', hok, fun h => (hasModel_iff hread).mp h hclient, fun time month r ctx => ?_⟩
  have hselect := (selectFor_missing hread time month r).mpr hclient
  unfold Router.onRequest
  split
  · rename_i e r' he
    rw [he] at hselect
    cases hselect
    rfl
  · rename_i body c r' he
    rw [he] at hselect
    cases hselect

end AgentProxy.Server.Aliases
