import AgentProxy.Lib.Table
import AgentProxy.Storage.Tables
import Mathlib.Data.List.Induction
import Mathlib.Data.List.Perm.Basic

namespace AgentProxy.Storage.Aliases

structure ModelAlias where
  id : ℤ
  aliasName : String
  targetModel : String
  enabled : Bool
  createdAt : String
  updatedAt : String
  deriving DecidableEq

structure ModelAliasRequest where
  aliasName : String
  targetModel : String
  enabled : Bool := true

abbrev ModelAliases := Table ModelAlias.aliasName

/-- `rowid` is the key that `AUTOINCREMENT` assigns if the alias is new. -/
def upsertModelAlias (t : ModelAliases) (rowid : ℤ) (now : String) (request : ModelAliasRequest) : ModelAliases :=
  t.upsert ⟨rowid, request.aliasName, request.targetModel, request.enabled, now, now⟩
    (fun r => { r with targetModel := request.targetModel, enabled := request.enabled, updatedAt := now }) fun _ => rfl

def deleteModelAlias (t : ModelAliases) (id : ℤ) : ModelAliases × Except StorageError Unit :=
  if t.rows.any fun r => r.id = id then (t.filterOut fun r => r.id = id, .ok ())
  else (t, .error (.notFound ("alias not found: " ++ toString id)))

def listModelAliases (t : ModelAliases) : List ModelAlias :=
  t.rows.mergeSort fun a b => decide (a.aliasName ≤ b.aliasName)

def insertOrIgnore (now : String) (t : ModelAliases) (row : ℤ × String) : ModelAliases :=
  t.upsert ⟨row.1, row.2, "", true, now, now⟩ id fun _ => rfl

/-- The rows of `002_model_aliases.sql`, with the keys that a new table gives them. -/
def seeded : List (ℤ × String) :=
  [(1, "gpt-5.5"), (2, "gpt-5.4"), (3, "gpt-5.4-mini"), (4, "gpt-5.3-codex"), (5, "gpt-5.2")]

def migrate (now : String) : ModelAliases := seeded.foldl (insertOrIgnore now) .empty

def collect (m : String → Option String) (aliases : List ModelAlias) : String → Option String :=
  aliases.foldl (fun m a => Function.update m a.aliasName (some a.targetModel)) m

/-- The map that `main` collects: a later row with the same name would replace an earlier one. -/
def aliasMap (t : ModelAliases) : String → Option String :=
  collect (fun _ => none) ((listModelAliases t).filter ModelAlias.enabled)

inductive AliasOp where
  | upsert (rowid : ℤ) (now : String) (request : ModelAliasRequest)
  | delete (id : ℤ)

def AliasOp.apply (t : ModelAliases) : AliasOp → ModelAliases
  | upsert rowid now request => upsertModelAlias t rowid now request
  | delete id => (deleteModelAlias t id).1

def reached (now : String) (ops : List AliasOp) : ModelAliases := ops.foldl AliasOp.apply (migrate now)

def AliasOp.HasTarget : AliasOp → Prop
  | upsert _ _ request => request.targetModel ≠ ""
  | delete _ => True

/-- The operation sets the alias or deletes the row that the migration inserted for it. -/
def AliasOp.Settles (row : ℤ × String) : AliasOp → Prop
  | upsert _ _ request => request.aliasName = row.2
  | delete id => id = row.1

def Unsettled (ops : List AliasOp) (name : String) : Prop :=
  ∃ row ∈ seeded, row.2 = name ∧ ∀ op ∈ ops, ¬ op.Settles row

section

variable (t : ModelAliases) (now : String)

theorem find?_delete (id : ℤ) (name : String) :
    (deleteModelAlias t id).1.find? name = (t.find? name).filter fun r => decide (r.id ≠ id) := by
  unfold deleteModelAlias
  split
  · rw [Table.find?_filterOut]
    congr 1
    funext r
    simp
  · rename_i hnone
    cases hrow : t.find? name with
    | none => rfl
    | some r =>
      have hr : r.id ≠ id := by
        intro hid
        apply hnone
        exact List.any_eq_true.mpr ⟨r, (t.find?_eq_some.mp hrow).1, decide_eq_true hid⟩
      rw [Option.filter_some, if_pos (decide_eq_true hr)]

theorem find?_upsertModelAlias (rowid : ℤ) (request : ModelAliasRequest) (name : String) :
    (upsertModelAlias t rowid now request).find? name = if name = request.aliasName then
      some ((t.find? name).elim ⟨rowid, request.aliasName, request.targetModel, request.enabled, now, now⟩
        fun r => { r with targetModel := request.targetModel, enabled := request.enabled, updatedAt := now })
      else t.find? name := Table.find?_upsert t _ _ _ name

theorem collect_eq (m : String → Option String) (name : String) :
    collect m t.rows name = ((t.find? name).map ModelAlias.targetModel).or (m name) := by
  obtain ⟨rows, hnodup⟩ := t
  induction rows generalizing m with
  | nil => rfl
  | cons a rows ih =>
    obtain ⟨hfresh, hrest⟩ := List.nodup_cons.mp hnodup
    rw [collect, List.foldl_cons, ← collect, ih _ hrest]
    by_cases ha : a.aliasName = name
    · have hnone : (Table.find? ⟨rows, hrest⟩ name : Option ModelAlias) = none := by
        rw [Table.find?_eq_none]
        intro r hr hname
        exact hfresh (List.mem_map.mpr ⟨r, hr, hname.trans ha.symm⟩)
      rw [hnone]
      simp [Table.find?, ha]
    · simp [Table.find?, ha, Function.update_of_ne (Ne.symm ha)]

theorem aliasMap_eq (name : String) :
    aliasMap t name = ((t.find? name).filter ModelAlias.enabled).map ModelAlias.targetModel := by
  have hperm : (listModelAliases t).Perm t.rows := List.mergeSort_perm _ _
  have hnodup : (((listModelAliases t).filter ModelAlias.enabled).map ModelAlias.aliasName).Nodup :=
    ((hperm.map _).nodup_iff.mpr t.nodup).sublist (List.filter_sublist.map _)
  have hfind : (Table.find? ⟨_, hnodup⟩ name : Option ModelAlias) = (t.find? name).filter ModelAlias.enabled := by
    apply Option.ext
    intro r
    rw [Table.find?_eq_some, Option.filter_eq_some_iff, Table.find?_eq_some, List.mem_filter, hperm.mem_iff]
    rw [and_right_comm]
  have hcollect := collect_eq ⟨_, hnodup⟩ (fun _ => none) name
  rw [hfind, Option.or_none] at hcollect
  exact hcollect

theorem migrate_rows : (migrate now).rows = seeded.map fun row => ⟨row.1, row.2, "", true, now, now⟩ := rfl

theorem migrate_find? {row : ℤ × String} (h : row ∈ seeded) :
    (migrate now).find? row.2 = some ⟨row.1, row.2, "", true, now, now⟩ := by
  rw [Table.find?_eq_some, migrate_rows]
  exact ⟨List.mem_map_of_mem h, rfl⟩

theorem migrate_none {name : String} (h : ∀ row ∈ seeded, row.2 ≠ name) : (migrate now).find? name = none := by
  rw [Table.find?_eq_none, migrate_rows]
  exact List.forall_mem_map.mpr h

end

section

variable {now : String} {ops : List AliasOp} {name : String} {r : ModelAlias}

theorem seeded_inj {row other : ℤ × String} (h : row ∈ seeded) (h' : other ∈ seeded) (hname : row.2 = other.2) :
    row = other := by
  have hnodup : (seeded.map Prod.snd).Nodup := by decide
  exact List.inj_on_of_nodup_map hnodup h h' hname

theorem unsettled_concat {op : AliasOp} :
    Unsettled (ops ++ [op]) name ↔ Unsettled ops name ∧ ∀ row ∈ seeded, row.2 = name → ¬ op.Settles row := by
  constructor
  · rintro ⟨row, hrow, rfl, hops⟩
    refine ⟨⟨row, hrow, rfl, fun o ho => hops o (List.mem_append_left _ ho)⟩, fun other hother hname => ?_⟩
    rw [seeded_inj hother hrow hname]
    exact hops op (by simp)
  · rintro ⟨⟨row, hrow, rfl, hops⟩, hop⟩
    refine ⟨row, hrow, rfl, fun o ho => ?_⟩
    obtain ho | ho := List.mem_append.mp ho
    · exact hops o ho
    · rw [List.mem_singleton.mp ho]
      exact hop row hrow rfl

theorem reached_concat (op : AliasOp) : reached now (ops ++ [op]) = op.apply (reached now ops) := by
  simp [reached]

theorem reached_unsettled {row : ℤ × String} (hrow : row ∈ seeded) (hops : ∀ op ∈ ops, ¬ op.Settles row) :
    (reached now ops).find? row.2 = some ⟨row.1, row.2, "", true, now, now⟩ := by
  induction ops using List.reverseRecOn with
  | nil => exact migrate_find? now hrow
  | append_singleton ops op ih =>
    have hop : ¬ op.Settles row := hops op (by simp)
    have hfind := ih fun o ho => hops o (List.mem_append_left _ ho)
    rw [reached_concat]
    cases op with
    | upsert rowid time request =>
      rw [AliasOp.apply, find?_upsertModelAlias, if_neg (Ne.symm hop), hfind]
    | delete id =>
      rw [AliasOp.apply, find?_delete, hfind, Option.filter_some, if_pos (decide_eq_true (Ne.symm hop))]

theorem reached_settled (hops : ∀ op ∈ ops, op.HasTarget) (h : ¬ Unsettled ops name)
    (hr : (reached now ops).find? name = some r) : r.targetModel ≠ "" := by
  induction ops using List.reverseRecOn generalizing r with
  | nil =>
    rw [show reached now [] = migrate now from rfl, migrate_none] at hr
    · cases hr
    · intro row hrow hname
      exact h ⟨row, hrow, hname, nofun⟩
  | append_singleton ops op ih =>
    have hbefore : ∀ o ∈ ops, o.HasTarget := fun o ho => hops o (List.mem_append_left _ ho)
    have hop : op.HasTarget := hops op (by simp)
    rw [reached_concat] at hr
    cases op with
    | upsert rowid time request =>
      rw [AliasOp.apply, find?_upsertModelAlias] at hr
      split at hr
      · cases Option.some.inj hr
        cases (reached now ops).find? name with
        | none => exact hop
        | some old => exact hop
      · rename_i hname
        refine ih hbefore (fun hun => h (unsettled_concat.mpr ⟨hun, ?_⟩)) hr
        rintro row - rfl hsettles
        exact hname hsettles.symm
    | delete id =>
      rw [AliasOp.apply, find?_delete, Option.filter_eq_some_iff] at hr
      refine ih hbefore (fun hun => h (unsettled_concat.mpr ⟨hun, ?_⟩)) hr.1
      rintro row hrow rfl hsettles
      obtain ⟨other, hother, hname, hops'⟩ := hun
      have hseed := @reached_unsettled now ops other hother hops'
      rw [hname] at hseed
      cases Option.some.inj (hseed.symm.trans hr.1)
      cases seeded_inj hother hrow hname
      exact of_decide_eq_true hr.2 hsettles.symm

theorem aliasMap_reached (hops : ∀ op ∈ ops, op.HasTarget) :
    aliasMap (reached now ops) name = some "" ↔ Unsettled ops name := by
  rw [aliasMap_eq]
  constructor
  · intro hmap
    obtain ⟨r, hr, htarget⟩ := Option.map_eq_some_iff.mp hmap
    by_contra hun
    exact reached_settled hops hun (Option.filter_eq_some_iff.mp hr).1 htarget
  · rintro ⟨row, hrow, rfl, hops'⟩
    rw [reached_unsettled hrow hops']
    rfl

end

end AgentProxy.Storage.Aliases
