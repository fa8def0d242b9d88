import AgentProxy.Storage.Aliases

namespace AgentProxy.Storage.Aliases

/-- `sequence` is the row of `sqlite_sequence` from which `AUTOINCREMENT` takes the next key. -/
structure AliasTable where
  aliases : ModelAliases
  sequence : ℤ

inductive AliasCall where
  | upsert (now : String) (request : ModelAliasRequest)
  | delete (id : ℤ)

namespace AliasTable

def empty : AliasTable := ⟨.empty, 0⟩

-- A key is used up also where the name is taken and no row is inserted.
def insertOrIgnore (t : AliasTable) (now name : String) : AliasTable :=
  ⟨Aliases.insertOrIgnore now t.aliases (t.sequence + 1, name), t.sequence + 1⟩

def call (t : AliasTable) : AliasCall → AliasTable
  | .upsert now request => ⟨upsertModelAlias t.aliases (t.sequence + 1) now request, t.sequence + 1⟩
  | .delete id => ⟨(deleteModelAlias t.aliases id).1, t.sequence⟩

def ids (t : AliasTable) : List ℤ := t.aliases.rows.map ModelAlias.id

structure Numbered (t : AliasTable) : Prop where
  increasing : t.ids.Pairwise (· < ·)
  used : ∀ id ∈ t.ids, id ≤ t.sequence

section

variable {t : AliasTable}

theorem numbered_empty : Numbered empty := ⟨.nil, fun _ h => by cases h⟩

theorem numbered_upsert (h : Numbered t) {new : ModelAlias} (hnew : new.id = t.sequence + 1)
    {f : ModelAlias → ModelAlias} {hf : ∀ r, (f r).aliasName = r.aliasName} (hid : ∀ r, (f r).id = r.id) :
    Numbered ⟨t.aliases.upsert new f hf, t.sequence + 1⟩ := by
  have hused : ∀ id ∈ t.ids, id < t.sequence + 1 := fun id hmem => Int.lt_add_one_of_le (h.used id hmem)
  have hids := @Table.map_upsert _ _ _ _ t.aliases new f hf _ ModelAlias.id hid
  rw [hnew] at hids
  rcases hids with hids | hids
  · constructor
    · rw [ids, hids]
      exact h.increasing
    · rw [ids, hids]
      exact fun id hmem => (hused id hmem).le
  · constructor
    · rw [ids, hids, List.pairwise_append]
      refine ⟨h.increasing, List.pairwise_singleton _ _, ?_⟩
      intro id hmem key hkey
      rw [List.mem_singleton.mp hkey]
      exact hused id hmem
    · rw [ids, hids]
      intro id hmem
      rcases List.mem_append.mp hmem with hmem | hmem
      · exact (hused id hmem).le
      · exact (List.mem_singleton.mp hmem).le

theorem numbered_insertOrIgnore (h : Numbered t) (now name : String) : Numbered (t.insertOrIgnore now name) :=
  numbered_upsert h rfl fun _ => rfl

theorem numbered_call (h : Numbered t) (c : AliasCall) : Numbered (t.call c) := by
  cases c with
  | upsert now request => exact numbered_upsert h rfl fun _ => rfl
  | delete id =>
    have hsub : (ids (t.call (.delete id))).Sublist t.ids := by
      simp only [call, ids, deleteModelAlias]
      split
      · exact List.filter_sublist.map _
      · exact List.Sublist.refl _
    exact ⟨h.increasing.sublist hsub, fun key hkey => h.used key (hsub.subset hkey)⟩

end

end AliasTable

end AgentProxy.Storage.Aliases
