import Mathlib.Data.List.Nodup
import Mathlib.Data.List.Basic

namespace AgentProxy

/-- The rows of a database table, no two of them with the same primary key. -/
structure Table {κ ρ : Type} (key : ρ → κ) where
  rows : List ρ
  nodup : (rows.map key).Nodup

namespace Table

variable {κ ρ : Type} {key : ρ → κ}

def empty : Table key := ⟨[], List.nodup_nil⟩

def single (r : ρ) : Table key := ⟨[r], List.nodup_singleton _⟩

theorem key_inj (t : Table key) {r s : ρ} (hr : r ∈ t.rows) (hs : s ∈ t.rows) (h : key r = key s) :
    r = s := List.inj_on_of_nodup_map t.nodup hr hs h

theorem ext_rows {t u : Table key} (h : t.rows = u.rows) : t = u := by
  cases t
  cases u
  cases h
  rfl

def filterOut (t : Table key) (p : ρ → Bool) : Table key where
  rows := t.rows.filter fun r => !p r
  nodup := t.nodup.sublist ((List.filter_sublist).map key)

def mapRows (t : Table key) (f : ρ → ρ) (hf : ∀ r, key (f r) = key r) : Table key where
  rows := t.rows.map f
  nodup := by
    have he : key ∘ f = key := funext hf
    rw [List.map_map, he]
    exact t.nodup

variable [DecidableEq κ]

def find? (t : Table key) (k : κ) : Option ρ := t.rows.find? fun r => decide (key r = k)

theorem find?_eq_some (t : Table key) {k : κ} {r : ρ} :
    t.find? k = some r ↔ r ∈ t.rows ∧ key r = k := by
  constructor
  · intro h
    exact ⟨List.mem_of_find?_eq_some h, of_decide_eq_true (List.find?_some (p := fun r => decide (key r = k)) h)⟩
  · rintro ⟨hr, rfl⟩
    cases h : t.find? (key r) with
    | none => simpa using List.find?_eq_none.mp h r hr
    | some s =>
      have hs := List.mem_of_find?_eq_some h
      have hk : key s = key r := of_decide_eq_true (List.find?_some (p := fun x => decide (key x = key r)) h)
      rw [t.key_inj hs hr hk]

def modify (t : Table key) (k : κ) (f : ρ → ρ) (hf : ∀ r, key (f r) = key r) : Table key where
  rows := t.rows.map fun r => if key r = k then f r else r
  nodup := by
    have he : (key ∘ fun r => if key r = k then f r else r) = key := by
      funext r
      by_cases h : key r = k <;> simp [h, hf]
    rw [List.map_map, he]
    exact t.nodup

theorem find?_modify (t : Table key) (k k' : κ) (f : ρ → ρ) (hf : ∀ r, key (f r) = key r) :
    (t.modify k f hf).find? k' = (t.find? k').map fun r => if k' = k then f r else r := by
  have hkey : ∀ r, key (if key r = k then f r else r) = key r := by
    intro r
    split_ifs
    · exact hf r
    · rfl
  simp only [find?, modify, List.find?_map, Function.comp_def, hkey]
  cases h : t.rows.find? fun r => decide (key r = k') with
  | none => rfl
  | some r =>
    have hr : key r = k' := of_decide_eq_true (List.find?_some (p := fun r => decide (key r = k')) h)
    simp [hr]

theorem modify_congr (t : Table key) {k : κ} {f g : ρ → ρ} {hf : ∀ r, key (f r) = key r}
    {hg : ∀ r, key (g r) = key r} (h : ∀ r, t.find? k = some r → f r = g r) : t.modify k f hf = t.modify k g hg := by
  apply ext_rows
  apply List.map_congr_left
  intro r hr
  split_ifs with hk
  · exact h r (t.find?_eq_some.mpr ⟨hr, hk⟩)
  · rfl

theorem modify_of_none (t : Table key) {k : κ} {f : ρ → ρ} {hf : ∀ r, key (f r) = key r} (h : t.find? k = none) :
    t.modify k f hf = t := by
  have hid : t.modify k f hf = t.modify k id fun _ => rfl := by
    apply modify_congr
    intro r hr
    rw [h] at hr
    cases hr
  rw [hid]
  apply ext_rows
  simp [modify]

theorem find?_filterOut (t : Table key) (p : ρ → Bool) (k : κ) :
    (t.filterOut p).find? k = (t.find? k).filter fun r => !p r := by
  apply Option.ext
  intro r
  simp only [find?_eq_some, Option.filter_eq_some_iff, filterOut, List.mem_filter]
  rw [and_right_comm]

theorem find?_filterOut_key (t : Table key) (k k' : κ) :
    (t.filterOut fun r => decide (key r = k)).find? k' = if k' = k then none else t.find? k' := by
  simp only [find?, filterOut, List.find?_filter]
  split_ifs with h
  · simp [h]
  · congr 1
    funext r
    by_cases hr : key r = k' <;> simp [hr, h]

def upsert (t : Table key) (new : ρ) (onConflict : ρ → ρ) (hf : ∀ r, key (onConflict r) = key r) :
    Table key :=
  if h : ∀ r ∈ t.rows, key r ≠ key new then
    { rows := t.rows ++ [new]
      nodup := by
        rw [List.map_append, List.map_singleton, List.nodup_append]
        refine ⟨t.nodup, List.nodup_singleton _, ?_⟩
        intro a ha b hb
        obtain ⟨r, hr, rfl⟩ := List.mem_map.mp ha
        rw [List.mem_singleton.mp hb]
        exact h r hr }
  else t.modify (key new) onConflict hf

theorem find?_upsert_of_some {t : Table key} {new r : ρ} {f : ρ → ρ} {hf : ∀ r, key (f r) = key r} {k : κ}
    (h : t.find? k = some r) : (t.upsert new f hf).find? k = some (if k = key new then f r else r) := by
  obtain ⟨hr, hk⟩ := t.find?_eq_some.mp h
  unfold upsert
  by_cases hnew : ∀ s ∈ t.rows, key s ≠ key new
  · have hne : k ≠ key new := fun hkey => hnew r hr (hk.trans hkey)
    simp only [find?] at h ⊢
    rw [dif_pos hnew, if_neg hne, List.find?_append, h, Option.some_or]
  · rw [dif_neg hnew, find?_modify, h, Option.map_some]

theorem find?_eq_none (t : Table key) {k : κ} : t.find? k = none ↔ ∀ r ∈ t.rows, key r ≠ k := by
  simp [find?]

theorem find?_upsert (t : Table key) (new : ρ) (f : ρ → ρ) (hf : ∀ r, key (f r) = key r) (k : κ) :
    (t.upsert new f hf).find? k = if k = key new then some ((t.find? k).elim new f) else t.find? k := by
  cases h : t.find? k with
  | some r =>
    rw [find?_upsert_of_some h]
    split_ifs
    · rfl
    · rfl
  | none =>
    unfold upsert
    by_cases hnew : ∀ s ∈ t.rows, key s ≠ key new
    · rw [dif_pos hnew]
      simp only [find?] at h ⊢
      rw [List.find?_append, h, Option.none_or]
      by_cases hk : k = key new
      · simp [hk]
      · simp [hk, Ne.symm hk]
    · rw [dif_neg hnew, find?_modify, h, Option.map_none]
      have hk : k ≠ key new := by
        rintro rfl
        exact hnew (t.find?_eq_none.mp h)
      rw [if_neg hk]

theorem isSome_find?_modify (t : Table key) (k k' : κ) (f : ρ → ρ) (hf : ∀ r, key (f r) = key r) :
    ((t.modify k f hf).find? k').isSome = (t.find? k').isSome := by
  rw [find?_modify, Option.isSome_map]

theorem isSome_find?_upsert {t : Table key} {new : ρ} {f : ρ → ρ} {hf : ∀ r, key (f r) = key r} {k : κ}
    (h : (t.find? k).isSome = true) : ((t.upsert new f hf).find? k).isSome = true := by
  rw [find?_upsert]
  split_ifs
  · rfl
  · exact h

theorem forall_modify {t : Table key} {k : κ} {f : ρ → ρ} {hf : ∀ r, key (f r) = key r} {p : ρ → Prop}
    (h : ∀ r ∈ t.rows, p r) (hp : ∀ r ∈ t.rows, p (f r)) : ∀ r ∈ (t.modify k f hf).rows, p r := by
  intro r hr
  obtain ⟨old, hold, rfl⟩ := List.mem_map.mp hr
  split_ifs
  · exact hp old hold
  · exact h old hold

theorem forall_upsert {t : Table key} {new : ρ} {f : ρ → ρ} {hf : ∀ r, key (f r) = key r} {p : ρ → Prop}
    (h : ∀ r ∈ t.rows, p r) (hnew : p new) (hp : ∀ r ∈ t.rows, p (f r)) : ∀ r ∈ (t.upsert new f hf).rows, p r := by
  unfold upsert
  split_ifs
  · intro r hr
    rcases List.mem_append.mp hr with hr | hr
    · exact h r hr
    · rw [List.mem_singleton.mp hr]
      exact hnew
  · exact forall_modify h hp

theorem map_upsert {t : Table key} {new : ρ} {f : ρ → ρ} {hf : ∀ r, key (f r) = key r} {β : Type} {g : ρ → β}
    (hg : ∀ r, g (f r) = g r) :
    (t.upsert new f hf).rows.map g = t.rows.map g ∨ (t.upsert new f hf).rows.map g = t.rows.map g ++ [g new] := by
  unfold upsert
  split_ifs
  · exact .inr List.map_append
  · left
    simp only [modify, List.map_map]
    apply List.map_congr_left
    intro r _
    rw [Function.comp_apply]
    split_ifs
    · exact hg r
    · rfl

theorem find?_mapRows (t : Table key) (f : ρ → ρ) (hf : ∀ r, key (f r) = key r) (k : κ) :
    (t.mapRows f hf).find? k = (t.find? k).map f := by
  simp only [find?, mapRows, List.find?_map, Function.comp_def, hf]

theorem upsert_mapRows {t : Table key} {new : ρ} {f g g' : ρ → ρ} {hf : ∀ r, key (f r) = key r}
    {hg : ∀ r, key (g r) = key r} {hg' : ∀ r, key (g' r) = key r} (h : ∀ r, f (g r) = g' (f r)) :
    (t.upsert new g hg).mapRows f hf = (t.mapRows f hf).upsert (f new) g' hg' := by
  apply ext_rows
  have hkeys : (∀ r ∈ (t.mapRows f hf).rows, key r ≠ key (f new)) ↔ ∀ r ∈ t.rows, key r ≠ key new := by
    simp only [mapRows, List.forall_mem_map, hf]
  unfold upsert
  by_cases hnew : ∀ r ∈ t.rows, key r ≠ key new
  · rw [dif_pos hnew, dif_pos (hkeys.mpr hnew)]
    simp [mapRows]
  · rw [dif_neg hnew, dif_neg (mt hkeys.mp hnew)]
    simp only [mapRows, modify, List.map_map]
    refine List.map_congr_left fun r _ => ?_
    simp only [Function.comp_apply, hf]
    split_ifs
    · exact h r
    · rfl

theorem upsert_eq_self_iff {t : Table key} {new : ρ} {f : ρ → ρ} {hf : ∀ r, key (f r) = key r} :
    t.upsert new f hf = t ↔ ∃ r, t.find? (key new) = some r ∧ f r = r := by
  constructor
  · intro h
    have hfind := t.find?_upsert new f hf (key new)
    rw [h, if_pos rfl] at hfind
    cases hr : t.find? (key new) with
    | none =>
      rw [hr] at hfind
      cases hfind
    | some r =>
      rw [hr] at hfind
      exact ⟨r, rfl, (Option.some.inj hfind).symm⟩
  · rintro ⟨r, hr, hfix⟩
    obtain ⟨hmem, hkey⟩ := t.find?_eq_some.mp hr
    apply ext_rows
    unfold upsert
    rw [dif_neg fun hnew => hnew r hmem hkey]
    have hrows : ∀ q ∈ t.rows, (if key q = key new then f q else q) = id q := by
      intro q hq
      split_ifs with hkq
      · rw [t.key_inj hq hmem (hkq.trans hkey.symm)]
        exact hfix
      · rfl
    exact (List.map_congr_left hrows).trans (List.map_id _)

section

variable {α : Type} (new : α → ρ) (merge : α → ρ → ρ) (hmerge : ∀ a r, key (merge a r) = key r)

def upsertAll (t : Table key) (as : List α) : Table key := as.foldl (fun t a => t.upsert (new a) (merge a) (hmerge a)) t

variable {new merge hmerge} {t : Table key} {as : List α} {a : α}

theorem find?_upsertAll_of_not_mem {k : κ} (h : ∀ a ∈ as, key (new a) ≠ k) :
    (t.upsertAll new merge hmerge as).find? k = t.find? k := by
  induction as generalizing t with
  | nil => rfl
  | cons a as ih =>
    obtain ⟨ha, hrest⟩ := List.forall_mem_cons.mp h
    apply (ih hrest).trans
    rw [find?_upsert, if_neg (Ne.symm ha)]

theorem find?_upsertAll (hnodup : (as.map fun a => key (new a)).Nodup) (ha : a ∈ as) :
    (t.upsertAll new merge hmerge as).find? (key (new a)) = some ((t.find? (key (new a))).elim (new a) (merge a)) := by
  induction as generalizing t with
  | nil => cases ha
  | cons b as ih =>
    rw [List.map_cons, List.nodup_cons] at hnodup
    obtain ⟨hb, hnodup⟩ := hnodup
    have hother : ∀ c ∈ as, key (new c) ≠ key (new b) := fun c hc hkey => hb (hkey ▸ List.mem_map_of_mem hc)
    rcases List.mem_cons.mp ha with rfl | ha
    · refine (find?_upsertAll_of_not_mem hother).trans ?_
      rw [find?_upsert, if_pos rfl]
    · apply (ih hnodup ha).trans
      rw [find?_upsert, if_neg (hother a ha)]

end

theorem eq_of_find? {t u : Table key} (hkeys : t.rows.map key = u.rows.map key) (h : t.find? = u.find?) : t = u := by
  have hrows (t : Table key) : t.rows = (t.rows.map key).filterMap t.find? := by
    have hfind : ∀ r ∈ t.rows, (t.find? ∘ key) r = some r := fun r hr => t.find?_eq_some.mpr ⟨hr, rfl⟩
    rw [List.filterMap_map, List.filterMap_congr hfind, List.filterMap_some]
  apply ext_rows
  rw [hrows t, hrows u, hkeys, h]

section

variable {α : Type} {new : α → ρ} {merge : α → ρ → ρ} {hmerge : ∀ a r, key (merge a r) = key r} {t : Table key}
  {as : List α}

theorem find?_upsertAll_merged (hover : ∀ a b r, merge b (merge a r) = merge b r) {k : κ} {old : ρ}
    (h : t.find? k = some old) :
    ∃ r, (t.upsertAll new merge hmerge as).find? k = some r ∧ ∀ a, merge a r = merge a old := by
  induction as generalizing t old with
  | nil => exact ⟨old, h, fun _ => rfl⟩
  | cons b as ih =>
    obtain ⟨r, hr, hmerged⟩ := ih (find?_upsert_of_some h)
    refine ⟨r, hr, fun a => ?_⟩
    rw [hmerged]
    split_ifs
    · exact hover b a old
    · rfl

theorem find?_upsertAll_last (hover : ∀ a b r, merge b (merge a r) = merge b r) {pre post : List α} {a : α} {old : ρ}
    (hlast : ∀ b ∈ post, key (new b) ≠ key (new a)) (h : t.find? (key (new a)) = some old) :
    (t.upsertAll new merge hmerge (pre ++ a :: post)).find? (key (new a)) = some (merge a old) := by
  obtain ⟨r, hr, hmerged⟩ := @find?_upsertAll_merged _ _ _ _ _ new merge hmerge t pre hover _ _ h
  rw [upsertAll, List.foldl_append]
  apply (find?_upsertAll_of_not_mem hlast).trans
  apply (find?_upsert_of_some hr).trans
  rw [if_pos rfl, hmerged]

theorem upsertAll_written {pre post : List α} {a : α} (hlast : ∀ b ∈ post, key (new b) ≠ key (new a)) :
    ((t.upsertAll new merge hmerge (pre ++ a :: post)).find? (key (new a))).isSome := by
  have hfind : (t.upsertAll new merge hmerge (pre ++ a :: post)).find? (key (new a)) =
      some (((t.upsertAll new merge hmerge pre).find? (key (new a))).elim (new a) (merge a)) := by
    rw [upsertAll, List.foldl_append]
    apply (find?_upsertAll_of_not_mem hlast).trans
    exact (find?_upsert _ _ _ _ _).trans (if_pos rfl)
  rw [hfind, Option.isSome_some]

theorem keys_upsert {new : ρ} {f : ρ → ρ} {hf : ∀ r, key (f r) = key r} (h : (t.find? (key new)).isSome) :
    (t.upsert new f hf).rows.map key = t.rows.map key := by
  obtain ⟨r, hr⟩ := Option.isSome_iff_exists.mp h
  obtain ⟨hmem, hkey⟩ := t.find?_eq_some.mp hr
  rw [upsert, dif_neg fun hnew => hnew r hmem hkey, modify, List.map_map]
  apply List.map_congr_left
  intro s _
  rw [Function.comp_apply]
  split_ifs
  · exact hf s
  · rfl

theorem keys_upsertAll (h : ∀ a ∈ as, (t.find? (key (new a))).isSome) :
    (t.upsertAll new merge hmerge as).rows.map key = t.rows.map key := by
  induction as generalizing t with
  | nil => rfl
  | cons a as ih =>
    obtain ⟨ha, hrest⟩ := List.forall_mem_cons.mp h
    apply (ih _).trans (keys_upsert ha)
    intro b hb
    obtain ⟨r, hr⟩ := Option.isSome_iff_exists.mp (hrest b hb)
    rw [find?_upsert_of_some hr, Option.isSome_some]

theorem exists_last {k : κ} (h : ∃ a ∈ as, key (new a) = k) :
    ∃ pre a post, as = pre ++ a :: post ∧ key (new a) = k ∧ ∀ b ∈ post, key (new b) ≠ key (new a) := by
  induction as with
  | nil =>
    obtain ⟨a, ha, -⟩ := h
    cases ha
  | cons c as ih =>
    by_cases hrest : ∃ a ∈ as, key (new a) = k
    · obtain ⟨pre, a, post, rfl, ha, hlast⟩ := ih hrest
      exact ⟨c :: pre, a, post, rfl, ha, hlast⟩
    · obtain ⟨a, ha, hk⟩ := h
      obtain rfl | ha := List.mem_cons.mp ha
      · exact ⟨[], a, as, rfl, hk, fun b hb hkey => hrest ⟨b, hb, hkey.trans hk⟩⟩
      · exact absurd ⟨a, ha, hk⟩ hrest

/-- A run of upserts changes nothing exactly when the last one of each key writes what is stored. -/
theorem upsertAll_eq_self_iff (hover : ∀ a b r, merge b (merge a r) = merge b r) :
    t.upsertAll new merge hmerge as = t ↔ ∀ pre a post, as = pre ++ a :: post →
      (∀ b ∈ post, key (new b) ≠ key (new a)) → ∃ old, t.find? (key (new a)) = some old ∧ merge a old = old := by
  constructor
  · rintro h pre a post rfl hlast
    have hwritten := @upsertAll_written _ _ _ _ _ _ merge hmerge t pre post a hlast
    rw [h] at hwritten
    obtain ⟨old, hold⟩ := Option.isSome_iff_exists.mp hwritten
    have hfind := @find?_upsertAll_last _ _ _ _ _ _ _ hmerge t hover pre post a old hlast hold
    rw [h, hold, Option.some_inj] at hfind
    exact ⟨old, hold, hfind.symm⟩
  · intro h
    have hstored {k : κ} (hk : ∃ a ∈ as, key (new a) = k) :
        (t.find? k).isSome ∧ (t.upsertAll new merge hmerge as).find? k = t.find? k := by
      obtain ⟨pre, a, post, rfl, rfl, hlast⟩ := exists_last hk
      obtain ⟨old, hold, hmerged⟩ := h pre a post rfl hlast
      rw [find?_upsertAll_last hover hlast hold, hold, hmerged]
      exact ⟨rfl, rfl⟩
    apply eq_of_find?
    · exact keys_upsertAll fun a ha => (hstored ⟨a, ha, rfl⟩).1
    · funext k
      by_cases hk : ∃ a ∈ as, key (new a) = k
      · exact (hstored hk).2
      · exact find?_upsertAll_of_not_mem fun a ha hkey => hk ⟨a, ha, hkey⟩

end

section

variable {υ : Type} [DecidableEq υ] (unique : ρ → υ)

def Clash (t : Table key) (r : ρ) : Prop := ∃ s ∈ t.rows, key s = key r ∨ unique s = unique r

instance (t : Table key) (r : ρ) : Decidable (t.Clash unique r) := inferInstanceAs (Decidable (∃ s ∈ t.rows, _))

def insertOrIgnore (t : Table key) (r : ρ) : Table key :=
  if h : t.Clash unique r then t
  else
    { rows := t.rows ++ [r]
      nodup := by
        rw [List.map_append, List.map_singleton, List.nodup_append]
        refine ⟨t.nodup, List.nodup_singleton _, ?_⟩
        intro a ha b hb hab
        obtain ⟨s, hs, rfl⟩ := List.mem_map.mp ha
        rw [List.mem_singleton.mp hb] at hab
        exact h ⟨s, hs, .inl hab⟩ }

def insert? (t : Table key) (r : ρ) : Option (Table key) :=
  if t.Clash key r then none else some (t.insertOrIgnore key r)

def insertAll (t : Table key) (rows : List ρ) : Table key := rows.foldl (insertOrIgnore unique) t

variable {unique} {t : Table key} {r s : ρ}

theorem rows_insertOrIgnore :
    (t.insertOrIgnore unique r).rows = if t.Clash unique r then t.rows else t.rows ++ [r] := by
  unfold insertOrIgnore
  split_ifs
  · rfl
  · rfl

theorem rows_insert? {u : Table key} (h : t.insert? r = some u) : u.rows = t.rows ++ [r] := by
  unfold insert? at h
  split_ifs at h with hclash
  cases h
  rw [rows_insertOrIgnore, if_neg hclash]

theorem insert?_eq_none : t.insert? r = none ↔ ∃ s ∈ t.rows, key s = key r := by
  simp [insert?, Clash]

theorem insertOrIgnore_of_clash (h : t.Clash unique r) : t.insertOrIgnore unique r = t := dif_pos h

theorem clash_of_insertOrIgnore (h : t.insertOrIgnore unique r = t) : t.Clash unique r := by
  by_contra hclash
  have hrows := congrArg Table.rows h
  rw [rows_insertOrIgnore, if_neg hclash] at hrows
  simp at hrows

omit [DecidableEq κ] [DecidableEq υ] in
theorem clash_mapRows {f : ρ → ρ} {hf : ∀ r, key (f r) = key r} (hu : ∀ r, unique (f r) = unique r) :
    (t.mapRows f hf).Clash unique r ↔ t.Clash unique r := by
  simp [Clash, mapRows, hf, hu]

theorem insertOrIgnore_mapRows {f : ρ → ρ} {hf : ∀ r, key (f r) = key r} (hu : ∀ r, unique (f r) = unique r) :
    (t.insertOrIgnore unique r).mapRows f hf = (t.mapRows f hf).insertOrIgnore unique (f r) := by
  have hclash : (t.mapRows f hf).Clash unique (f r) ↔ t.Clash unique r := by
    rw [clash_mapRows hu]
    simp only [Clash, hf, hu]
  apply ext_rows
  rw [rows_insertOrIgnore]
  by_cases h : t.Clash unique r
  · rw [if_pos (hclash.mpr h), insertOrIgnore_of_clash h]
  · rw [if_neg (mt hclash.mp h)]
    simp only [mapRows, rows_insertOrIgnore, if_neg h, List.map_append, List.map_singleton]

theorem mem_insertOrIgnore (h : s ∈ t.rows) : s ∈ (t.insertOrIgnore unique r).rows := by
  rw [rows_insertOrIgnore]
  split_ifs
  · exact h
  · exact List.mem_append_left _ h

theorem clash_insertOrIgnore : (t.insertOrIgnore unique r).Clash unique r := by
  unfold Clash
  rw [rows_insertOrIgnore]
  split_ifs with h
  · exact h
  · exact ⟨r, by simp, .inl rfl⟩

theorem mem_insertAll {rows : List ρ} (h : s ∈ t.rows) : s ∈ (t.insertAll unique rows).rows := by
  induction rows generalizing t with
  | nil => exact h
  | cons r rows ih => exact ih (mem_insertOrIgnore h)

theorem clash_insertAll {rows : List ρ} (hr : r ∈ rows) : (t.insertAll unique rows).Clash unique r := by
  induction rows generalizing t with
  | nil => cases hr
  | cons q rows ih =>
    rcases List.mem_cons.mp hr with rfl | hr
    · obtain ⟨s, hs, hclash⟩ := @clash_insertOrIgnore _ _ _ _ _ _ unique t r
      have hmem : s ∈ ((t.insertOrIgnore unique r).insertAll unique rows).rows := mem_insertAll hs
      exact ⟨s, hmem, hclash⟩
    · exact ih hr

theorem mem_of_mem_insertAll {rows : List ρ} (h : s ∈ (t.insertAll unique rows).rows) : s ∈ t.rows ∨ s ∈ rows := by
  induction rows generalizing t with
  | nil => exact .inl h
  | cons r rows ih =>
    rcases ih h with hs | hs
    · rw [rows_insertOrIgnore] at hs
      split_ifs at hs
      · exact .inl hs
      · rcases List.mem_append.mp hs with hs | hs
        · exact .inl hs
        · rw [List.mem_singleton.mp hs]
          exact .inr List.mem_cons_self
    · exact .inr (List.mem_cons_of_mem _ hs)

theorem rows_insertAll (rows : List ρ) (t : Table key) : t.rows <+: (t.insertAll unique rows).rows := by
  induction rows generalizing t with
  | nil => exact List.prefix_refl _
  | cons r rows ih =>
    apply List.IsPrefix.trans _ (ih _)
    rw [rows_insertOrIgnore]
    split_ifs
    · exact List.prefix_refl _
    · exact List.prefix_append _ _

theorem insertAll_eq_self_iff {rows : List ρ} : t.insertAll unique rows = t ↔ ∀ r ∈ rows, t.Clash unique r := by
  induction rows with
  | nil => simp [insertAll]
  | cons r rows ih =>
    rw [List.forall_mem_cons]
    constructor
    · intro h
      have hlong : (t.insertOrIgnore unique r).rows <+: t.rows := by
        have hrest := @rows_insertAll _ _ _ _ _ _ unique rows (t.insertOrIgnore unique r)
        change _ <+: (t.insertAll unique (r :: rows)).rows at hrest
        rwa [h] at hrest
      have hfirst : t.insertOrIgnore unique r = t :=
        ext_rows ((rows_insertAll [r] t).eq_of_length_le hlong.length_le).symm
      apply And.intro (clash_of_insertOrIgnore hfirst)
      apply ih.mp
      rw [insertAll, List.foldl_cons, hfirst] at h
      exact h
    · rintro ⟨hr, hrows⟩
      rw [insertAll, List.foldl_cons, insertOrIgnore_of_clash hr]
      exact ih.mpr hrows

theorem unique_insertOrIgnore (h : (t.rows.map unique).Nodup) :
    ((t.insertOrIgnore unique r).rows.map unique).Nodup := by
  rw [rows_insertOrIgnore]
  split_ifs with hclash
  · exact h
  · rw [List.map_append, List.map_singleton, List.nodup_append]
    refine ⟨h, List.nodup_singleton _, ?_⟩
    intro a ha b hb hab
    obtain ⟨s, hs, rfl⟩ := List.mem_map.mp ha
    rw [List.mem_singleton.mp hb] at hab
    exact hclash ⟨s, hs, .inr hab⟩

theorem unique_insertAll {rows : List ρ} (h : (t.rows.map unique).Nodup) :
    ((t.insertAll unique rows).rows.map unique).Nodup := by
  induction rows generalizing t with
  | nil => exact h
  | cons r rows ih => exact ih (unique_insertOrIgnore h)

theorem insertAll_lands_iff {ο : Type} {own : ρ → ο} {rows : List ρ}
    (hown : ∀ a b, own a = own b → key a = key b ∧ unique a = unique b)
    (ht : (t.rows.map unique).Nodup) (hrows : (rows.map key).Nodup) :
    (∀ r ∈ rows, ∃ s ∈ (t.insertAll unique rows).rows, own s = own r) ↔
      (∀ r ∈ rows, ∀ s ∈ t.rows, key s = key r ∨ unique s = unique r → own s = own r) ∧
        (rows.map unique).Nodup := by
  have hkeys : ∀ a ∈ rows, ∀ b ∈ rows, key a = key b → a = b := fun a ha b hb => List.inj_on_of_nodup_map hrows ha hb
  constructor
  · intro hland
    have hsame : ∀ a b r, a ∈ (t.insertAll unique rows).rows → b ∈ (t.insertAll unique rows).rows →
        own b = own r → key a = key r ∨ unique a = unique r → a = b := by
      intro a b r ha hb hbr hclash
      obtain ⟨hk, hu⟩ := hown b r hbr
      rcases hclash with h | h
      · exact Table.key_inj _ ha hb (h.trans hk.symm)
      · exact List.inj_on_of_nodup_map (unique_insertAll ht) ha hb (h.trans hu.symm)
    constructor
    · intro r hr s hs hclash
      obtain ⟨b, hb, hbr⟩ := hland r hr
      rw [hsame s b r (mem_insertAll hs) hb hbr hclash]
      exact hbr
    · refine (List.nodup_map_iff_inj_on (List.Nodup.of_map _ hrows)).mpr fun a ha b hb hab => ?_
      obtain ⟨a', ha', haa⟩ := hland a ha
      obtain ⟨b', hb', hbb⟩ := hland b hb
      have heq : a' = b' := hsame a' b' b ha' hb' hbb (.inr ((hown a' a haa).2.trans hab))
      apply hkeys a ha b hb
      rw [← (hown a' a haa).1, heq]
      exact (hown b' b hbb).1
  · rintro ⟨hold, hdistinct⟩ r hr
    obtain ⟨s, hs, hclash⟩ := @clash_insertAll _ _ _ _ _ _ unique t r rows hr
    refine ⟨s, hs, ?_⟩
    rcases mem_of_mem_insertAll hs with hs | hs
    · exact hold r hr s hs hclash
    · rcases hclash with h | h
      · rw [hkeys s hs r hr h]
      · rw [List.inj_on_of_nodup_map hdistinct hs hr h]

end

end Table

end AgentProxy
