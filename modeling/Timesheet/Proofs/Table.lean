import Timesheet.Store.Table

/-!
Rows of a table after its operations. An identifier names at most one row.
-/
namespace Timesheet.Table

variable {kind : RowKind} {α : Type} (t : Table kind α) {id : Id kind} {r : Id kind × α}

theorem eq_of_mem {s : Id kind × α} (hr : r ∈ t.rows) (hs : s ∈ t.rows) (h : r.1 = s.1) :
    r = s := by
  have hp := t.increasing
  generalize t.rows = rows at hr hs hp
  induction rows with
  | nil => cases hr
  | cons head rest ih =>
      obtain ⟨hhead, hrest⟩ := List.pairwise_cons.mp hp
      rcases List.mem_cons.mp hr with rfl | hr' <;> rcases List.mem_cons.mp hs with rfl | hs'
      · rfl
      · exact absurd (hhead s hs') (by rw [h]; omega)
      · exact absurd (hhead r hr') (by rw [h]; omega)
      · exact ih hr' hs' hrest

theorem nodup_ids {rows : List (Id kind × α)} (h : rows.Sublist t.rows) :
    (rows.map (·.1)).Nodup := by
  refine List.pairwise_map.mpr ((t.increasing.sublist h).imp fun hlt heq => ?_)
  rw [heq] at hlt
  exact Int.lt_irrefl _ hlt

theorem row_unique {a b : α} (ha : (id, a) ∈ t.rows) (hb : (id, b) ∈ t.rows) : a = b :=
  congrArg Prod.snd (t.eq_of_mem ha hb rfl)

theorem find?_eq_some_iff {a : α} : t.find? id = some a ↔ (id, a) ∈ t.rows := by
  constructor
  · intro h
    obtain ⟨r, hr, rfl⟩ := Option.map_eq_some_iff.mp h
    have hid : r.1 = id := by simpa using List.find?_some hr
    exact hid ▸ List.mem_of_find?_eq_some hr
  · intro h
    obtain ⟨r, hr⟩ : ∃ r, t.rows.find? (·.1 == id) = some r :=
      Option.isSome_iff_exists.mp (List.find?_isSome.mpr ⟨_, h, by simp⟩)
    have hid : r.1 = id := by simpa using List.find?_some hr
    have hsame := t.eq_of_mem (List.mem_of_find?_eq_some hr) h hid
    simp [find?, hr, hsame]

theorem contains_iff : t.contains id ↔ ∃ a, (id, a) ∈ t.rows := by
  simp only [contains, Option.isSome_iff_exists, find?_eq_some_iff]

@[simp] theorem mem_push {a : α} : r ∈ (t.push a).rows ↔ r ∈ t.rows ∨ r = (t.nextId, a) := by
  simp [push]

@[simp] theorem mem_erase : r ∈ (t.erase id).rows ↔ r ∈ t.rows ∧ r.1 ≠ id := by
  simp [erase]

theorem mem_modify {f : α → α} :
    r ∈ (t.modify id f).rows ↔ ∃ a, (r.1, a) ∈ t.rows ∧ r.2 = if r.1 = id then f a else a := by
  obtain ⟨i, b⟩ := r
  simp only [modify, List.mem_map]
  constructor
  · rintro ⟨⟨j, a⟩, ha, h⟩
    split at h <;> cases h <;> exact ⟨_, ha, by simp_all⟩
  · rintro ⟨a, ha, hb⟩
    refine ⟨(i, a), ha, ?_⟩
    simp only [hb]
    split <;> rfl

theorem mem_put {b : α} (h : t.contains id) :
    r ∈ (t.modify id fun _ => b).rows ↔ r = (id, b) ∨ r ∈ t.rows ∧ r.1 ≠ id := by
  obtain ⟨i, c⟩ := r
  rw [mem_modify]
  constructor
  · rintro ⟨a, ha, hc⟩
    by_cases hid : i = id
    · exact .inl (by simp_all)
    · exact .inr ⟨by simp_all, hid⟩
  · rintro (heq | ⟨hr, hid⟩)
    · obtain ⟨a, ha⟩ := (t.contains_iff).mp h
      cases heq
      exact ⟨a, ha, by simp⟩
    · exact ⟨c, hr, by simp [hid]⟩

theorem nextId_notMem {a : α} : (t.nextId, a) ∉ t.rows := by
  intro h
  exact absurd (t.lt_nextId h) (Int.lt_irrefl _)

theorem modify_of_not_contains {f : α → α} (h : t.contains id = false) : t.modify id f = t := by
  ext1
  refine (List.map_congr_left fun r hr => ?_).trans (List.map_id _)
  have hid : r.1 ≠ id := by
    rintro rfl
    exact absurd ((t.contains_iff).mpr ⟨r.2, hr⟩) (by simp [h])
  simp [hid]

theorem erase_modify {f : α → α} : (t.modify id f).erase id = t.erase id := by
  ext1
  simp only [erase, modify, List.filter_map]
  refine (List.map_congr_left fun r hr => ?_).trans ((List.map_id _).trans ?_)
  · have hid : r.1 ≠ id := by
      have := (List.mem_filter.mp hr).2
      by_cases h : r.1 = id <;> simp_all
    simp [hid]
  · refine List.filter_congr fun r _ => ?_
    by_cases h : r.1 = id <;> simp [h]

theorem erase_push {a : α} : (t.push a).erase t.nextId = t.erase t.nextId := by
  ext1
  simp [erase, push]

theorem mem_filter {p : α → Bool} : r ∈ t.filter p ↔ r ∈ t.rows ∧ p r.2 := List.mem_filter

theorem modify_of_mem {a : α} (h : (id, a) ∈ t.rows) : t.modify id (fun _ => a) = t := by
  ext1
  refine (List.map_congr_left fun r hr => ?_).trans (List.map_id _)
  by_cases hid : r.1 = id
  · have hsame : r = (id, a) := t.eq_of_mem hr h hid
    simp [hsame]
  · simp [hid]

theorem modify_of_mem_const {a : α} (h : (id, a) ∈ t.rows) (f : α → α) :
    t.modify id (fun _ => f a) = t.modify id f := by
  ext1
  refine List.map_congr_left fun r hr => ?_
  by_cases hid : r.1 = id
  · have hsame : r = (id, a) := t.eq_of_mem hr h hid
    simp [hsame]
  · simp [hid]

def mapRows (f : Id kind → α → α) : Table kind α where
  rows := t.rows.map fun r => (r.1, f r.1 r.2)
  increasing := List.pairwise_map.mpr t.increasing

variable (f : Id kind → α → α)

theorem find?_mapRows : (t.mapRows f).find? id = (t.find? id).map (f id) := by
  simp only [find?, mapRows, List.find?_map, Option.map_map]
  cases h : t.rows.find? (·.1 == id) with
  | none =>
      have hnone : t.rows.find? ((·.1 == id) ∘ fun r => (r.1, f r.1 r.2)) = none := h
      rw [hnone]
      rfl
  | some r =>
      have hsome : t.rows.find? ((·.1 == id) ∘ fun r => (r.1, f r.1 r.2)) = some r := h
      have hid : r.1 = id := by simpa using List.find?_some h
      rw [hsome]
      simp [hid]

theorem mapRows_eq_self (hf : ∀ id a, f id a = a) : t.mapRows f = t := by
  ext1
  refine (List.map_congr_left fun r _ => ?_).trans (List.map_id _)
  simp [hf]

theorem modify_eq_mapRows (id : Id kind) (g : α → α) :
    t.modify id g = t.mapRows fun i a => if i = id then g a else a := by
  ext1
  refine List.map_congr_left fun r _ => ?_
  by_cases hid : r.1 = id <;> simp [hid]

theorem find?_modify (id other : Id kind) (g : α → α) :
    (t.modify id g).find? other = (t.find? other).map fun a => if other = id then g a else a := by
  rw [modify_eq_mapRows, find?_mapRows]

theorem contains_mapRows : (t.mapRows f).contains id = t.contains id := by
  simp [contains, find?_mapRows]

def ids : List (Id kind) := t.rows.map (·.1)

theorem ids_mapRows : (t.mapRows f).ids = t.ids := by
  simp [ids, mapRows]

theorem ids_modify (id : Id kind) (g : α → α) : (t.modify id g).ids = t.ids := by
  rw [modify_eq_mapRows, ids_mapRows]

theorem ids_push (a : α) : (t.push a).ids = t.ids ++ [t.nextId] := by
  simp [ids, push]

theorem nextId_eq_ids :
    t.nextId = t.ids.getLast?.elim ⟨1⟩ fun last => ⟨last.value + 1⟩ := by
  unfold nextId ids
  rw [List.getLast?_map]
  cases t.rows.getLast? <;> rfl

theorem nextId_mapRows : (t.mapRows f).nextId = t.nextId := by
  rw [nextId_eq_ids, ids_mapRows, nextId_eq_ids]

theorem mapRows_push (a : α) : (t.push a).mapRows f = (t.mapRows f).push (f t.nextId a) := by
  ext1
  simp only [mapRows, push, List.map_append, List.map_cons, List.map_nil]
  rw [← nextId_mapRows t f]
  rfl

theorem mapRows_erase : (t.erase id).mapRows f = (t.mapRows f).erase id := by
  ext1
  simp only [mapRows, erase, List.filter_map]
  rfl

theorem mapRows_modify (id : Id kind) {g h : α → α} (hcomm : ∀ a, f id (g a) = h (f id a)) :
    (t.modify id g).mapRows f = (t.mapRows f).modify id h := by
  ext1
  simp only [mapRows, modify, List.map_map]
  refine List.map_congr_left fun r _ => ?_
  by_cases hid : r.1 = id
  · simp [hid, hcomm]
  · simp [hid]

theorem mapRows_mapRows {g h : Id kind → α → α} (hcomp : ∀ id a, g id (f id a) = h id a) :
    (t.mapRows f).mapRows g = t.mapRows h := by
  ext1
  simp only [mapRows, List.map_map]
  exact List.map_congr_left fun r _ => by simp [hcomp]

end Timesheet.Table
