import Timesheet.Id

/-!
Tables: rows under identifiers. A row that is added gets the identifier after the largest one
present, so the identifiers of rows that are present grow in the order in which the rows were added.
-/
namespace Timesheet

@[ext]
structure Table (kind : RowKind) (α : Type) where
  rows : List (Id kind × α)
  increasing : rows.Pairwise (fun r s => r.1.value < s.1.value)

namespace Table

variable {kind : RowKind} {α : Type}

def empty : Table kind α := ⟨[], .nil⟩

instance : EmptyCollection (Table kind α) := ⟨empty⟩

def find? (t : Table kind α) (id : Id kind) : Option α :=
  (t.rows.find? (·.1 == id)).map (·.2)

def contains (t : Table kind α) (id : Id kind) : Bool := (t.find? id).isSome

/-- The largest identifier plus one; 1 in an empty table. -/
def nextId (t : Table kind α) : Id kind :=
  match t.rows.getLast? with
  | none => ⟨1⟩
  | some (id, _) => ⟨id.value + 1⟩

theorem lt_nextId (t : Table kind α) {r : Id kind × α} (h : r ∈ t.rows) :
    r.1.value < t.nextId.value := by
  have hp := t.increasing
  rcases List.eq_nil_or_concat t.rows with h0 | ⟨front, last, h0⟩
  · simp [h0] at h
  · simp only [List.concat_eq_append] at h0
    have hn : t.nextId.value = last.1.value + 1 := by simp [nextId, h0]
    rw [h0] at h hp
    rcases List.mem_append.1 h with h | h
    · have := (List.pairwise_append.1 hp).2.2 r h last (by simp)
      omega
    · simp only [List.mem_singleton] at h
      subst h
      omega

def push (t : Table kind α) (row : α) : Table kind α where
  rows := t.rows ++ [(t.nextId, row)]
  increasing := by
    refine List.pairwise_append.2 ⟨t.increasing, by simp, ?_⟩
    intro r hr s hs
    simp only [List.mem_singleton] at hs
    subst hs
    exact t.lt_nextId hr

/-- Replaces the row under `id` by its image; without such a row nothing happens. -/
def modify (t : Table kind α) (id : Id kind) (f : α → α) : Table kind α where
  rows := t.rows.map fun r => if r.1 = id then (r.1, f r.2) else r
  increasing := by
    refine List.pairwise_map.2 (t.increasing.imp ?_)
    intro r s h
    split <;> split <;> exact h

def erase (t : Table kind α) (id : Id kind) : Table kind α where
  rows := t.rows.filter (·.1 ≠ id)
  increasing := t.increasing.sublist List.filter_sublist

def filter (t : Table kind α) (p : α → Bool) : List (Id kind × α) := t.rows.filter fun r => p r.2

def any (t : Table kind α) (p : α → Bool) : Bool := t.rows.any fun r => p r.2

end Table

end Timesheet
