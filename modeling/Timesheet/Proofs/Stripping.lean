import Mathlib.Data.List.TakeWhile
import Timesheet.Proofs.KeyLists

/-!
What is left of a text without the white space around it, and which keys a comma list has.
-/
namespace Timesheet.Text

/-- Between white space, `s` has the text `t`, which neither starts nor ends with white space. -/
structure Stripped (s t : String) : Prop where
  around : ∃ front back, s.toList = front ++ t.toList ++ back ∧
    (∀ c ∈ front, isBlank c = true) ∧ ∀ c ∈ back, isBlank c = true
  first : ∀ c ∈ t.toList.head?, isBlank c = false
  last : ∀ c ∈ t.toList.getLast?, isBlank c = false

/-- The key is what one of the pieces of the comma list has between white space. -/
def Listed (key joined : String) : Prop :=
  key ≠ "" ∧ ∃ piece ∈ joined.toList.splitOn ',', Stripped (String.ofList piece) key

section Characters
variable {p : Char → Bool} {l front middle back : List Char}

theorem dropWhile_of_head (h : ∀ c ∈ l.head?, p c = false) : l.dropWhile p = l := by
  cases l with
  | nil => rfl
  | cons c cs => exact List.dropWhile_cons_of_neg (by simp [h c rfl])

theorem head_dropWhile : ∀ c ∈ (l.dropWhile p).head?, p c = false := by
  intro c hc
  have hhead := List.head?_dropWhile_not p l
  rw [Option.mem_def.mp hc] at hhead
  exact hhead

theorem trimBlank_around (hfront : ∀ c ∈ front, isBlank c = true)
    (hback : ∀ c ∈ back, isBlank c = true) (hfirst : ∀ c ∈ middle.head?, isBlank c = false)
    (hlast : ∀ c ∈ middle.getLast?, isBlank c = false) :
    trimBlank (front ++ middle ++ back) = middle := by
  have hend : ∀ c ∈ back.reverse, isBlank c = true := fun c hc => hback c (List.mem_reverse.mp hc)
  unfold trimBlank
  rw [List.append_assoc, List.dropWhile_append_of_pos hfront]
  cases middle with
  | nil =>
      have hnil : back.dropWhile isBlank = [] := List.dropWhile_eq_nil_iff.mpr hback
      rw [List.nil_append, hnil]
      rfl
  | cons c cs =>
      have hkept : (c :: cs ++ back).dropWhile isBlank = c :: cs ++ back :=
        dropWhile_of_head fun d hd => hfirst d hd
      have hstays : (c :: cs).reverse.dropWhile isBlank = (c :: cs).reverse :=
        dropWhile_of_head fun d hd => hlast d (by rwa [← List.head?_reverse])
      rw [hkept, List.reverse_append, List.dropWhile_append_of_pos hend, hstays,
        List.reverse_reverse]

theorem exists_around_trimBlank (l : List Char) :
    ∃ front back, l = front ++ trimBlank l ++ back ∧
      (∀ c ∈ front, isBlank c = true) ∧ (∀ c ∈ back, isBlank c = true) ∧
      (∀ c ∈ (trimBlank l).head?, isBlank c = false) ∧
      ∀ c ∈ (trimBlank l).getLast?, isBlank c = false := by
  have hwhole : l.takeWhile isBlank ++ l.dropWhile isBlank = l := List.takeWhile_append_dropWhile
  have hrest := List.takeWhile_append_dropWhile (p := isBlank) (l := (l.dropWhile isBlank).reverse)
  have hsplit : trimBlank l ++ ((l.dropWhile isBlank).reverse.takeWhile isBlank).reverse =
      l.dropWhile isBlank := by
    unfold trimBlank
    rw [← List.reverse_append, hrest, List.reverse_reverse]
  refine ⟨l.takeWhile isBlank, ((l.dropWhile isBlank).reverse.takeWhile isBlank).reverse,
    ?_, ?_, ?_, ?_, ?_⟩
  · rw [List.append_assoc, hsplit, hwhole]
  · exact fun c hc => List.mem_takeWhile_imp hc
  · exact fun c hc => List.mem_takeWhile_imp (List.mem_reverse.mp hc)
  · intro c hc
    refine head_dropWhile (l := l) c ?_
    rw [← hsplit, List.head?_append, Option.mem_def.mp hc]
    rfl
  · intro c hc
    unfold trimBlank at hc
    rw [List.getLast?_reverse] at hc
    exact head_dropWhile c hc

end Characters

theorem stripped_iff {s t : String} : Stripped s t ↔ t = trim s := by
  constructor
  · intro h
    obtain ⟨front, back, hs, hfront, hback⟩ := h.around
    rw [trim, hs, trimBlank_around hfront hback h.first h.last, String.ofList_toList]
  · rintro rfl
    obtain ⟨front, back, hs, hfront, hback, hfirst, hlast⟩ := exists_around_trimBlank s.toList
    have htrim : (trim s).toList = trimBlank s.toList := String.toList_ofList
    refine ⟨⟨front, back, ?_, hfront, hback⟩, ?_, ?_⟩
    · rw [htrim]
      exact hs
    · rw [htrim]
      exact hfirst
    · rw [htrim]
      exact hlast

theorem mem_splitKeys_iff {key joined : String} : key ∈ splitKeys joined ↔ Listed key joined := by
  have hpiece : ∀ piece, Stripped (String.ofList piece) key ↔
      key = String.ofList (trimBlank piece) := by
    intro piece
    rw [stripped_iff, trim, String.toList_ofList]
  unfold Listed
  simp only [splitKeys, splitOnChar_eq_splitOn, List.mem_map, List.mem_filter, hpiece]
  constructor
  · rintro ⟨_, ⟨⟨piece, hmem, rfl⟩, hne⟩, rfl⟩
    exact ⟨by simpa using hne, piece, hmem, rfl⟩
  · rintro ⟨hne, piece, hmem, rfl⟩
    exact ⟨_, ⟨⟨piece, hmem, rfl⟩, by simpa using hne⟩, rfl⟩

theorem trim_ne_empty_iff {s : String} : trim s ≠ "" ↔ ∃ c ∈ s.toList, isBlank c = false := by
  have hempty : trim s = "" ↔ trimBlank s.toList = [] := by
    rw [trim, ← String.toList_inj, String.toList_ofList]
    rfl
  rw [ne_eq, hempty]
  obtain ⟨front, back, hs, hfront, hback, hfirst, -⟩ := exists_around_trimBlank s.toList
  constructor
  · intro hne
    obtain ⟨c, cs, hcons⟩ := List.exists_cons_of_ne_nil hne
    refine ⟨c, ?_, hfirst c (by rw [hcons]; rfl)⟩
    rw [hs, hcons]
    simp
  · intro hsome hnil
    obtain ⟨c, hc, hkept⟩ := hsome
    rw [hs, hnil, List.append_nil, List.mem_append] at hc
    rcases hc with hc | hc
    · simp [hfront c hc] at hkept
    · simp [hback c hc] at hkept

end Timesheet.Text
