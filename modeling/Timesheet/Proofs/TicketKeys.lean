import Timesheet.Ticket

/-!
The form of ticket keys, and what it keeps out of them: commas, white space, and whatever could end
a quoted text.
-/
namespace Timesheet

namespace TicketKey

/-- A capital, then capitals and digits, a hyphen, and at least one digit. As a regular expression:
`^[A-Z][A-Z0-9]*-[0-9]+$`. -/
def WellFormed (ticket : String) : Prop :=
  ∃ first rest number, ticket.toList = first :: rest ++ '-' :: number ∧
    isCapital first = true ∧ (∀ c ∈ rest, isCapital c = true ∨ c.isDigit = true) ∧
    number ≠ [] ∧ ∀ c ∈ number, c.isDigit = true

theorem split?_append {stem number : List Char} (h : '-' ∉ number) :
    split? (stem ++ '-' :: number) = some (stem, number) := by
  have hkept : ∀ c ∈ number.reverse, decide (c ≠ '-') = true := by
    intro c hc
    exact decide_eq_true fun heq => h (heq ▸ List.mem_reverse.mp hc)
  have hback : (stem ++ '-' :: number).reverse = number.reverse ++ '-' :: stem.reverse := by simp
  have htake : (stem ++ '-' :: number).reverse.takeWhile (· ≠ '-') = number.reverse := by
    rw [hback, List.takeWhile_append_of_pos hkept, List.takeWhile_cons_of_neg (by decide),
      List.append_nil]
  have hdrop : (stem ++ '-' :: number).reverse.dropWhile (· ≠ '-') = '-' :: stem.reverse := by
    rw [hback, List.dropWhile_append_of_pos hkept, List.dropWhile_cons_of_neg (by decide)]
  simp only [split?, htake, hdrop, List.reverse_reverse]

theorem eq_of_split? {text stem number : List Char} (h : split? text = some (stem, number)) :
    text = stem ++ '-' :: number := by
  have hwhole := List.takeWhile_append_dropWhile (p := (· ≠ '-')) (l := text.reverse)
  have hhead := List.head?_dropWhile_not (· ≠ '-') text.reverse
  unfold split? at h
  rcases hdrop : text.reverse.dropWhile (· ≠ '-') with _ | ⟨hyphen, back⟩
  · rw [hdrop] at h
    cases h
  · rw [hdrop] at h hhead hwhole
    have hhyphen : hyphen = '-' := by simpa using hhead
    obtain ⟨rfl, rfl⟩ := Prod.mk.inj (Option.some.inj h)
    rw [hhyphen] at hwhole
    simpa using (congrArg List.reverse hwhole).symm

theorem isStem_cons {c : Char} {rest : List Char} :
    isStem (c :: rest) = true ↔
      isCapital c = true ∧ ∀ d ∈ rest, isCapital d = true ∨ d.isDigit = true := by
  simp [isStem]

theorem isNumber_iff {number : List Char} :
    isNumber number = true ↔ number ≠ [] ∧ ∀ c ∈ number, c.isDigit = true := by
  simp [isNumber]

theorem isValid_iff {ticket : String} : isValid ticket = true ↔ WellFormed ticket := by
  unfold isValid
  constructor
  · intro h
    cases hsplit : split? ticket.toList with
    | none => simp [hsplit] at h
    | some parts =>
        obtain ⟨stem, number⟩ := parts
        simp only [hsplit, Bool.and_eq_true] at h
        obtain ⟨hstem, hnumber⟩ := h
        cases stem with
        | nil => cases hstem
        | cons first rest =>
            obtain ⟨hfirst, hrest⟩ := isStem_cons.mp hstem
            obtain ⟨hne, hdigits⟩ := isNumber_iff.mp hnumber
            exact ⟨first, rest, number, eq_of_split? hsplit, hfirst, hrest, hne, hdigits⟩
  · rintro ⟨first, rest, number, hticket, hfirst, hrest, hne, hdigits⟩
    have hhyphen : '-' ∉ number := fun hmem => by simpa using hdigits _ hmem
    rw [hticket, split?_append hhyphen]
    simp only [Bool.and_eq_true]
    exact ⟨isStem_cons.mpr ⟨hfirst, hrest⟩, isNumber_iff.mpr ⟨hne, hdigits⟩⟩

instance : DecidablePred WellFormed := fun _ => decidable_of_iff _ isValid_iff

section WellFormed
variable {ticket : String} (h : WellFormed ticket)
include h

theorem WellFormed.character {c : Char} (hc : c ∈ ticket.toList) :
    isCapital c = true ∨ c.isDigit = true ∨ c = '-' := by
  obtain ⟨first, rest, number, hticket, hfirst, hrest, -, hdigits⟩ := h
  simp only [hticket, List.mem_append, List.mem_cons] at hc
  rcases hc with (rfl | hc) | rfl | hc
  · exact .inl hfirst
  · exact (hrest c hc).imp_right .inl
  · exact .inr (.inr rfl)
  · exact .inr (.inl (hdigits c hc))

theorem WellFormed.notMem {c : Char} (hcapital : isCapital c = false) (hdigit : c.isDigit = false)
    (hhyphen : c ≠ '-') : c ∉ ticket.toList := by
  intro hc
  rcases h.character hc with hyes | hyes | hyes
  · simp [hcapital] at hyes
  · simp [hdigit] at hyes
  · exact hhyphen hyes

theorem WellFormed.ne_empty : ticket ≠ "" := by
  obtain ⟨first, rest, number, hticket, -⟩ := h
  rintro rfl
  simp at hticket

theorem WellFormed.not_blank {c : Char} (hc : c ∈ ticket.toList) : Text.isBlank c = false := by
  have hrange : 45 ≤ c.toNat ∧ c.toNat ≤ 90 := by
    rcases h.character hc with hcapital | hdigit | rfl
    · simp only [isCapital, Bool.and_eq_true, decide_eq_true_eq] at hcapital
      have hlow : 65 ≤ c.toNat := hcapital.1
      have hhigh : c.toNat ≤ 90 := hcapital.2
      omega
    · simp only [Char.isDigit, Bool.and_eq_true, decide_eq_true_eq] at hdigit
      have hlow : 48 ≤ c.toNat := hdigit.1
      have hhigh : c.toNat ≤ 57 := hdigit.2
      omega
    · decide
  simp only [Text.isBlank, Bool.or_eq_false_iff, Bool.and_eq_false_iff, decide_eq_false_iff_not,
    beq_eq_false_iff_ne]
  omega

end WellFormed

end TicketKey

end Timesheet
