import Timesheet.Proofs.Spans
import Timesheet.Proofs.Stripping

/-!
Which inputs are saved. What decides it is said here about texts and rows as they are stored, and
not by the checks that a save makes.
-/
namespace Timesheet

namespace Project

/-- Its key in the internal tracker is more than white space. -/
def Internal (p : Project) : Prop :=
  ∃ key ∈ p.internalKey, ∃ c ∈ key.toList, Text.isBlank c = false

def Unprefixed (p : Project) : Prop := ∀ key, ¬ Text.Listed key (p.prefixes.getD "")

/-- What the ticket has before its hyphen is a prefix of the project. -/
def Prefixes (p : Project) (ticket : String) : Prop :=
  ∃ stem number : List Char, ticket.toList = stem ++ '-' :: number ∧
    Text.Listed (String.ofList stem) (p.prefixes.getD "")

/-- There is no ticket, or it has the form of one and may be booked for the project. -/
def Accepts (p : Project) (ticket : String) : Prop :=
  ticket = "" ∨ TicketKey.WellFormed ticket ∧
    (p.Internal ∨ p.Unprefixed ∨ p.Prefixes ticket ∨ Text.Listed ticket p.subtickets)

end Project

namespace Store

/-- The input may be saved for the user: as a new entry, or as the entry `target`. -/
structure Accepts (s : Store) (user : UserId) (target : Option EntryId) (input : EntryInput) :
    Prop where
  own : ∀ id ∈ target, ∃ row, s.entries.find? id = some row ∧ row.user = user
  project : ∃ p, s.project? input.project = some p ∧ p.active = true ∧
    ∃ ticket, Text.Stripped input.ticket ticket ∧ p.Accepts ticket
  customer : ∀ id ∈ input.customer, ∃ c, s.customer? id = some c ∧ c.active = true
  activity : ∀ id ∈ input.activity, ∃ a, s.activity? id = some a

/-- The user is there, and the statements of a save succeed: an entry that is to be changed can be
read and written. -/
structure Serves (s : Store) (user : UserId) (target : Option EntryId) : Prop where
  user : s.users.contains user = true
  readable : ∀ id ∈ target, ∀ row, s.entries.find? id = some row → ∃ e, row.read = .ok e
  thawed : target ≠ none → s.frozen = false

end Store

namespace TicketKey.WellFormed

variable {ticket : String} {stem number : List Char}

theorem stem_eq (h : WellFormed ticket) (hticket : ticket.toList = stem ++ '-' :: number) :
    TicketKey.stem ticket = String.ofList stem := by
  obtain ⟨first, rest, digits, hform, hfirst, hrest, -, hdigits⟩ := h
  have hone : ticket.toList.count '-' = 1 := by
    have hbefore : '-' ∉ first :: rest := by
      intro hmem
      rcases List.mem_cons.mp hmem with heq | hmem
      · rw [← heq] at hfirst
        cases hfirst
      · have hhyphen := hrest _ hmem
        simp [isCapital] at hhyphen
    have hafter : '-' ∉ digits := fun hmem => by simpa using hdigits _ hmem
    rw [hform, List.count_append, List.count_cons_self, List.count_eq_zero.mpr hbefore,
      List.count_eq_zero.mpr hafter]
  have hafter : '-' ∉ number := by
    rw [hticket, List.count_append, List.count_cons_self] at hone
    exact List.count_eq_zero.mp (by omega)
  rw [TicketKey.stem, hticket, split?_append hafter]

end TicketKey.WellFormed

namespace Project

variable {p : Project} {ticket : String}

theorem internal_iff : p.internalProjectKey.isSome = true ↔ p.Internal := by
  unfold internalProjectKey Internal
  cases p.internalKey with
  | none => simp
  | some key =>
      have hblank := Text.trim_ne_empty_iff (s := key)
      simp only [Option.map_some, Option.filter_some, Option.mem_def, Option.some.injEq,
        exists_eq_left', ← hblank]
      by_cases htrim : Text.trim key = "" <;> simp [htrim]

theorem unprefixed_iff : p.prefixList.isEmpty = true ↔ p.Unprefixed := by
  rw [List.isEmpty_iff, List.eq_nil_iff_forall_not_mem]
  unfold Unprefixed prefixList
  simp only [Text.mem_splitKeys_iff]

theorem prefixes_iff (h : TicketKey.WellFormed ticket) :
    p.prefixList.contains (TicketKey.stem ticket) = true ↔ p.Prefixes ticket := by
  rw [List.contains_iff_mem, prefixList, Text.mem_splitKeys_iff]
  constructor
  · intro hlisted
    obtain ⟨first, rest, number, hticket, -⟩ := id h
    rw [h.stem_eq hticket] at hlisted
    exact ⟨_, _, hticket, hlisted⟩
  · intro hprefixes
    obtain ⟨stem, number, hticket, hlisted⟩ := hprefixes
    rw [h.stem_eq hticket]
    exact hlisted

theorem takes_iff (h : TicketKey.WellFormed ticket) :
    p.takes ticket = true ↔
      p.Internal ∨ p.Unprefixed ∨ p.Prefixes ticket ∨ Text.Listed ticket p.subtickets := by
  have hknown : p.subticketKeys.contains ticket = true ↔ Text.Listed ticket p.subtickets := by
    rw [List.contains_iff_mem, subticketKeys, Text.mem_splitKeys_iff]
  unfold takes
  simp only [Bool.or_eq_true]
  rw [internal_iff, unprefixed_iff, prefixes_iff h, hknown, or_assoc, or_assoc]

theorem checkTicket_iff_accepts : checkTicket p ticket = .ok () ↔ p.Accepts ticket := by
  rw [checkTicket_ok_iff]
  exact or_congr_right (and_congr_right takes_iff)

end Project

section Inputs
variable {s : Store} {user : UserId} {target : Option EntryId} {input : EntryInput}

theorem Store.Accepts.check (h : s.Accepts user target input) : input.check s = .ok () := by
  obtain ⟨p, hp, hactive, ticket, hstripped, haccepts⟩ := h.project
  rw [Text.stripped_iff.mp hstripped] at haccepts
  refine EntryInput.check_ok_iff.mpr ⟨p, hp, hactive, checkCustomer_ok_iff.mpr h.customer, ?_,
    Project.checkTicket_iff_accepts.mpr haccepts⟩
  exact checkActivity_ok_iff.mpr fun id hid => Option.isSome_iff_exists.mpr (h.activity id hid)

theorem Store.accepts_of_check (hcheck : input.check s = .ok ())
    (hown : ∀ id ∈ target, ∃ row, s.entries.find? id = some row ∧ row.user = user) :
    s.Accepts user target input := by
  obtain ⟨p, hp, hactive, hcustomer, hactivity, hticket⟩ := EntryInput.check_ok_iff.mp hcheck
  refine ⟨hown, ⟨p, hp, hactive, _, Text.stripped_iff.mpr rfl, ?_⟩, ?_, ?_⟩
  · exact Project.checkTicket_iff_accepts.mp hticket
  · exact checkCustomer_ok_iff.mp hcustomer
  · exact fun id hid => Option.isSome_iff_exists.mp (checkActivity_ok_iff.mp hactivity id hid)

theorem Store.accept_iff (input : EntryInput) (h : s.Serves user target) :
    (∃ r, s.accept user target input = .ok r) ↔ s.Accepts user target input := by
  constructor
  · intro haccepted
    obtain ⟨r, hr⟩ := haccepted
    refine accepts_of_check (check_of_accept hr) ?_
    intro id hid
    rw [Option.mem_def.mp hid] at hr
    cases hown : s.ownEntry user id with
    | error err => simp [accept, hown, bind, Except.bind] at hr
    | ok e =>
        obtain ⟨hentry, huser⟩ := ownEntry_ok hown
        obtain ⟨row, kind, hrow, rfl⟩ := row_of_entryAt hentry
        exact ⟨row, (s.entries.find?_eq_some_iff).mpr hrow, huser⟩
  · intro haccepts
    refine accept_of_check haccepts.check h.user ?_
    intro id htarget
    obtain ⟨row, hrow, huser⟩ := haccepts.own id htarget
    obtain ⟨e, hread⟩ := h.readable id htarget row hrow
    refine ⟨h.thawed (by rw [htarget]; exact Option.some_ne_none id), e, ?_, ?_⟩
    · rw [entryAt, hrow]
      simp [hread, Except.map]
    · obtain ⟨kind, rfl⟩ := Entry.read_ok hread
      exact huser

end Inputs

/-- The project has two prefixes, written with white space and an empty piece between them. -/
def prefixedOffice : World InMemory :=
  { quietOffice with
    store := { office with
      projects := Table.empty.push
        { Project.blank "project" with system := some ⟨1⟩, prefixes := some " INT , , ABC" }
      entries := Table.empty.push (onOtherTicket.newEntry ⟨1⟩).stored } }

def retypedTicket (ticket : String) : EntryInput := { onOtherTicket with ticket }

end Timesheet
