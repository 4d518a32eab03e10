import Timesheet.Proofs.TicketKeys
import Timesheet.Sync.Save

/-!
Which inputs are stored: the project takes entries, the customer and the activity are there to be
chosen, and the project takes the ticket.
-/
namespace Timesheet

variable {s : Store} {p : Project} {input : EntryInput} {ticket : String}

theorem checkTicket_ok_iff :
    checkTicket p ticket = .ok () ↔
      ticket = "" ∨ TicketKey.WellFormed ticket ∧ p.takes ticket = true := by
  unfold checkTicket
  rw [← TicketKey.isValid_iff]
  by_cases hempty : ticket = ""
  · simp [hempty]
  · cases hvalid : TicketKey.isValid ticket <;> cases htakes : p.takes ticket <;> simp [hempty]

theorem checkCustomer_ok_iff {customer : Option CustomerId} :
    checkCustomer s customer = .ok () ↔
      ∀ id ∈ customer, ∃ c, s.customer? id = some c ∧ c.active = true := by
  rcases customer with _ | id
  · simp [checkCustomer]
  · rcases hfound : s.customer? id with _ | c
    · simp [checkCustomer, hfound]
    · cases hactive : c.active <;> simp [checkCustomer, hfound, hactive]

theorem checkActivity_ok_iff {activity : Option ActivityId} :
    checkActivity s activity = .ok () ↔ ∀ id ∈ activity, (s.activity? id).isSome = true := by
  rcases activity with _ | id
  · simp [checkActivity]
  · cases hfound : s.activity? id <;> simp [checkActivity, hfound]

section Except
variable {ε ε' α β : Type}

theorem bind_ok_iff {first : Except ε α} {next : α → Except ε β} {b : β} :
    (first >>= next) = .ok b ↔ ∃ a, first = .ok a ∧ next a = .ok b := by
  cases first <;> simp [bind, Except.bind]

theorem mapError_ok_iff {r : Except ε α} {f : ε → ε'} {a : α} :
    r.mapError f = .ok a ↔ r = .ok a := by
  cases r with
  | error err => exact ⟨nofun, nofun⟩
  | ok b =>
      have hkept : (Except.ok b : Except ε α).mapError f = .ok b := rfl
      rw [hkept, Except.ok.injEq, Except.ok.injEq]

end Except

theorem EntryInput.check_ok_iff :
    input.check s = .ok () ↔
      ∃ p, s.project? input.project = some p ∧ p.active = true ∧
        checkCustomer s input.customer = .ok () ∧ checkActivity s input.activity = .ok () ∧
        checkTicket p (Text.trim input.ticket) = .ok () := by
  have hchecked : ∀ p : Project,
      (do checkCustomer s input.customer
          checkActivity s input.activity
          checkTicket p (Text.trim input.ticket) : Except Rejection Unit) = .ok () ↔
        checkCustomer s input.customer = .ok () ∧ checkActivity s input.activity = .ok () ∧
          checkTicket p (Text.trim input.ticket) = .ok () := by
    intro p
    simp only [bind_ok_iff]
    constructor
    · rintro ⟨_, hcustomer, _, hactivity, hticket⟩
      exact ⟨hcustomer, hactivity, hticket⟩
    · rintro ⟨hcustomer, hactivity, hticket⟩
      exact ⟨(), hcustomer, (), hactivity, hticket⟩
  unfold EntryInput.check
  rcases s.project? input.project with _ | p
  · simp
  · rw [mapError_ok_iff]
    cases hactive : p.active
    · simp [hactive, throw, throwThe, MonadExceptOf.throw, bind, Except.bind]
    · simp [hactive, hchecked]

theorem EntryInput.wellFormed_of_check (h : input.check s = .ok ()) :
    Text.trim input.ticket = "" ∨ TicketKey.WellFormed (Text.trim input.ticket) := by
  obtain ⟨p, -, -, -, -, hticket⟩ := check_ok_iff.mp h
  exact (checkTicket_ok_iff.mp hticket).imp_right And.left

theorem EntryInput.allowsEntry_of_check {κ : Type} {e : Entry κ} (h : input.check s = .ok ())
    (huser : s.users.contains e.user = true) (hproject : e.project = input.project)
    (hcustomer : e.customer = input.customer) (hactivity : e.activity = input.activity) :
    s.allowsEntry e = true := by
  obtain ⟨p, hp, -, hcustomers, hactivities, -⟩ := check_ok_iff.mp h
  have hthere : s.projects.contains e.project = true := by
    rw [hproject]
    exact Option.isSome_of_eq_some hp
  have hcustomerThere : e.customer.all s.customers.contains = true := by
    rw [hcustomer, Option.all_eq_true]
    intro id hid
    obtain ⟨c, hc, -⟩ := checkCustomer_ok_iff.mp hcustomers id hid
    exact Option.isSome_of_eq_some hc
  have hactivityThere : e.activity.all s.activities.contains = true := by
    rw [hactivity, Option.all_eq_true]
    exact checkActivity_ok_iff.mp hactivities
  simp [Store.allowsEntry, huser, hthere, hcustomerThere, hactivityThere]

end Timesheet
