import Timesheet.Proofs.Blindness
import Timesheet.Proofs.Credentials
import Timesheet.Proofs.Events

/-!
Tokens: whose are used. A call uses those of its user, a refresh of sub-tickets those of the lead of
the project. So the tokens of all others may be replaced or taken away without anybody noticing.
-/
namespace Timesheet

namespace Store

variable {s : Store} {user : UserId}

theorem token_ne_of_token? {system : SystemId} {token : AccessToken}
    (h : s.token? user system = some token) : token.token ≠ "" := by
  unfold token? at h
  have hfilter := (Option.filter_eq_some_iff.mp h).2
  simpa using hfilter

theorem sameTokens_of_own {grants : List Grant}
    (h : grants.filter (·.user == user) = s.grants.filter (·.user == user)) :
    s.SameTokens (· = user) grants := by
  have hown : ∀ (grants : List Grant) (system : SystemId),
      grants.find? (fun g => g.user == user && g.system == system) =
        (grants.filter (·.user == user)).find? (·.system == system) := by
    intro grants system
    rw [List.find?_filter]
    congr 1
    funext g
    rw [Bool.decide_and, Bool.decide_eq_true, Bool.decide_eq_true]
  rintro _ rfl system
  unfold token?
  rw [hown, hown s.grants, ← h]
  rfl

end Store

namespace Sync

variable {σ : Type} {tracker : Tracker σ} {w : World σ}

theorem resolveSubtickets_sentOnly (tracker : Tracker σ) (id : ProjectId) :
    SentOnly (fun x => w.store.AdmitsLead id x.connection ∧ x.connection.token.token ≠ "")
      w.journal (w.next (.refresh tracker id)) := by
  refine Leads.always (K := SentOnly _ w.journal) ?_
  refine resolveSubtickets_sends (.refl w) (fun remote h _ _ hlead => h.note remote ?_) fun h _ => h
  have ⟨_, _, _, _, _, htoken⟩ := hlead
  exact ⟨hlead, Store.token_ne_of_token? htoken⟩

theorem call_sentOnly (c : Call σ) :
    SentOnly (fun x => w.store.token? c.user x.connection.id = some x.connection.token ∧
      x.connection.token.token ≠ "") w.journal (w.next (.call c)) := by
  obtain ⟨-, sent, hj, hadmits⟩ := next_accredits c w
  exact ⟨sent, hj, fun x hx => ⟨(hadmits x hx).2, Store.token_ne_of_token? (hadmits x hx).2⟩⟩

end Sync

/-- All that a call sends carries the token that its user holds for the ticket system, and all that
is sent to resolve the sub-tickets of a project carries the token that its lead holds for the ticket
system of the project itself. None of these tokens is empty.

So the tokens of all others may be replaced or taken away. The results stay the same, and so do the
requests with their replies and all rows that are no tokens. -/
theorem tokens_are_own {σ : Type} (tracker : Tracker σ) (w : World σ) :
    (∀ c : Call σ,
      SentOnly (fun x => w.store.token? c.user x.connection.id = some x.connection.token ∧
        x.connection.token.token ≠ "") w.journal (w.next (.call c))) ∧
    (∀ id, SentOnly (fun x => w.store.AdmitsLead id x.connection ∧ x.connection.token.token ≠ "")
      w.journal (w.next (.refresh tracker id))) ∧
    ∀ grants,
      (∀ user, w.store.SameTokens (· = user) grants →
        (∀ target input, Sync.SameUnder grants (Sync.save tracker user target input) w) ∧
        (∀ id, Sync.SameUnder grants (Sync.delete tracker user id) w) ∧
        ∀ template range,
          Sync.SameUnder grants (Sync.bulkCreate tracker user template range) w) ∧
      ∀ id, w.store.SameTokens (w.store.Led id) grants →
        Sync.SameUnder grants (Sync.resolveSubtickets tracker id) w := by
  refine ⟨Sync.call_sentOnly, Sync.resolveSubtickets_sentOnly tracker, fun grants => ⟨?_, ?_⟩⟩
  · intro user hgrants
    have hsave : ∀ target input, Sync.Blind (· = user) (Sync.save tracker user target input) :=
      Sync.save_blind rfl
    have hdelete : ∀ id, Sync.Blind (· = user) (Sync.delete tracker user id) :=
      Sync.delete_blind rfl
    have hbulk : ∀ template range,
        Sync.Blind (· = user) (Sync.bulkCreate tracker user template range) :=
      Sync.bulkCreate_blind rfl
    exact ⟨fun target input => (hsave target input).same hgrants,
      fun id => (hdelete id).same hgrants,
      fun template range => (hbulk template range).same hgrants⟩
  · exact fun _ hgrants => Sync.resolveSubtickets_same hgrants

def sharedOffice : World InMemory :=
  { quietOffice with store := { office with
      users := office.users.push ⟨"eve"⟩
      grants := office.grants ++ [⟨⟨2⟩, ⟨1⟩, ⟨"other", ""⟩⟩] } }

/-- The first user saves an entry, and it makes no difference that the second loses their token. -/
theorem tokens_are_own_sharedOffice :
    sharedOffice.store.grants ≠ office.grants ∧
      Sync.SameUnder office.grants
        (Sync.save InMemory.tracker ⟨1⟩ none onOtherTicket) sharedOffice :=
  ⟨by decide, (((tokens_are_own InMemory.tracker sharedOffice).2.2 office.grants).1 ⟨1⟩
    (Store.sameTokens_of_own (by decide))).1 none onOtherTicket⟩

end Timesheet
