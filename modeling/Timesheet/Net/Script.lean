import Timesheet.Net.Http

/-!
A network with one server that answers from a script; nobody listens elsewhere.
-/
namespace Timesheet.Net

structure Script where
  host : String
  portNumber : Nat
  outcomes : List HttpOutcome
  received : List HttpRequest

namespace Script

def exhausted : HttpOutcome := .answered 500 "no more responses"

/-- A status of three digits that ends an exchange: no informational one, other than that of a
change of protocols. -/
def isFinal (status : Nat) : Bool := status = 101 || (200 ≤ status && status < 1000)

def lacksBody (status : Nat) : Bool := [101, 204, 304].contains status

/-- After an answer that is not final the connection ends. -/
def deliver : HttpOutcome → HttpOutcome
  | .answered status body =>
    if isFinal status then .answered status (if lacksBody status then "" else body) else .dropped
  | other => other

def transport : Transport Script := fun request s =>
  if request.url.scheme = .http ∧ request.url.host = s.host ∧
      request.url.portNumber = s.portNumber then
    let outcome := deliver (s.outcomes.headD exhausted)
    (outcome, { s with outcomes := s.outcomes.tail, received := s.received ++ [request] })
  else (.refused, s)

end Script

end Timesheet.Net
