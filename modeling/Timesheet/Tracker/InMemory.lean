import Timesheet.Tracker.Basic

/-!
A tracker without a network. It keeps its issues itself, finds all of them in every search, and
fails where it is told to.
-/
namespace Timesheet

inductive Operation where
  | connect | search | createIssue | createWorklog | updateWorklog | deleteWorklog | subtickets
deriving DecidableEq

def Request.operation : Request → Operation
  | connect => .connect
  | search .. => .search
  | createIssue .. => .createIssue
  | createWorklog .. => .createWorklog
  | updateWorklog .. => .updateWorklog
  | deleteWorklog .. => .deleteWorklog
  | subtickets _ => .subtickets

def Request.subject (connection : Connection) : Request → String
  | connect => connection.system.name
  | search query _ _ => query
  | createIssue project _ => project
  | createWorklog issue _ => issue
  | updateWorklog issue _ _ => issue
  | deleteWorklog issue _ => issue
  | subtickets issue => issue

/-- Makes requests of one kind fail. -/
structure FailRule where
  operation : Operation
  /-- Only requests about this are meant. -/
  subject : Option String
  /-- The rule holds for so many more requests; without a number for all. -/
  times : Option Nat
  error : TrackerError

namespace FailRule

def covers (rule : FailRule) (connection : Connection) (request : Request) : Bool :=
  rule.operation == request.operation &&
    rule.subject.all (· == request.subject connection) && rule.times.all (· > 0)

/-- The first rule that covers the request, and the rules with that one used once more. -/
def strike (connection : Connection) (request : Request) :
    List FailRule → Option (TrackerError × List FailRule)
  | [] => none
  | rule :: rest =>
    if rule.covers connection request then
      some (rule.error, { rule with times := rule.times.map (· - 1) } :: rest)
    else (strike connection request rest).map fun (e, rules) => (e, rule :: rules)

end FailRule

structure InMemory where
  issues : List Issue
  children : List (String × List String)
  rules : List FailRule
  /-- How many issues and work-logs were created. -/
  created : Nat

namespace InMemory

def empty : InMemory := { issues := [], children := [], rules := [], created := 0 }

def serve (m : InMemory) : (request : Request) → request.Answer × InMemory
  | .connect => ((), m)
  | .search _ _ limit => (m.issues.take limit, m)
  | .createIssue project draft =>
    let n := m.created + 1
    let key := project ++ "-" ++ toString n
    (key, { m with created := n, issues := m.issues ++ [⟨key, some draft.summary⟩] })
  | .createWorklog _ _ =>
    let n := m.created + 1
    ("wl-" ++ toString n, { m with created := n })
  | .updateWorklog .. => ((), m)
  | .deleteWorklog .. => ((), m)
  | .subtickets issue => (((m.children.find? (·.1 == issue)).map (·.2)).getD [], m)

def tracker : Tracker InMemory := fun connection request m =>
  match FailRule.strike connection request m.rules with
  | some (e, rules) => (.error e, { m with rules })
  | none =>
    let (answer, m) := m.serve request
    (.ok answer, m)

end InMemory

end Timesheet
