import Timesheet.Jira.Payload
import Timesheet.Net.Base64
import Timesheet.Net.Http

/-!
A client of Jira's web interface, as a tracker over any network.
-/
namespace Timesheet.Jira

open Net (Transport HttpRequest HttpOutcome Method Url)

/-- The name under which requests are sent. -/
def userAgent : String := "tlog/0.1.0"

/-- With a secret the token is a login, else it is sent by itself. -/
def authorization (t : AccessToken) : String :=
  if t.secret = "" then "Bearer " ++ t.token
  else "Basic " ++ Net.Base64.encode (t.token ++ ":" ++ t.secret)

def trimSlashes (url : String) : String :=
  String.ofList ((url.toList.reverse.dropWhile (· = '/')).reverse)

def apiRoot (url : String) : String := trimSlashes url ++ "/rest/api/2/"

/-- A request before it is known whether it can be sent. -/
structure Call where
  method : Method
  path : String
  pairs : List (String × String)
  body : Option Json

def Call.request? (call : Call) (c : Connection) : Option HttpRequest := do
  let url ← Url.parse? (apiRoot c.system.url ++ call.path)
  let authorization := authorization c.token
  if !Net.isHeaderText authorization then none
  else
    let url := if call.pairs.isEmpty then url else url.withPairs call.pairs
    some { method := call.method, url, authorization, userAgent, body := call.body }

def requestFailed : TrackerError := .failed "ticket system request failed" []
def timedOut : TrackerError := .failed "request timed out" []
def unreachable : TrackerError := .failed "unable to connect to the ticket system" []
def unexpectedResponse : TrackerError := .failed "unexpected ticket system response" []

def accept (path : String) (status : Nat) (body : String) : Except TrackerError String :=
  if Net.isSuccess status then .ok body
  else if status = 401 ∨ status = 403 then
    .error (.unauthorized ("access denied (" ++ Net.statusText status ++ ") for " ++ path))
  else if status = 404 then .error (.missing path)
  else
    .error (.failed ("jira returned " ++ Net.statusText status ++ " for " ++ path ++ ": " ++
      (errorMessages body).getD body) [])

variable {σ : Type}

abbrev Web (σ : Type) := ExceptT TrackerError (StateM σ)

def perform (transport : Transport σ) (c : Connection) (call : Call) : Web σ String := do
  match call.request? c with
  | none => throw requestFailed
  | some request =>
    match ← (transport request : StateM σ HttpOutcome) with
    | .answered status body => accept request.url.path status body
    | .dropped => throw requestFailed
    | .timedOut => throw timedOut
    | .refused => throw unreachable

def decode {α : Type} (read : Json → Option α) (body : String) : Except TrackerError α :=
  match (Json.parse body).bind read with
  | some a => .ok a
  | none => .error unexpectedResponse

def fetch {α : Type} (transport : Transport σ) (c : Connection) (call : Call)
    (read : Json → Option α) : Web σ α := do
  decode read (← perform transport c call)

def searchCall (query : String) (fields : List String) (limit : Nat) : Call :=
  { method := .get, path := "search", body := none
    pairs := [("jql", query), ("fields", ",".intercalate fields), ("maxResults", toString limit)] }

def issuePath (issue : String) : String := "issue/" ++ issue

def worklogPath (issue worklog : String) : String :=
  issuePath issue ++ "/worklog/" ++ worklog

/-- Issues of this type have issues of their own below them, not only sub-tasks. -/
def epicType : String := "Epic"

/-- At most this many issues of an epic are looked at. -/
def childLimit : Nat := 500

/-- Keys of the sub-tasks of an issue; of an epic, those of its issues and their sub-tasks. -/
def subtickets (transport : Transport σ) (c : Connection) (issue : String) :
    Web σ (List String) := do
  let found ← fetch transport c
    { method := .get, path := issuePath issue, pairs := [("fields", "subtasks,issuetype")]
      body := none } IssuePayload.ofJson
  if found.fields.issueType ≠ some epicType then return found.fields.subtasks
  let children ← fetch transport c
    (searchCall ("\"Epic Link\" = " ++ issue) ["subtasks"] childLimit) searchResult
  return children.flatMap fun child => child.key :: child.fields.subtasks

def respond (transport : Transport σ) (c : Connection) : (request : Request) → Web σ request.Answer
  | .connect =>
    if c.system.kind = .jira then return ()
    else
      throw (.failed ("ticket system \"" ++ c.system.name ++ "\" of kind " ++
        c.system.kind.name ++ " has no API support") [])
  | .search query fields limit => do
    let issues ← fetch transport c (searchCall query fields limit) searchResult
    return issues.map fun i => { key := i.key, summary := i.fields.summary : Issue }
  | .createIssue project draft =>
    fetch transport c
      { method := .post, path := "issue", pairs := [], body := some (issueBody project draft) }
      createdKey
  | .createWorklog issue w =>
    fetch transport c
      { method := .post, path := issuePath issue ++ "/worklog", pairs := []
        body := some (worklogBody w) } createdId
  | .updateWorklog issue worklog w => do
    let _ ← perform transport c
      { method := .put, path := worklogPath issue worklog, pairs := []
        body := some (worklogBody w) }
  | .deleteWorklog issue worklog => do
    let _ ← perform transport c
      { method := .delete, path := worklogPath issue worklog, pairs := [], body := none }
  | .subtickets issue => subtickets transport c issue

def tracker (transport : Transport σ) : Tracker σ := fun c request =>
  (respond transport c request).run

end Timesheet.Jira
