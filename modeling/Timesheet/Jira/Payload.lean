import Timesheet.Json.Fields
import Timesheet.Tracker.Basic

/-!
What a Jira server sends and is sent.
-/
namespace Timesheet.Jira

structure IssueFields where
  summary : Option String
  issueType : Option String
  subtasks : List String

def IssueFields.blank : IssueFields := ⟨none, none, []⟩

structure IssuePayload where
  key : String
  fields : IssueFields

open Json (Fields asText asList)

def textRecord (name : String) (j : Json) : Option String := do
  (← Fields.ofJson [name] j).required name asText

def IssueFields.ofJson (j : Json) : Option IssueFields := do
  let f ← Fields.ofJson ["summary", "issuetype", "subtasks"] j
  let summary ← f.optional "summary" asText
  let issueType ← f.optional "issuetype" (textRecord "name")
  let subtasks ← f.withDefault "subtasks" [] (asList (textRecord "key"))
  return { summary, issueType, subtasks }

def IssuePayload.ofJson (j : Json) : Option IssuePayload := do
  let f ← Fields.ofJson ["key", "fields"] j
  let key ← f.required "key" asText
  let fields ← f.withDefault "fields" IssueFields.blank IssueFields.ofJson
  return { key, fields }

def searchResult (j : Json) : Option (List IssuePayload) := do
  (← Fields.ofJson ["issues"] j).withDefault "issues" [] (asList IssuePayload.ofJson)

def createdKey (j : Json) : Option String := textRecord "key" j

def createdId (j : Json) : Option String := textRecord "id" j

def errorMessages (body : String) : Option String := do
  let f ← Fields.ofJson ["errorMessages"] (← Json.parse body)
  let messages ← f.withDefault "errorMessages" [] (asList asText)
  if messages.isEmpty then none else some ("; ".intercalate messages)

def newIssueType : String := "Task"

def issueBody (project : String) (draft : IssueDraft) : Json :=
  .ofMembers [("fields", .ofMembers [
    ("project", .ofMembers [("key", .ofText project)]),
    ("summary", .ofText draft.summary),
    ("description", .ofText draft.description),
    ("issuetype", .ofMembers [("name", .ofText newIssueType)])])]

/-- A work-log starts at a local time, whose distance from universal time is taken to be zero. -/
def worklogBody (w : WorklogDraft) : Json :=
  .ofMembers [("comment", .ofText w.comment),
    ("started", .ofText (w.day.text ++ "T" ++ w.start.text ++ ".000+0000")),
    ("timeSpentSeconds", .ofInt (w.minutes * 60))]

end Timesheet.Jira
