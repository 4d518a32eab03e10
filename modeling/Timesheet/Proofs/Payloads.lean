import Timesheet.Jira.Payload

/-!
What there is to read in a payload, told for every JSON value. What is missing reads as nothing. A
payload that can be decoded is decoded to this, and it still can be decoded after a list in it, or
the fields of an issue, have been left out.
-/
namespace Timesheet

namespace Json

variable {names : List String} {name other : String} {j : Json} {α β : Type}

/-- The value of a field, where a record has fields of these names; `null` if it is not there. -/
def field (names : List String) (name : String) : Json → Json
  | object members => ((members.find? (·.1 == some name)).map (·.2)).getD null
  | array items => (((names.zip items).find? (·.1 == name)).map (·.2)).getD null
  | _ => null

def items : Json → List Json
  | array items => items
  | _ => []

def content : Json → String
  | text (some s) => s
  | _ => ""

/-- The same object without the members of this name. -/
def drop (name : String) : Json → Json
  | object members => object (members.filter (·.1 != some name))
  | j => j

namespace Fields

variable {members : List (JsonText × Json)} {picked : List (String × Json)} {f : Fields}
  {read : Json → Option α}

theorem pick_cons_eq_some {head : String} {value : Json} :
    pick names ((some head, value) :: members) = some picked ↔
      ∃ rest, pick names members = some rest ∧
        (head ∉ names ∧ picked = rest ∨
          head ∈ names ∧ (∀ r ∈ rest, r.1 ≠ head) ∧ picked = (head, value) :: rest) := by
  simp only [pick, Option.bind_eq_bind, Option.bind_eq_some_iff]
  refine exists_congr fun rest => and_congr_right fun _ => ?_
  by_cases hhead : head ∈ names
  · have hany : rest.any (·.1 == head) = true ↔ ¬ ∀ r ∈ rest, r.1 ≠ head := by simp
    by_cases honce : ∀ r ∈ rest, r.1 ≠ head
    · have honly : ¬ rest.any (·.1 == head) = true := fun h => hany.mp h honce
      rw [if_neg (by simpa using hhead), if_neg honly, Option.some.injEq]
      constructor
      · exact fun h => .inr ⟨hhead, honce, h.symm⟩
      · rintro (⟨hother, -⟩ | ⟨-, -, h⟩)
        · exact absurd hhead hother
        · exact h.symm
    · rw [if_neg (by simpa using hhead), if_pos (hany.mpr honce)]
      constructor
      · exact nofun
      · rintro (⟨hother, -⟩ | ⟨-, h, -⟩)
        · exact absurd hhead hother
        · exact absurd h honce
  · simp [hhead, eq_comm]

theorem pick_find? (h : pick names members = some picked) (hname : name ∈ names) :
    picked.find? (·.1 == name) =
      (members.find? (·.1 == some name)).map fun r => (name, r.2) := by
  induction members generalizing picked with
  | nil =>
      cases h
      rfl
  | cons head rest ih =>
      obtain ⟨_ | head, value⟩ := head
      · cases h
      · obtain ⟨later, hlater, ⟨hother, rfl⟩ | ⟨hhead, -, rfl⟩⟩ := pick_cons_eq_some.mp h
        · have hne : head ≠ name := fun h => hother (h ▸ hname)
          simp [ih hlater, hne]
        · by_cases hsame : head = name
          · simp [hsame]
          · simp [ih hlater, hsame]

theorem value?_getD (h : ofJson names j = some f) (hname : name ∈ names) :
    (f.value? name).getD null = j.field names name := by
  cases j with
  | object members =>
      obtain ⟨picked, hpicked, rfl⟩ := Option.map_eq_some_iff.mp h
      rw [value?, pick_find? hpicked hname, field, Option.map_map]
      rfl
  | array items =>
      simp only [ofJson] at h
      split at h
      · obtain rfl := Option.some.inj h
        rfl
      · cases h
  | null | bool | number | text => cases h

theorem required_reads {a : α} (h : ofJson names j = some f) (hname : name ∈ names)
    (ha : f.required name read = some a) : read (j.field names name) = some a := by
  obtain ⟨value, hvalue, hread⟩ := Option.bind_eq_some_iff.mp ha
  rw [← value?_getD h hname, hvalue]
  exact hread

theorem withDefault_reads {a default : α} (h : ofJson names j = some f) (hname : name ∈ names)
    (ha : f.withDefault name default read = some a) :
    read (j.field names name) = some a ∨ j.field names name = null ∧ a = default := by
  rw [← value?_getD h hname]
  unfold withDefault at ha
  split at ha
  · next hvalue => exact .inl (by rwa [hvalue])
  · next hvalue =>
      cases ha
      exact .inr ⟨by rw [hvalue]; rfl, rfl⟩

theorem optional_reads {a : Option α} (h : ofJson names j = some f) (hname : name ∈ names)
    (ha : f.optional name read = some a) :
    j.field names name = null ∧ a = none ∨
      j.field names name ≠ null ∧ (read (j.field names name)).map some = some a := by
  rw [← value?_getD h hname]
  unfold optional at ha
  split at ha
  · next hvalue =>
      cases ha
      exact .inl ⟨by rw [hvalue]; rfl, rfl⟩
  · next value hnull hvalue =>
      rw [hvalue]
      exact .inr ⟨hnull, ha⟩
  · next hvalue =>
      split at ha
      · cases ha
        exact .inl ⟨by rw [hvalue]; rfl, rfl⟩
      · cases ha

def without (name : String) (f : Fields) : Fields :=
  { f with values := f.values.filter (·.1 != name) }

theorem pick_drop (h : pick names members = some picked) :
    pick names (members.filter (·.1 != some name)) = some (picked.filter (·.1 != name)) := by
  induction members generalizing picked with
  | nil =>
      cases h
      rfl
  | cons head rest ih =>
      obtain ⟨_ | head, value⟩ := head
      · cases h
      · obtain ⟨later, hlater, hhead⟩ := pick_cons_eq_some.mp h
        by_cases hsame : head = name
        · rcases hhead with ⟨-, rfl⟩ | ⟨-, -, rfl⟩ <;> simp [hsame, ih hlater]
        · have hkept : ((some head, value) :: rest).filter (·.1 != some name) =
              (some head, value) :: rest.filter (·.1 != some name) := by simp [hsame]
          rw [hkept, pick_cons_eq_some]
          refine ⟨_, ih hlater, ?_⟩
          rcases hhead with ⟨hother, rfl⟩ | ⟨hhead, honce, rfl⟩
          · exact .inl ⟨hother, rfl⟩
          · refine .inr ⟨hhead, fun r hr => honce r (List.mem_filter.mp hr).1, ?_⟩
            simp [hsame]

theorem ofJson_drop (h : ofJson names (object members) = some f) :
    ofJson names ((object members).drop name) = some (f.without name) := by
  obtain ⟨picked, hpicked, rfl⟩ := Option.map_eq_some_iff.mp h
  simp only [ofJson, drop, pick_drop hpicked]
  rfl

theorem value?_without : (f.without name).value? name = none := by
  simp [value?, without, List.find?_filter]

theorem value?_without_of_ne (h : other ≠ name) :
    (f.without name).value? other = f.value? other := by
  unfold value? without
  rw [List.find?_filter]
  congr 2
  funext r
  by_cases hr : r.1 = other <;> simp [hr, h]

theorem required_without (h : other ≠ name) :
    (f.without name).required other read = f.required other read := by
  rw [required, required, value?_without_of_ne h]

theorem optional_without (h : other ≠ name) :
    (f.without name).optional other read = f.optional other read := by
  unfold optional
  rw [value?_without_of_ne h]
  rfl

theorem withDefault_without {default : α} :
    (f.without name).withDefault name default read = some default := by
  rw [withDefault, value?_without]

end Fields

variable {read : Json → Option α}

theorem content_of_asText {s : String} (h : asText j = some s) : j.content = s := by
  cases j with
  | text content =>
      obtain rfl : content = some s := h
      rfl
  | null | bool | number | array | object => cases h

theorem items_of_asList {g : Json → β} {f : α → β} {l : List α} (h : asList read j = some l)
    (hread : ∀ item a, read item = some a → g item = f a) : j.items.map g = l.map f := by
  cases j with
  | array items =>
      have hitems : items.mapM read = some l := h
      clear h
      simp only [Json.items]
      induction items generalizing l with
      | nil =>
          cases hitems
          rfl
      | cons item rest ih =>
          simp only [List.mapM_cons, Option.bind_eq_bind, Option.bind_eq_some_iff] at hitems
          obtain ⟨a, ha, later, hlater, hl⟩ := hitems
          obtain rfl := Option.some.inj hl
          rw [List.map_cons, List.map_cons, hread item a ha, ih hlater]
  | null | bool | number | text | object => cases h

end Json

namespace Jira

open Json (Fields)

variable {j : Json} {members : List (JsonText × Json)}

def fieldNames : List String := ["summary", "issuetype", "subtasks"]

def keyOf (j : Json) : String := (j.field ["key", "fields"] "key").content

def fieldsOf (j : Json) : Json := j.field ["key", "fields"] "fields"

def typeOf (fields : Json) : Option String :=
  match fields.field fieldNames "issuetype" with
  | .null => none
  | issueType => some (issueType.field ["name"] "name").content

def tasksOf (fields : Json) : List String :=
  (fields.field fieldNames "subtasks").items.map fun task => (task.field ["key"] "key").content

def issuesOf (j : Json) : List Json := (j.field ["issues"] "issues").items

def familyOf (issue : Json) : List String := keyOf issue :: tasksOf (fieldsOf issue)

theorem content_of_textRecord {name s : String} (h : textRecord name j = some s) :
    (j.field [name] name).content = s := by
  obtain ⟨f, hf, hname⟩ := Option.bind_eq_some_iff.mp h
  exact Json.content_of_asText (Fields.required_reads hf List.mem_cons_self hname)

theorem IssueFields.ofJson_reads {found : IssueFields} (h : IssueFields.ofJson j = some found) :
    found.issueType = typeOf j ∧ found.subtasks = tasksOf j := by
  simp only [IssueFields.ofJson, Option.bind_eq_bind, Option.bind_eq_some_iff] at h
  obtain ⟨f, hf, summary, -, issueType, htype, subtasks, htasks, hfound⟩ := h
  obtain rfl := Option.some.inj hfound
  constructor
  · unfold typeOf
    rcases Fields.optional_reads hf (by simp) htype with ⟨hnull, rfl⟩ | ⟨hthere, hread⟩
    · simp only [fieldNames, hnull]
    · obtain ⟨name, hname, rfl⟩ := Option.map_eq_some_iff.mp hread
      split
      · next hnull => exact absurd hnull hthere
      · exact congrArg some (content_of_textRecord hname).symm
  · unfold tasksOf
    rcases Fields.withDefault_reads hf (by simp) htasks with hread | ⟨hnull, rfl⟩
    · exact ((Json.items_of_asList hread fun _ _ => content_of_textRecord).trans
        (List.map_id' _)).symm
    · simp only [fieldNames, hnull]
      rfl

theorem IssuePayload.ofJson_reads {found : IssuePayload} (h : IssuePayload.ofJson j = some found) :
    found.key = keyOf j ∧ found.fields.issueType = typeOf (fieldsOf j) ∧
      found.fields.subtasks = tasksOf (fieldsOf j) := by
  simp only [IssuePayload.ofJson, Option.bind_eq_bind, Option.bind_eq_some_iff] at h
  obtain ⟨f, hf, key, hkey, fields, hfields, hfound⟩ := h
  obtain rfl := Option.some.inj hfound
  refine ⟨(Json.content_of_asText (Fields.required_reads hf (by simp) hkey)).symm, ?_⟩
  unfold fieldsOf
  rcases Fields.withDefault_reads hf (by simp) hfields with hread | ⟨hnull, rfl⟩
  · exact IssueFields.ofJson_reads hread
  · rw [hnull]
    exact ⟨rfl, rfl⟩

theorem searchResult_reads {children : List IssuePayload} (h : searchResult j = some children) :
    (children.flatMap fun child => child.key :: child.fields.subtasks) =
      (issuesOf j).flatMap familyOf := by
  obtain ⟨f, hf, hissues⟩ := Option.bind_eq_some_iff.mp h
  unfold issuesOf
  rcases Fields.withDefault_reads hf List.mem_cons_self hissues with hread | ⟨hnull, rfl⟩
  · rw [List.flatMap_def, List.flatMap_def]
    refine congrArg List.flatten (Json.items_of_asList hread fun issue child hchild => ?_).symm
    obtain ⟨hkey, -, htasks⟩ := IssuePayload.ofJson_reads hchild
    rw [familyOf, hkey, htasks]
  · rw [hnull]
    rfl

theorem IssueFields.ofJson_drop {found : IssueFields}
    (h : IssueFields.ofJson (.object members) = some found) :
    IssueFields.ofJson ((Json.object members).drop "subtasks") =
      some { found with subtasks := [] } := by
  simp only [IssueFields.ofJson, Option.bind_eq_bind, Option.bind_eq_some_iff] at h
  obtain ⟨f, hf, summary, hsummary, issueType, htype, subtasks, -, hfound⟩ := h
  obtain rfl := Option.some.inj hfound
  simp only [IssueFields.ofJson, Option.bind_eq_bind, Option.bind_eq_some_iff]
  refine ⟨_, Fields.ofJson_drop hf, summary, ?_, issueType, ?_, [], ?_, rfl⟩
  · rwa [Fields.optional_without (by decide)]
  · rwa [Fields.optional_without (by decide)]
  · exact Fields.withDefault_without

theorem IssuePayload.ofJson_drop {found : IssuePayload}
    (h : IssuePayload.ofJson (.object members) = some found) :
    IssuePayload.ofJson ((Json.object members).drop "fields") =
      some { found with fields := .blank } := by
  simp only [IssuePayload.ofJson, Option.bind_eq_bind, Option.bind_eq_some_iff] at h
  obtain ⟨f, hf, key, hkey, fields, -, hfound⟩ := h
  obtain rfl := Option.some.inj hfound
  simp only [IssuePayload.ofJson, Option.bind_eq_bind, Option.bind_eq_some_iff]
  refine ⟨_, Fields.ofJson_drop hf, key, ?_, .blank, Fields.withDefault_without, rfl⟩
  rwa [Fields.required_without (by decide)]

theorem searchResult_drop {children : List IssuePayload}
    (h : searchResult (.object members) = some children) :
    searchResult ((Json.object members).drop "issues") = some [] := by
  obtain ⟨f, hf, -⟩ := Option.bind_eq_some_iff.mp h
  exact Option.bind_eq_some_iff.mpr ⟨_, Fields.ofJson_drop hf, Fields.withDefault_without⟩

end Jira

end Timesheet
