import Timesheet.Proofs.Durations
import Timesheet.Proofs.Stripping
import Timesheet.Proofs.Sweep

/-!
Main tickets of a project. The words of a command are split into keys, the keys are stored as one
comma list, and this is split again whenever it is read. Keys come through all of it unchanged.
-/
namespace Timesheet

namespace Text

/-- What can be a key of a comma list: it is not empty, there are no commas in it, and it has no
white space around it. -/
structure IsKey (key : String) : Prop where
  ne_empty : key ≠ ""
  no_comma : ',' ∉ key.toList
  first : ∀ c ∈ key.toList.head?, isBlank c = false
  last : ∀ c ∈ key.toList.getLast?, isBlank c = false

/-- The keys are what the pieces have between white space, one after the other. Blank pieces have
nothing there and are passed over. -/
inductive KeysOf : List (List Char) → List String → Prop
  | nil : KeysOf [] []
  | blank {piece : List Char} {pieces : List (List Char)} {keys : List String}
    (h : ∀ c ∈ piece, isBlank c = true) (rest : KeysOf pieces keys) : KeysOf (piece :: pieces) keys
  | key {piece : List Char} {pieces : List (List Char)} {key : String} {keys : List String}
    (hne : key ≠ "") (h : Stripped (String.ofList piece) key) (rest : KeysOf pieces keys) :
    KeysOf (piece :: pieces) (key :: keys)

variable {key joined : String} {keys : List String}

theorem notMem_of_mem_splitOn {sep : Char} {cs piece : List Char} (h : piece ∈ cs.splitOn sep) :
    sep ∉ piece := by
  induction cs generalizing piece with
  | nil =>
      rw [List.splitOn_nil, List.mem_singleton] at h
      rw [h]
      exact List.not_mem_nil
  | cons c cs ih =>
      rw [List.splitOn_cons_eq_if_modifyHead] at h
      obtain ⟨first, rest, hpieces⟩ := List.exists_cons_of_ne_nil (List.splitOn_ne_nil sep cs)
      rw [hpieces] at h ih
      by_cases hsep : c = sep
      · rw [if_pos (by simpa using hsep)] at h
        rcases List.mem_cons.mp h with rfl | h
        · exact List.not_mem_nil
        · exact ih h
      · rw [if_neg (by simpa using hsep), List.modifyHead_cons] at h
        rcases List.mem_cons.mp h with rfl | h
        · intro hmem
          rcases List.mem_cons.mp hmem with rfl | hmem
          · exact hsep rfl
          · exact ih List.mem_cons_self hmem
        · exact ih (List.mem_cons_of_mem _ h)

theorem isKey_of_mem_splitKeys (h : key ∈ splitKeys joined) : IsKey key := by
  obtain ⟨hne, piece, hpiece, hstripped⟩ := mem_splitKeys_iff.mp h
  refine ⟨hne, ?_, hstripped.first, hstripped.last⟩
  intro hcomma
  obtain ⟨front, back, hwhole, -, -⟩ := hstripped.around
  rw [String.toList_ofList] at hwhole
  apply notMem_of_mem_splitOn hpiece
  rw [hwhole]
  exact List.mem_append_left _ (List.mem_append_right _ hcomma)

theorem IsKey.splitKeys (h : IsKey key) : Text.splitKeys key = [key] := by
  have hstripped : Stripped key key := ⟨⟨[], [], by simp, nofun, nofun⟩, h.first, h.last⟩
  exact splitKeys_of_trimmed h.no_comma (stripped_iff.mp hstripped).symm h.ne_empty

theorem splitKeys_joinKeys_of_keys (h : ∀ key ∈ keys, IsKey key) :
    splitKeys (joinKeys keys) = keys := by
  rw [splitKeys_joinKeys]
  induction keys with
  | nil => rfl
  | cons key rest ih =>
      obtain ⟨hkey, hrest⟩ := List.forall_mem_cons.mp h
      rw [List.flatMap_cons, hkey.splitKeys, ih hrest, List.singleton_append]

theorem joinKeys_eq_empty_iff (h : ∀ key ∈ keys, IsKey key) : joinKeys keys = "" ↔ keys = [] := by
  constructor
  · intro hempty
    rw [← splitKeys_joinKeys_of_keys h, hempty]
    rfl
  · rintro rfl
    rfl

theorem KeysOf.append {pieces others : List (List Char)} {more : List String}
    (h : KeysOf pieces keys) (h' : KeysOf others more) :
    KeysOf (pieces ++ others) (keys ++ more) := by
  induction h with
  | nil => exact h'
  | blank hblank _ ih => exact .blank hblank ih
  | key hne hstripped _ ih => exact .key hne hstripped ih

theorem KeysOf.unique {pieces : List (List Char)} {others : List String} (h : KeysOf pieces keys)
    (h' : KeysOf pieces others) : keys = others := by
  have hclash : ∀ {piece : List Char} {key : String}, (∀ c ∈ piece, isBlank c = true) →
      key ≠ "" → ¬ Stripped (String.ofList piece) key := by
    intro piece key hblank hne hstripped
    rw [stripped_iff.mp hstripped, trim_ne_empty_iff, String.toList_ofList] at hne
    obtain ⟨c, hc, hkept⟩ := hne
    simp [hblank c hc] at hkept
  induction h generalizing others with
  | nil =>
      cases h'
      rfl
  | blank hblank _ ih =>
      cases h' with
      | blank _ rest => exact ih rest
      | key hne hstripped _ => exact absurd hstripped (hclash hblank hne)
  | key hne hstripped _ ih =>
      cases h' with
      | blank hblank _ => exact absurd hstripped (hclash hblank hne)
      | key _ hstripped' rest =>
          rw [stripped_iff.mp hstripped, stripped_iff.mp hstripped', ih rest]

theorem keysOf_trimmed (pieces : List (List Char)) :
    KeysOf pieces (((pieces.map trimBlank).filter (· ≠ [])).map String.ofList) := by
  induction pieces with
  | nil => exact .nil
  | cons piece rest ih =>
      have hstripped : Stripped (String.ofList piece) (String.ofList (trimBlank piece)) := by
        rw [stripped_iff, trim, String.toList_ofList]
      by_cases hnil : trimBlank piece = []
      · have hblank : ∀ c ∈ piece, isBlank c = true := by
          obtain ⟨front, back, hwhole, hfront, hback⟩ := hstripped.around
          rw [hnil, String.toList_ofList, String.toList_ofList, List.append_nil] at hwhole
          intro c hc
          rw [hwhole, List.mem_append] at hc
          exact hc.elim (hfront c) (hback c)
        rw [List.map_cons, List.filter_cons_of_neg (by simpa using hnil)]
        exact .blank hblank ih
      · have hne : String.ofList (trimBlank piece) ≠ "" := by simpa using hnil
        rw [List.map_cons, List.filter_cons_of_pos (by simpa using hnil), List.map_cons]
        exact .key hne hstripped ih

theorem keysOf_splitKeys (joined : String) :
    KeysOf (joined.toList.splitOn ',') (splitKeys joined) := by
  unfold splitKeys
  rw [splitOnChar_eq_splitOn]
  exact keysOf_trimmed _

theorem keysOf_flatMap (words : List String) :
    KeysOf (words.flatMap fun word => word.toList.splitOn ',') (words.flatMap splitKeys) := by
  induction words with
  | nil => exact .nil
  | cons word rest ih => exact (keysOf_splitKeys word).append ih

end Text

def Project.listing (p : Project) (keys : List String) : Project :=
  { p with mainTickets := (some (Text.joinKeys keys)).filter (· ≠ "") }

section Listing
variable {p : Project} {keys : List String} (h : ∀ key ∈ keys, Text.IsKey key)
include h

theorem Project.mainTicketKeys_listing : (p.listing keys).mainTicketKeys = keys := by
  unfold mainTicketKeys listing
  by_cases hnil : keys = []
  · rw [hnil]
    rfl
  · have hne : Text.joinKeys keys ≠ "" := fun hempty =>
      hnil ((Text.joinKeys_eq_empty_iff h).mp hempty)
    rw [Option.filter_some, if_pos (by simpa using hne)]
    exact Text.splitKeys_joinKeys_of_keys h

theorem Project.swept_listing_iff : (p.listing keys).Swept ↔ p.active = true ∧ keys ≠ [] := by
  rw [ne_eq, ← Text.joinKeys_eq_empty_iff h]
  unfold Swept listing
  by_cases hempty : Text.joinKeys keys = ""
  · simp [hempty]
  · simp [hempty]

end Listing

variable {σ : Type} {m m₁ : Machine σ} {data : Place} {id : ProjectId} {p : Project}

theorem Machine.storeAt_putStore (s : Store) (h : m.storeAt data ≠ .empty) :
    (m.putStore s data).storeAt data = s := by
  cases data with
  | memory => rfl
  | file l =>
      have hfree : ¬(l = [] ∨ l = Location.root) := by
        intro hfolder
        apply h
        simp only [storeAt, Files.node?, if_pos hfolder]
      simp only [storeAt, putStore, Files.node?_put _ _ hfree]

theorem Run.run_alterProject {f : Store → Except Store.NoSuchProject Store} {s : Store}
    (opens : Run.openData.run.run m = (.ok data, m₁)) (altered : f (m₁.storeAt data) = .ok s) :
    (Run.alterProject f).run.run m = (.ok (), m₁.putStore s data) := by
  have hlook : (Run.look data f).run.run m₁ = (.ok (.ok s), m₁) := by
    rw [← altered]
    rfl
  rw [Run.alterProject, run_bind, opens]
  dsimp only
  rw [run_bind, hlook]
  rfl

theorem Run.run_tellSuccess (text : String) (m : Machine σ) :
    ∃ console, (Run.tellSuccess text).run.run m = (.ok (), { m with console }) := ⟨_, rfl⟩

theorem Store.setMainTickets_listing {s : Store} (keys : List String)
    (stored : s.project? id = some p) :
    ∃ s', Store.setMainTickets id keys s = .ok s' ∧ s'.project? id = some (p.listing keys) := by
  have hcontains : s.projects.contains id = true := Option.isSome_iff_exists.mpr ⟨p, stored⟩
  refine ⟨_, if_pos hcontains, ?_⟩
  have hproject : s.projects.find? id = some p := stored
  rw [Store.project?, Table.find?_modify, hproject, Option.map_some, if_pos rfl]
  rfl

theorem Run.perform_setMainTickets (tracker : Tracker σ) (words : List String)
    (opens : Run.openData.run.run m = (.ok data, m₁))
    (stored : (m₁.storeAt data).project? id = some p) :
    ∃ m', (Command.setMainTickets id words).perform tracker m = (none, m') ∧
      (m'.storeAt data).project? id = some (p.listing (words.flatMap Text.splitKeys)) := by
  obtain ⟨s, hs, hproject⟩ := Store.setMainTickets_listing (words.flatMap Text.splitKeys) stored
  have hthere : m₁.storeAt data ≠ .empty := by
    intro hempty
    rw [hempty] at stored
    cases stored
  obtain ⟨console, htell⟩ := Run.run_tellSuccess ("Main tickets of project " ++ toString id ++
    " updated, run `tlog project sync-subtickets " ++ toString id ++
    "` to refresh its subtickets") (m₁.putStore s data)
  refine ⟨{ m₁.putStore s data with console }, ?_, ?_⟩
  · rw [Command.perform, Command.run, Run.setMainTickets, run_bind, Run.run_alterProject opens hs]
    dsimp only
    rw [htell]
  · have hstore : ({ m₁.putStore s data with console } : Machine σ).storeAt data =
        (m₁.putStore s data).storeAt data := rfl
    rw [hstore, Machine.storeAt_putStore s hthere]
    exact hproject

/-- Splitting the joined keys of a comma list gives these keys again, and so it is with every list
of texts that can be keys. After the command for main tickets the stored project has, as its main
tickets, what the comma pieces of the words have between white space, one after the other, blank
pieces left out. Nothing else about the project changes. If it is active it is refreshed in sweeps
exactly if there is such a key. -/
theorem main_tickets_round_trip :
    (∀ joined, Text.splitKeys (Text.joinKeys (Text.splitKeys joined)) = Text.splitKeys joined) ∧
    (∀ keys, (∀ key ∈ keys, Text.IsKey key) → Text.splitKeys (Text.joinKeys keys) = keys) ∧
    ∀ (σ : Type) (tracker : Tracker σ) (m m₁ : Machine σ) (data : Place) (id : ProjectId)
      (p : Project) (words : List String),
      Run.openData.run.run m = (.ok data, m₁) → (m₁.storeAt data).project? id = some p →
      ∃ m' p', (Command.setMainTickets id words).perform tracker m = (none, m') ∧
        (m'.storeAt data).project? id = some p' ∧ p' = { p with mainTickets := p'.mainTickets } ∧
        Text.KeysOf (words.flatMap fun word => word.toList.splitOn ',') p'.mainTicketKeys ∧
        ((id, p') ∈ (m'.storeAt data).sweptProjects ↔
          p.active = true ∧ p'.mainTicketKeys ≠ []) := by
  have hkeys : ∀ joined, ∀ key ∈ Text.splitKeys joined, Text.IsKey key :=
    fun _ _ h => Text.isKey_of_mem_splitKeys h
  refine ⟨fun joined => Text.splitKeys_joinKeys_of_keys (hkeys joined),
    fun keys h => Text.splitKeys_joinKeys_of_keys h, ?_⟩
  intro σ tracker m m₁ data id p words opens stored
  have hwords : ∀ key ∈ words.flatMap Text.splitKeys, Text.IsKey key := by
    intro key hkey
    obtain ⟨word, -, hmem⟩ := List.mem_flatMap.mp hkey
    exact hkeys word key hmem
  obtain ⟨m', hrun, hproject⟩ := Run.perform_setMainTickets tracker words opens stored
  refine ⟨m', _, hrun, hproject, rfl, ?_, ?_⟩
  · rw [Project.mainTicketKeys_listing hwords]
    exact Text.keysOf_flatMap words
  · rw [Store.mem_sweptProjects, Project.swept_listing_iff hwords,
      Project.mainTicketKeys_listing hwords]
    exact and_iff_right hproject

def sharedMachine : Machine InMemory :=
  { eveningMachine with
    files := ⟨[(configLocation "/home/ada", .text "data_path = \"tlog.db\""),
      (["tlog.db"], .store threeProjects.store)]⟩ }

def sharedOpening : Except CommandError Place × Machine InMemory :=
  Run.openData.run.run sharedMachine

def untidyWords : List String := [" B-1 ,,A-1", "", " , ", "B-1,C\t3\n"]

/-- Four keys for the project without main tickets. -/
theorem main_tickets_round_trip_untidyWords :
    sharedOpening.1 = .ok (.file ["tlog.db"]) ∧
      ∃ m' p', (Command.setMainTickets ⟨3⟩ untidyWords).perform InMemory.tracker sharedMachine =
          (none, m') ∧
        (m'.storeAt (.file ["tlog.db"])).project? ⟨3⟩ = some p' ∧
        p'.mainTicketKeys = ["B-1", "A-1", "B-1", "C\t3"] ∧
        (⟨3⟩, p') ∈ (m'.storeAt (.file ["tlog.db"])).sweptProjects := by
  have hplace : sharedOpening.1 = .ok (.file ["tlog.db"]) := by
    unfold sharedOpening Run.openData Run.openStore Files.openStore Files.ensureFolders
    decide +kernel
  have hstored : (sharedOpening.2.storeAt (.file ["tlog.db"])).project? ⟨3⟩ =
      some quietProject := by
    unfold sharedOpening Run.openData Run.openStore Files.openStore Files.ensureFolders
    decide +kernel
  have hopens : sharedOpening = (.ok (.file ["tlog.db"]), sharedOpening.2) :=
    (Prod.eta sharedOpening).symm.trans (congrArg (·, sharedOpening.2) hplace)
  obtain ⟨m', p', hrun, hproject, -, hkeys, hlisted⟩ :=
    main_tickets_round_trip.2.2 InMemory InMemory.tracker sharedMachine sharedOpening.2
      (.file ["tlog.db"]) ⟨3⟩ quietProject untidyWords hopens hstored
  have hsplit : p'.mainTicketKeys = ["B-1", "A-1", "B-1", "C\t3"] :=
    (hkeys.unique (Text.keysOf_flatMap untidyWords)).trans (by decide +kernel)
  refine ⟨hplace, m', p', hrun, hproject, hsplit, hlisted.mpr ⟨rfl, ?_⟩⟩
  rw [hsplit]
  exact List.cons_ne_nil _ _

end Timesheet
