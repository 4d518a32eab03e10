import Timesheet.Proofs.TicketKeys

/-!
Comma lists of keys. What is split off a joined list is what is split off its members, so a member
that holds commas or nothing but white space disturbs no other one.
-/
namespace Timesheet.Text

theorem splitOnChar_eq_splitOn (sep : Char) (cs : List Char) :
    splitOnChar sep cs = cs.splitOn sep := by
  induction cs with
  | nil => rw [splitOnChar, List.splitOn_nil]
  | cons c cs ih =>
      rw [splitOnChar, List.splitOn_cons_eq_if_modifyHead, ← ih]
      by_cases hsep : c = sep
      · simp [hsep]
      · have hne : splitOnChar sep cs ≠ [] := ih ▸ List.splitOn_ne_nil sep cs
        cases hpieces : splitOnChar sep cs with
        | nil => exact absurd hpieces hne
        | cons piece rest => simp [hsep]

theorem splitKeys_comma (front back : List Char) :
    splitKeys (String.ofList (front ++ ',' :: back)) =
      splitKeys (String.ofList front) ++ splitKeys (String.ofList back) := by
  simp only [splitKeys, String.toList_ofList, splitOnChar_eq_splitOn,
    List.splitOn_append_cons_self, List.map_append, List.filter_append]

theorem joinKeys_cons_cons (key next : String) (rest : List String) :
    joinKeys (key :: next :: rest) =
      String.ofList (key.toList ++ ',' :: (joinKeys (next :: rest)).toList) := by
  simp [joinKeys, joinOnChar]

theorem splitKeys_joinKeys (keys : List String) :
    splitKeys (joinKeys keys) = keys.flatMap splitKeys := by
  induction keys with
  | nil => rfl
  | cons key rest ih =>
      cases rest with
      | nil => simp [joinKeys, joinOnChar]
      | cons next rest =>
          rw [joinKeys_cons_cons, splitKeys_comma, String.ofList_toList, String.ofList_toList, ih]
          exact List.flatMap_cons.symm

theorem splitKeys_of_trimmed {key : String} (hcomma : ',' ∉ key.toList) (htrim : trim key = key)
    (hne : key ≠ "") : splitKeys key = [key] := by
  have hblank : trimBlank key.toList = key.toList := by
    simpa [trim] using congrArg String.toList htrim
  have hnil : key.toList ≠ [] := by simpa using hne
  simp [splitKeys, splitOnChar_eq_splitOn, List.splitOn_eq_singleton hcomma, hblank, hnil]

theorem trim_of_not_blank {s : String} (h : ∀ c ∈ s.toList, isBlank c = false) : trim s = s := by
  have hkept : ∀ l : List Char, (∀ c ∈ l, isBlank c = false) → l.dropWhile isBlank = l := by
    intro l hl
    cases l with
    | nil => rfl
    | cons c cs => simp [hl c List.mem_cons_self]
  have hback : ∀ c ∈ s.toList.reverse, isBlank c = false := fun c hc => h c (List.mem_reverse.mp hc)
  rw [trim, trimBlank, hkept _ h, hkept _ hback, List.reverse_reverse, String.ofList_toList]

end Timesheet.Text

namespace Timesheet

theorem TicketKey.WellFormed.splitKeys {ticket : String} (h : WellFormed ticket) :
    Text.splitKeys ticket = [ticket] :=
  Text.splitKeys_of_trimmed (h.notMem (by decide) (by decide) (by decide))
    (Text.trim_of_not_blank fun _ hc => h.not_blank hc) h.ne_empty

theorem TicketKey.WellFormed.mem_splitKeys {ticket : String} {keys : List String}
    (h : WellFormed ticket) (hmem : ticket ∈ keys) :
    ticket ∈ Text.splitKeys (Text.joinKeys keys) := by
  rw [Text.splitKeys_joinKeys]
  exact List.mem_flatMap.mpr ⟨ticket, hmem, by simp [h.splitKeys]⟩

end Timesheet
