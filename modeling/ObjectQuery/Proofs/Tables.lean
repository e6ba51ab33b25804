import Mathlib.Data.List.Dedup
import ObjectQuery.Table

/-!
# Writing and reading tables

A key that is written once more keeps its place, and one that is new goes to the end. So a table
has one entry for each key that was written, with what was written last. Where no key stands
twice, what is found does not depend on the order of the entries. A sorted table is written again
as it is.
-/

namespace ObjectQuery
namespace Table

variable {key value : Type}

section Keys

variable [DecidableEq key] {name wanted : key} {content : value}
  {entries table : List (key × value)}

theorem find?_eq_none_iff : find? wanted entries = none ↔ wanted ∉ entries.map Prod.fst := by
  simp only [find?, Option.map_eq_none_iff, List.find?_eq_none, List.mem_map]
  grind

theorem put_of_find?_eq_none (fresh : find? name entries = none) :
    put name content entries = entries ++ [(name, content)] := by
  induction entries with
  | nil => rfl
  | cons entry entries inductionHypothesis =>
      rw [find?_cons] at fresh
      split at fresh
      · cases fresh
      · next different =>
          rw [put, if_neg different, inductionHypothesis fresh, List.cons_append]

/-- A key is added unless it is there. -/
theorem keys_put (name : key) (content : value) (entries : List (key × value)) :
    (put name content entries).map Prod.fst =
      if name ∈ entries.map Prod.fst then entries.map Prod.fst
      else entries.map Prod.fst ++ [name] := by
  induction entries with
  | nil => rfl
  | cons entry entries inductionHypothesis =>
      by_cases same : entry.1 = name
      · simp [put, same]
      · rw [put, if_neg same, List.map_cons, inductionHypothesis, List.map_cons]
        by_cases member : name ∈ entries.map Prod.fst
        · rw [if_pos member, if_pos (List.mem_cons_of_mem _ member)]
        · rw [if_neg member, if_neg (by simp [Ne.symm same, member]), List.cons_append]

/-! ## Entries with distinct keys -/

/-- An entry is the first of its key if no other one has it. -/
theorem findEntry_eq_some_of_mem
    (distinct : (entries.map Prod.fst).Nodup)
    (member : (wanted, content) ∈ entries) :
    (entries.find? fun entry => entry.1 = wanted) = some (wanted, content) := by
  induction entries with
  | nil => cases member
  | cons entry entries inductionHypothesis =>
      obtain ⟨fresh, distinct⟩ := List.nodup_cons.mp distinct
      rw [List.find?_cons]
      rcases List.mem_cons.mp member with rfl | member
      · simp
      · have different : entry.1 ≠ wanted := fun same =>
          fresh (same ▸ List.mem_map.mpr ⟨_, member, rfl⟩)
        simpa [different] using inductionHypothesis distinct member

/-- The content of an entry is found if no other one has its key. -/
theorem find?_eq_some_of_mem
    (distinct : (entries.map Prod.fst).Nodup)
    (member : (wanted, content) ∈ entries) :
    find? wanted entries = some content := by
  rw [find?, findEntry_eq_some_of_mem distinct member, Option.map_some]

/-- What is found under a key does not depend on the order, if no key stands twice. -/
theorem find?_perm
    {others : List (key × value)}
    (distinct : (entries.map Prod.fst).Nodup)
    (rearranged : others.Perm entries)
    (wanted : key) :
    find? wanted others = find? wanted entries := by
  cases found : find? wanted entries with
  | some content =>
      exact find?_eq_some_of_mem ((rearranged.map Prod.fst).nodup_iff.mpr distinct)
        (rearranged.mem_iff.mpr (mem_of_find? found))
  | none =>
      rw [find?_eq_none_iff] at found ⊢
      rwa [(rearranged.map Prod.fst).mem_iff]

/-! ## Many entries -/

/-- The table with further entries written, one after the other. -/
def putAll (entries table : List (key × value)) : List (key × value) :=
  entries.foldl (fun table entry => put entry.1 entry.2 table) table

theorem mem_keys_putAll :
    wanted ∈ (putAll entries table).map Prod.fst ↔
      wanted ∈ entries.map Prod.fst ∨ wanted ∈ table.map Prod.fst := by
  induction entries generalizing table with
  | nil => simp [putAll]
  | cons entry entries inductionHypothesis =>
      rw [putAll, List.foldl_cons, ← putAll, inductionHypothesis, keys_put]
      split <;> grind

theorem nodup_keys_putAll (distinct : (table.map Prod.fst).Nodup) :
    ((putAll entries table).map Prod.fst).Nodup := by
  induction entries generalizing table with
  | nil => exact distinct
  | cons entry entries inductionHypothesis =>
      rw [putAll, List.foldl_cons, ← putAll]
      refine inductionHypothesis ?_
      rw [keys_put]
      split
      · exact distinct
      · next fresh => exact List.concat_eq_append ▸ distinct.concat fresh

/-- A table that is written from nothing has as many entries as there are keys. -/
theorem length_putAll_nil (entries : List (key × value)) :
    (putAll entries []).length = (entries.map Prod.fst).dedup.length := by
  have same : ((putAll entries []).map Prod.fst).Perm (entries.map Prod.fst).dedup := by
    have distinct : ((putAll entries []).map Prod.fst).Nodup :=
      nodup_keys_putAll (by rw [List.map_nil]; exact List.nodup_nil)
    refine (List.perm_ext_iff_of_nodup distinct (List.nodup_dedup _)).mpr fun wanted => ?_
    rw [mem_keys_putAll, List.mem_dedup]
    simp
  rw [← same.length_eq, List.length_map]

/-- What is found is what was written last. -/
theorem find?_putAll :
    find? wanted (putAll entries table) =
      (((entries.filter fun entry => entry.1 = wanted).getLast?).map Prod.snd).or
        (find? wanted table) := by
  induction entries generalizing table with
  | nil => rfl
  | cons entry entries inductionHypothesis =>
      rw [putAll, List.foldl_cons, ← putAll, inductionHypothesis]
      by_cases same : entry.1 = wanted
      · rw [List.filter_cons_of_pos (by simpa using same), ← same, find?_put_self]
        cases last : (entries.filter fun later => later.1 = entry.1).getLast? with
        | none => simp [List.getLast?_eq_none_iff.mp last]
        | some found => simp [List.getLast?_cons, last]
      · rw [List.filter_cons_of_neg (by simpa using same), find?_put_of_ne same]

end Keys

/-! ## Sorted tables -/

/-- A key above every other goes to the end. -/
theorem insert_of_forall_lt
    {name : String}
    {entries : List (String × value)}
    (above : ∀ entry ∈ entries, entry.1 < name) :
    insert name content entries = entries ++ [(name, content)] := by
  induction entries with
  | nil => rfl
  | cons first rest inductionHypothesis =>
      obtain ⟨here, later⟩ := List.forall_mem_cons.mp above
      rw [insert, if_neg (String.lt_asymm here), if_neg (String.ne_of_lt here).symm,
        inductionHypothesis later, List.cons_append]

theorem foldl_insert_of_sorted
    {entries table : List (String × value)}
    (sorted : Sorted (table ++ entries)) :
    entries.foldl (fun table entry => insert entry.1 entry.2 table) table = table ++ entries := by
  induction entries generalizing table with
  | nil => simp
  | cons first rest inductionHypothesis =>
      have above : ∀ entry ∈ table, entry.1 < first.1 := fun entry among =>
        (List.pairwise_append.mp sorted).2.2 entry among first List.mem_cons_self
      rw [List.foldl_cons, insert_of_forall_lt above, inductionHypothesis (by simpa using sorted)]
      simp

/-- A sorted table is its own sorted table. -/
theorem sort_of_sorted {entries : List (String × value)} (sorted : Sorted entries) :
    sort entries = entries :=
  foldl_insert_of_sorted sorted

end Table
end ObjectQuery
