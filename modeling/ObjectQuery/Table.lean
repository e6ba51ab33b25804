/-!
# Tables as lists of entries

Two ways to keep one value per key. A registration table keeps the order in which
keys first came; a sorted table keeps text keys in increasing order. Writing a key
again replaces its value in both.
-/

namespace ObjectQuery
namespace Table

variable {key value : Type}

/-- The value of the first entry with a key. -/
def find? [DecidableEq key] (wanted : key) (entries : List (key × value)) : Option value :=
  (entries.find? fun entry => entry.1 = wanted).map Prod.snd

/-- The value of the last entry with a key. -/
def findLast? [DecidableEq key] (wanted : key) (entries : List (key × value)) : Option value :=
  find? wanted entries.reverse

/-- The entries with one key's value replaced, or the entry added at the end. -/
def put [DecidableEq key] (name : key) (content : value) :
    List (key × value) → List (key × value)
  | [] => [(name, content)]
  | entry :: rest =>
      if entry.1 = name then
        (name, content) :: rest
      else
        entry :: put name content rest

/-- The sorted entries with one key's value written. -/
def insert (name : String) (content : value) :
    List (String × value) → List (String × value)
  | [] => [(name, content)]
  | entry :: rest =>
      if name < entry.1 then
        (name, content) :: entry :: rest
      else if name = entry.1 then
        (name, content) :: rest
      else
        entry :: insert name content rest

/-- The sorted table of a list of entries; of two with one key the later stays. -/
def sort (entries : List (String × value)) : List (String × value) :=
  entries.foldl (fun table entry => insert entry.1 entry.2 table) []

/-- The keys stand in strictly increasing order. -/
def Sorted (entries : List (String × value)) : Prop :=
  entries.Pairwise fun left right => left.1 < right.1

@[simp]
theorem find?_nil [DecidableEq key] (wanted : key) :
    find? wanted ([] : List (key × value)) = none := rfl

theorem find?_cons [DecidableEq key] (wanted : key) (entry : key × value)
    (rest : List (key × value)) :
    find? wanted (entry :: rest) =
      if entry.1 = wanted then some entry.2 else find? wanted rest := by
  simp only [find?, List.find?_cons]
  by_cases equal : entry.1 = wanted <;> simp [equal]

/-- What was written under a key is what is found there. -/
theorem find?_put_self [DecidableEq key] (name : key) (content : value)
    (entries : List (key × value)) :
    find? name (put name content entries) = some content := by
  induction entries with
  | nil => simp [put, find?_cons]
  | cons entry rest inductionHypothesis =>
      by_cases equal : entry.1 = name <;> simp [put, find?_cons, equal, inductionHypothesis]

/-- Writing one key leaves the others as they were. -/
theorem find?_put_of_ne [DecidableEq key] {name wanted : key} (different : name ≠ wanted)
    (content : value) (entries : List (key × value)) :
    find? wanted (put name content entries) = find? wanted entries := by
  induction entries with
  | nil => simp [put, find?_cons, different]
  | cons entry rest inductionHypothesis =>
      by_cases equal : entry.1 = name
      · simp [put, find?_cons, equal, different]
      · simp [put, find?_cons, equal, inductionHypothesis]

/-- What is found under a key stands in the table under it. -/
theorem mem_of_find? [DecidableEq key] {wanted : key} {content : value}
    {entries : List (key × value)} (found : find? wanted entries = some content) :
    (wanted, content) ∈ entries := by
  simp only [find?, Option.map_eq_some_iff] at found
  obtain ⟨⟨name, content⟩, among, rfl⟩ := found
  obtain rfl : name = wanted := by simpa using List.find?_some among
  exact List.mem_of_find?_eq_some among

/-- Something is found under every key of the table. -/
theorem exists_find?_of_mem [DecidableEq key] {wanted : key} {content : value}
    {entries : List (key × value)} (member : (wanted, content) ∈ entries) :
    ∃ found, find? wanted entries = some found := by
  rw [← Option.isSome_iff_exists, find?, Option.isSome_map, List.find?_isSome]
  exact ⟨(wanted, content), member, by simp⟩

theorem mem_put [DecidableEq key] {name : key} {content : value}
    {entries : List (key × value)} {entry : key × value}
    (member : entry ∈ put name content entries) :
    entry = (name, content) ∨ entry ∈ entries := by
  induction entries with
  | nil => simpa [put] using member
  | cons first rest inductionHypothesis =>
      simp only [put] at member
      split at member
      · rcases List.mem_cons.mp member with equal | inRest
        · exact .inl equal
        · exact .inr (List.mem_cons_of_mem _ inRest)
      · rcases List.mem_cons.mp member with equal | written
        · exact .inr (equal ▸ List.mem_cons_self)
        · rcases inductionHypothesis written with equal | inRest
          · exact .inl equal
          · exact .inr (List.mem_cons_of_mem _ inRest)

theorem mem_insert {name : String} {content : value} {entries : List (String × value)}
    {entry : String × value} (member : entry ∈ insert name content entries) :
    entry = (name, content) ∨ entry ∈ entries := by
  induction entries with
  | nil => simpa [insert] using member
  | cons first rest inductionHypothesis =>
      simp only [insert] at member
      split at member
      · simpa using member
      · split at member
        · rcases List.mem_cons.mp member with equal | inRest
          · exact .inl equal
          · exact .inr (List.mem_cons_of_mem _ inRest)
        · rcases List.mem_cons.mp member with equal | inserted
          · exact .inr (equal ▸ List.mem_cons_self)
          · rcases inductionHypothesis inserted with equal | inRest
            · exact .inl equal
            · exact .inr (List.mem_cons_of_mem _ inRest)

/-- Writing a key keeps a sorted table sorted. -/
theorem Sorted.insert {entries : List (String × value)} (sorted : Sorted entries)
    (name : String) (content : value) : Sorted (insert name content entries) := by
  induction entries with
  | nil => simp [Table.insert, Sorted]
  | cons first rest inductionHypothesis =>
      have tail : Sorted rest := (List.pairwise_cons.mp sorted).2
      have below : ∀ entry ∈ rest, first.1 < entry.1 := (List.pairwise_cons.mp sorted).1
      simp only [Table.insert]
      split
      next before =>
        refine List.pairwise_cons.mpr ⟨fun entry member => ?_, sorted⟩
        rcases List.mem_cons.mp member with equal | inRest
        · exact equal ▸ before
        · exact String.lt_trans before (below entry inRest)
      next notBefore =>
        split
        next equal =>
          exact List.pairwise_cons.mpr ⟨fun entry member => equal ▸ below entry member, tail⟩
        next different =>
          refine List.pairwise_cons.mpr ⟨fun entry member => ?_, inductionHypothesis tail⟩
          rcases mem_insert member with equal | inRest
          · subst equal
            have atMost : first.1 ≤ name := String.not_lt.mp notBefore
            exact String.not_le.mp fun atLeast =>
              different (String.le_antisymm atLeast atMost)
          · exact below entry inRest

theorem sorted_nil : Sorted ([] : List (String × value)) :=
  List.Pairwise.nil

/-- The table of any list of entries is sorted. -/
theorem sorted_sort (entries : List (String × value)) : Sorted (sort entries) := by
  have general : ∀ (rest table : List (String × value)), Sorted table →
      Sorted (rest.foldl (fun table entry => insert entry.1 entry.2 table) table) := by
    intro rest
    induction rest with
    | nil => exact fun _ sorted => sorted
    | cons entry rest inductionHypothesis =>
        exact fun table sorted => inductionHypothesis _ (sorted.insert entry.1 entry.2)
  exact general entries [] sorted_nil

end Table
end ObjectQuery
