import Mathlib.Data.List.Perm.Subperm
import ObjectQuery.Proofs.Parameters.Names

/-!
# Aliases that are made up

A made-up alias is an identifier, and it tells its base, the number of its scope and its
count apart: read from the right, the digits of the count end at an underscore, and so do
those of the scope. The used aliases are finitely many, so the search for the first count
whose alias is free comes to an end.
-/

namespace ObjectQuery

open Text

/-! ## Parts of an alias -/

/-- What follows the last separator is told apart from what stands before it. -/
theorem eq_of_append_separator
    {separator : Char}
    {front front' back back' : List Char}
    (unseparated : separator ∉ back)
    (unseparated' : separator ∉ back')
    (equal : front ++ separator :: back = front' ++ separator :: back') :
    front = front' ∧ back = back' := by
  rcases List.append_eq_append_iff.mp equal with ⟨rest, rfl, behind⟩ | ⟨rest, rfl, behind⟩
  · cases rest with
    | nil => simpa using behind
    | cons first rest =>
        obtain ⟨-, rfl⟩ := List.cons.inj behind
        simp at unseparated
  · cases rest with
    | nil => simpa using behind.symm
    | cons first rest =>
        obtain ⟨-, rfl⟩ := List.cons.inj behind
        simp at unseparated'

theorem toList_generatedAlias (base : String) (sequence count : Nat) :
    (generatedAlias base sequence count).toList =
      (base.toList ++ '_' :: Nat.toDigits 10 sequence) ++ '_' :: Nat.toDigits 10 count := by
  simp [generatedAlias]

/-- A made-up alias has one base, one scope and one count. -/
theorem generatedAlias_inj
    {base base' : String}
    {sequence sequence' count count' : Nat}
    (equal : generatedAlias base sequence count = generatedAlias base' sequence' count') :
    base = base' ∧ sequence = sequence' ∧ count = count' := by
  have noDigit : '_'.isDigit = false := by decide
  have characters := congrArg String.toList equal
  rw [toList_generatedAlias, toList_generatedAlias] at characters
  obtain ⟨fronts, counts⟩ := eq_of_append_separator (Number.notMem_toDigits noDigit count)
    (Number.notMem_toDigits noDigit count') characters
  obtain ⟨bases, sequences⟩ := eq_of_append_separator (Number.notMem_toDigits noDigit sequence)
    (Number.notMem_toDigits noDigit sequence') fronts
  exact ⟨String.toList_inj.mp bases, Number.toDigits_injective sequences,
    Number.toDigits_injective counts⟩

/-! ## Identifiers -/

/-- The start of made-up aliases is an identifier. -/
theorem isIdentifier_aliasStem (name : String) : isIdentifier (aliasStem name) = true := by
  have named : ∀ character ∈ (lastSegment name).map aliasCharacter,
      isNameCharacter character = true := by
    intro character member
    obtain ⟨source, -, rfl⟩ := List.mem_map.mp member
    exact isNameCharacter_aliasCharacter source
  unfold aliasStem
  split
  · decide
  · next first rest equal =>
      rw [equal, List.forall_mem_cons] at named
      obtain ⟨firstNamed, restNamed⟩ := named
      have taken : ∀ number, (rest.take number).all isNameCharacter = true := fun number =>
        List.all_eq_true.mpr fun character member =>
          restNamed character (List.mem_of_mem_take member)
      cases digit : first.isDigit with
      | true =>
          have start : isNameStart 't' = true := by decide
          simpa [isIdentifier, firstNamed, start] using List.all_eq_true.mp (taken 2)
      | false =>
          have start := isNameStart_of_isNameCharacter firstNamed digit
          simpa [isIdentifier, start] using List.all_eq_true.mp (taken 3)

theorem isIdentifier_generatedAlias (name : String) (sequence count : Nat) :
    isIdentifier (generatedAlias (aliasStem name) sequence count) = true := by
  have digits (number : Nat) : (toString number).toList.all isNameCharacter = true := by
    simpa using Number.all_toDigits isNameCharacter_of_isDigit number
  have underscore : ("_" : String).toList.all isNameCharacter = true := by decide
  exact isIdentifier_append (isIdentifier_append (isIdentifier_append (isIdentifier_append
    (isIdentifier_aliasStem name) underscore) (digits sequence)) underscore) (digits count)

/-! ## The search for a free count -/

namespace Context

/-- A count from the start on, the first whose alias is free. -/
structure IsFresh (context : Context) (base : String) (count : Nat) : Prop where
  counted : context.current.aliasCount base ≤ count
  bounded : count ≤ context.current.aliasCount base + context.aliases.length
  unused : generatedAlias base context.current.sequence count ∉ context.aliases
  least :
    ∀ tried, context.current.aliasCount base ≤ tried → tried < count →
      generatedAlias base context.current.sequence tried ∈ context.aliases

/-- Among one more counts than there are used aliases, one has a free alias. -/
theorem exists_unused (context : Context) (base : String) :
    ∃ count, context.current.aliasCount base ≤ count ∧
      count < context.current.aliasCount base + (context.aliases.length + 1) ∧
        generatedAlias base context.current.sequence count ∉ context.aliases := by
  by_contra none
  push Not at none
  let tried := (List.range' (context.current.aliasCount base) (context.aliases.length + 1)).map
    (generatedAlias base context.current.sequence)
  have distinct : tried.Nodup :=
    List.Pairwise.map _ (fun _ _ different equal => different (generatedAlias_inj equal).2.2)
      (List.nodup_range' 1)
  have used : tried ⊆ context.aliases := by
    intro aliasName member
    obtain ⟨count, inRange, rfl⟩ := List.mem_map.mp member
    obtain ⟨counted, bounded⟩ := List.mem_range'_1.mp inRange
    exact none count counted bounded
  have few := (List.subperm_of_subset distinct used).length_le
  have many : tried.length = context.aliases.length + 1 := by simp [tried]
  omega

/-- The search for a free count comes to an end, at the first one. -/
theorem isFresh_freshCount (context : Context) (base : String) :
    context.IsFresh base (context.freshCount base) := by
  obtain ⟨free, counted, bounded, unused⟩ := context.exists_unused base
  simp only [freshCount]
  cases search : (List.range' (context.current.aliasCount base)
      (context.aliases.length + 1)).find? fun count =>
        !context.aliases.contains (generatedAlias base context.current.sequence count) with
  | none =>
      have used := List.find?_range'_eq_none.mp search free counted bounded
      simp [unused] at used
  | some count =>
      obtain ⟨isFree, inRange, earlier⟩ := List.find?_range'_eq_some.mp search
      obtain ⟨lower, upper⟩ := List.mem_range'_1.mp inRange
      exact
        { counted := lower
          bounded := Nat.lt_succ_iff.mp upper
          unused := by simpa using isFree
          least := fun tried start before => by simpa using earlier tried start before }

/-- A count that is free at the start is taken at once. -/
theorem freshCount_eq_aliasCount
    {context : Context}
    {base : String}
    (unused : generatedAlias base context.current.sequence (context.current.aliasCount base) ∉
      context.aliases) :
    context.freshCount base = context.current.aliasCount base := by
  have fresh := context.isFresh_freshCount base
  refine ((Nat.lt_or_eq_of_le fresh.counted).resolve_left fun later => ?_).symm
  exact unused (fresh.least _ (Nat.le_refl _) later)

end Context
end ObjectQuery
