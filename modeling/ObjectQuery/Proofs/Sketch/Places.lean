import ObjectQuery.Proofs.Sketch.Effect
import ObjectQuery.Proofs.Sketch.Steps

/-!
# Places of a run

The places at which a run speaks of a target, each with the context in which it is written.
Those outside sub-queries stand in the scope in which the run starts: they see the same scopes
around it, and of this scope the targets that were bound before them.
-/

namespace ObjectQuery

/-- A place that speaks of a target, in its context. -/
structure Place where
  found : Mention
  context : Context

namespace Place

/-- The target that is spoken of. -/
def owner (place : Place) : Option Resident :=
  Rendering.owner place.found place.context

/-- What is written at the place. -/
def text (place : Place) : String :=
  place.found.text (place.owner.map Resident.target)

/-- The place stands in the scope in hand, behind some of the targets that are bound there. -/
def Follows (place : Place) (before : Context) (bound : List Resident) : Prop :=
  ∃ earlier,
    Context.Continues { before with hint := place.context.hint } place.context earlier ∧
      earlier <+: bound

namespace Follows

variable {place : Place} {before between : Context} {bound bound' : List Resident}

theorem append (follows : place.Follows before bound) (later : List Resident) :
    place.Follows before (bound ++ later) := by
  obtain ⟨earlier, continues, start⟩ := follows
  exact ⟨earlier, continues, start.trans (List.prefix_append _ _)⟩

theorem after
    (follows : place.Follows between bound')
    (continues : before.Continues between bound) :
    place.Follows before (bound ++ bound') := by
  obtain ⟨earlier, goesOn, start⟩ := follows
  have hinted : Context.Continues { before with hint := place.context.hint }
      { between with hint := place.context.hint } bound :=
    { continues with hint := rfl }
  exact ⟨bound ++ earlier, hinted.trans goesOn, (List.prefix_append_right_inj _).mpr start⟩

end Follows
end Place

/-- The places of a sketch outside its sub-queries, in the order in which they are resolved. -/
def Sketch.ownMentions : Sketch → List Mention
  | .filling _ | .declaration _ | .nested _ => []
  | .mention found => [found]
  | .append first second => first.ownMentions ++ second.ownMentions
  | .expecting _ inner => inner.ownMentions
  | .call _ _ argument => argument.ownMentions
  | .select _ source clauses selected =>
      source.ownMentions ++ (clauses.ownMentions ++ selected.ownMentions)

namespace Rendering

variable {settings : Settings} {sketch : Sketch} {before after : Context}

/-- The places of a run, in the order in which they are resolved. -/
def places : {sketch : Sketch} → {before after : Context} →
    Rendering settings sketch before after → List Place
  | _, _, _, .filling _ _ | _, _, _, .declaration _ _ _ => []
  | _, _, _, .mention found before => [⟨found, before⟩]
  | _, _, _, .append firstPart secondPart => firstPart.places ++ secondPart.places
  | _, _, _, .expecting innerPart => innerPart.places
  | _, _, _, .call argumentPart => argumentPart.places
  | _, _, _, .select sourcePart clausesPart selectedPart =>
      sourcePart.places ++ (clausesPart.places ++ selectedPart.places)
  | _, _, _, .nested queryPart => queryPart.places

/-- The places of a run outside its sub-queries. -/
def ownPlaces : {sketch : Sketch} → {before after : Context} →
    Rendering settings sketch before after → List Place
  | _, _, _, .filling _ _ | _, _, _, .declaration _ _ _ | _, _, _, .nested _ => []
  | _, _, _, .mention found before => [⟨found, before⟩]
  | _, _, _, .append firstPart secondPart => firstPart.ownPlaces ++ secondPart.ownPlaces
  | _, _, _, .expecting innerPart => innerPart.ownPlaces
  | _, _, _, .call argumentPart => argumentPart.ownPlaces
  | _, _, _, .select sourcePart clausesPart selectedPart =>
      sourcePart.ownPlaces ++ (clausesPart.ownPlaces ++ selectedPart.ownPlaces)

/-- A run leaves out no place of its sketch. -/
theorem map_found_ownPlaces (rendering : Rendering settings sketch before after) :
    rendering.ownPlaces.map Place.found = sketch.ownMentions := by
  induction rendering with
  | filling | declaration | nested | mention => rfl
  | append _ _ firstHypothesis secondHypothesis =>
      rw [ownPlaces, Sketch.ownMentions, List.map_append, firstHypothesis, secondHypothesis]
  | expecting _ inductionHypothesis => exact inductionHypothesis
  | call _ inductionHypothesis => exact inductionHypothesis
  | select _ _ _ sourceHypothesis clausesHypothesis selectedHypothesis =>
      simp only [ownPlaces, Sketch.ownMentions, List.map_append, sourceHypothesis,
        clausesHypothesis, selectedHypothesis]

theorem mem_places_of_mem_ownPlaces
    (rendering : Rendering settings sketch before after)
    {place : Place}
    (member : place ∈ rendering.ownPlaces) :
    place ∈ rendering.places := by
  induction rendering with
  | filling | declaration | nested => simp [ownPlaces] at member
  | mention found before => exact member
  | append _ _ firstHypothesis secondHypothesis =>
      rw [places, List.mem_append]
      exact (List.mem_append.mp member).imp firstHypothesis secondHypothesis
  | expecting _ inductionHypothesis => exact inductionHypothesis member
  | call _ inductionHypothesis => exact inductionHypothesis member
  | select _ _ _ sourceHypothesis clausesHypothesis selectedHypothesis =>
      rw [ownPlaces, List.mem_append, List.mem_append] at member
      rw [places, List.mem_append, List.mem_append]
      exact member.imp sourceHypothesis (.imp clausesHypothesis selectedHypothesis)

/-- Every place of a guarded run is guarded. -/
theorem guardedIn_of_mem_places
    (rendering : Rendering settings sketch before after)
    (guarded : rendering.Guarded)
    {place : Place}
    (member : place ∈ rendering.places) :
    place.found.GuardedIn place.context := by
  induction rendering with
  | filling | declaration => simp [places] at member
  | mention found before =>
      obtain rfl := List.mem_singleton.mp member
      exact guarded
  | append _ _ firstHypothesis secondHypothesis =>
      exact (List.mem_append.mp member).elim (firstHypothesis guarded.1)
        (secondHypothesis guarded.2)
  | expecting _ inductionHypothesis => exact inductionHypothesis guarded member
  | call _ inductionHypothesis => exact inductionHypothesis guarded member
  | select _ _ _ sourceHypothesis clausesHypothesis selectedHypothesis =>
      rw [places, List.mem_append, List.mem_append] at member
      obtain ⟨sourceGuarded, clausesGuarded, selectedGuarded⟩ := guarded
      rcases member with inSource | inClauses | inSelected
      · exact sourceHypothesis sourceGuarded inSource
      · exact clausesHypothesis clausesGuarded inClauses
      · exact selectedHypothesis selectedGuarded inSelected
  | nested _ inductionHypothesis => exact inductionHypothesis guarded.1 member

/-- A place outside sub-queries goes on with the scope in which the run starts. -/
theorem follows_of_mem_ownPlaces
    (rendering : Rendering settings sketch before after)
    {place : Place}
    (member : place ∈ rendering.ownPlaces) :
    place.Follows before rendering.bound := by
  induction rendering with
  | filling | declaration | nested => simp [ownPlaces] at member
  | mention found before =>
      obtain rfl := List.mem_singleton.mp member
      exact ⟨[], .refl before, List.nil_prefix⟩
  | append firstPart _ firstHypothesis secondHypothesis =>
      rcases List.mem_append.mp member with inFirst | inSecond
      · exact (firstHypothesis inFirst).append _
      · exact (secondHypothesis inSecond).after firstPart.continues
  | expecting _ inductionHypothesis => exact inductionHypothesis member
  | call _ inductionHypothesis => exact inductionHypothesis member
  | select sourcePart clausesPart _ sourceHypothesis clausesHypothesis selectedHypothesis =>
      rw [ownPlaces, List.mem_append, List.mem_append] at member
      rcases member with inSource | inClauses | inSelected
      · exact (sourceHypothesis inSource).append _
      · exact ((clausesHypothesis inClauses).append _).after sourcePart.continues
      · exact ((selectedHypothesis inSelected).after clausesPart.continues).after
          sourcePart.continues

end Rendering
end ObjectQuery
