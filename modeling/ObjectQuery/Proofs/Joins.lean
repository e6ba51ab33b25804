import ObjectQuery.Proofs.Caching.Answers
import ObjectQuery.Proofs.Rows.Plans
import ObjectQuery.Sample

/-!
# Trees of joins

A target may have others joined to it, which have others joined to them. A source binds and
declares the targets of such a tree one after the other, each before the targets within it and all
of these before the next on its level. The condition of a join is written right behind the target
that it joins, so that it may name this one and all before it.
-/

namespace ObjectQuery

/-! ## Preorder -/

/-- The condition on which the relation is joined, if there is one. -/
def Join.condition : Join → Option Filter
  | .mk _ _ condition => condition

namespace Target

mutual

/-- The joins of a tree, each followed by the joins within it. -/
def joinsThroughout : Target → List Join
  | .mk _ _ _ joins => joinsAmong joins

/-- The joins of a list, each followed by the joins within it. -/
def joinsAmong : List Join → List Join
  | [] => []
  | join :: rest => joinsFrom join ++ joinsAmong rest

/-- A join, followed by the joins within it. -/
def joinsFrom : Join → List Join
  | .mk joinType target condition => .mk joinType target condition :: joinsThroughout target

end

/-- The targets of a tree of joins, each before the targets within it. -/
def preorder (queried : Target) : List Target :=
  queried :: queried.joinsThroughout.map Join.target

mutual

theorem length_joinsThroughout :
    (queried : Target) → queried.joinsThroughout.length + 1 = queried.targetCount
  | .mk name entity given joined => by
      rw [joinsThroughout, targetCount, length_joinsAmong joined, Nat.add_comm]

theorem length_joinsAmong :
    (joined : List Join) → (joinsAmong joined).length = joinedCount joined
  | [] => rfl
  | first :: rest => by
      rw [joinsAmong, joinedCount, List.length_append, length_joinsFrom first,
        length_joinsAmong rest]

theorem length_joinsFrom : (join : Join) → (joinsFrom join).length = countOfJoin join
  | .mk joinType joined condition => by
      rw [joinsFrom, countOfJoin, List.length_cons, length_joinsThroughout joined]

end

/-- Every target of the tree is listed once. -/
theorem length_preorder (queried : Target) : queried.preorder.length = queried.targetCount := by
  rw [preorder, List.length_cons, List.length_map, length_joinsThroughout]

end Target

/-! ## What is known of a target -/

open Resolution

variable {settings : Settings} {before after : Context}

/-- The entity that stands for a target: the one that the operation gives, else the one that the
catalog knows, else the name itself. -/
def Context.entityOf (context : Context) (settings : Settings) (target : Target) : String :=
  match target.entity, context.answerFor settings target.name with
  | some entity, _ => entity
  | none, some (.ok found) => found.entityName
  | none, _ => target.name

/-- The target is bound by its logical name, with the entity and the attributes that are known
for it. -/
structure BoundTarget.StandsFor
    (binding : BoundTarget)
    (settings : Settings)
    (context : Context)
    (target : Target) : Prop where
  name : binding.name = target.name
  entity : binding.entity = context.entityOf settings target
  attributes : binding.attributes = context.attributesOf settings target.name

theorem BoundTarget.StandsFor.of_answers
    {binding : BoundTarget}
    {target : Target}
    (stands : binding.StandsFor settings after target)
    (answers : after.answerFor settings = before.answerFor settings) :
    binding.StandsFor settings before target where
  name := stands.name
  entity := by rw [stands.entity, Context.entityOf, Context.entityOf, answers]
  attributes := stands.attributes.trans
    (congrArg Catalog.attributesIn (congrFun answers target.name))

theorem Resolution.introduce_standsFor (target : Target) :
    (introduce target).Ensures settings before fun binding _ =>
      binding.StandsFor settings before target := by
  have knows : (targetEntity target).Ensures settings before fun known _ =>
      known.1 = before.entityOf settings target := by
    refine (askCatalog_answers target.name).bind ?_
    rintro _ after rfl
    rw [Context.entityOf]
    split
    · next given _ => exact .pure (by rw [given])
    · next given _ => exact .pure (by rw [given])
    · next given answered => exact .pure (by rw [given, answered])
    · exact .fail _
    · next given answered => exact .pure (by rw [given, answered])
  have named : (introduce target).Ensures settings before fun binding _ =>
      binding.name = target.name ∧ binding.entity = before.entityOf settings target := by
    refine knows.bind fun known between entity => ?_
    exact .bindAny fun aliasName allocated => .bindAny fun _ after => .pure ⟨rfl, entity⟩
  refine (named.and (introduce_knows target)).weaken ?_
  rintro binding after ⟨⟨name, entity⟩, attributes⟩
  exact ⟨name, entity, attributes⟩

/-- A step that only asks the catalog leaves its answers as they were. -/
theorem Resolution.OnlyAsks.answers
    {result : Type}
    {step : Resolution result}
    (asks : step.OnlyAsks settings) :
    step.Ensures settings before fun _ after =>
      after.answerFor settings = before.answerFor settings := by
  intro found after run
  have alike : Option.Rel Catalog.Alike before.catalog before.catalog := by
    cases before.catalog with
    | none => exact .none
    | some catalog => exact .some (.refl catalog)
  obtain ⟨questions, asked, -⟩ := asks before before.catalog alike
  rw [run] at asked
  replace asked : after.catalog = before.catalog.map (·.askedAll questions) := asked
  funext name
  rw [Context.answerFor, Context.answerFor, asked, Option.map_map]
  exact Option.map_congr fun catalog _ =>
    (Catalog.Alike.askedAll catalog questions).answers settings.catalogScope name

theorem Resolution.introduce_answers (target : Target) :
    (introduce target).Ensures settings before fun _ after =>
      after.answerFor settings = before.answerFor settings :=
  (hereditary_onlyAsks.introduce target).answers

/-! ## Declared joins -/

/-- A join as it stands in a source: what was bound for its target, and the text of its condition,
if it has one. -/
structure DeclaredJoin where
  join : Join
  binding : BoundTarget
  condition : Option String

/-- The keyword of the join, the declaration of its target, and its condition. -/
def DeclaredJoin.text (declared : DeclaredJoin) : String :=
  " " ++ declared.join.joinType.keyword ++ " " ++ declared.binding.declaration ++
    declared.condition.elim "" (" ON " ++ ·)

/-- The condition of a join is written, if there is one. -/
inductive Restricts (settings : Settings) : Context → Option Filter → Option String → Context → Prop
  | none (context : Context) : Restricts settings context none none context
  | some
      {before after : Context}
      (condition : Filter)
      (text : String)
      (written : Resolvers.standard.conditionOf (.filter condition) settings before =
        (.ok text, after)) :
      Restricts settings before (some condition) (some text) after

/-- Joins are declared one after the other: the target of each is bound, with an alias, and then
its condition is written. -/
inductive Declares (settings : Settings) : Context → List DeclaredJoin → Context → Prop
  | nil (context : Context) : Declares settings context [] context
  | cons
      {before introduced restricted after : Context}
      {declared : DeclaredJoin}
      {rest : List DeclaredJoin}
      (introduces : introduce declared.join.target settings before =
        (.ok declared.binding, introduced))
      (aliased : declared.binding.aliasName.isSome = true)
      (restricts : Restricts settings introduced declared.join.condition declared.condition
        restricted)
      (declares : Declares settings restricted rest after) :
      Declares settings before (declared :: rest) after

theorem standard_hostsHave (holds : {result : Type} → Resolution result → Prop) :
    Resolvers.standard.HostsHave holds :=
  nofun

namespace Restricts

variable {condition : Option Filter} {written : Option String}

/-- A condition leaves the targets as they are, in the scope in hand and around it. -/
theorem keeps (restricts : Restricts settings before condition written after) :
    before.Keeps .all after := by
  cases restricts with
  | none => exact .refl .all before
  | some condition text written =>
      exact (BuiltIn.condition_keeps (BuiltIn.filter_keeps condition)).ensures text after written

theorem answers (restricts : Restricts settings before condition written after) :
    after.answerFor settings = before.answerFor settings := by
  cases restricts with
  | none => rfl
  | some condition text written =>
      have hosts := standard_hostsHave fun step => step.OnlyAsks settings
      exact (hereditary_onlyAsks.predicate hosts
        (hereditary_onlyAsks.filter hosts condition)).answers text after written

end Restricts

namespace Declares

variable {declared others : List DeclaredJoin} {between : Context}

theorem append
    (first : Declares settings before declared between)
    (second : Declares settings between others after) :
    Declares settings before (declared ++ others) after := by
  induction first with
  | nil => exact second
  | cons introduces aliased restricts _ inductionHypothesis =>
      exact .cons introduces aliased restricts (inductionHypothesis second)

/-- The targets of the joins are bound behind those that were there, in order. -/
theorem bindings (declares : Declares settings before declared after) :
    after.current.bindings = before.current.bindings ++ declared.map DeclaredJoin.binding := by
  induction declares with
  | nil => simp
  | cons introduces _ restricts _ inductionHypothesis =>
      rw [inductionHypothesis, restricts.keeps.current,
        BuiltIn.introduce_binds _ _ _ introduces]
      simp

theorem keeps (declares : Declares settings before declared after) :
    before.Keeps .around after := by
  induction declares with
  | nil => exact .refl .around _
  | cons introduces _ restricts _ inductionHypothesis =>
      have introduced := (introduce_keeps _).ensures _ _ introduces
      exact (introduced.trans restricts.keeps.around).trans inductionHypothesis

/-- Every joined target has an alias, and is bound with what was known of it before. -/
theorem standsFor (declares : Declares settings before declared after) :
    ∀ found ∈ declared, found.binding.StandsFor settings before found.join.target ∧
      found.binding.aliasName.isSome = true := by
  induction declares with
  | nil => exact nofun
  | cons introduces aliased restricts _ inductionHypothesis =>
      refine List.forall_mem_cons.mpr ⟨⟨introduce_standsFor _ _ _ introduces, aliased⟩, ?_⟩
      intro found member
      obtain ⟨stands, aliased⟩ := inductionHypothesis found member
      have answers := restricts.answers.trans (introduce_answers _ _ _ introduces)
      exact ⟨stands.of_answers answers, aliased⟩

/-- The condition of each join is written when its own target and those before it are bound, and
none of those behind it. -/
theorem restricts
    (declares : Declares settings before declared after)
    {earlier later : List DeclaredJoin}
    {found : DeclaredJoin}
    (parts : declared = earlier ++ found :: later) :
    ∃ introduced restricted,
      Restricts settings introduced found.join.condition found.condition restricted ∧
      before.Keeps .around introduced ∧
      introduced.current.bindings =
        before.current.bindings ++ (earlier ++ [found]).map DeclaredJoin.binding := by
  induction declares generalizing earlier with
  | nil => simp at parts
  | @cons before introduced restricted after first rest introduces _ restricts _
      inductionHypothesis =>
      have bound := BuiltIn.introduce_binds _ _ _ introduces
      have kept := (introduce_keeps _).ensures _ _ introduces
      cases earlier with
      | nil =>
          obtain ⟨rfl, -⟩ := List.cons.inj parts
          exact ⟨introduced, restricted, restricts, kept, bound⟩
      | cons _ earlier =>
          obtain ⟨rfl, inRest⟩ := List.cons.inj parts
          obtain ⟨start, ends, written, keeps, bindings⟩ := inductionHypothesis inRest
          refine ⟨start, ends, written, (kept.trans restricts.keeps.around).trans keeps, ?_⟩
          rw [bindings, restricts.keeps.current, bound]
          simp

end Declares

namespace BuiltIn

theorem joinCondition_restricts (condition : Option Filter) :
    (joinCondition .standard condition).Ensures settings before fun text after =>
      ∃ written, Restricts settings before condition written after ∧
        text = written.elim "" (" ON " ++ ·) := by
  cases condition with
  | none =>
      simp only [joinCondition]
      exact .pure ⟨none, .none before, rfl⟩
  | some condition =>
      simp only [joinCondition]
      intro text after run
      obtain ⟨found, between, written, ends⟩ := exists_between run
      cases ends
      exact ⟨some found, .some condition found written, rfl⟩

/-- The joins of a tree are declared in preorder. -/
theorem joins_declares :
    (joined : List Join) → (before : Context) →
      (joins .standard joined).Ensures settings before fun text after =>
        ∃ declared, Declares settings before declared after ∧
          declared.map DeclaredJoin.join = Target.joinsAmong joined ∧
          text = String.join (declared.map DeclaredJoin.text)
  | [], before => by
      simp only [joins]
      exact .pure ⟨[], .nil before, rfl, rfl⟩
  | .mk joinType (.mk name entity given within) condition :: rest, before => by
      simp only [joins]
      have firsts : (join .standard (.mk joinType (.mk name entity given within)
          condition)).Ensures settings before fun text after =>
            ∃ declared, Declares settings before declared after ∧
              declared.map DeclaredJoin.join =
                Target.joinsFrom (.mk joinType (.mk name entity given within) condition) ∧
              text = String.join (declared.map DeclaredJoin.text) := by
        simp only [join, innerJoins]
        refine (introduceJoined_introduces joinType _).bind ?_
        rintro binding introduced ⟨introduces, aliased⟩
        refine (joinCondition_restricts condition).bind ?_
        rintro _ restricted ⟨written, restricts, rfl⟩
        refine (joins_declares within restricted).bind ?_
        rintro _ after ⟨inner, declares, among, rfl⟩
        let first : DeclaredJoin :=
          ⟨.mk joinType (.mk name entity given within) condition, binding, written⟩
        refine .pure ⟨first :: inner, .cons introduces aliased restricts declares, ?_, ?_⟩
        · rw [List.map_cons, among]
          rfl
        · simp [DeclaredJoin.text, first, Join.joinType, String.append_assoc]
      refine firsts.bind ?_
      rintro _ between ⟨declared, declares, among, rfl⟩
      refine (joins_declares rest between).bind ?_
      rintro _ after ⟨others, declares', among', rfl⟩
      refine .pure ⟨declared ++ others, declares.append declares', ?_, ?_⟩
      · rw [List.map_append, among, among']
        rfl
      · rw [List.map_append, String.join_append]

end BuiltIn

/-! ## Sources -/

/-- What comes of a source: the targets of its tree of joins are bound and declared in preorder,
each join with its keyword and its condition. -/
structure Target.IsDeclared
    (queried : Target)
    (settings : Settings)
    (before : Context)
    (root : BoundTarget)
    (declared : List DeclaredJoin)
    (text : String)
    (after : Context) : Prop where
  joins : declared.map DeclaredJoin.join = queried.joinsThroughout
  /-- Every target of the tree is bound once, as what it is known to be. -/
  targets : List.Forall₂ (fun binding target => binding.StandsFor settings before target)
    (root :: declared.map DeclaredJoin.binding) queried.preorder
  count : (root :: declared.map DeclaredJoin.binding).length = queried.targetCount
  /-- The targets that were bound before stay in front of them. -/
  bindings : after.current.bindings =
    before.current.bindings ++ root :: declared.map DeclaredJoin.binding
  text : text = root.declaration ++ String.join (declared.map DeclaredJoin.text)
  aliased : ∀ found ∈ declared, found.binding.aliasName.isSome = true
  /-- A condition is written when its own target and those before it are bound, and none of those
  behind it. -/
  conditions : ∀ earlier found later, declared = earlier ++ found :: later →
    ∃ introduced restricted,
      Restricts settings introduced found.join.condition found.condition restricted ∧
      before.Keeps .around introduced ∧
      introduced.current.bindings = before.current.bindings ++
        root :: (earlier ++ [found]).map DeclaredJoin.binding
  keeps : before.Keeps .around after

namespace BuiltIn

theorem target_declares (queried : Target) :
    (target .standard queried).Ensures settings before fun text after =>
      ∃ root declared, queried.IsDeclared settings before root declared text after := by
  obtain ⟨name, entity, given, joined⟩ := queried
  simp only [target]
  intro text after run
  obtain ⟨root, between, introduces, run⟩ := exists_between run
  obtain ⟨joins, ends, joinsRun, finishes⟩ := exists_between run
  obtain ⟨declared, declares, among, rfl⟩ := joins_declares joined between joins ends joinsRun
  cases finishes
  have bound := introduce_binds _ _ _ introduces
  have kept := (introduce_keeps _).ensures _ _ introduces
  have targets : List.Forall₂ (fun binding target => binding.StandsFor settings before target)
      (root :: declared.map DeclaredJoin.binding)
      (Target.preorder (.mk name entity given joined)) := by
    refine .cons (introduce_standsFor _ _ _ introduces) ?_
    rw [Target.joinsThroughout, ← among, List.map_map, List.forall₂_map_left_iff,
      List.forall₂_map_right_iff, List.forall₂_same]
    exact fun found member =>
      (declares.standsFor found member).1.of_answers (introduce_answers _ _ _ introduces)
  refine ⟨root, declared,
    { joins := among
      targets
      count := targets.length_eq.trans (Target.length_preorder _)
      bindings := ?_
      text := rfl
      aliased := fun found member => (declares.standsFor found member).2
      conditions := fun earlier found later parts => ?_
      keeps := kept.trans declares.keeps }⟩
  · rw [declares.bindings, bound, List.append_assoc, List.singleton_append]
  · obtain ⟨introduced, restricted, restricts, keeps, bindings⟩ := declares.restricts parts
    refine ⟨introduced, restricted, restricts, kept.trans keeps, ?_⟩
    rw [bindings, bound, List.append_assoc, List.singleton_append]

end BuiltIn

namespace Resolvers

/-- A source that is resolved binds every target of its tree of joins once, in preorder, behind
the targets that were bound before, and declares them in the same order. -/
theorem source_declares
    {queried : Target}
    {text : String}
    (run : standard.fragmentOf (.target queried) settings before = (.ok text, after)) :
    ∃ root declared, queried.IsDeclared settings before root declared text after := by
  have answers : (BuiltIn.answer .standard (.target queried)).Ensures settings before
      (Resolved.Ensures
        (fun text after =>
          ∃ root declared, queried.IsDeclared settings before root declared text after)
        fun _ _ => True) := by
    simp only [BuiltIn.answer]
    exact (BuiltIn.target_declares queried).bind fun text after declared => .pure declared
  exact (fragment_ensures (fun _ => answers) text after run).2

/-- Customers with their orders and with other customers. The orders within the first join are
declared before the second join. -/
theorem nested_joins_declared :
    let queried : Target :=
      .mk "customer" none none
        [.mk .left
            (.mk "order" none none [.mk .inner ((Target.named "order").withAlias "twin") none])
            (some (.compare (.path ((Path.of "customerId" .integer).ofTarget "order")) .equal
              (.path (Sample.identifier.ofTarget "customer")))),
          .mk .inner ((Target.named "customer").withAlias "namesake") none]
    let settings : Settings := ⟨.standard .hibernate, "default", 8⟩
    let before := Context.root .auto (some (.fixed Sample.catalog))
    ∃ text after root declared,
      standard.fragmentOf (.target queried) settings before = (.ok text, after) ∧
        queried.IsDeclared settings before root declared text after ∧
        queried.targetCount = 4 ∧
        queried.preorder.map Target.aliasName = [none, none, some "twin", some "namesake"] ∧
        text = "Customer cust_0_0 LEFT JOIN PurchaseOrder orde_0_0 ON " ++
          "orde_0_0.customerId=cust_0_0.id INNER JOIN PurchaseOrder twin " ++
          "INNER JOIN Customer namesake" := by
  intro queried settings before
  let text := "Customer cust_0_0 LEFT JOIN PurchaseOrder orde_0_0 ON " ++
    "orde_0_0.customerId=cust_0_0.id INNER JOIN PurchaseOrder twin " ++
    "INNER JOIN Customer namesake"
  have written : (standard.fragmentOf (.target queried) settings before).1.toOption =
      some text := by
    decide +kernel
  cases run : standard.fragmentOf (.target queried) settings before with
  | mk outcome after =>
      rw [run] at written
      obtain rfl := Except.eq_ok_of_toOption written
      obtain ⟨root, declared, isDeclared⟩ := source_declares run
      exact ⟨text, after, root, declared, rfl, isDeclared, rfl, rfl, rfl⟩

end Resolvers
end ObjectQuery
