import ObjectQuery.Resolution.BuiltIn

/-!
# Sketches and their renderings

A sketch is what a node says about its own text, in the order in which the resolvers go
through the node: words, values to be filled in, places that speak of a target, targets that
are declared, and sub-queries with scopes of their own. A rendering is a run over a sketch.
It leads from one context to another, and shows for every place of the text which target is
spoken of there, where each target was bound, and in which scope.

A select is resolved from its source on, though its select list is written first.
-/

namespace ObjectQuery

/-! ## Targets and their scopes -/

/-- A bound target with the number of its scope. -/
structure Resident where
  scope : Nat
  target : BoundTarget
  deriving DecidableEq, Repr

/-- The targets of a scope, in the order in which they were bound. -/
def Scope.residents (scope : Scope) : List Resident :=
  scope.bindings.map (Resident.mk scope.sequence)

namespace Context

/-- The targets of the current scope and of the scopes around it. -/
def residents (context : Context) : List Resident :=
  (context.current :: context.enclosing).flatMap Scope.residents

/-- The first target under a qualifier in a list of scopes, with the number of its scope. -/
def residentIn (qualifier : String) : List Scope → Option Resident
  | [] => none
  | scope :: outer =>
      match scope.find? qualifier with
      | some binding => some ⟨scope.sequence, binding⟩
      | none => if scope.aliasMode = .unsupported then none else residentIn qualifier outer

/-- The target that a qualifier names; without a qualifier the first of the current scope. -/
def resident? (context : Context) : Option String → Option Resident
  | some qualifier => residentIn qualifier (context.current :: context.enclosing)
  | none => context.rootTarget?.map (Resident.mk context.current.sequence)

end Context

/-! ## Sketches -/

/-- A place of a text that speaks of a target. -/
inductive Mention where
  /-- A property of the target. -/
  | property (path : Path)
  /-- The target as a whole, by name or as the root of its scope. -/
  | entity (name : Option String)
  /-- What is counted where rows are. -/
  | rows
  /-- Every attribute of the target that the catalog lists. -/
  | attributes

namespace Mention

/-- The name under which the target is looked up; without one the root of the scope is meant. -/
def qualifier? : Mention → Option String
  | .property path => path.qualifier?
  | .entity name => name
  | .rows | .attributes => none

/-- What is written where a target is spoken of. -/
def text (mention : Mention) (owner : Option BoundTarget) : String :=
  match mention with
  | .property path => (owner.map fun owner => owner.qualify path.fullName).getD path.fullName
  | .entity _ => (owner.map BoundTarget.reference).getD ""
  | .rows => (owner.bind BoundTarget.aliasName).getD "*"
  | .attributes =>
      ", ".intercalate ((owner.elim [] BoundTarget.attributes).map fun found =>
        (owner.map fun owner => owner.qualify found.name).getD "" ++ " AS " ++ found.name)

end Mention

/-- A piece of text that speaks of no target. -/
inductive Filling where
  | words (text : String)
  /-- A call without arguments. -/
  | call (kind : FunctionKind) (distinct : Bool)
  /-- A constant, whose values are bound. -/
  | constant (value : Value)
  /-- A constant that is written out. -/
  | literal (value : Value)
  /-- The pattern of a string match, which is bound. -/
  | pattern (text : String) (mode : MatchMode) (ignoreCase : Bool)
  /-- A string that is assigned, and is written as it stands where it looks like a reference. -/
  | assigned (text : String)

open Resolution in
/-- A filling is written. -/
def Filling.write : Filling → Resolution String
  | .words text => return text
  | .call kind distinct => BuiltIn.spelled kind [] distinct
  | .constant value => BuiltIn.constant value
  | .literal value => do
      let dialect ← dialect
      ofExcept (dialect.literalText value)
  | .pattern text mode ignoreCase => do
      let dialect ← dialect
      let reference ←
        newReference (.string (BuiltIn.matchPattern dialect text mode ignoreCase)) .string
      return reference ++ " " ++ dialect.escapeSuffix
  | .assigned text => do
      let dialect ← dialect
      if dialect.looksLikeReference text then return text else BuiltIn.constant (.string text)

/-- What is written for a node, in the order in which it is resolved. -/
inductive Sketch where
  | filling (filling : Filling)
  | mention (mention : Mention)
  /-- A target is bound and declared, without its joins. -/
  | declaration (target : Target)
  | append (first second : Sketch)
  /-- Constants are bound with a type unless something inside expects another one. -/
  | expecting (valueType : ValueType) (inner : Sketch)
  /-- A call of one argument. -/
  | call (kind : FunctionKind) (distinct : Bool) (argument : Sketch)
  /-- A select in the current scope: its source, the clauses after it, and its select list. -/
  | select (distinct : Bool) (source clauses selected : Sketch)
  /-- A sub-query with a scope of its own. -/
  | nested (query : Sketch)

namespace Sketch

/-- Known words. -/
def words (text : String) : Sketch :=
  .filling (.words text)

/-- Sketches in a row, with the same words between each two of them. -/
def separated (separator : String) : List Sketch → Sketch
  | [] => words ""
  | [only] => only
  | first :: second :: rest =>
      first.append ((words separator).append (separated separator (second :: rest)))

/-- A sketch between words. -/
def between (opening : String) (inner : Sketch) (closing : String) : Sketch :=
  (words opening).append (inner.append (words closing))

/-- Conditions between parentheses, with a word between each two of them. -/
def junction (word : String) (conditions : List Sketch) : Sketch :=
  separated (" " ++ word ++ " ") (conditions.map fun condition => between "(" condition ")")

/-- A call of at most one argument. -/
def calling (kind : FunctionKind) (distinct : Bool) : List Sketch → Sketch
  | [] => .filling (.call kind distinct)
  | argument :: _ => .call kind distinct argument

/-- A sketch with a name behind it, if there is one. -/
def named (inner : Sketch) : Option String → Sketch
  | none => inner
  | some name => inner.append (words (" AS " ++ name))

end Sketch

/-! ## Renderings -/

open Resolution in
/-- A run over a sketch, from one context to another. -/
inductive Rendering (settings : Settings) : Sketch → Context → Context → Type
  | filling
      {filling : Filling}
      {before after : Context}
      (text : String)
      (written : filling.write settings before = (.ok text, after)) :
      Rendering settings (.filling filling) before after
  | mention (mention : Mention) (before : Context) :
      Rendering settings (.mention mention) before before
  | declaration
      {target : Target}
      {before after : Context}
      (binding : BoundTarget)
      (valid : Validation.targetNames target.name target.aliasName = .ok ())
      (introduced : introduce target settings before = (.ok binding, after)) :
      Rendering settings (.declaration target) before after
  | append
      {first second : Sketch}
      {before between after : Context}
      (firstPart : Rendering settings first before between)
      (secondPart : Rendering settings second between after) :
      Rendering settings (.append first second) before after
  | expecting
      {valueType : ValueType}
      {inner : Sketch}
      {before after : Context}
      (innerPart : Rendering settings inner { before with hint := some valueType } after) :
      Rendering settings (.expecting valueType inner) before { after with hint := before.hint }
  | call
      {kind : FunctionKind}
      {distinct : Bool}
      {argument : Sketch}
      {before after : Context}
      (argumentPart : Rendering settings argument before after) :
      Rendering settings (.call kind distinct argument) before after
  | select
      {distinct : Bool}
      {source clauses selected : Sketch}
      {before sourced restricted after : Context}
      (sourcePart : Rendering settings source before sourced)
      (clausesPart : Rendering settings clauses sourced restricted)
      (selectedPart : Rendering settings selected restricted after) :
      Rendering settings (.select distinct source clauses selected) before after
  | nested
      {query : Sketch}
      {before after : Context}
      (queryPart :
        Rendering settings query (before.enter (BuiltIn.childMode before.current.aliasMode)) after) :
      Rendering settings (.nested query) before (after.leave before)

namespace Rendering

variable {settings : Settings} {sketch : Sketch} {before after : Context}

/-- The target that a mention speaks of. -/
def owner (found : Mention) (before : Context) : Option Resident :=
  before.resident? found.qualifier?

/-- The text that a run writes. -/
def text : {sketch : Sketch} → {before after : Context} →
    Rendering settings sketch before after → String
  | _, _, _, .filling text _ => text
  | _, _, _, .mention found before => found.text ((owner found before).map Resident.target)
  | _, _, _, .declaration binding _ _ => binding.declaration
  | _, _, _, .append firstPart secondPart => firstPart.text ++ secondPart.text
  | _, _, _, .expecting innerPart => innerPart.text
  | .call kind distinct _, _, _, .call argumentPart =>
      (settings.dialect.callText kind [argumentPart.text] distinct).toOption.getD ""
  | .select distinct _ _ _, _, _, .select sourcePart clausesPart selectedPart =>
      "SELECT " ++ (if distinct then "DISTINCT " else "") ++ selectedPart.text ++ " FROM " ++
        sourcePart.text ++ clausesPart.text
  | _, _, _, .nested queryPart => queryPart.text

/-- The targets that a run binds in the scope in which it starts, in order. -/
def bound : {sketch : Sketch} → {before after : Context} →
    Rendering settings sketch before after → List Resident
  | _, _, _, .filling _ _ | _, _, _, .mention _ _ | _, _, _, .nested _ => []
  | _, before, _, .declaration binding _ _ => [⟨before.current.sequence, binding⟩]
  | _, _, _, .append firstPart secondPart => firstPart.bound ++ secondPart.bound
  | _, _, _, .expecting innerPart => innerPart.bound
  | _, _, _, .call argumentPart => argumentPart.bound
  | _, _, _, .select sourcePart clausesPart selectedPart =>
      sourcePart.bound ++ (clausesPart.bound ++ selectedPart.bound)

/-- The targets that a run binds in whichever scope, in order. -/
def residents : {sketch : Sketch} → {before after : Context} →
    Rendering settings sketch before after → List Resident
  | _, _, _, .filling _ _ | _, _, _, .mention _ _ => []
  | _, before, _, .declaration binding _ _ => [⟨before.current.sequence, binding⟩]
  | _, _, _, .append firstPart secondPart => firstPart.residents ++ secondPart.residents
  | _, _, _, .expecting innerPart => innerPart.residents
  | _, _, _, .call argumentPart => argumentPart.residents
  | _, _, _, .select sourcePart clausesPart selectedPart =>
      sourcePart.residents ++ (clausesPart.residents ++ selectedPart.residents)
  | _, _, _, .nested queryPart => queryPart.residents

end Rendering

/-- Some run over the sketch writes a text and leads from one context to another. -/
def Sketch.Renders
    (settings : Settings)
    (sketch : Sketch)
    (before : Context)
    (text : String)
    (after : Context) : Prop :=
  ∃ rendering : Rendering settings sketch before after, rendering.text = text

end ObjectQuery
