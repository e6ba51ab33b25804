import ObjectQuery.Proofs.Frame.Joins
import ObjectQuery.Proofs.Sketch.Nodes

/-!
# Guarded runs

Not every run over a sketch is one that the resolvers make: they look up what they write, and
refuse to read a property of a target around the scope in hand unless that target has an
alias, and to join a target that has none. A run that keeps to this is guarded. Here are the
rules for the ways in which guarded runs are put together.
-/

namespace ObjectQuery

open Resolution

/-- A property that is read by a qualifier belongs to a target that is found, and that has an
alias unless the scope in hand shows it. -/
def Mention.GuardedIn (found : Mention) (context : Context) : Prop :=
  match found with
  | .property path =>
      ∀ qualifier ∈ path.qualifier?, ∃ binding, context.find? qualifier = some binding ∧
        (context.current.find? qualifier = none → binding.aliasName.isSome = true)
  | .entity _ | .rows | .attributes => True

namespace Rendering

variable {settings : Settings}

/-- Properties of targets around are read under aliases, and sub-queries join targets that have
aliases. -/
def Guarded : {sketch : Sketch} → {before after : Context} →
    Rendering settings sketch before after → Prop
  | _, _, _, .filling _ _ | _, _, _, .declaration _ _ _ => True
  | _, _, _, .mention found before => found.GuardedIn before
  | _, _, _, .append firstPart secondPart => firstPart.Guarded ∧ secondPart.Guarded
  | _, _, _, .expecting innerPart => innerPart.Guarded
  | _, _, _, .call argumentPart => argumentPart.Guarded
  | _, _, _, .select sourcePart clausesPart selectedPart =>
      sourcePart.Guarded ∧ clausesPart.Guarded ∧ selectedPart.Guarded
  | _, _, _, @nested _ _ _ after queryPart =>
      queryPart.Guarded ∧ after.current.JoinsAliased

end Rendering

namespace Sketch

/-- Some guarded run over the sketch writes a text and leads from one context to another. -/
def Writes
    (settings : Settings)
    (sketch : Sketch)
    (before : Context)
    (text : String)
    (after : Context) : Prop :=
  ∃ rendering : Rendering settings sketch before after,
    rendering.Guarded ∧ rendering.text = text

variable
  {settings : Settings}
  {before middle after : Context}
  {sketch first second : Sketch}
  {text firstText secondText : String}

namespace Writes

theorem renders (writes : sketch.Writes settings before text after) :
    sketch.Renders settings before text after := by
  obtain ⟨rendering, -, written⟩ := writes
  exact ⟨rendering, written⟩

theorem words (text : String) : (Sketch.words text).Writes settings before text before :=
  ⟨.filling text rfl, trivial, rfl⟩

theorem filling
    {filling : Filling}
    (written : filling.write settings before = (.ok text, after)) :
    (Sketch.filling filling).Writes settings before text after :=
  ⟨.filling text written, trivial, rfl⟩

theorem mention
    (settings : Settings)
    {found : Mention}
    (guarded : found.GuardedIn before) :
    (Sketch.mention found).Writes settings before
      (found.text ((Rendering.owner found before).map Resident.target)) before :=
  ⟨.mention found before, guarded, rfl⟩

theorem declaration
    {target : Target}
    {binding : BoundTarget}
    (valid : Validation.targetNames target.name target.aliasName = .ok ())
    (introduced : introduce target settings before = (.ok binding, after)) :
    (Sketch.declaration target).Writes settings before binding.declaration after :=
  ⟨.declaration binding valid introduced, trivial, rfl⟩

theorem append
    (firsts : first.Writes settings before firstText middle)
    (seconds : second.Writes settings middle secondText after) :
    (first.append second).Writes settings before (firstText ++ secondText) after := by
  obtain ⟨firstPart, firstGuarded, rfl⟩ := firsts
  obtain ⟨secondPart, secondGuarded, rfl⟩ := seconds
  exact ⟨.append firstPart secondPart, ⟨firstGuarded, secondGuarded⟩, rfl⟩

theorem expecting
    {valueType : ValueType}
    (inners : sketch.Writes settings { before with hint := some valueType } text after) :
    (Sketch.expecting valueType sketch).Writes settings before text
      { after with hint := before.hint } := by
  obtain ⟨innerPart, guarded, rfl⟩ := inners
  exact ⟨.expecting innerPart, guarded, rfl⟩

theorem call
    {kind : FunctionKind}
    {distinct : Bool}
    {argument : String}
    (arguments : sketch.Writes settings before argument after)
    (written : settings.dialect.callText kind [argument] distinct = .ok text) :
    (Sketch.call kind distinct sketch).Writes settings before text after := by
  obtain ⟨argumentPart, guarded, rfl⟩ := arguments
  exact ⟨.call argumentPart, guarded, by simp [Rendering.text, written, Except.toOption]⟩

theorem select
    (distinct : Bool)
    {source clauses selected : Sketch}
    {sourced restricted : Context}
    {sourceText clausesText selectedText : String}
    (sources : source.Writes settings before sourceText sourced)
    (restricts : clauses.Writes settings sourced clausesText restricted)
    (selects : selected.Writes settings restricted selectedText after) :
    (Sketch.select distinct source clauses selected).Writes settings before
      ("SELECT " ++ (if distinct then "DISTINCT " else "") ++ selectedText ++ " FROM " ++
        sourceText ++ clausesText) after := by
  obtain ⟨sourcePart, sourceGuarded, rfl⟩ := sources
  obtain ⟨clausesPart, clausesGuarded, rfl⟩ := restricts
  obtain ⟨selectedPart, selectedGuarded, rfl⟩ := selects
  exact ⟨.select sourcePart clausesPart selectedPart,
    ⟨sourceGuarded, clausesGuarded, selectedGuarded⟩, rfl⟩

theorem nested
    (queries : sketch.Writes settings
      (before.enter (BuiltIn.childMode before.current.aliasMode)) text after)
    (aliased : after.current.JoinsAliased) :
    (Sketch.nested sketch).Writes settings before text (after.leave before) := by
  obtain ⟨queryPart, guarded, rfl⟩ := queries
  exact ⟨.nested queryPart, ⟨guarded, aliased⟩, rfl⟩

theorem after_words (opening : String) (writes : sketch.Writes settings before text after) :
    ((Sketch.words opening).append sketch).Writes settings before (opening ++ text) after :=
  (words opening).append writes

theorem before_words (writes : sketch.Writes settings before text after) (closing : String) :
    (sketch.append (Sketch.words closing)).Writes settings before (text ++ closing) after :=
  writes.append (words closing)

theorem between
    (opening : String)
    (writes : sketch.Writes settings before text after)
    (closing : String) :
    (Sketch.between opening sketch closing).Writes settings before (opening ++ text ++ closing)
      after := by
  rw [String.append_assoc]
  exact (writes.before_words closing).after_words opening

theorem named (writes : sketch.Writes settings before text after) (name : Option String) :
    (sketch.named name).Writes settings before (Selection.render ⟨text, name⟩) after := by
  cases name with
  | none => exact writes
  | some name =>
      have suffixed := writes.before_words (" AS " ++ name)
      rwa [← String.append_assoc] at suffixed

theorem enclosing
    (operand : Expression)
    (writes : sketch.Writes settings before text after) :
    (Sketch.enclosing operand sketch).Writes settings before (BuiltIn.enclose operand text)
      after := by
  cases operand with
  | subQuery query => exact writes.between "(" ")"
  | _ => exact writes

end Writes

/-! ## Lists of texts -/

/-- Guarded runs over some sketches, one after the other, each with its text. -/
inductive WritesEach (settings : Settings) :
    List Sketch → Context → List String → Context → Prop
  | nil (before : Context) : WritesEach settings [] before [] before
  | cons
      {first : Sketch}
      {rest : List Sketch}
      {before between after : Context}
      {text : String}
      {texts : List String}
      (firsts : first.Writes settings before text between)
      (rests : WritesEach settings rest between texts after) :
      WritesEach settings (first :: rest) before (text :: texts) after

namespace WritesEach

variable {sketches : List Sketch} {texts : List String}

theorem length_eq (each : WritesEach settings sketches before texts after) :
    sketches.length = texts.length := by
  induction each with
  | nil => rfl
  | cons _ _ inductionHypothesis => simp [inductionHypothesis]

theorem separated
    (separator : String)
    (each : WritesEach settings sketches before texts after) :
    (Sketch.separated separator sketches).Writes settings before (separator.intercalate texts)
      after := by
  induction each with
  | nil => exact .words ""
  | cons firsts rests inductionHypothesis =>
      cases rests with
      | nil => simpa [Sketch.separated] using firsts
      | cons seconds rests =>
          rw [String.intercalate_cons_cons, String.append_assoc]
          exact firsts.append (inductionHypothesis.after_words separator)

theorem parenthesized (each : WritesEach settings sketches before texts after) :
    WritesEach settings (sketches.map fun sketch => Sketch.between "(" sketch ")") before
      (texts.map fun text => "(" ++ text ++ ")") after := by
  induction each with
  | nil => exact .nil _
  | cons firsts _ inductionHypothesis => exact .cons (firsts.between "(" ")") inductionHypothesis

theorem junction (word : String) (each : WritesEach settings sketches before texts after) :
    (Sketch.junction word sketches).Writes settings before (BuiltIn.joinConditions word texts)
      after :=
  each.parenthesized.separated _

/-- A call of at most one argument is spelled as its sketch is. -/
theorem calling
    {kind : FunctionKind}
    {distinct : Bool}
    (each : WritesEach settings sketches before texts after)
    (few : texts.length ≤ 1)
    (written : settings.dialect.callText kind texts distinct = .ok text) :
    (Sketch.calling kind distinct sketches).Writes settings before text after := by
  cases each with
  | nil =>
      refine .filling ?_
      change (settings.dialect.callText kind [] distinct, before) = _
      rw [written]
  | cons firsts rests =>
      cases rests with
      | nil => exact firsts.call written
      | cons => simp at few

end WritesEach

end Sketch
end ObjectQuery
