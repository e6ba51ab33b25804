import ObjectQuery.Codec.Value
import ObjectQuery.Codec.Words
import ObjectQuery.Proofs.RoundTrip.Calendar

/-!
# Values read back

A reader descends no deeper than it is allowed to, and what was written is read back by each
reader that is allowed to descend as deep as the document is nested. Words, value types and
values are read back; a floating point number only if it is finite, since there is no document
for the others.
-/

namespace ObjectQuery

/-! ## Documents -/

namespace Json

/-- Every reader that may descend as deep as the document is nested reads it as the content. -/
def ReadsAs
    {content : Type}
    (decode : Nat → Json → Option content)
    (json : Json)
    (found : content) : Prop :=
  ∀ nesting, json.nesting ≤ nesting → decode nesting json = some found

theorem nesting_pos (json : Json) : 0 < json.nesting := by
  cases json <;> simp [nesting]

/-- It is enough to look at readers that descend at least once. -/
theorem ReadsAs.of_succ
    {content : Type}
    {decode : Nat → Json → Option content}
    {json : Json}
    {found : content}
    (reads : ∀ nesting, json.nesting ≤ nesting + 1 → decode (nesting + 1) json = some found) :
    json.ReadsAs decode found := by
  intro nesting bound
  cases nesting with
  | zero => exact absurd json.nesting_pos (Nat.not_lt.mpr bound)
  | succ nesting => exact reads nesting bound

@[simp] theorem nesting_tagged (name : String) (content : Json) :
    (tagged name content).nesting = content.nesting + 1 := by
  simp [tagged, nesting, nestingOfFields]

/-- A tag says what is to be built of the content behind it. -/
theorem ReadsAs.tagged
    {part whole : Type}
    {decodePart : Nat → Json → Option part}
    {decode : Nat → Json → Option whole}
    {build : part → whole}
    {name : String}
    {content : Json}
    {found : part}
    (reads : content.ReadsAs decodePart found)
    (opens : ∀ nesting, decode (nesting + 1) (tagged name content) =
      (decodePart nesting content).map build) :
    (tagged name content).ReadsAs decode (build found) := by
  refine .of_succ fun nesting bound => ?_
  rw [nesting_tagged, Nat.add_le_add_iff_right] at bound
  rw [opens, reads nesting bound, Option.map_some]

/-- Items that are read one after the other, as one document. -/
theorem ReadsAs.array
    {content : Type}
    {decode : Nat → Json → Option content}
    {items : List Json}
    {found : List content}
    (reads : ∀ nesting, nestingOfItems items ≤ nesting →
      items.mapM (decode nesting) = some found) :
    (Json.array items).ReadsAs (fun nesting => list? (decode nesting)) found := by
  intro nesting bound
  rw [Json.nesting] at bound
  exact reads nesting (Nat.le_of_succ_le bound)

@[simp] theorem unitVariant?_tagged
    {name : String}
    {content : Json}
    (visible : content ≠ .null) :
    (tagged name content).unitVariant? = none := by
  cases content with
  | null => exact absurd rfl visible
  | _ => rfl

/-- A field that holds null where there is no content. -/
theorem optional?_eq_some
    {content : Type}
    {decode : Json → Option content}
    {encode : content → Json}
    {name : String}
    {fields : List (String × Json)}
    {found : Option content}
    (field : field? name fields = some ((found.map encode).getD .null))
    (visible : ∀ given, found = some given → encode given ≠ .null)
    (reads : ∀ given, found = some given → decode (encode given) = some given) :
    optional? decode name fields = some found := by
  rw [optional?, field]
  cases found with
  | none => rfl
  | some given =>
      have written := visible given rfl
      have read := reads given rfl
      simp only [Option.map_some, Option.getD_some, read]

theorem optional?_text
    {name : String}
    {fields : List (String × Json)}
    {found : Option String}
    (field : field? name fields = some (.ofText? found)) :
    optional? text? name fields = some found := by
  refine @optional?_eq_some _ _ .string _ _ _ ?_ (fun _ _ => nofun) fun _ _ => rfl
  rw [field]
  cases found <;> rfl

theorem list?_array
    {content : Type}
    {decode : Json → Option content}
    {items : List Json}
    {found : List content}
    (reads : items.mapM decode = some found) :
    list? decode (.array items) = some found :=
  reads

/-- Items that are read back one by one are read back together. -/
theorem items_read
    {content item : Type}
    {encode : content → item}
    {decode : item → Option content}
    {items : List content}
    (reads : ∀ found ∈ items, decode (encode found) = some found) :
    (items.map encode).mapM decode = some items := by
  induction items with
  | nil => rfl
  | cons first rest inductionHypothesis =>
      obtain ⟨here, later⟩ := List.forall_mem_cons.mp reads
      rw [List.map_cons, List.mapM_cons, here, inductionHypothesis later]
      rfl

theorem list?_ofTexts (texts : List String) : list? text? (ofTexts texts) = some texts :=
  list?_array (items_read fun _ _ => rfl)

end Json

/-! ## Words -/

@[simp] theorem FunctionKind.ofJson?_toJson (kind : FunctionKind) :
    ofJson? kind.toJson = some kind := by
  cases kind <;> rfl

@[simp] theorem CompareOperator.ofJson?_toJson (operator : CompareOperator) :
    ofJson? operator.toJson = some operator := by
  cases operator <;> rfl

@[simp] theorem MatchMode.ofJson?_toJson (mode : MatchMode) : ofJson? mode.toJson = some mode := by
  cases mode <;> rfl

@[simp] theorem JoinType.ofJson?_toJson (joinType : JoinType) :
    ofJson? joinType.toJson = some joinType := by
  cases joinType <;> rfl

@[simp] theorem SortDirection.ofJson?_toJson (direction : SortDirection) :
    ofJson? direction.toJson = some direction := by
  cases direction <;> rfl

@[simp] theorem OperationKind.ofJson?_toJson (kind : OperationKind) :
    ofJson? kind.toJson = some kind := by
  cases kind <;> rfl

@[simp] theorem LockMode.ofJson?_toJson (mode : LockMode) : ofJson? mode.toJson = some mode := by
  cases mode <;> rfl

/-! ## Value types -/

namespace ValueType

theorem toJson_ne_null (type : ValueType) : type.toJson ≠ .null := by
  cases type <;> simp [toJson, Json.tagged]

theorem reads (type : ValueType) : type.toJson.ReadsAs decode type := by
  induction type with
  | list element inductionHypothesis =>
      rw [toJson]
      refine inductionHypothesis.tagged fun nesting => ?_
      rw [decode, Json.unitVariant?_tagged element.toJson_ne_null]
      rfl
  | _ => exact .of_succ fun nesting _ => rfl

@[simp] theorem ofJson?_toJson (type : ValueType) : ofJson? type.toJson = some type :=
  type.reads _ le_rfl

end ValueType

/-! ## Values -/

theorem Number.int64OfInt?_toInt (value : Int64) : int64OfInt? value.toInt = some value := by
  have bounds : Int64.minValue.toInt ≤ value.toInt ∧ value.toInt ≤ Int64.maxValue.toInt :=
    ⟨value.minValue_le_toInt, value.toInt_le⟩
  rw [int64OfInt?, if_pos bounds, Int64.ofInt_toInt]

namespace Value

mutual

/-- Whether every floating point number in a value is finite. -/
def HasFiniteFloats : Value → Prop
  | .float value => value.isFinite = true
  | .list items => HaveFiniteFloats items
  | _ => True

/-- Whether every floating point number in some values is finite. -/
def HaveFiniteFloats : List Value → Prop
  | [] => True
  | first :: rest => HasFiniteFloats first ∧ HaveFiniteFloats rest

/-- Whether a text can show every time of day in a value. -/
def HasWritableTimes : Value → Prop
  | .time clock => clock.IsWritable
  | .dateTime moment => moment.time.IsWritable
  | .list items => HaveWritableTimes items
  | _ => True

/-- Whether a text can show every time of day in some values. -/
def HaveWritableTimes : List Value → Prop
  | [] => True
  | first :: rest => HasWritableTimes first ∧ HaveWritableTimes rest

/-- The value with the times that texts show. -/
def asWritten : Value → Value
  | .time clock => .time clock.asWritten
  | .dateTime moment => .dateTime moment.asWritten
  | .list items => .list (allAsWritten items)
  | value => value

/-- Some values with the times that texts show. -/
def allAsWritten : List Value → List Value
  | [] => []
  | first :: rest => asWritten first :: allAsWritten rest

end

mutual

/-- A value shows the times that it holds exactly if texts can show them all. -/
theorem asWritten_eq_iff : (value : Value) → (value.asWritten = value ↔ value.HasWritableTimes)
  | .time clock => by
      simpa only [asWritten, HasWritableTimes, time.injEq] using clock.asWritten_eq_iff
  | .dateTime moment => by
      simp only [asWritten, HasWritableTimes, dateTime.injEq, DateTime.asWritten]
      rw [← moment.time.asWritten_eq_iff]
      cases moment
      simp
  | .list items => by
      simpa only [asWritten, HasWritableTimes, list.injEq] using allAsWritten_eq_iff items
  | .null | .boolean _ | .integer _ | .float _ | .decimal _ | .string _ | .date _ | .enum _ => by
      simp only [asWritten, HasWritableTimes]

theorem allAsWritten_eq_iff : (items : List Value) →
    (allAsWritten items = items ↔ HaveWritableTimes items)
  | [] => by simp only [allAsWritten, HaveWritableTimes]
  | first :: rest => by
      simp only [allAsWritten, HaveWritableTimes, List.cons.injEq, asWritten_eq_iff first,
        allAsWritten_eq_iff rest]

end

/-- Whether there is a document for everything in a value. -/
structure IsPortable (value : Value) : Prop where
  finite : value.HasFiniteFloats
  writable : value.HasWritableTimes

/-- A value with content, which is no list, is read by its type. -/
theorem decode_typed
    (special : Bool)
    (nesting : Nat)
    {type : String}
    (noNull : type ≠ "null")
    (noList : type ≠ "list")
    (content : Json) :
    decode special (nesting + 1) (typed type content) = plainOf? special type content := by
  have fields : (typed type content).record? fieldNames =
      some [("type", .string type), ("value", content)] := rfl
  have name : (Json.field? "type" [("type", .string type), ("value", content)]).bind
      Json.unitVariant? = some type := rfl
  have value : Json.field? "value" [("type", .string type), ("value", content)] =
      some content := rfl
  simp only [decode, fields, name, value]
  split
  · next same => simp_all
  · next same _ => simp_all
  · next same _ => simp_all
  · next same same' =>
      rw [Option.some.inj same, Option.some.inj same']
  · next none_else => simp_all

mutual

/-- From the document of a value without infinite floats the value is read that it shows. -/
theorem reads : (value : Value) → value.HasFiniteFloats → (special : Bool) →
    value.toJson.ReadsAs (decode special) value.asWritten
  | .null, _, special => .of_succ fun nesting _ => rfl
  | .boolean value, _, special => .of_succ fun nesting _ => by
      rw [toJson, decode_typed _ _ (by decide) (by decide)]
      rfl
  | .integer value, _, special => .of_succ fun nesting _ => by
      rw [toJson, decode_typed _ _ (by decide) (by decide), plainOf?, integerOf?, Json.int?,
        Option.bind_some, Number.int64OfInt?_toInt, Option.map_some]
      rfl
  | .float value, finite, special => .of_succ fun nesting _ => by
      simp only [HasFiniteFloats] at finite
      rw [toJson, Json.ofBinary64, if_pos finite, decode_typed _ _ (by decide) (by decide)]
      rfl
  | .decimal digits, _, special => .of_succ fun nesting _ => by
      rw [toJson, decode_typed _ _ (by decide) (by decide)]
      rfl
  | .string text, _, special => .of_succ fun nesting _ => by
      rw [toJson, decode_typed _ _ (by decide) (by decide)]
      rfl
  | .date value, _, special => .of_succ fun nesting _ => by
      rw [toJson, decode_typed _ _ (by decide) (by decide), plainOf?, Json.text?,
        Option.bind_some, Date.ofText?_toText, Option.map_some]
      rfl
  | .time value, _, special => .of_succ fun nesting _ => by
      rw [toJson, decode_typed _ _ (by decide) (by decide), plainOf?, Json.text?,
        Option.bind_some, TimeOfDay.ofText?_toText, Option.map_some]
      rfl
  | .dateTime value, _, special => .of_succ fun nesting _ => by
      rw [toJson, decode_typed _ _ (by decide) (by decide), plainOf?, Json.text?,
        Option.bind_some, DateTime.ofText?_toInterchangeText, Option.map_some]
      rfl
  | .enum name, _, special => .of_succ fun nesting _ => by
      rw [toJson, decode_typed _ _ (by decide) (by decide)]
      rfl
  | .list items, finite, special => .of_succ fun nesting bound => by
      simp only [HasFiniteFloats] at finite
      simp only [toJson, typed, Json.nesting, Json.nestingOfFields, max_le_iff,
        Nat.add_le_add_iff_right] at bound
      have inner := readsAll items finite special nesting (by omega)
      show ((toJsons items).mapM (decode special nesting)).map list = _
      rw [inner]
      rfl

theorem readsAll : (items : List Value) → HaveFiniteFloats items → (special : Bool) →
    (nesting : Nat) → Json.nestingOfItems (toJsons items) ≤ nesting →
    (toJsons items).mapM (decode special nesting) = some (allAsWritten items)
  | [], _, special, nesting, _ => rfl
  | first :: rest, finite, special, nesting, bound => by
      simp only [HaveFiniteFloats] at finite
      simp only [toJsons, Json.nestingOfItems, max_le_iff] at bound
      rw [toJsons, List.mapM_cons, reads first finite.1 special nesting bound.1,
        readsAll rest finite.2 special nesting bound.2]
      rfl

end

theorem ofJson?_toJson_asWritten {value : Value} (finite : value.HasFiniteFloats) :
    ofJson? value.toJson = some value.asWritten :=
  value.reads finite false _ le_rfl

/-- A portable value is read back. -/
theorem ofJson?_toJson {value : Value} (portable : value.IsPortable) :
    ofJson? value.toJson = some value := by
  rw [ofJson?_toJson_asWritten portable.finite, value.asWritten_eq_iff.mpr portable.writable]

end Value
end ObjectQuery
