import OpenApiDoc.Proofs.Decimal.Reading
import OpenApiDoc.Proofs.Example.Spine

/-!
# Enumerated values by their labels

The type of an enumeration keeps the texts of the values only, and its example is read from the
first of them under the declared kind. This gives the value back for texts, for Booleans and for
doubles that are declared as numbers. Numbers have more values than the two readers: a whole
number is read as one of 64 signed bits, and any other number as a double.
-/

namespace OpenApiDoc

namespace Example

/-- A value of the sort that a declared kind stands for. Whether a number is whole
does not count. -/
inductive OfKind : Kind → Json → Prop
  | string (text : String) : OfKind .string (.str text)
  | integer (n : Number) : OfKind .integer (.num n)
  | number (n : Number) : OfKind .number (.num n)
  | boolean (b : Bool) : OfKind .boolean (.bool b)

/-- The label of a value is read under a kind as another value: where whole numbers are declared,
that of one beyond the signed ones of 64 bits and that of a double as a text, and where any
numbers are, that of a whole number as a double. -/
inductive Misread : Kind → Json → Json → Prop
  | beyond (n : Integer) (large : 9223372036854775807 < n.val) :
    Misread .integer (.num (.integer n)) (.str n.text)
  | double (x : Binary64) : Misread .integer (.num (.float x)) (.str x.text)
  | whole (n : Integer) : Misread .number (.num (.integer n)) (.num (.float n.toBinary64))

lemma Misread.ne {kind : Kind} {value other : Json} (h : Misread kind value other) :
    other ≠ value := by
  intro heq
  cases h <;> cases heq

/-! ### Reading labels -/

lemma value_convert (text kind : String) :
    (convert text (some kind)).value =
      ((reading (Text.trim text.toList) kind).join).getD (.str text) := by
  rw [convert]
  split
  · next h => rw [h]; rfl
  · next h => rw [h]; rfl
  · next h => rw [h]; rfl

lemma trim_text (n : Number) : Text.trim n.text.toList = n.text.toList := by
  cases n with
  | integer n => exact Text.trim_of_forall (Decimal.isBlank_toString_int n.val)
  | float x => exact Text.trim_of_forall (Decimal.isBlank_text x)

lemma reading_integer_integer (n : Integer) :
    reading n.text.toList "integer" =
      some (if n.val ≤ 9223372036854775807 then some (.num (.integer n)) else none) := by
  have hread : Decimal.readInt64 n.text.toList =
      if n.val ≤ 9223372036854775807 then some n.val else none := by
    rw [Decimal.readInt64, Integer.text, Decimal.readInt_toString, Option.filter_some]
    simp only [n.lower, true_and, decide_eq_true_eq]
  have hofInt : Integer.ofInt? n.val = some n := dif_pos ⟨n.lower, n.upper⟩
  simp only [reading, hread]
  split
  · rw [Option.bind_some, hofInt, Option.map_some]
  · rfl

lemma reading_integer_float (x : Binary64) : reading x.text.toList "integer" = some none := by
  simp only [reading, Decimal.readInt64, Decimal.readInt_text]
  rfl

lemma reading_number_integer (n : Integer) :
    reading n.text.toList "number" = some (some (.num (.float n.toBinary64))) := by
  simp only [reading, Decimal.readFloat_integer, Option.map_some]

lemma reading_number_float (x : Binary64) :
    reading x.text.toList "number" = some (some (.num (.float x))) := by
  simp only [reading, Decimal.readFloat_text, Option.map_some]

lemma value_convert_num (n : Number) (kind : Kind) :
    (convert (Json.enumLabel (.num n)) (some kind.text)).value =
      ((reading n.text.toList kind.text).join).getD (.str n.text) := by
  rw [value_convert]
  exact congrArg (fun text => ((reading text kind.text).join).getD (.str n.text)) (trim_text n)

/-- The label of a value is read under its kind as the value, unless it is misread. -/
theorem value_convert_enumLabel {kind : Kind} {value : Json} (valid : OfKind kind value) :
    (∀ other, Misread kind value other →
      (convert value.enumLabel (some kind.text)).value = other) ∧
    ((¬ ∃ other, Misread kind value other) →
      (convert value.enumLabel (some kind.text)).value = value) := by
  cases valid with
  | string text => exact ⟨nofun, fun _ => rfl⟩
  | boolean b => exact ⟨nofun, fun _ => by cases b <;> rfl⟩
  | integer n =>
    rw [value_convert_num, Kind.text]
    cases n with
    | integer n =>
      rw [Number.text, reading_integer_integer]
      refine ⟨?_, fun h => ?_⟩
      · rintro other ⟨⟩
        next large => rw [if_neg (Int.not_le.2 large)]; rfl
      · rw [if_pos (Int.not_lt.1 fun large => h ⟨_, .beyond n large⟩)]
        rfl
    | float x =>
      rw [Number.text, reading_integer_float]
      refine ⟨?_, fun h => absurd ⟨_, .double x⟩ h⟩
      rintro other ⟨⟩
      rfl
  | number n =>
    rw [value_convert_num, Kind.text]
    cases n with
    | integer n =>
      rw [Number.text, reading_number_integer]
      refine ⟨?_, fun h => absurd ⟨_, .whole n⟩ h⟩
      rintro other ⟨⟩
      rfl
    | float x =>
      rw [Number.text, reading_number_float]
      exact ⟨nofun, fun _ => rfl⟩

/-! ### Examples of enumerations -/

namespace Generator

variable {g : Generator} {s : Schema} {about : Annotations} {kind : Kind} {first : Json}
variable {rest : List Json}

/-- What is enumerated by a schema that is taken for an enumeration. -/
lemma enum_of_model (h : s.model g.definitions = .enum about kind (first :: rest)) :
    s.allOf = none ∧ s.reference = none ∧ s.isArray = false ∧
      (s.properties = none → s.valueSchema = none) ∧ firstValue s = some first := by
  cases s.shape with
  | composed branches allOf => rw [Schema.model_of_composed allOf] at h; cases h
  | reference reference allOf refers =>
    rw [Schema.model_of_reference allOf refers] at h; cases h
  | array allOf refers isArray => rw [Schema.model_of_array allOf refers isArray] at h; cases h
  | map value allOf refers isArray properties values =>
    rw [Schema.model_of_map allOf refers isArray properties values] at h; cases h
  | leaf allOf refers isArray noMap =>
    refine ⟨allOf, refers, isArray, noMap, ?_⟩
    rw [Schema.model_of_leaf allOf refers isArray noMap, Model.ofLeaf.eq_def] at h
    split at h
    · next values _ _ henum =>
      cases h
      rw [firstValue, henum]
      rfl
    · cases h
    · cases h
    · cases h

/-- The example of an enumeration without an authored one is the first value. The example of its
type is the same value, unless the label of the value is misread: then it is what the label is
read as, which is another value. -/
theorem typeExample_of_enum (links : LinkTargets) (authored : s.authored = none)
    (model : s.model g.definitions = .enum about kind (first :: rest))
    (valid : OfKind kind first) :
    (g.generate s).result = some first ∧
    (∀ other, Misread kind first other →
      (g.typeExample (Resolver.resolveSchema ⟨g.definitions, links⟩ s).value).result =
        some other ∧ other ≠ first) ∧
    ((¬ ∃ other, Misread kind first other) →
      (g.typeExample (Resolver.resolveSchema ⟨g.definitions, links⟩ s).value).result =
        some first) := by
  obtain ⟨allOf, refers, isArray, noMap, hfirst⟩ := enum_of_model model
  have htype : (g.typeExample (Resolver.resolveSchema ⟨g.definitions, links⟩ s).value).result =
      some (convert first.enumLabel (some kind.text)).value := by
    rw [Resolver.resolveSchema, Resolver.resolve, model, Resolver.resolveIn]
    rfl
  obtain ⟨hmisread, hread⟩ := value_convert_enumLabel valid
  refine ⟨?_, fun other h => ⟨?_, ?_⟩, fun h => ?_⟩
  · obtain ⟨depth, hdepth⟩ := g.exists_depth s.count
    rw [generate, hdepth, exampleWithin,
      step_of_enumerated ⟨authored, allOf, refers⟩ isArray noMap hfirst, Draft.result_pure]
  · rw [htype, hmisread other h]
  · exact h.ne
  · rw [htype, hread h]

/-- A generator without definitions. -/
def blankGenerator : Generator where
  definitions := Definitions.empty
  options := {}

/-- The largest of the signed whole numbers of 64 bits. -/
def lastSigned : Integer := ⟨9223372036854775807, by decide, by decide⟩

/-- The next one is still a number of 64 bits. -/
def firstUnsigned : Integer := ⟨9223372036854775808, by decide, by decide⟩

/-- An enumeration of one whole number under a type name. -/
def onlyNumber (type : String) (n : Integer) : Schema :=
  { type := some (.single type), enum := some [.num (.integer n)] }

theorem typeExample_of_enum_lastSigned :
    (onlyNumber "integer" lastSigned).model blankGenerator.definitions =
      .enum {} .integer [.num (.integer lastSigned)] ∧
    (¬ ∃ other, Misread .integer (.num (.integer lastSigned)) other) ∧
    (blankGenerator.typeExample
      (Resolver.resolveSchema ⟨blankGenerator.definitions, some⟩
        (onlyNumber "integer" lastSigned)).value).result =
          some (.num (.integer lastSigned)) := by
  have hread : ¬ ∃ other, Misread .integer (.num (.integer lastSigned)) other := by
    rintro ⟨_, ⟨_, large⟩⟩
    exact absurd large (by decide)
  exact ⟨rfl, hread,
    (typeExample_of_enum (g := blankGenerator) some rfl rfl (.integer _)).2.2 hread⟩

/-- The number after the largest signed one is read back as a text. -/
theorem enumLabel_misread :
    (blankGenerator.generate (onlyNumber "integer" firstUnsigned)).result =
      some (.num (.integer firstUnsigned)) ∧
    (blankGenerator.typeExample
      (Resolver.resolveSchema ⟨blankGenerator.definitions, some⟩
        (onlyNumber "integer" firstUnsigned)).value).result =
          some (.str "9223372036854775808") ∧
    (blankGenerator.typeExample
      (Resolver.resolveSchema ⟨blankGenerator.definitions, some⟩
        (onlyNumber "integer" firstUnsigned)).value).result ≠
          (blankGenerator.generate (onlyNumber "integer" firstUnsigned)).result := by
  have hgenerate : (blankGenerator.generate (onlyNumber "integer" firstUnsigned)).result =
      some (.num (.integer firstUnsigned)) := by rfl
  have htype : (blankGenerator.typeExample
      (Resolver.resolveSchema ⟨blankGenerator.definitions, some⟩
        (onlyNumber "integer" firstUnsigned)).value).result =
          some (.str "9223372036854775808") := by cbv
  refine ⟨hgenerate, htype, ?_⟩
  rw [hgenerate, htype]
  intro heq
  cases heq

end Generator

end Example

end OpenApiDoc
