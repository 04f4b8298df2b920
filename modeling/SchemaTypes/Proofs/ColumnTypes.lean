import SchemaTypes.Proofs.Defaults
import SchemaTypes.Proofs.Schedule

/-! What decides the type of a column. A stored type that is built in, or an enum, decides it alone,
and where it is neither the generic type decides. An array goes by the stored type of its elements,
so it has their type and the suffix of arrays, unless it is the generic type that tells what they
are. Of JSON the default is looked at as well, also where it is the default of an array. -/
namespace SchemaTypes

namespace OverrideMap
variable {map : OverrideMap ρ}

def firstLiteral (map : OverrideMap ρ) (keys : List String) : Option String :=
  (keys.filter (· ≠ wildcardKey)).findSome? map.literal?

theorem LiteralOnly.firstOpinion (literal : map.LiteralOnly)
    {ask : String → Entry ρ → Consult (Option String)}
    (texts : ∀ key text, ask key (.literal text) = pure (some text)) (keys : List String) :
    map.firstOpinion ask keys = pure (map.firstLiteral keys) := by
  induction keys with
  | nil => rfl
  | cons key keys ih =>
    rw [OverrideMap.firstOpinion, ih]
    by_cases wild : key = wildcardKey
    · simp [firstLiteral, wild]
    · cases entry? : map.get? key with
      | none => simp [firstLiteral, wild, literal?, entry?]
      | some entry =>
        cases entry with
        | resolver resolve => exact absurd entry? (literal key resolve)
        | literal text =>
          have found : map.firstLiteral (key :: keys) = some text := by
            simp [firstLiteral, wild, literal?, entry?, Entry.literal?]
          simp only [if_neg wild, found, texts]
          rfl

theorem lastOpinion_of_none (wild : map.get? wildcardKey = none)
    (ask : String → Entry ρ → Consult (Option String)) (text : String) :
    map.lastOpinion ask text = pure text := by
  simp only [lastOpinion, wildcard?, wild]

end OverrideMap

namespace Typing
variable {t : Typing} {column : Column}

theorem typeOf_of_literalOnly (literal : t.overrides.LiteralOnly)
    (wild : t.overrides.get? OverrideMap.wildcardKey = none) (column : Column) :
    t.typeOf column = pure
      ((t.overrides.firstLiteral (t.tiers.keysFor column)).getD (t.baseType column) ++
        suffixes column) := by
  rw [typeOf, literal.firstOpinion fun key text => rfl]
  exact OverrideMap.lastOpinion_of_none wild _ _

end Typing

theorem lookup_eq_none_iff_notMem [DecidableEq α] {pairs : List (α × β)} {key : α} :
    pairs.lookup key = none ↔ key ∉ pairs.map (·.1) := by
  rw [List.lookup_eq_none_iff, List.mem_map]
  constructor
  · rintro apart ⟨pair, member, rfl⟩
    simpa using apart pair member
  · intro absent pair member
    exact bne_iff_ne.mpr fun same => absent ⟨pair, member, same.symm⟩

namespace Typing

/-- The family of the type that decides. An enum is in none, and a generic type decides only if the
stored type is neither built in nor an enum. -/
def family? (t : Typing) (column : Column) : Option StorageKind :=
  (StorageKind.ofTag? column.storageType).or
    (if column.storageType ∈ t.enumNames.map (·.1) then none
    else StorageKind.ofTag? column.dataType)

theorem baseType_eq (t : Typing) (column : Column) :
    t.baseType column = match t.family? column with
      | some kind => kind.typeExpr column.default
      | none => (t.enumNames.lookup column.storageType).getD unknownType := by
  rw [baseType, family?]
  cases StorageKind.ofTag? column.storageType with
  | some kind => rfl
  | none =>
    rw [Option.none_or]
    -- An enum keeps the generic type from deciding, whether or not that one is known.
    cases enum : t.enumNames.lookup column.storageType with
    | none =>
      rw [if_neg (lookup_eq_none_iff_notMem.mp enum)]
      cases StorageKind.ofTag? column.dataType <;> rfl
    | some name =>
      have listed : column.storageType ∈ t.enumNames.map (·.1) := by
        by_contra absent
        simp [lookup_eq_none_iff_notMem.mpr absent] at enum
      rw [if_pos listed]
      rfl

end Typing

def Column.arrayOf (element : Column) (nullable : Bool) : Column :=
  { element with dataType := "ARRAY", udt := "_" ++ element.udt, nullable := nullable }

section
variable {column : Column}

theorem Column.storageType_of_scalar (scalar : column.dataType ≠ "ARRAY") :
    column.storageType = column.udt := by
  simp [storageType, isArray, scalar]

/-- One underscore is taken off, also from the name of a type that has one itself. -/
theorem Column.storageType_arrayOf (element : Column) (nullable : Bool) :
    (element.arrayOf nullable).storageType = element.udt := by
  simp [storageType, isArray, arrayOf]

theorem Typing.suffixes_arrayOf (element : Column) (nullable : Bool) :
    suffixes (element.arrayOf nullable) = "[]" ++ if nullable then " | null" else "" := by
  have array : (element.arrayOf nullable).isArray = true := beq_self_eq_true "ARRAY"
  rw [suffixes, array]
  rfl

theorem Tiers.keysFor_arrayOf (tiers : Tiers) (scalar : column.dataType ≠ "ARRAY")
    (nullable : Bool) : tiers.keysFor (column.arrayOf nullable) = tiers.keysFor column := by
  rw [keysFor, keysFor, Column.storageType_arrayOf, Column.storageType_of_scalar scalar]
  rfl

namespace Typing
variable {t : Typing}

theorem family?_arrayOf (scalar : column.dataType ≠ "ARRAY")
    (known : (StorageKind.ofTag? column.udt).isSome ∨ column.udt ∈ t.enumNames.map (·.1) ∨
      StorageKind.ofTag? column.dataType = none) (nullable : Bool) :
    t.family? (column.arrayOf nullable) = t.family? column := by
  have generic : StorageKind.ofTag? (column.arrayOf nullable).dataType = none := by
    show StorageKind.ofTag? "ARRAY" = none
    decide
  rw [family?, family?, Column.storageType_arrayOf, Column.storageType_of_scalar scalar, generic]
  rcases known with built | listed | unknown
  · obtain ⟨kind, tag⟩ := Option.isSome_iff_exists.mp built
    rw [tag, Option.some_or, Option.some_or]
  · rw [if_pos listed, if_pos listed]
  · rw [unknown]

theorem baseType_arrayOf (scalar : column.dataType ≠ "ARRAY")
    (known : (StorageKind.ofTag? column.udt).isSome ∨ column.udt ∈ t.enumNames.map (·.1) ∨
      StorageKind.ofTag? column.dataType = none) (nullable : Bool) :
    t.baseType (column.arrayOf nullable) = t.baseType column := by
  rw [baseType_eq, baseType_eq, family?_arrayOf scalar known, Column.storageType_arrayOf,
    Column.storageType_of_scalar scalar]
  rfl

end Typing
end

/-- Where the overrides of types are fixed texts and leave `*` out, a column of arrays has the type of
their elements, then `[]`, and then ` | null` if it is nullable. The elements are those of a column
that is not an array itself, and their stored type is built in or an enum, or their generic type
tells nothing either. -/
theorem arrays_lift_elements {t : Typing} (literal : t.overrides.LiteralOnly)
    (wild : t.overrides.get? "*" = none) {column : Column} (scalar : column.dataType ≠ "ARRAY")
    (known : (StorageKind.ofTag? column.udt).isSome ∨ column.udt ∈ t.enumNames.map (·.1) ∨
      StorageKind.ofTag? column.dataType = none) (nullable : Bool) :
    ∃ type, t.typeOf { column with nullable := false } = ⟨[], .ok type⟩ ∧
      t.typeOf { column with dataType := "ARRAY", udt := "_" ++ column.udt, nullable := nullable } =
        ⟨[], .ok (type ++ "[]" ++ if nullable then " | null" else "")⟩ := by
  have bare : Typing.suffixes { column with nullable := false } = "" := by
    simp [Typing.suffixes, Column.isArray, scalar]
  refine ⟨_, Typing.typeOf_of_literalOnly literal wild _, ?_⟩
  -- Both columns are looked up under the same keys and have the same base, so the suffixes remain.
  refine (Typing.typeOf_of_literalOnly literal wild (column.arrayOf nullable)).trans ?_
  rw [Tiers.keysFor_arrayOf t.tiers scalar, Typing.baseType_arrayOf scalar known,
    Typing.suffixes_arrayOf, bare, String.append_empty, ← String.append_assoc]
  rfl

/-- An enum whose name starts with an underscore, and a text for its stored type that the array takes
over; the key of the array's own stored type, which is looked up for neither, does not matter. -/
theorem arrays_lift_underscored_enum :
    let t : Typing :=
      { enumNames := [("_mood", "Mood")]
        overrides := .ofLiterals [("_mood", "Feeling"), ("__mood", "never")]
        tiers := ⟨true, false, true⟩ }
    let column : Column := ⟨"public", "user", "*", true, none, "USER-DEFINED", "_mood"⟩
    t.overrides.LiteralOnly ∧ t.overrides.get? "*" = none ∧ column.dataType ≠ "ARRAY" ∧
    column.udt ∈ t.enumNames.map (·.1) ∧
    t.typeOf { column with nullable := false } = ⟨[], .ok "Feeling"⟩ ∧
    t.typeOf ⟨"public", "user", "*", true, none, "ARRAY", "__mood"⟩ =
      ⟨[], .ok "Feeling[] | null"⟩ := by
  intro t column
  have literal : t.overrides.LiteralOnly := OverrideMap.ofLiterals_literalOnly _
  have wild : t.overrides.get? "*" = none := rfl
  have scalar : column.dataType ≠ "ARRAY" := by decide
  have listed : column.udt ∈ t.enumNames.map (·.1) := by decide
  obtain ⟨type, ofElement, ofArray⟩ :=
    arrays_lift_elements literal wild scalar (.inr (.inl listed)) true
  have feeling : (t.typeOf { column with nullable := false }).result = .ok "Feeling" := by
    decide +kernel
  rw [ofElement] at feeling
  obtain rfl := Except.ok.inj feeling
  exact ⟨literal, wild, scalar, listed, ofElement, ofArray⟩

theorem StorageKind.typeExpr_eq_iff (kind : StorageKind) (one other : Option String) :
    kind.typeExpr one = kind.typeExpr other ↔
      (kind = .json → jsonType one = jsonType other) := by
  cases kind <;> simp [typeExpr]

theorem Typing.baseType_default_iff (t : Typing) (column : Column) (other : Option String) :
    t.baseType column = t.baseType { column with default := other } ↔
      (t.family? column = some .json → jsonType column.default = jsonType other) := by
  have family : t.family? { column with default := other } = t.family? column := rfl
  rw [baseType_eq, baseType_eq, family]
  cases t.family? column with
  | none => exact iff_of_true rfl nofun
  | some kind => simpa using kind.typeExpr_eq_iff column.default other

/-- Without overrides of types, two columns that differ in their defaults only have the same type
exactly if it is not one of JSON or their defaults have the same shape. For this it does not matter
whether the columns are arrays: those of JSON elements are typed from their own defaults. -/
theorem types_follow_defaults_iff {t : Typing} (types : t.overrides = .empty) (column : Column)
    (other : Option String) :
    ∃ type typeToo, t.typeOf column = ⟨[], .ok type⟩ ∧
      t.typeOf { column with default := other } = ⟨[], .ok typeToo⟩ ∧
      (type = typeToo ↔
        (t.family? column = some .json → jsonType column.default = jsonType other)) := by
  refine ⟨_, _, Typing.typeOf_empty types column, Typing.typeOf_empty types _, ?_⟩
  rw [← t.baseType_default_iff column other]
  exact String.append_left_inj (Typing.suffixes column)

/-- A nullable column whose stored type is not known is typed as JSON by its generic type, and one of
the same generic type that is stored as an enum is not. -/
theorem types_follow_defaults_generic :
    let t : Typing := ⟨[("doc", "Doc")], .empty, .all⟩
    let column : Column :=
      ⟨"public", "event", "body", true, some "'\x7b\x7d'::json", "json", "custom"⟩
    let named : Column := { column with udt := "doc" }
    let other := some "'[]'::json"
    t.overrides = .empty ∧ t.family? column = some .json ∧ t.family? named = none ∧
    (∃ type typeToo, t.typeOf column = ⟨[], .ok type⟩ ∧
      t.typeOf { column with default := other } = ⟨[], .ok typeToo⟩ ∧ type ≠ typeToo) ∧
    ∃ type, t.typeOf named = ⟨[], .ok type⟩ ∧
      t.typeOf { named with default := other } = ⟨[], .ok type⟩ := by
  intro t column named other
  have types : t.overrides = .empty := rfl
  have json : t.family? column = some .json := by decide
  have enum : t.family? named = none := by decide
  obtain ⟨type, typeToo, one, two, apart⟩ := types_follow_defaults_iff types column other
  obtain ⟨same, sameToo, first, second, alike⟩ := types_follow_defaults_iff types named other
  have shapes : jsonType column.default ≠ jsonType other := by decide
  refine ⟨types, json, enum, ⟨type, typeToo, one, two, ?_⟩, same, first, ?_⟩
  · exact mt apart.mp fun follows => shapes (follows json)
  · rw [alike.mpr (by simp [enum]), second]

/-- The default of an array without elements is taken for an object. -/
theorem empty_array_types_jsonb_elements :
    let t : Typing := ⟨[], .empty, .all⟩
    let column : Column := ⟨"public", "event", "bodies", false, none, "ARRAY", "_jsonb"⟩
    let default := some "'\x7b\x7d'::jsonb[]"
    column.isArray ∧ (t.typeOf column).result = .ok "unknown[]" ∧
      (t.typeOf { column with default := default }).result = .ok "Record<string, unknown>[]" := by
  exact ⟨rfl, by decide +kernel, by decide +kernel⟩

end SchemaTypes
