import SchemaTypes.Proofs.Defaults
import SchemaTypes.Proofs.Relevance
import SchemaTypes.Proofs.Renaming

/-! What the types of fields refer to. Without overrides of types, a field has a built-in type or
that of a declared enum, and it has that of its column's own enum wherever the catalog has one,
under whatever name it is declared. -/
namespace SchemaTypes

/-- The expressions that need no declaration of the document. -/
def builtinTypes : List String :=
  ["boolean", "string", "number", "Date", "Record<string, unknown>", "unknown[]", "unknown",
    "Buffer", "IPostgresInterval"]

theorem typeExpr_mem_builtinTypes (text : Option String) (kind : StorageKind) :
    kind.typeExpr text ∈ builtinTypes := by
  cases kind with
  | json =>
    simp only [StorageKind.typeExpr, jsonType]
    split <;> simp [builtinTypes, unknownType]
  | boolean | string | number | dateTime | binary | interval =>
    simp [StorageKind.typeExpr, builtinTypes]

theorem lookup_zip [BEq α] [LawfulBEq α] {keys : List α} {values : List β}
    (sizes : keys.length = values.length) (key : α) :
    (keys.zip values).lookup key = values[keys.idxOf key]? := by
  induction keys generalizing values with
  | nil => simp [List.eq_nil_of_length_eq_zero sizes.symm]
  | cons first keys ih =>
    cases values with
    | nil => simp at sizes
    | cons value values =>
      have later := ih (Nat.succ.inj sizes)
      rw [List.zip_cons_cons, List.lookup_cons, List.idxOf_cons, Bool.beq_comm]
      cases first == key with
      | true => rfl
      | false => simpa using later

theorem enumNames_eq_zip (names : NameOverrides) (rows : List EnumEntry) :
    enumNames names rows = (enumKeys rows).zip ((enumDecls names rows).map (·.name)) := by
  have pairs : ((enumKeys rows).map id).zip ((enumKeys rows).map names.enumName) =
      (enumKeys rows).map fun key => (key, names.enumName key) := List.zip_map'
  rw [List.map_id] at pairs
  rw [enumDecls, List.map_map]
  exact pairs.symm

theorem lookup_enumNames (names : NameOverrides) (rows : List EnumEntry) (key : String) :
    (enumNames names rows).lookup key =
      (enumDecls names rows)[(enumKeys rows).idxOf key]?.map (·.name) := by
  have sizes : (enumKeys rows).length = ((enumDecls names rows).map (·.name)).length := by
    simp [enumDecls]
  rw [enumNames_eq_zip, lookup_zip sizes, List.getElem?_map]

/-- The declaration of an enum of the catalog: it stands at the place of the enum's key, and its
members stand for the labels of that key. -/
structure Document.HoldsEnum (d : Document) (enums : List EnumEntry) (key : String)
    (decl : EnumDecl) : Prop where
  placed : d.enums[(enumKeys enums).idxOf key]? = some decl
  values : decl.values = (enums.filter (·.key = key)).map (·.label)

/-- A type without suffixes that refers to no enum but a declared one, and to the column's own enum
if it has one. A built-in type goes before an enum of the same name. -/
structure Document.Refers (d : Document) (enums : List EnumEntry) (row : Column) (base : String) :
    Prop where
  known : base ∈ builtinTypes ∨ ∃ decl ∈ d.enums, decl.name = base
  own : StorageKind.ofTag? row.storageType = none → (∃ entry ∈ enums, entry.key = row.storageType) →
    ∃ decl, d.HoldsEnum enums row.storageType decl ∧ decl.name = base

/-- The field of a row: arrays and nullable columns have their suffix, and no others. -/
def Document.TypesField (d : Document) (enums : List EnumEntry) (row : Column)
    (field : FieldDecl) : Prop :=
  ∃ base, d.Refers enums row base ∧
    field.expr = base ++ (if row.dataType = "ARRAY" then "[]" else "") ++
      (if row.nullable then " | null" else "")

section
variable {names : NameOverrides} {enums : List EnumEntry} {d : Document}

theorem holdsEnum_of_mem (declared : d.enums = enumDecls names enums) {key : String}
    (member : key ∈ enumKeys enums) : d.HoldsEnum enums key (enumDecl names enums key) where
  placed := by
    rw [declared, enumDecls, List.getElem?_map, List.getElem?_idxOf member, Option.map_some]
  values := by
    rw [EnumDecl.values, enumDecl, List.map_map]
    rfl

theorem Typing.baseType_cases (t : Typing) (column : Column) :
    t.baseType column ∈ builtinTypes ∨
      t.enumNames.lookup column.storageType = some (t.baseType column) := by
  unfold baseType
  split
  · exact .inl (typeExpr_mem_builtinTypes _ _)
  · split
    · next found => exact .inr found
    · split
      · exact .inl (typeExpr_mem_builtinTypes _ _)
      · exact .inl (by decide)

theorem Typing.baseType_of_enum {t : Typing} {column : Column}
    (other : StorageKind.ofTag? column.storageType = none)
    (found : t.enumNames.lookup column.storageType = some name) : t.baseType column = name := by
  simp only [baseType, other, found]

theorem Typing.baseType_refers {t : Typing}
    (listed : t.enumNames = SchemaTypes.enumNames names enums)
    (declared : d.enums = enumDecls names enums) (row : Column) :
    d.Refers enums row (t.baseType row) where
  known := by
    rcases t.baseType_cases row with built | found
    · exact .inl built
    · rw [listed, lookup_enumNames, ← declared] at found
      obtain ⟨decl, placed, name⟩ := Option.map_eq_some_iff.mp found
      exact .inr ⟨decl, List.mem_of_getElem? placed, name⟩
  own := by
    intro other entry
    have holds := holdsEnum_of_mem declared (mem_enumKeys.mpr entry)
    refine ⟨_, holds, ?_⟩
    have found : t.enumNames.lookup row.storageType =
        some (enumDecl names enums row.storageType).name := by
      rw [listed, lookup_enumNames, ← declared, holds.placed, Option.map_some]
    exact (baseType_of_enum other found).symm

theorem FieldOf.typesField {o : Options} (types : o.types = .empty)
    (declared : d.enums = enumDecls o.names enums) {row : Column} {field : FieldDecl}
    (filed : FieldOf o.names (o.typing enums) row field) : d.TypesField enums row field := by
  refine ⟨(o.typing enums).baseType row, Typing.baseType_refers rfl declared row, ?_⟩
  have expr := filed.expr
  rw [Typing.typeOf_empty types] at expr
  rw [← Except.ok.inj expr, String.append_assoc]
  simp [Typing.suffixes, Column.isArray]

end

/-- Without overrides of types, every field of every table has a built-in type or one that refers to
a declared enum, and to that of its column's stored type if this is an enum of the catalog, with the
suffixes of arrays and nullable columns. Names may be overridden as one likes. -/
theorem fields_refer_to_declarations {enums : List EnumEntry} {columns : List Column} {o : Options}
    {d : Document} (types : o.types = .empty)
    (built : (Document.build enums columns o).result = .ok d) :
    List.Forall₂ (fun key (t : TableDecl) =>
      List.Forall₂ (d.TypesField enums) (columns.filter (·.tableKey = key)) t.fields)
      (tableKeys columns) d.tables := by
  obtain ⟨tables, filed, rfl⟩ := Document.build_filed built
  exact filed.forall₂.imp fun key t table =>
    table.fields.imp fun row field filed => filed.typesField types rfl

/-- A nullable array of an enum that is declared under another name, between the rows of which there
is another enum, and a column of a built-in type. -/
theorem fields_refer_to_extent :
    let enums : List EnumEntry := [⟨"size", "xl"⟩, ⟨"mood", "sad"⟩, ⟨"size", "s"⟩]
    let sizes : Column := ⟨"public", "shirt", "sizes", true, none, "ARRAY", "_size"⟩
    let price : Column := ⟨"public", "shirt", "price", false, none, "numeric", "numeric"⟩
    let o : Options := { names := .ofLiterals [("size", "Extent")] }
    let d : Document := ⟨none,
      [⟨"Extent", [⟨"Xl", "xl"⟩, ⟨"S", "s"⟩]⟩, ⟨"Mood", [⟨"Sad", "sad"⟩]⟩], "Table", "Tables", true,
      [⟨"Shirt", "shirt", [⟨"sizes", "Extent[] | null"⟩, ⟨"price", "string"⟩]⟩], none⟩
    o.types = .empty ∧ (Document.build enums [sizes, price] o).result = .ok d ∧
      List.Forall₂ (fun key (t : TableDecl) =>
        List.Forall₂ (d.TypesField enums) ([sizes, price].filter (·.tableKey = key)) t.fields)
        (tableKeys [sizes, price]) d.tables := by
  intro enums sizes price o d
  have built : (Document.build enums [sizes, price] o).result = .ok d := by decide +kernel
  exact ⟨rfl, built, fields_refer_to_declarations rfl built⟩

end SchemaTypes
