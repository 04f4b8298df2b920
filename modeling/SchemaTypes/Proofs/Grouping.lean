import SchemaTypes.Document.Build
import SchemaTypes.Proofs.Firsts

/-! How rows become tables. The rows of a table need not stand together: each (schema, table) pair
is declared once, where its first row stands and under the names of that row, and it has a field
for every one of its rows, in their order. -/
namespace SchemaTypes

def tableKeys (columns : List Column) : List TableKey := (columns.map Column.tableKey).eraseDups

theorem mem_tableKeys {columns : List Column} {key : TableKey} :
    key ∈ tableKeys columns ↔ ∃ c ∈ columns, c.tableKey = key := by
  simp [tableKeys]

theorem tableKeys_eq_nil {columns : List Column} : tableKeys columns = [] ↔ columns = [] := by
  constructor
  · intro empty
    rw [List.eq_nil_iff_forall_not_mem]
    intro column member
    have key := mem_tableKeys.mpr ⟨column, member, rfl⟩
    simp [empty] at key
  · rintro rfl
    rfl

variable (names : NameOverrides) (typing : Typing)

/-- The field for one row. -/
structure FieldOf (row : Column) (field : FieldDecl) : Prop where
  name : (names.resolve row .column).result = .ok field.name
  expr : (typing.typeOf row).result = .ok field.expr

/-- The declaration has the names that the first of the rows with this key gives. -/
def NamedAfter (rows : List Column) (key : TableKey) (d : TableDecl) : Prop :=
  ∃ first, rows.find? (·.tableKey = key) = some first ∧
    (names.tableNames first).result = .ok ⟨d.typeName, d.runtime⟩

theorem NamedAfter.append {names : NameOverrides} {rows : List Column}
    (named : NamedAfter names rows key d) (more : List Column) :
    NamedAfter names (rows ++ more) key d := by
  obtain ⟨first, found, result⟩ := named
  exact ⟨first, by rw [List.find?_append, found, Option.some_or], result⟩

/-- The declaration of one table among some rows: it has the names of the table's first row, and
the fields of its rows in their order. -/
structure TableOf (rows : List Column) (key : TableKey) (d : TableDecl) : Prop where
  named : NamedAfter names rows key d
  fields : List.Forall₂ (FieldOf names typing) (rows.filter (·.tableKey = key)) d.fields

/-- The tables that are open after some rows. -/
structure Filed (rows : List Column) (tables : OpenTables) : Prop where
  keys : tables.map (·.1) = (rows.map Column.tableKey).eraseDups
  declared : ∀ entry ∈ tables, TableOf names typing rows entry.1 entry.2

namespace OpenTables
variable {names : NameOverrides} {typing : Typing}

theorem openFor_eq_ok {tables opened : OpenTables} {column : Column}
    (ok : (openFor names tables column).result = .ok opened) :
    (column.tableKey ∈ tables.map (·.1) ∧ opened = tables) ∨
    (column.tableKey ∉ tables.map (·.1) ∧ ∃ n, (names.tableNames column).result = .ok n ∧
      opened = tables ++ [(column.tableKey, ⟨n.typeName, n.runtime, []⟩)]) := by
  unfold openFor at ok
  split at ok
  · next found =>
    refine .inl ⟨?_, (Except.ok.inj ok).symm⟩
    simpa using found
  · next absent =>
    obtain ⟨n, named, appended⟩ := Consult.bind_eq_ok.mp ok
    refine .inr ⟨?_, n, named, (Except.ok.inj appended).symm⟩
    simpa using absent

theorem add_eq_ok {tables added : OpenTables} {column : Column}
    (ok : (add names typing tables column).result = .ok added) :
    ∃ opened field, (openFor names tables column).result = .ok opened ∧
      FieldOf names typing column field ∧ added = addField opened column.tableKey field := by
  obtain ⟨opened, first, ok⟩ := Consult.bind_eq_ok.mp ok
  obtain ⟨name, named, ok⟩ := Consult.bind_eq_ok.mp ok
  obtain ⟨expr, typed, ok⟩ := Consult.bind_eq_ok.mp ok
  exact ⟨opened, ⟨name, expr⟩, first, ⟨named, typed⟩, (Except.ok.inj ok).symm⟩

theorem keys_addField (tables : OpenTables) (key : TableKey) (field : FieldDecl) :
    (addField tables key field).map (·.1) = tables.map (·.1) := by
  rw [addField, List.map_map]
  apply List.map_congr_left
  intro entry _
  simp only [Function.comp_apply]
  split <;> rfl

theorem openFor_filed {rows : List Column} {tables opened : OpenTables} {column : Column}
    (filed : Filed names typing rows tables)
    (ok : (openFor names tables column).result = .ok opened) :
    opened.map (·.1) = ((rows ++ [column]).map Column.tableKey).eraseDups ∧
    ∀ entry ∈ opened, NamedAfter names (rows ++ [column]) entry.1 entry.2 ∧
      List.Forall₂ (FieldOf names typing) (rows.filter (·.tableKey = entry.1)) entry.2.fields := by
  have kept : ∀ entry ∈ tables, NamedAfter names (rows ++ [column]) entry.1 entry.2 ∧
      List.Forall₂ (FieldOf names typing) (rows.filter (·.tableKey = entry.1)) entry.2.fields := by
    intro entry member
    have before := filed.declared entry member
    exact ⟨before.named.append [column], before.fields⟩
  rw [List.map_append, List.map_singleton, eraseDups_concat]
  rcases openFor_eq_ok ok with ⟨known, rfl⟩ | ⟨new, n, named, rfl⟩
  · have known : column.tableKey ∈ rows.map Column.tableKey := by
      rwa [filed.keys, List.mem_eraseDups] at known
    rw [if_pos known]
    exact ⟨filed.keys, kept⟩
  · have new : column.tableKey ∉ rows.map Column.tableKey := by
      rwa [filed.keys, List.mem_eraseDups] at new
    rw [if_neg new, List.map_append, filed.keys]
    refine ⟨rfl, ?_⟩
    intro entry member
    rcases List.mem_append.mp member with old | last
    · exact kept entry old
    · have absent : ∀ row ∈ rows, row.tableKey ≠ column.tableKey := by
        intro row member same
        exact new (same ▸ List.mem_map_of_mem member)
      obtain rfl := List.mem_singleton.mp last
      refine ⟨⟨column, ?_, named⟩, ?_⟩
      · rw [List.find?_append, List.find?_eq_none.mpr (by simpa using absent)]
        simp
      · rw [List.filter_eq_nil_iff.mpr (by simpa using absent)]
        exact .nil

theorem add_filed {rows : List Column} {tables added : OpenTables} {column : Column}
    (filed : Filed names typing rows tables)
    (ok : (add names typing tables column).result = .ok added) :
    Filed names typing (rows ++ [column]) added := by
  obtain ⟨opened, field, opening, new, rfl⟩ := add_eq_ok ok
  obtain ⟨keys, declared⟩ := openFor_filed filed opening
  refine ⟨(keys_addField ..).trans keys, ?_⟩
  intro entry member
  obtain ⟨⟨key, d⟩, old, rfl⟩ := List.mem_map.mp member
  obtain ⟨named, fields⟩ := declared _ old
  by_cases same : key = column.tableKey
  · simp only [if_pos same]
    refine ⟨named, ?_⟩
    rw [List.filter_append, List.filter_singleton, decide_eq_true same.symm, cond_true]
    exact List.rel_append fields (.cons new .nil)
  · simp only [if_neg same]
    refine ⟨named, ?_⟩
    rw [List.filter_append, List.filter_singleton, decide_eq_false (Ne.symm same), cond_false,
      List.append_nil]
    exact fields

theorem addAll_filed {rows columns : List Column} {tables final : OpenTables}
    (filed : Filed names typing rows tables)
    (ok : (addAll names typing tables columns).result = .ok final) :
    Filed names typing (rows ++ columns) final := by
  induction columns generalizing rows tables with
  | nil =>
    obtain rfl := Except.ok.inj ok
    rwa [List.append_nil]
  | cons column rest ih =>
    obtain ⟨added, first, later⟩ := Consult.bind_eq_ok.mp ok
    have done := ih (add_filed filed first) later
    rwa [List.append_assoc] at done

end OpenTables

theorem Filed.forall₂ {names : NameOverrides} {typing : Typing} {rows : List Column}
    {tables : OpenTables} (filed : Filed names typing rows tables) :
    List.Forall₂ (TableOf names typing rows) (rows.map Column.tableKey).eraseDups
      (tables.map (·.2)) := by
  rw [← filed.keys, List.forall₂_map_left_iff, List.forall₂_map_right_iff, List.forall₂_same]
  exact filed.declared

theorem sum_fields {names : NameOverrides} {typing : Typing} {rows : List Column}
    {tables : List TableDecl}
    (grouped : List.Forall₂ (TableOf names typing rows)
      (rows.map Column.tableKey).eraseDups tables) :
    (tables.map fun d => d.fields.length).sum = rows.length :=
  sum_of_parted (grouped.imp fun _ _ table => table.fields.length_eq)

theorem Document.build_eq_ok {enums : List EnumEntry} {columns : List Column} {o : Options}
    {d : Document} (built : (Document.build enums columns o).result = .ok d) :
    ∃ tables, (OpenTables.addAll o.names (o.typing enums) [] columns).result = .ok tables ∧
      d.tables = tables.map (·.2) := by
  obtain ⟨tables, ok, rest⟩ := Consult.bind_eq_ok.mp built
  exact ⟨tables, ok, by rw [← Except.ok.inj rest]⟩

def Options.document (o : Options) (enums : List EnumEntry) (tables : OpenTables) : Document where
  prefixText := o.prefixText
  enums := enumDecls o.names enums
  tablesEnumName := o.tablesEnumName
  tablesTypeName := o.tablesTypeName
  emitTableMap := o.emitTableMap
  tables := tables.map (·.2)
  suffixText := o.suffixText

theorem Document.build_eq_addAll (enums : List EnumEntry) (columns : List Column) (o : Options) :
    let filed := OpenTables.addAll o.names (o.typing enums) [] columns
    Document.build enums columns o = ⟨filed.calls, filed.result.map (o.document enums)⟩ := by
  intro filed
  cases result : filed.result with
  | error e => exact Consult.bind_of_error result _
  | ok tables =>
    rw [Document.build, Consult.bind_of_ok result, Consult.calls_pure, List.append_nil]
    rfl

theorem Document.build_eq_ok_iff {enums : List EnumEntry} {columns : List Column} {o : Options}
    {d : Document} : (Document.build enums columns o).result = .ok d ↔
      ∃ tables, (OpenTables.addAll o.names (o.typing enums) [] columns).result = .ok tables ∧
        o.document enums tables = d := by
  rw [build, Consult.bind_eq_ok]
  constructor
  · rintro ⟨tables, ok, same⟩
    exact ⟨tables, ok, Except.ok.inj same⟩
  · rintro ⟨tables, ok, rfl⟩
    exact ⟨tables, ok, rfl⟩

theorem OpenTables.filed_of_addAll {names : NameOverrides} {typing : Typing} {columns : List Column}
    {tables : OpenTables} (ok : (addAll names typing [] columns).result = .ok tables) :
    Filed names typing columns tables := by
  have start : Filed names typing [] [] := ⟨rfl, by simp⟩
  exact addAll_filed start ok

theorem Document.build_filed {enums : List EnumEntry} {columns : List Column} {o : Options}
    {d : Document} (built : (Document.build enums columns o).result = .ok d) :
    ∃ tables, Filed o.names (o.typing enums) columns tables ∧ o.document enums tables = d := by
  obtain ⟨tables, ok, same⟩ := Document.build_eq_ok_iff.mp built
  exact ⟨tables, OpenTables.filed_of_addAll ok, same⟩

/-- The tables of a document are the distinct tables of the columns in the order in which they
first appear, each named after its first column and with the fields of its columns in their order,
and there is a field for every column. -/
theorem tables_group_columns {enums : List EnumEntry} {columns : List Column} {o : Options}
    {d : Document} (built : (Document.build enums columns o).result = .ok d) :
    List.Forall₂ (TableOf o.names (o.typing enums) columns)
      (columns.map Column.tableKey).eraseDups d.tables ∧
    (d.tables.map fun t => t.fields.length).sum = columns.length := by
  obtain ⟨tables, ok, same⟩ := Document.build_eq_ok built
  have start : Filed o.names (o.typing enums) [] [] := ⟨rfl, by simp⟩
  have grouped := (OpenTables.addAll_filed start ok).forall₂
  rw [List.nil_append, ← same] at grouped
  exact ⟨grouped, sum_fields grouped⟩

/-- Rows of two tables in turns, one of whose tables has a name of its own. -/
theorem tables_group_interleaved :
    let o : Options := { names := .ofLiterals [("messages", "Mail")] }
    let id : Column := ⟨"public", "user", "id", false, none, "integer", "int4"⟩
    let body : Column := ⟨"log", "messages", "body", true, none, "text", "text"⟩
    let tags : Column := ⟨"public", "user", "tags", false, none, "ARRAY", "_text"⟩
    let d : Document := ⟨none, [], "Table", "Tables", true,
      [⟨"User", "user", [⟨"id", "number"⟩, ⟨"tags", "string[]"⟩]⟩,
        ⟨"LogMail", "log.messages", [⟨"body", "string | null"⟩]⟩], none⟩
    (Document.build [] [id, body, tags] o).result = .ok d ∧
    List.Forall₂ (TableOf o.names (o.typing []) [id, body, tags])
      [⟨"public", "user"⟩, ⟨"log", "messages"⟩] d.tables ∧
    (d.tables.map fun t => t.fields.length).sum = 3 := by
  intro o id body tags d
  have built : (Document.build [] [id, body, tags] o).result = .ok d := by cbv
  exact ⟨built, tables_group_columns built⟩

end SchemaTypes
