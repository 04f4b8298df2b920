import SchemaTypes.Proofs.Grouping

/-! What overrides leave as it is. They give names and types, and no more: which enums and tables
there are, the values and the number of the members, the run time texts and the number of the fields
are those of the rows, under any two sets of options. Names in turn depend on no override of a
type. -/
namespace SchemaTypes

def EnumDecl.values (d : EnumDecl) : List String := d.members.map (·.value)

/-- What a record type has besides names and types. -/
def TableDecl.shape (d : TableDecl) : String × Nat := (d.runtime, d.fields.length)

def TableDecl.naming (d : TableDecl) : String × List String := (d.typeName, d.fields.map (·.name))

theorem map_eq_of_forall₂ {R : α → β → Prop} {S : α → γ → Prop} {f : β → δ} {g : γ → δ}
    {keys : List α} {a : List β} {b : List γ} (left : List.Forall₂ R keys a)
    (right : List.Forall₂ S keys b) (same : ∀ k x y, R k x → S k y → f x = g y) :
    a.map f = b.map g := by
  induction left generalizing b with
  | nil =>
    cases right
    rfl
  | cons first _ ih =>
    cases right with
    | cons other rest => rw [List.map_cons, List.map_cons, same _ _ _ first other, ih rest]

theorem values_enumDecls (names : NameOverrides) (rows : List EnumEntry) :
    (enumDecls names rows).map EnumDecl.values =
      (enumKeys rows).map fun key => (rows.filter (·.key = key)).map (·.label) := by
  rw [enumDecls, List.map_map]
  apply List.map_congr_left
  intro key _
  rw [Function.comp_apply, EnumDecl.values, enumDecl, List.map_map]
  rfl

theorem NameOverrides.runtime_of_tableNames {names : NameOverrides} {column : Column}
    {n : TableNames} (ok : (names.tableNames column).result = .ok n) :
    n.runtime = column.tableKey.runtime := by
  obtain ⟨table, _, ok⟩ := Consult.bind_eq_ok.mp ok
  obtain ⟨schema, _, ok⟩ := Consult.bind_eq_ok.mp ok
  rw [← Except.ok.inj ok]

section
variable {names other : NameOverrides} {typing typingToo : Typing} {rows : List Column}
  {key : TableKey} {d e : TableDecl}

theorem NamedAfter.runtime (named : NamedAfter names rows key d) : d.runtime = key.runtime := by
  obtain ⟨first, found, result⟩ := named
  have own : first.tableKey = key := by simpa using List.find?_some found
  rw [← own]
  exact NameOverrides.runtime_of_tableNames result

theorem NamedAfter.typeName (named : NamedAfter names rows key d)
    (namedToo : NamedAfter names rows key e) : d.typeName = e.typeName := by
  obtain ⟨first, found, result⟩ := named
  obtain ⟨row, foundToo, resultToo⟩ := namedToo
  obtain rfl := Option.some.inj (found.symm.trans foundToo)
  have same := Except.ok.inj (result.symm.trans resultToo)
  exact (TableNames.mk.inj same).1

theorem TableOf.shape (table : TableOf names typing rows key d)
    (tableToo : TableOf other typingToo rows key e) : d.shape = e.shape := by
  have runtime : d.runtime = e.runtime :=
    table.named.runtime.trans tableToo.named.runtime.symm
  have size : d.fields.length = e.fields.length :=
    table.fields.length_eq.symm.trans tableToo.fields.length_eq
  rw [TableDecl.shape, TableDecl.shape, runtime, size]

theorem TableOf.naming (table : TableOf names typing rows key d)
    (tableToo : TableOf names typingToo rows key e) : d.naming = e.naming := by
  have fields : d.fields.map (·.name) = e.fields.map (·.name) := by
    apply map_eq_of_forall₂ table.fields tableToo.fields
    intro row field fieldToo first second
    exact Except.ok.inj (first.name.symm.trans second.name)
  rw [TableDecl.naming, TableDecl.naming, table.named.typeName tableToo.named, fields]

end

/-- Under any two options the same rows declare as many enums, with the same values in the same
order, and as many tables, with the same run time texts and as many fields. Options that name alike
declare the same enums, and tables and fields of the same names, whatever they say of types. -/
theorem overrides_only_rename {enums : List EnumEntry} {columns : List Column} {o p : Options}
    {d e : Document} (built : (Document.build enums columns o).result = .ok d)
    (builtToo : (Document.build enums columns p).result = .ok e) :
    d.enums.map EnumDecl.values = e.enums.map EnumDecl.values ∧
    d.tables.map TableDecl.shape = e.tables.map TableDecl.shape ∧
    (o.names = p.names →
      d.enums = e.enums ∧ d.tables.map TableDecl.naming = e.tables.map TableDecl.naming) := by
  obtain ⟨tables, filed, rfl⟩ := Document.build_filed built
  obtain ⟨tablesToo, filedToo, rfl⟩ := Document.build_filed builtToo
  simp only [Options.document]
  refine ⟨?_, ?_, ?_⟩
  · rw [values_enumDecls, values_enumDecls]
  · exact map_eq_of_forall₂ filed.forall₂ filedToo.forall₂ fun _ _ _ => TableOf.shape
  · intro names
    rw [names] at filed ⊢
    refine ⟨rfl, ?_⟩
    exact map_eq_of_forall₂ filed.forall₂ filedToo.forall₂ fun _ _ _ => TableOf.naming

/-- A table, its schema and an enum with names of their own, a resolver that has a say in every
name, and a type that is overridden or not: the runs differ in all that they may. -/
theorem overrides_only_rename_mail :
    let enums : List EnumEntry := [⟨"mood", "sad"⟩]
    let columns : List Column := [⟨"log", "messages", "id", false, none, "integer", "int4"⟩,
      ⟨"public", "user", "mood", true, none, "USER-DEFINED", "mood"⟩]
    let plain : Options := {}
    let o : Options :=
      { names := .insert
          (.ofLiterals [("messages", "Mail"), ("log", "public"), ("mood", "Feeling")])
          "*" (.resolver fun _ _ text => .ok (some (text ++ "_")))
        types := .ofLiterals [("mood", "never")] }
    let untyped : Options := { o with types := .empty, tiers := ⟨false, false, false⟩ }
    let d : Document := ⟨none, [⟨"Mood", [⟨"Sad", "sad"⟩]⟩], "Table", "Tables", true,
      [⟨"LogMessages", "log.messages", [⟨"id", "number"⟩]⟩,
        ⟨"User", "user", [⟨"mood", "Mood | null"⟩]⟩], none⟩
    let e : Document := { d with
      enums := [⟨"Feeling", [⟨"Sad", "sad"⟩]⟩]
      tables := [⟨"PublicMail_", "log.messages", [⟨"id_", "number"⟩]⟩,
        ⟨"PublicUser_", "user", [⟨"Feeling_", "never | null"⟩]⟩] }
    let f : Document := { e with
      tables := [⟨"PublicMail_", "log.messages", [⟨"id_", "number"⟩]⟩,
        ⟨"PublicUser_", "user", [⟨"Feeling_", "Feeling | null"⟩]⟩] }
    (Document.build enums columns plain).result = .ok d ∧
      (Document.build enums columns o).result = .ok e ∧
      (Document.build enums columns untyped).result = .ok f ∧
      d.enums.map EnumDecl.values = e.enums.map EnumDecl.values ∧
      d.tables.map TableDecl.shape = e.tables.map TableDecl.shape ∧
      e.enums = f.enums ∧ e.tables.map TableDecl.naming = f.tables.map TableDecl.naming := by
  intro enums columns plain o untyped d e f
  have first : (Document.build enums columns plain).result = .ok d := by decide +kernel
  have second : (Document.build enums columns o).result = .ok e := by decide +kernel
  have third : (Document.build enums columns untyped).result = .ok f := by decide +kernel
  obtain ⟨values, shapes, _⟩ := overrides_only_rename first second
  obtain ⟨sameEnums, naming⟩ := (overrides_only_rename second third).2.2 rfl
  exact ⟨first, second, third, values, shapes, sameEnums, naming⟩

end SchemaTypes
