import SchemaTypes.Proofs.References

/-! How rows become enums. The rows of an enum need not stand together: each key is declared once,
where its first row stands, and has a member for every one of its rows, in their order. A row can
be moved past the rows of other enums, and all that this changes is the order of the
declarations. -/
namespace SchemaTypes

section
variable (names : NameOverrides)

/-- The member for one row. -/
structure MemberOf (row : EnumEntry) (member : EnumMember) : Prop where
  name : member.name = names.enumMember row.key row.label
  value : member.value = row.label

/-- The declaration of one enum among some rows: it has the members of the enum's rows in their
order, and of a repeated row as often as it stands there. -/
structure EnumOf (rows : List EnumEntry) (key : String) (d : EnumDecl) : Prop where
  name : d.name = names.enumName key
  members : List.Forall₂ (MemberOf names) (rows.filter (·.key = key)) d.members

theorem enumOf_enumDecl (rows : List EnumEntry) (key : String) :
    EnumOf names rows key (enumDecl names rows key) where
  name := rfl
  members := by
    rw [enumDecl, List.forall₂_map_right_iff, List.forall₂_same]
    intro row member
    obtain ⟨-, own⟩ := List.mem_filter.mp member
    exact ⟨by rw [of_decide_eq_true own], rfl⟩

theorem enumDecls_forall₂ (rows : List EnumEntry) :
    List.Forall₂ (EnumOf names rows) (enumKeys rows) (enumDecls names rows) := by
  rw [enumDecls, List.forall₂_map_right_iff, List.forall₂_same]
  intro key _
  exact enumOf_enumDecl names rows key

theorem sum_members (rows : List EnumEntry) :
    ((enumDecls names rows).map fun d => d.members.length).sum = rows.length :=
  sum_of_parted ((enumDecls_forall₂ names rows).imp fun _ _ enum => enum.members.length_eq)

theorem zip_enumDecls (rows : List EnumEntry) : (enumKeys rows).zip (enumDecls names rows) =
    (enumKeys rows).map fun key => (key, enumDecl names rows key) := by
  have pairs : ((enumKeys rows).map id).zip ((enumKeys rows).map (enumDecl names rows)) =
      (enumKeys rows).map fun key => (key, enumDecl names rows key) := List.zip_map'
  rwa [List.map_id] at pairs

end

/-- Two neighbouring rows of different enums change places. -/
inductive Swapped : List EnumEntry → List EnumEntry → Prop
  | swap (front back : List EnumEntry) {a b : EnumEntry} (apart : a.key ≠ b.key) :
    Swapped (front ++ a :: b :: back) (front ++ b :: a :: back)

/-- Rows are moved past rows of other enums, one place at a time. -/
def Reordered : List EnumEntry → List EnumEntry → Prop := Relation.ReflTransGen Swapped

section
variable {rows moved : List EnumEntry}

theorem Swapped.filter_key (swapped : Swapped rows moved) (key : String) :
    moved.filter (·.key = key) = rows.filter (·.key = key) := by
  obtain @⟨front, back, a, b, apart⟩ := swapped
  rw [List.filter_append, List.filter_append]
  congr 1
  by_cases first : a.key = key
  · have second : b.key ≠ key := fun same => apart (first.trans same.symm)
    simp [first, second]
  · simp [List.filter_cons, first]

theorem Reordered.filter_key (reordered : Reordered rows moved) (key : String) :
    moved.filter (·.key = key) = rows.filter (·.key = key) := by
  induction reordered with
  | refl => rfl
  | tail _ last ih => exact (last.filter_key key).trans ih

theorem Reordered.enumDecl_eq (reordered : Reordered rows moved) (names : NameOverrides)
    (key : String) : enumDecl names moved key = enumDecl names rows key := by
  rw [enumDecl, enumDecl, reordered.filter_key]

theorem mem_enumKeys_iff_filter {key : String} :
    key ∈ enumKeys rows ↔ rows.filter (·.key = key) ≠ [] := by
  simp [mem_enumKeys]

theorem Reordered.mem_enumKeys_iff (reordered : Reordered rows moved) {key : String} :
    key ∈ enumKeys moved ↔ key ∈ enumKeys rows := by
  rw [mem_enumKeys_iff_filter, mem_enumKeys_iff_filter, reordered.filter_key]

theorem Reordered.perm_enumKeys (reordered : Reordered rows moved) :
    (enumKeys moved).Perm (enumKeys rows) := by
  refine (List.perm_ext_iff_of_nodup (eraseDups_nodup _) (eraseDups_nodup _)).mpr ?_
  intro key
  exact reordered.mem_enumKeys_iff

theorem Reordered.perm_zip (reordered : Reordered rows moved) (names : NameOverrides) :
    ((enumKeys moved).zip (enumDecls names moved)).Perm
      ((enumKeys rows).zip (enumDecls names rows)) := by
  rw [zip_enumDecls, zip_enumDecls, List.map_congr_left fun key _ =>
    congrArg (Prod.mk key) (reordered.enumDecl_eq names key)]
  exact reordered.perm_enumKeys.map _

theorem lookup_map_mk [DecidableEq α] (f : α → β) (keys : List α) (key : α) :
    (keys.map fun k => (k, f k)).lookup key = if key ∈ keys then some (f key) else none := by
  induction keys with
  | nil => rfl
  | cons first keys ih =>
    rw [List.map_cons, List.lookup_cons, ih]
    by_cases same : key = first
    · simp [same]
    · simp [same, beq_eq_false_iff_ne.mpr same]

theorem Reordered.lookup_enumNames (reordered : Reordered rows moved) (names : NameOverrides)
    (key : String) : (enumNames names moved).lookup key = (enumNames names rows).lookup key := by
  simp only [enumNames, lookup_map_mk, reordered.mem_enumKeys_iff]

end

theorem Typing.typeOf_of_lookup {t u : Typing} (overrides : t.overrides = u.overrides)
    (tiers : t.tiers = u.tiers) (found : ∀ key, t.enumNames.lookup key = u.enumNames.lookup key)
    (column : Column) : t.typeOf column = u.typeOf column := by
  have base : t.baseType column = u.baseType column := by simp only [baseType, found]
  simp only [typeOf, overrides, tiers, base]

theorem OpenTables.addAll_of_typeOf {typing other : Typing}
    (same : ∀ column, typing.typeOf column = other.typeOf column) (names : NameOverrides)
    (tables : OpenTables) (columns : List Column) :
    addAll names typing tables columns = addAll names other tables columns := by
  induction columns generalizing tables with
  | nil => rfl
  | cons column rest ih => simp only [addAll, add, same, ih]

theorem Reordered.build_eq {rows moved : List EnumEntry} (reordered : Reordered rows moved)
    (columns : List Column) (o : Options) :
    (Document.build moved columns o).calls = (Document.build rows columns o).calls ∧
    (Document.build moved columns o).result = (Document.build rows columns o).result.map
      fun d => { d with enums := enumDecls o.names moved } := by
  have types : ∀ column, (o.typing moved).typeOf column = (o.typing rows).typeOf column :=
    Typing.typeOf_of_lookup rfl rfl (reordered.lookup_enumNames o.names)
  have filed := OpenTables.addAll_of_typeOf types o.names [] columns
  rw [Document.build_eq_addAll, Document.build_eq_addAll, filed]
  refine ⟨rfl, ?_⟩
  cases (OpenTables.addAll o.names (o.typing rows) [] columns).result <;> rfl

/-- The enums of a document are the distinct keys of the rows in the order in which they first
appear, each with a member for every one of its rows in their order, and the types of columns find
each enum under its key. Rows that are moved past rows of other enums give the same declarations
under the same keys, in another order, and leave all else of a document as it was. -/
theorem enums_group_rows (o : Options) (rows : List EnumEntry) :
    FirstsOf (rows.map (·.key)) (enumKeys rows) ∧
    List.Forall₂ (EnumOf o.names rows) (enumKeys rows) (enumDecls o.names rows) ∧
    ((enumDecls o.names rows).map fun d => d.members.length).sum = rows.length ∧
    (o.typing rows).enumNames = (enumKeys rows).zip ((enumDecls o.names rows).map (·.name)) ∧
    ∀ moved, Reordered rows moved →
      ((enumKeys moved).zip (enumDecls o.names moved)).Perm
        ((enumKeys rows).zip (enumDecls o.names rows)) ∧
      ∀ columns, (Document.build moved columns o).calls = (Document.build rows columns o).calls ∧
        (Document.build moved columns o).result = (Document.build rows columns o).result.map
          fun d => { d with enums := enumDecls o.names moved } := by
  refine ⟨firstsOf_eraseDups _, enumDecls_forall₂ o.names rows, sum_members o.names rows,
    enumNames_eq_zip o.names rows, ?_⟩
  intro moved reordered
  exact ⟨reordered.perm_zip o.names, fun columns => reordered.build_eq columns o⟩

/-- Rows of two enums in turns, one of them repeated. The second row is moved to the front, and then
the second enum is the first to be declared. -/
theorem enums_group_interleaved_rows :
    let o : Options := { names := .ofLiterals [("size", "Extent"), ("mood.sad", "Down")] }
    let xl : EnumEntry := ⟨"size", "xl"⟩
    let sad : EnumEntry := ⟨"mood", "sad"⟩
    let s : EnumEntry := ⟨"size", "s"⟩
    let size : EnumDecl := ⟨"Extent", [⟨"Xl", "xl"⟩, ⟨"S", "s"⟩, ⟨"Xl", "xl"⟩]⟩
    let mood : EnumDecl := ⟨"Mood", [⟨"Down", "sad"⟩]⟩
    Reordered [xl, sad, s, xl] [sad, xl, s, xl] ∧
      enumDecls o.names [xl, sad, s, xl] = [size, mood] ∧
      enumDecls o.names [sad, xl, s, xl] = [mood, size] ∧
      List.Forall₂ (EnumOf o.names [xl, sad, s, xl]) ["size", "mood"] [size, mood] ∧
      [("mood", mood), ("size", size)].Perm [("size", size), ("mood", mood)] ∧
      ∀ columns, (Document.build [sad, xl, s, xl] columns o).calls =
        (Document.build [xl, sad, s, xl] columns o).calls := by
  intro o xl sad s size mood
  have reordered : Reordered [xl, sad, s, xl] [sad, xl, s, xl] :=
    .single (.swap [] [s, xl] (by decide))
  have declared : enumDecls o.names [xl, sad, s, xl] = [size, mood] := by decide +kernel
  have redeclared : enumDecls o.names [sad, xl, s, xl] = [mood, size] := by decide +kernel
  obtain ⟨-, enums, -, -, moves⟩ := enums_group_rows o [xl, sad, s, xl]
  obtain ⟨perm, builds⟩ := moves _ reordered
  rw [declared] at enums perm
  rw [redeclared] at perm
  exact ⟨reordered, declared, redeclared, enums, perm, fun columns => (builds columns).1⟩

end SchemaTypes
