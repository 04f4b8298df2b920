import SchemaTypes.Proofs.Grouping
import SchemaTypes.Proofs.Relevance

/-! What the wildcard of names does to enums. Their members and all but one of them are out of its
reach, for they are looked up under keys that differ from `*`. An enum that is called `*` itself is
not, since its key is the key of the wildcard. -/
namespace SchemaTypes
namespace OverrideMap

/-- Two maps with the same entries, but for one key. -/
def AgreeExcept (a b : OverrideMap ρ) (key : String) : Prop := ∀ k, k ≠ key → a.get? k = b.get? k

theorem agreeExcept_insert (map : OverrideMap ρ) (key : String) (entry : Entry ρ) :
    map.AgreeExcept (map.insert key entry) key := by
  intro k other
  rw [get?_insert, if_neg other]

theorem AgreeExcept.literal? {a b : OverrideMap ρ} (agree : a.AgreeExcept b key) {k : String}
    (other : k ≠ key) : a.literal? k = b.literal? k := by
  rw [OverrideMap.literal?, OverrideMap.literal?, agree k other]

end OverrideMap

open OverrideMap (wildcardKey)

section
variable {names other : NameOverrides} (agree : names.AgreeExcept other wildcardKey)
include agree

theorem enumMember_of_agreeExcept (key label : String) :
    names.enumMember key label = other.enumMember key label := by
  have apart : key ++ "." ++ label ≠ wildcardKey := by
    intro same
    have dot : '.' ∈ (key ++ "." ++ label).toList := by simp
    rw [same] at dot
    exact absurd dot (by decide)
  rw [NameOverrides.enumMember, NameOverrides.enumMember, agree.literal? apart]

theorem enumName_of_agreeExcept {key : String} (apart : key ≠ wildcardKey) :
    names.enumName key = other.enumName key := by
  rw [NameOverrides.enumName, NameOverrides.enumName, agree.literal? apart]

theorem enumName_eq_on_iff (rows : List EnumEntry) :
    (∀ key ∈ enumKeys rows, names.enumName key = other.enumName key) ↔
      ((∃ row ∈ rows, row.key = wildcardKey) →
        names.enumName wildcardKey = other.enumName wildcardKey) := by
  constructor
  · intro same starred
    exact same wildcardKey (mem_enumKeys.mpr starred)
  · intro same key member
    by_cases star : key = wildcardKey
    · rw [star] at member ⊢
      exact same (mem_enumKeys.mp member)
    · exact enumName_of_agreeExcept agree star

theorem enumDecl_members_of_agreeExcept (rows : List EnumEntry) (key : String) :
    (enumDecl names rows key).members = (enumDecl other rows key).members := by
  apply List.map_congr_left
  intro row _
  rw [enumMember_of_agreeExcept agree]

theorem enumDecl_eq_iff (rows : List EnumEntry) (key : String) :
    enumDecl names rows key = enumDecl other rows key ↔
      names.enumName key = other.enumName key := by
  constructor
  · intro same
    exact congrArg EnumDecl.name same
  · intro same
    have members := enumDecl_members_of_agreeExcept agree rows key
    calc enumDecl names rows key
      _ = ⟨names.enumName key, (enumDecl names rows key).members⟩ := rfl
      _ = ⟨other.enumName key, (enumDecl other rows key).members⟩ := by rw [same, members]
      _ = enumDecl other rows key := rfl

theorem enumDecls_eq_iff (rows : List EnumEntry) :
    enumDecls names rows = enumDecls other rows ↔
      ∀ key ∈ enumKeys rows, names.enumName key = other.enumName key := by
  simp only [enumDecls, List.map_inj_left, enumDecl_eq_iff agree]

theorem enumDecls_members_of_agreeExcept (rows : List EnumEntry) :
    (enumDecls names rows).map (·.members) = (enumDecls other rows).map (·.members) := by
  simp only [enumDecls, List.map_map]
  apply List.map_congr_left
  intro key _
  exact enumDecl_members_of_agreeExcept agree rows key

end

theorem enumNames_eq_iff (names other : NameOverrides) (rows : List EnumEntry) :
    enumNames names rows = enumNames other rows ↔
      ∀ key ∈ enumKeys rows, names.enumName key = other.enumName key := by
  simp only [enumNames, List.map_inj_left, Prod.mk.injEq, true_and]

theorem Options.typing_eq_iff (o : Options) (other : NameOverrides) (rows : List EnumEntry) :
    o.typing rows = { o with names := other : Options }.typing rows ↔
      enumNames o.names rows = enumNames other rows := by
  simp only [Options.typing, Typing.mk.injEq, and_true]

/-- An enum called `*` has no letters to name it after. -/
theorem enumName_wildcard (names : NameOverrides) :
    names.enumName wildcardKey = (names.literal? wildcardKey).getD "" := by
  have blank : Text.pascalCase wildcardKey = "" := by decide +kernel
  rw [NameOverrides.enumName, blank]

theorem Document.enums_of_build {enums : List EnumEntry} {columns : List Column} {o : Options}
    {d : Document} (built : (Document.build enums columns o).result = .ok d) :
    d.enums = enumDecls o.names enums := by
  obtain ⟨tables, -, rfl⟩ := Document.build_eq_ok_iff.mp built
  rfl

/-- Whatever is done to the wildcard of names, the members of enums stay, and so do the names of all
enums but one that is called `*`. So the enums of a document and the types of columns are those of
before exactly if there is no such enum, or if the wildcard has the same fixed text as before, where
none and a resolver are like the empty text. -/
theorem enums_ignore_wildcard_iff {o : Options} {other : NameOverrides}
    (agree : o.names.AgreeExcept other wildcardKey) (enums : List EnumEntry) :
    let changed : Options := { o with names := other }
    let alike := (∃ row ∈ enums, row.key = wildcardKey) →
      (o.names.literal? wildcardKey).getD "" = (other.literal? wildcardKey).getD ""
    (o.typing enums = changed.typing enums ↔ alike) ∧
    (∀ key, key ≠ wildcardKey → o.names.enumName key = other.enumName key) ∧
    ∀ columns d e, (Document.build enums columns o).result = .ok d →
      (Document.build enums columns changed).result = .ok e →
      (d.enums = e.enums ↔ alike) ∧ d.enums.map (·.members) = e.enums.map (·.members) := by
  intro changed alike
  have named : (∀ key ∈ enumKeys enums, o.names.enumName key = other.enumName key) ↔ alike := by
    rw [enumName_eq_on_iff agree, enumName_wildcard, enumName_wildcard]
  refine ⟨?_, fun key apart => enumName_of_agreeExcept agree apart, ?_⟩
  · rw [Options.typing_eq_iff, enumNames_eq_iff, named]
  · intro columns d e built rebuilt
    rw [Document.enums_of_build built, Document.enums_of_build rebuilt]
    exact ⟨(enumDecls_eq_iff agree enums).trans named,
      enumDecls_members_of_agreeExcept agree enums⟩

/-- A wildcard that is a resolver is added while an enum is called `*`. It is called for the names of
a column and its table, but not for those of the enums. -/
theorem enums_ignore_wildcard_resolver :
    let any : NameResolver := fun _ _ _ => .ok (some "Any")
    let o : Options := { names := .ofLiterals [("mood", "Feeling"), ("*.on", "Up")] }
    let other : NameOverrides := o.names.insert "*" (.resolver any)
    let changed : Options := { o with names := other }
    let enums : List EnumEntry := [⟨"*", "on"⟩, ⟨"mood", "sad"⟩]
    let id : Column := ⟨"public", "user", "id", false, none, "USER-DEFINED", "mood"⟩
    let decls : List EnumDecl := [⟨"", [⟨"Up", "on"⟩]⟩, ⟨"Feeling", [⟨"Sad", "sad"⟩]⟩]
    o.names.AgreeExcept other wildcardKey ∧ o.typing enums = changed.typing enums ∧
      ∃ d e, (Document.build enums [id] o).result = .ok d ∧
        (Document.build enums [id] changed).result = .ok e ∧
        d.enums = decls ∧ e.enums = decls ∧ d.tables ≠ e.tables := by
  intro any o other changed enums id decls
  have agree : o.names.AgreeExcept other wildcardKey :=
    OverrideMap.agreeExcept_insert o.names wildcardKey _
  have alike : (o.names.literal? wildcardKey).getD "" = (other.literal? wildcardKey).getD "" := by
    decide +kernel
  obtain ⟨typing, -, documents⟩ := enums_ignore_wildcard_iff agree enums
  let d : Document := o.document enums [(id.tableKey, ⟨"User", "user", [⟨"id", "Feeling"⟩]⟩)]
  let e : Document :=
    changed.document enums [(id.tableKey, ⟨"AnyAny", "user", [⟨"Any", "Feeling"⟩]⟩)]
  have built : (Document.build enums [id] o).result = .ok d := by decide +kernel
  have rebuilt : (Document.build enums [id] changed).result = .ok e := by decide +kernel
  have same : d.enums = e.enums := (documents [id] d e built rebuilt).1.mpr fun _ => alike
  have declared : d.enums = decls := by decide +kernel
  exact ⟨agree, typing.mpr fun _ => alike, d, e, built, rebuilt, declared, same ▸ declared,
    by decide +kernel⟩

/-- A wildcard with a fixed text is added while an enum is called `*`, and the text becomes the name
of the enum. -/
theorem wildcard_text_names_starred_enum :
    let o : Options := {}
    let other : NameOverrides := o.names.withLiteral "*" "Any"
    let changed : Options := { o with names := other }
    let enums : List EnumEntry := [⟨"*", "on"⟩]
    o.names.AgreeExcept other wildcardKey ∧
      ((Document.build enums [] o).result.map (·.enums)) = .ok [⟨"", [⟨"On", "on"⟩]⟩] ∧
      ((Document.build enums [] changed).result.map (·.enums)) = .ok [⟨"Any", [⟨"On", "on"⟩]⟩] ∧
      enumNames o.names enums = [("*", "")] ∧ enumNames other enums = [("*", "Any")] := by
  intro o other changed enums
  refine ⟨OverrideMap.agreeExcept_insert o.names wildcardKey _, ?_, ?_, ?_, ?_⟩ <;> decide +kernel

end SchemaTypes
