import SchemaTypes.Proofs.Layout
import SchemaTypes.Text.Cut

/-! A declaration can be read back from its text. Its lines are the opening one, one for each member
or field, and the closing one; names end where they say, and values are quoted. -/
namespace SchemaTypes

/-- No line break, so the text stays on its line. -/
def OneLine (text : String) : Prop := '\n' ∉ text.toList

instance (text : String) : Decidable (OneLine text) :=
  inferInstanceAs (Decidable ('\n' ∉ text.toList))

@[simp] theorem oneLine_append (a b : String) : OneLine (a ++ b) ↔ OneLine a ∧ OneLine b := by
  simp [OneLine]

theorem oneLine_of_isIdentifier {name : String} (valid : Text.isIdentifier name) : OneLine name :=
  Text.not_mem_of_isIdentifier valid (by decide)

@[simp] theorem oneLine_quote (s : String) : OneLine (Text.quote s) :=
  Text.not_mem_quote (.inl rfl) s

@[simp] theorem oneLine_propertyKey (name : String) : OneLine (Text.propertyKey name) :=
  Text.newline_not_mem_propertyKey name

theorem map_inj_on {f : α → β} {P : α → Prop} (apart : ∀ x y, P x → P y → f x = f y → x = y)
    {a b : List α} (allA : ∀ x ∈ a, P x) (allB : ∀ x ∈ b, P x) (same : a.map f = b.map f) :
    a = b := by
  induction a generalizing b with
  | nil => exact (List.map_eq_nil_iff.mp same.symm).symm
  | cons x a ih =>
    cases b with
    | nil => simp at same
    | cons y b =>
      obtain ⟨first, later⟩ := List.cons.inj same
      have head := apart x y (allA x List.mem_cons_self) (allB y List.mem_cons_self) first
      have tail := ih (fun z member => allA z (List.mem_cons_of_mem x member))
        (fun z member => allB z (List.mem_cons_of_mem y member)) later
      rw [head, tail]

theorem append_cons_inj {c : Char} {a b r s : List Char} (freeA : c ∉ a) (freeB : c ∉ b)
    (same : a ++ c :: r = b ++ c :: s) : a = b ∧ r = s := by
  have cut := congrArg (Text.cutFirst c) same
  rw [Text.cutFirst_append freeA, Text.cutFirst_append freeB] at cut
  exact Prod.mk.inj (Option.some.inj cut)

def bracedLines (opening closing : String) (lines : List String) : List (List Char) :=
  (opening ++ " \x7b").toList :: lines.map (fun line => ("  " ++ line).toList) ++
    [("\x7d" ++ closing).toList]

theorem toList_braced (opening closing : String) (lines : List String) :
    (braced opening closing lines).toList = unlines (bracedLines opening closing lines) := by
  simp [braced, bracedLines, String.toList_join, unlines, List.flatMap_map]

theorem unbroken_bracedLines {opening closing : String} {lines : List String}
    (oneOpening : OneLine opening) (oneClosing : OneLine closing) (each : ∀ l ∈ lines, OneLine l) :
    ∀ l ∈ bracedLines opening closing lines, '\n' ∉ l := by
  intro l member
  rw [bracedLines, List.mem_append, List.mem_cons, List.mem_map, List.mem_singleton] at member
  rcases member with (rfl | ⟨line, inside, rfl⟩) | rfl
  · exact (oneLine_append _ _).mpr ⟨oneOpening, by decide⟩
  · exact (oneLine_append _ _).mpr ⟨by decide, each line inside⟩
  · exact (oneLine_append _ _).mpr ⟨by decide, oneClosing⟩

theorem Regular.braced {opening closing : String} {lines : List String} (oneOpening : OneLine opening)
    (ending : closing = "" ∨ closing = ";") (each : ∀ l ∈ lines, OneLine l) :
    Regular (braced opening closing lines) := by
  have text := toList_braced opening closing lines
  have oneClosing : OneLine closing := by rcases ending with rfl | rfl <;> decide
  have unbroken := unbroken_bracedLines oneOpening oneClosing each
  rcases ending with rfl | rfl
  · exact .of_lines _ [] '\x7d' text unbroken (by simp) rfl
  · exact .of_lines _ ['\x7d'] ';' text unbroken (by simp) rfl

theorem braced_inj {opening other closing : String} {lines others : List String}
    (oneOpening : OneLine opening) (oneOther : OneLine other) (oneClosing : OneLine closing)
    (each : ∀ l ∈ lines, OneLine l) (eachOther : ∀ l ∈ others, OneLine l)
    (same : braced opening closing lines = braced other closing others) :
    opening = other ∧ lines = others := by
  have split := congrArg linesOf same
  rw [linesOf_of_unlines (toList_braced _ _ _) (unbroken_bracedLines oneOpening oneClosing each),
    linesOf_of_unlines (toList_braced _ _ _) (unbroken_bracedLines oneOther oneClosing eachOther)]
    at split
  obtain ⟨first, inner⟩ := List.cons.inj (List.append_cancel_right split)
  have openings : opening ++ " \x7b" = other ++ " \x7b" := String.toList_inj.mp first
  have cut (a b : String) (same : ("  " ++ a).toList = ("  " ++ b).toList) : a = b :=
    (String.append_right_inj _).mp (String.toList_inj.mp same)
  exact ⟨(String.append_left_inj _).mp openings, (List.map_inj_right cut).mp inner⟩

def EnumMember.line (m : EnumMember) : String := m.name ++ " = " ++ Text.quote m.value ++ ","

theorem EnumMember.oneLine {m : EnumMember} (name : OneLine m.name) : OneLine m.line := by
  have value := oneLine_quote m.value
  simp_all [line, OneLine]

theorem EnumMember.toList_line (m : EnumMember) : m.line.toList =
    m.name.toList ++ ' ' :: '=' :: ' ' :: ((Text.quote m.value).toList ++ [',']) := by
  simp [line]

theorem EnumMember.line_inj (m n : EnumMember) (first : Text.isIdentifier m.name)
    (second : Text.isIdentifier n.name) (same : m.line = n.line) : m = n := by
  have chars := congrArg String.toList same
  rw [toList_line, toList_line] at chars
  obtain ⟨name, rest⟩ := append_cons_inj (Text.not_mem_of_isIdentifier first rfl)
    (Text.not_mem_of_isIdentifier second rfl) chars
  simp only [List.cons.injEq, true_and] at rest
  obtain ⟨value, _⟩ := Text.quote_append_inj rest
  cases m
  cases n
  simp_all [String.toList_inj]

/-- An enum whose names keep to their lines. -/
structure EnumDecl.Unbroken (d : EnumDecl) : Prop where
  name : OneLine d.name
  members : ∀ m ∈ d.members, OneLine m.name

structure EnumDecl.Plain (d : EnumDecl) : Prop where
  name : Text.isIdentifier d.name
  members : ∀ m ∈ d.members, Text.isIdentifier m.name

namespace EnumDecl

theorem Unbroken.oneLine {d : EnumDecl} (unbroken : d.Unbroken) :
    OneLine ("export enum " ++ d.name) ∧ ∀ l ∈ d.members.map EnumMember.line, OneLine l := by
  refine ⟨(oneLine_append _ _).mpr ⟨by decide, unbroken.name⟩, ?_⟩
  simpa using fun m member => EnumMember.oneLine (unbroken.members m member)

theorem Unbroken.regular {d : EnumDecl} (unbroken : d.Unbroken) : Regular d.render :=
  .braced unbroken.oneLine.1 (.inl rfl) unbroken.oneLine.2

theorem Plain.unbroken {d : EnumDecl} (plain : d.Plain) : d.Unbroken where
  name := oneLine_of_isIdentifier plain.name
  members m member := oneLine_of_isIdentifier (plain.members m member)

/-- An enum can be read back from its text, whatever strings its members stand for. -/
theorem render_inj (d e : EnumDecl) (first : d.Plain) (second : e.Plain)
    (same : d.render = e.render) : d = e := by
  have one := first.unbroken.oneLine
  have other := second.unbroken.oneLine
  obtain ⟨opening, lines⟩ := braced_inj one.1 other.1 (by decide) one.2 other.2 same
  have name := (String.append_right_inj _).mp opening
  have members := map_inj_on EnumMember.line_inj first.members second.members lines
  cases d
  cases e
  simp_all

end EnumDecl

def FieldDecl.line (f : FieldDecl) : String := Text.propertyKey f.name ++ ": " ++ f.expr ++ ";"

theorem FieldDecl.oneLine {f : FieldDecl} (type : OneLine f.expr) : OneLine f.line := by
  have key := oneLine_propertyKey f.name
  simp_all [line, OneLine]

theorem FieldDecl.toList_line (f : FieldDecl) : f.line.toList =
    (Text.propertyKey f.name).toList ++ ':' :: ' ' :: (f.expr.toList ++ [';']) := by
  simp [line]

theorem FieldDecl.line_inj (f g : FieldDecl) (same : f.line = g.line) : f = g := by
  have chars := congrArg String.toList same
  rw [toList_line, toList_line] at chars
  obtain ⟨name, rest⟩ := Text.propertyKey_append_inj chars
  simp only [List.cons.injEq, true_and] at rest
  have type := List.append_cancel_right rest
  cases f
  cases g
  simp_all [String.toList_inj]

theorem oneLine_typeOpening {name : String} (bare : OneLine name) :
    OneLine ("export type " ++ name ++ " =") := by
  simp_all [OneLine]

theorem typeOpening_inj {name other : String}
    (same : "export type " ++ name ++ " =" = "export type " ++ other ++ " =") : name = other :=
  (String.append_right_inj _).mp ((String.append_left_inj _).mp same)

structure TableDecl.Unbroken (t : TableDecl) : Prop where
  typeName : OneLine t.typeName
  types : ∀ f ∈ t.fields, OneLine f.expr

structure TableDecl.Plain (t : TableDecl) : Prop where
  typeName : Text.isIdentifier t.typeName
  types : ∀ f ∈ t.fields, OneLine f.expr

namespace TableDecl

theorem Unbroken.oneLine {t : TableDecl} (unbroken : t.Unbroken) :
    OneLine ("export type " ++ t.typeName ++ " =") ∧
      ∀ l ∈ t.fields.map FieldDecl.line, OneLine l := by
  refine ⟨oneLine_typeOpening unbroken.typeName, ?_⟩
  simpa using fun f member => FieldDecl.oneLine (unbroken.types f member)

theorem Unbroken.regular {t : TableDecl} (unbroken : t.Unbroken) : Regular t.render :=
  .braced unbroken.oneLine.1 (.inr rfl) unbroken.oneLine.2

theorem Plain.unbroken {t : TableDecl} (plain : t.Plain) : t.Unbroken where
  typeName := oneLine_of_isIdentifier plain.typeName
  types := plain.types

/-- A record type can be read back from its text, whatever its fields are called. -/
theorem render_inj {t u : TableDecl} (first : t.Plain) (second : u.Plain)
    (same : t.render = u.render) : t.typeName = u.typeName ∧ t.fields = u.fields := by
  have one := first.unbroken.oneLine
  have other := second.unbroken.oneLine
  obtain ⟨opening, lines⟩ := braced_inj one.1 other.1 (by decide) one.2 other.2 same
  exact ⟨typeOpening_inj opening, (List.map_inj_right FieldDecl.line_inj).mp lines⟩

end TableDecl

def registry (name : String) (tables : List TableDecl) : EnumDecl :=
  ⟨name, tables.map fun t => ⟨t.typeName, t.runtime⟩⟩

theorem renderRegistry_eq (name : String) (tables : List TableDecl) :
    renderRegistry name tables = (registry name tables).render := by
  simp [renderRegistry, registry, EnumDecl.render, Function.comp_def]

theorem registry_unbroken {name : String} {tables : List TableDecl} (bare : OneLine name)
    (unbroken : ∀ t ∈ tables, t.Unbroken) : (registry name tables).Unbroken where
  name := bare
  members := by simpa [registry] using fun t member => (unbroken t member).typeName

theorem registry_plain {name : String} {tables : List TableDecl} (valid : Text.isIdentifier name)
    (plain : ∀ t ∈ tables, t.Plain) : (registry name tables).Plain where
  name := valid
  members := by simpa [registry] using fun t member => (plain t member).typeName

theorem tableMap_oneLine {name : String} {tables : List TableDecl} (bare : OneLine name)
    (unbroken : ∀ t ∈ tables, t.Unbroken) :
    OneLine ("export type " ++ name ++ " =") ∧
      ∀ l ∈ tables.map (fun t => Text.quote t.runtime ++ ": " ++ t.typeName ++ ";"), OneLine l := by
  refine ⟨oneLine_typeOpening bare, ?_⟩
  rw [List.forall_mem_map]
  intro t member
  have typeName := (unbroken t member).typeName
  have runtime := oneLine_quote t.runtime
  simp_all [OneLine]

theorem renderTableMap_regular {name : String} {tables : List TableDecl} (bare : OneLine name)
    (unbroken : ∀ t ∈ tables, t.Unbroken) : Regular (renderTableMap name tables) :=
  .braced (tableMap_oneLine bare unbroken).1 (.inr rfl) (tableMap_oneLine bare unbroken).2

theorem renderTableMap_name {name other : String} {tables others : List TableDecl}
    (bare : OneLine name) (unbroken : ∀ t ∈ tables, t.Unbroken)
    (bareOther : OneLine other) (unbrokenOther : ∀ t ∈ others, t.Unbroken)
    (same : renderTableMap name tables = renderTableMap other others) : name = other := by
  obtain ⟨opening, _⟩ := braced_inj (tableMap_oneLine bare unbroken).1
    (tableMap_oneLine bareOther unbrokenOther).1 (by decide) (tableMap_oneLine bare unbroken).2
    (tableMap_oneLine bareOther unbrokenOther).2 same
  exact typeOpening_inj opening

end SchemaTypes
