import SchemaTypes.Catalog
import SchemaTypes.Text.Basic
import SchemaTypes.Text.Visible

/-! Overrides of names and types. A map holds one entry per key, a fixed text or a resolver that is
asked for its opinion. Keys are exact names (a table, a schema, a column, `table.column`, an enum, a
stored type) or `*`, which stands for every name and is asked last. -/
namespace SchemaTypes

inductive NameCategory
  | table
  | schema
  | column
  deriving DecidableEq, Repr

def NameCategory.text : NameCategory → String
  | .table => "table"
  | .schema => "schema"
  | .column => "column"

/-- An opinion on the text so far, none, or a failure with a message. -/
abbrev Opinion := Except String (Option String)

abbrev NameResolver := Column → NameCategory → String → Opinion

abbrev TypeResolver := Column → String → Opinion

inductive Entry (ρ : Type)
  | literal (text : String)
  | resolver (resolve : ρ)

namespace Entry

def literal? : Entry ρ → Option String
  | .literal text => some text
  | .resolver _ => none

def listed : Entry ρ → String
  | .literal text => "Literal(" ++ Text.listed text ++ ")"
  | .resolver _ => "Resolver(..)"

end Entry

/-- Entries with increasing keys, in the order of their bytes. -/
structure OverrideMap (ρ : Type) where
  entries : List (String × Entry ρ)
  increasing : entries.Pairwise fun a b => utf8 a.1 < utf8 b.1

abbrev NameOverrides := OverrideMap NameResolver

abbrev TypeOverrides := OverrideMap TypeResolver

namespace OverrideMap

def wildcardKey : String := "*"

/-- The list with `entry` at its place; an entry with the same key gives way. -/
def insertSorted (key : String) (entry : Entry ρ) :
    List (String × Entry ρ) → List (String × Entry ρ)
  | [] => [(key, entry)]
  | (other, old) :: rest =>
    if utf8 key < utf8 other then (key, entry) :: (other, old) :: rest
    else if key = other then (key, entry) :: rest
    else (other, old) :: insertSorted key entry rest

theorem fst_of_mem_insertSorted {key : String} {entry : Entry ρ} {a : String × Entry ρ} :
    ∀ {l}, a ∈ insertSorted key entry l → a.1 = key ∨ a ∈ l
  | [], h => by simp [insertSorted] at h; simp [h]
  | (other, old) :: rest, h => by
    simp only [insertSorted] at h
    split at h
    · simp only [List.mem_cons] at h ⊢
      rcases h with rfl | h
      · exact .inl rfl
      · exact .inr h
    · split at h
      · simp only [List.mem_cons] at h ⊢
        rcases h with rfl | h
        · exact .inl rfl
        · exact .inr (.inr h)
      · simp only [List.mem_cons] at h ⊢
        rcases h with rfl | h
        · exact .inr (.inl rfl)
        · exact (fst_of_mem_insertSorted h).imp id .inr

theorem insertSorted_increasing (key : String) (entry : Entry ρ) :
    ∀ {l : List (String × Entry ρ)}, l.Pairwise (fun a b => utf8 a.1 < utf8 b.1) →
      (insertSorted key entry l).Pairwise fun a b => utf8 a.1 < utf8 b.1
  | [], _ => by simp [insertSorted]
  | (other, old) :: rest, h => by
    have ⟨first, tail⟩ := List.pairwise_cons.1 h
    simp only [insertSorted]
    split
    · next before =>
      refine List.pairwise_cons.2 ⟨fun a ha => ?_, h⟩
      rcases List.mem_cons.1 ha with rfl | ha
      · exact before
      · exact List.lt_trans before (first a ha)
    · next notBefore =>
      split
      · next same => subst same; exact List.pairwise_cons.2 ⟨first, tail⟩
      · next differ =>
        have after : utf8 other < utf8 key :=
          Std.lt_of_le_of_ne (List.not_lt.1 notBefore) fun h => differ (utf8_injective h).symm
        refine List.pairwise_cons.2 ⟨fun a ha => ?_, insertSorted_increasing key entry tail⟩
        rcases fst_of_mem_insertSorted ha with key | ha
        · simpa [key] using after
        · exact first a ha

def empty : OverrideMap ρ := ⟨[], .nil⟩

def insert (map : OverrideMap ρ) (key : String) (entry : Entry ρ) : OverrideMap ρ :=
  ⟨insertSorted key entry map.entries, insertSorted_increasing key entry map.increasing⟩

def withLiteral (map : OverrideMap ρ) (key text : String) : OverrideMap ρ :=
  map.insert key (.literal text)

/-- Fixed texts only; of two with one key the later stays. -/
def ofLiterals (pairs : List (String × String)) : OverrideMap ρ :=
  pairs.foldl (fun map pair => map.withLiteral pair.1 pair.2) empty

def get? (map : OverrideMap ρ) (key : String) : Option (Entry ρ) := map.entries.lookup key

def wildcard? (map : OverrideMap ρ) : Option (Entry ρ) := map.get? wildcardKey

def isEmpty (map : OverrideMap ρ) : Bool := map.entries.isEmpty

def keys (map : OverrideMap ρ) : List String := map.entries.map (·.1)

def literal? (map : OverrideMap ρ) (key : String) : Option String :=
  (map.get? key).bind Entry.literal?

def listed (map : OverrideMap ρ) : String :=
  "\x7b" ++ ", ".intercalate (map.entries.map fun (key, entry) =>
    Text.listed key ++ ": " ++ entry.listed) ++ "\x7d"

instance : EmptyCollection (OverrideMap ρ) := ⟨empty⟩
instance : Inhabited (OverrideMap ρ) := ⟨empty⟩

end OverrideMap
end SchemaTypes
