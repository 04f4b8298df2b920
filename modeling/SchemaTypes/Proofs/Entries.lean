import Mathlib.Data.List.DropRight
import SchemaTypes.Selection

/-! The entries of a list as a user writes it. Commas and items cut it alike, so a list of texts has
the entries of the texts joined with commas; an entry holds neither a comma nor a blank at its ends,
so it is its own only entry. -/
namespace SchemaTypes
namespace Text

/-- No blank at either end. -/
structure Trimmed (s : List Char) : Prop where
  opens : ∀ c ∈ s.head?, isBlank c = false
  closes : ∀ c ∈ s.getLast?, isBlank c = false

theorem dropTrailing_eq (p : α → Bool) (l : List α) : dropTrailing p l = l.rdropWhile p := rfl

theorem trimChars_prefix_dropWhile (s : List Char) : trimChars s <+: s.dropWhile isBlank := by
  rw [trimChars, dropTrailing_eq]
  exact List.rdropWhile_prefix isBlank _

theorem trimmed_trimChars (s : List Char) : Trimmed (trimChars s) where
  opens := by
    intro c first
    obtain ⟨tail, same⟩ := trimChars_prefix_dropWhile s
    have opened : (s.dropWhile isBlank).head? = some c := by
      rw [← same, List.head?_append, Option.mem_def.mp first, Option.some_or]
    have other := List.head?_dropWhile_not isBlank s
    rwa [opened] at other
  closes := by
    intro c last
    have other := List.head?_dropWhile_not isBlank (s.dropWhile isBlank).reverse
    rw [trimChars, dropTrailing, List.getLast?_reverse] at last
    rwa [Option.mem_def.mp last] at other

theorem trimChars_of_trimmed {s : List Char} (trimmed : Trimmed s) : trimChars s = s := by
  have front : s.dropWhile isBlank = s := by
    rw [List.dropWhile_eq_self_iff]
    intro filled
    simpa using trimmed.opens s[0] (by simp [List.head?_eq_getElem?])
  rw [trimChars, front, dropTrailing_eq, List.rdropWhile_eq_self_iff]
  intro filled
  simpa using trimmed.closes _ (List.getLast?_eq_some_getLast filled)

theorem trimChars_trimChars (s : List Char) : trimChars (trimChars s) = trimChars s :=
  trimChars_of_trimmed (trimmed_trimChars s)

theorem mem_of_mem_trimChars {c : Char} {s : List Char} (member : c ∈ trimChars s) : c ∈ s :=
  (List.dropWhile_sublist _).mem ((trimChars_prefix_dropWhile s).mem member)

end Text

theorem not_mem_of_mem_splitOn [DecidableEq α] {sep : α} {l part : List α}
    (member : part ∈ l.splitOn sep) : sep ∉ part := by
  induction l generalizing part with
  | nil => simp [List.mem_singleton.mp member]
  | cons a l ih =>
    obtain ⟨first, rest, split⟩ := List.exists_cons_of_ne_nil (List.splitOn_ne_nil sep l)
    rw [List.splitOn_cons_eq_if_modifyHead, split] at member
    rw [split] at ih
    split at member
    · rcases List.mem_cons.mp member with rfl | later
      · exact List.not_mem_nil
      · exact ih later
    · next other =>
      rcases List.mem_cons.mp member with rfl | later
      · rw [List.mem_cons, not_or]
        exact ⟨fun same => other (beq_iff_eq.mpr same.symm), ih List.mem_cons_self⟩
      · exact ih (List.mem_cons_of_mem first later)

/-- A text that can stand as an entry, between commas and with blanks around it. -/
structure IsEntry (text : String) : Prop where
  filled : text ≠ ""
  single : ',' ∉ text.toList
  trimmed : Text.trim text = text

namespace ListSpec

theorem parts_append (a b : String) : parts (a ++ "," ++ b) = parts a ++ parts b := by
  have comma : (a ++ "," ++ b).toList = a.toList ++ ',' :: b.toList := by simp
  rw [parts, comma, List.splitOn_append_cons_self, List.map_append, List.filter_append]
  rfl

theorem parts_intercalate (items : List String) :
    parts (",".intercalate items) = items.flatMap parts := by
  induction items with
  | nil => rfl
  | cons item rest ih =>
    cases rest with
    | nil => simp
    | cons next rest => rw [String.intercalate_cons_cons, parts_append, ih, ← List.flatMap_cons]

theorem isEntry_of_mem_parts {text part : String} (member : part ∈ parts text) : IsEntry part := by
  obtain ⟨cut, filled⟩ := List.mem_filter.mp member
  obtain ⟨chars, between, rfl⟩ := List.mem_map.mp cut
  refine ⟨of_decide_eq_true filled, ?_, ?_⟩
  · rw [String.toList_ofList]
    exact fun comma => not_mem_of_mem_splitOn between (Text.mem_of_mem_trimChars comma)
  · rw [Text.trim, String.toList_ofList, Text.trimChars_trimChars]

theorem isEntry_of_mem {spec : ListSpec} {entry : String} (member : entry ∈ spec.entries) :
    IsEntry entry := by
  cases spec with
  | joined text => exact isEntry_of_mem_parts member
  | list items =>
    obtain ⟨item, -, part⟩ := List.mem_flatMap.mp member
    exact isEntry_of_mem_parts part

theorem parts_of_isEntry {text : String} (entry : IsEntry text) : parts text = [text] := by
  have trimmed : String.ofList (Text.trimChars text.toList) = text := entry.trimmed
  rw [parts, List.splitOn_eq_singleton entry.single, List.map_singleton, trimmed]
  simp [entry.filled]

theorem entries_list_of_isEntry {items : List String} (each : ∀ item ∈ items, IsEntry item) :
    (list items).entries = items := by
  induction items with
  | nil => rfl
  | cons item rest ih =>
    have first := parts_of_isEntry (each item List.mem_cons_self)
    have later := ih fun other member => each other (List.mem_cons_of_mem item member)
    rw [entries] at later
    rw [entries, List.flatMap_cons, first, later, List.singleton_append]

theorem entries_joined (items : List String) :
    (joined (",".intercalate items)).entries = (list items).entries := parts_intercalate items

/-- A list of texts has the same entries as the texts joined with commas. The texts that are entries
of any list are those that are not empty, hold no comma and are not changed by trimming; a list of
the entries of a list has just these. -/
theorem entries_of_forms (items : List String) :
    (list items).entries = (joined (",".intercalate items)).entries ∧
    (∀ text, (∃ spec : ListSpec, text ∈ spec.entries) ↔ IsEntry text) ∧
    ∀ spec : ListSpec, (list spec.entries).entries = spec.entries := by
  refine ⟨(entries_joined items).symm, ?_, ?_⟩
  · intro text
    constructor
    · rintro ⟨spec, member⟩
      exact isEntry_of_mem member
    · intro entry
      have own : text ∈ (joined text).entries := by
        rw [entries, parts_of_isEntry entry]
        exact List.mem_singleton_self text
      exact ⟨joined text, own⟩
  · intro spec
    exact entries_list_of_isEntry fun entry member => isEntry_of_mem member

/-- Items of commas and blanks alone have no entry, and a no-break space is a blank. -/
example : (list ["a,,\u00a0b", " , ", "!c\u3000"]).entries = ["a", "b", "!c"] := by decide +kernel

end ListSpec
end SchemaTypes
