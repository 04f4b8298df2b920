import Mathlib.Data.List.Basic
import Mathlib.Data.List.Induction
import SchemaTypes.Proofs.Relevance

/-! Override maps and what was written to them. A map is known by the entries that were written last
under each key of its own history: it answers with them, it lists them in the order of their keys,
and neither the order of the other writes nor a copy of the map has a say in it. -/
namespace SchemaTypes
namespace OverrideMap

theorem utf8_ne_of_lt {a b : String} (before : utf8 a < utf8 b) : a ≠ b := by
  rintro rfl
  exact List.lt_irrefl _ before

theorem mem_entries_iff (map : OverrideMap ρ) {key : String} {entry : Entry ρ} :
    (key, entry) ∈ map.entries ↔ map.get? key = some entry := by
  rw [get?, List.lookup_eq_some_iff]
  constructor
  · intro member
    obtain ⟨before, after, parts⟩ := List.append_of_mem member
    have increasing := map.increasing
    rw [parts, List.pairwise_append] at increasing
    refine ⟨before, after, parts, fun pair earlier => ?_⟩
    have lower := increasing.2.2 pair earlier (key, entry) List.mem_cons_self
    exact bne_iff_ne.mpr (utf8_ne_of_lt lower).symm
  · rintro ⟨before, after, parts, -⟩
    rw [parts]
    exact List.mem_append_right before List.mem_cons_self

theorem entries_nodup (map : OverrideMap ρ) : map.entries.Nodup :=
  map.increasing.imp fun before same => utf8_ne_of_lt before (congrArg Prod.fst same)

theorem eq_of_get? {a b : OverrideMap ρ} (same : ∀ key, a.get? key = b.get? key) : a = b := by
  have members : ∀ pair, pair ∈ a.entries ↔ pair ∈ b.entries := by
    rintro ⟨key, entry⟩
    rw [mem_entries_iff, mem_entries_iff, same]
  have permuted : a.entries.Perm b.entries :=
    (List.perm_ext_iff_of_nodup a.entries_nodup b.entries_nodup).mpr members
  have entries : a.entries = b.entries := by
    refine permuted.eq_of_pairwise ?_ a.increasing b.increasing
    intro x y _ _ before after
    exact absurd (List.lt_trans before after) (List.lt_irrefl _)
  cases a
  cases b
  congr

theorem mem_keys_iff (map : OverrideMap ρ) {key : String} :
    key ∈ map.keys ↔ (map.get? key).isSome := by
  constructor
  · intro member
    obtain ⟨⟨_, entry⟩, inside, rfl⟩ := List.mem_map.mp member
    rw [map.mem_entries_iff.mp inside]
    rfl
  · intro present
    obtain ⟨entry, found⟩ := Option.isSome_iff_exists.mp present
    exact List.mem_map_of_mem (f := (·.1)) (map.mem_entries_iff.mpr found)

theorem listed_eq (map : OverrideMap ρ) : map.listed =
    "\x7b" ++ ", ".intercalate (map.keys.filterMap fun key =>
      (map.get? key).map fun entry => Text.listed key ++ ": " ++ entry.listed) ++ "\x7d" := by
  have found : ∀ pair ∈ map.entries, ((map.get? pair.1).map fun entry =>
      Text.listed pair.1 ++ ": " ++ entry.listed) =
        some (Text.listed pair.1 ++ ": " ++ pair.2.listed) := by
    intro pair member
    rw [map.mem_entries_iff.mp member, Option.map_some]
  rw [keys, List.filterMap_map]
  simp only [Function.comp_def]
  rw [List.filterMap_congr found, List.filterMap_eq_map']
  rfl

/-- What was written to a map, the first write first. -/
abbrev History (ρ : Type) := List (String × Entry ρ)

def lastEntry (history : History ρ) (key : String) : Option (Entry ρ) := history.reverse.lookup key

/-- A text that lists the keys of a history, each once and in the order of their bytes, with the
entries written last. -/
def Lists (history : History ρ) (text : String) : Prop :=
  ∃ keys : List String, keys.Pairwise (fun a b => utf8 a < utf8 b) ∧
    (∀ key, key ∈ keys ↔ key ∈ history.map (·.1)) ∧
    text = "\x7b" ++ ", ".intercalate (keys.filterMap fun key =>
      (lastEntry history key).map fun entry => Text.listed key ++ ": " ++ entry.listed) ++ "\x7d"

/-- A map that answers as its history says. -/
structure TrueTo (map : OverrideMap ρ) (history : History ρ) : Prop where
  get? : ∀ key, map.get? key = lastEntry history key
  wildcard? : map.wildcard? = map.get? "*"
  isEmpty_iff : map.isEmpty = true ↔ history = []
  listed : Lists history map.listed

theorem lastEntry_concat (history : History ρ) (last : String × Entry ρ) (key : String) :
    lastEntry (history ++ [last]) key =
      if key = last.1 then some last.2 else lastEntry history key := by
  obtain ⟨written, entry⟩ := last
  rw [lastEntry, List.reverse_append, List.reverse_singleton, List.singleton_append,
    lookup_cons_eq_ite, lastEntry]

theorem isSome_lastEntry_iff (history : History ρ) {key : String} :
    (lastEntry history key).isSome ↔ key ∈ history.map (·.1) := by
  simp only [lastEntry, List.lookup_isSome_iff, List.mem_reverse, beq_iff_eq, List.mem_map,
    eq_comm (a := key)]

theorem trueTo_of_get? {map : OverrideMap ρ} {history : History ρ}
    (answers : ∀ key, map.get? key = lastEntry history key) : map.TrueTo history := by
  have keys (key : String) : key ∈ map.keys ↔ key ∈ history.map (·.1) := by
    rw [mem_keys_iff, answers, isSome_lastEntry_iff]
  refine ⟨answers, rfl, ?_, map.keys, ?_, keys, ?_⟩
  · have alike : map.keys = [] ↔ history.map (·.1) = [] := by
      simp only [List.eq_nil_iff_forall_not_mem, keys]
    rw [isEmpty, List.isEmpty_iff, ← List.map_eq_nil_iff (f := (·.1)), ← OverrideMap.keys, alike,
      List.map_eq_nil_iff]
  · exact List.pairwise_map.mpr map.increasing
  · simp only [← answers]
    exact map.listed_eq

/-- What is written to a map. Collecting pairs makes it anew. -/
inductive Write (ρ : Type)
  | insert (key : String) (entry : Entry ρ)
  | withLiteral (key text : String)
  | collect (pairs : List (String × String))

/-- One step with a current and a saved map: a write to the current one, a copy of it that is saved,
or an exchange of the two. -/
inductive Step (ρ : Type)
  | write (w : Write ρ)
  | save
  | swap

def Write.onMap : Write ρ → OverrideMap ρ → OverrideMap ρ
  | .insert key entry, map => map.insert key entry
  | .withLiteral key text, map => map.withLiteral key text
  | .collect pairs, _ => ofLiterals pairs

def Write.onHistory : Write ρ → History ρ → History ρ
  | .insert key entry, history => history ++ [(key, entry)]
  | .withLiteral key text, history => history ++ [(key, .literal text)]
  | .collect pairs, _ => pairs.map fun (key, text) => (key, .literal text)

structure Slots (α : Type) where
  current : α
  saved : α

def Step.apply (change : Write ρ → α → α) (slots : Slots α) : Step ρ → Slots α
  | .write w => { slots with current := change w slots.current }
  | .save => { slots with saved := slots.current }
  | .swap => ⟨slots.saved, slots.current⟩

def mapsAfter (steps : List (Step ρ)) : Slots (OverrideMap ρ) :=
  steps.foldl (Step.apply Write.onMap) ⟨empty, empty⟩

def historiesAfter (steps : List (Step ρ)) : Slots (History ρ) :=
  steps.foldl (Step.apply Write.onHistory) ⟨[], []⟩

theorem get?_ofLiterals (pairs : List (String × String)) (key : String) :
    (ofLiterals pairs : OverrideMap ρ).get? key =
      lastEntry (pairs.map fun (key, text) => (key, .literal text)) key := by
  induction pairs using List.reverseRecOn with
  | nil => rfl
  | append_singleton pairs pair ih =>
    have last : (ofLiterals (pairs ++ [pair]) : OverrideMap ρ) =
        (ofLiterals pairs).withLiteral pair.1 pair.2 := by
      rw [ofLiterals, List.foldl_concat, ← ofLiterals]
    rw [last, withLiteral, get?_insert, List.map_append, List.map_singleton, lastEntry_concat, ih]

theorem Write.keeps (w : Write ρ) {map : OverrideMap ρ} {history : History ρ}
    (answers : ∀ key, map.get? key = lastEntry history key) (key : String) :
    (w.onMap map).get? key = lastEntry (w.onHistory history) key := by
  cases w with
  | insert written entry => rw [onMap, onHistory, get?_insert, lastEntry_concat, answers]
  | withLiteral written text =>
    rw [onMap, onHistory, OverrideMap.withLiteral, get?_insert, lastEntry_concat, answers]
  | collect pairs => exact get?_ofLiterals pairs key

/-- Both maps answer as their histories say. -/
structure Answering (maps : Slots (OverrideMap ρ)) (histories : Slots (History ρ)) : Prop where
  current : ∀ key, maps.current.get? key = lastEntry histories.current key
  saved : ∀ key, maps.saved.get? key = lastEntry histories.saved key

theorem Step.keeps (step : Step ρ) {maps : Slots (OverrideMap ρ)} {histories : Slots (History ρ)}
    (answering : Answering maps histories) :
    Answering (step.apply Write.onMap maps) (step.apply Write.onHistory histories) := by
  cases step with
  | write w => exact ⟨w.keeps answering.current, answering.saved⟩
  | save => exact ⟨answering.current, answering.current⟩
  | swap => exact ⟨answering.saved, answering.current⟩

theorem answering_after (steps : List (Step ρ)) :
    Answering (mapsAfter steps) (historiesAfter steps) := by
  induction steps using List.reverseRecOn with
  | nil => exact ⟨fun _ => rfl, fun _ => rfl⟩
  | append_singleton steps step ih =>
    rw [mapsAfter, historiesAfter, List.foldl_concat, List.foldl_concat]
    exact step.keeps ih

theorem saved_of_writes (writes : List (Write ρ)) (slots : Slots (OverrideMap ρ)) :
    ((writes.map Step.write).foldl (Step.apply Write.onMap) slots).saved = slots.saved := by
  induction writes generalizing slots with
  | nil => rfl
  | cons w writes ih => exact ih _

/-- After any steps each map is true to its own history, and writes to one of the two maps leave the
other as it is. Two current maps under whose keys the same was written last answer alike and have
one text, whatever the steps were that led to them. -/
theorem maps_true_to_histories (steps : List (Step ρ)) :
    let maps := mapsAfter steps
    let histories := historiesAfter steps
    (maps.current.TrueTo histories.current ∧ maps.saved.TrueTo histories.saved) ∧
    (∀ writes : List (Write ρ),
      (mapsAfter (steps ++ writes.map .write)).saved = maps.saved ∧
      (mapsAfter (steps ++ .swap :: writes.map .write ++ [.swap])).current = maps.current) ∧
    ∀ other : List (Step ρ),
      (∀ key, lastEntry histories.current key = lastEntry (historiesAfter other).current key) →
      (∀ key, maps.current.get? key = (mapsAfter other).current.get? key) ∧
      maps.current.listed = (mapsAfter other).current.listed := by
  intro maps histories
  have answering : Answering maps histories := answering_after steps
  refine ⟨⟨trueTo_of_get? answering.current, trueTo_of_get? answering.saved⟩, ?_, ?_⟩
  · intro writes
    constructor
    · rw [mapsAfter, List.foldl_append]
      exact saved_of_writes writes _
    · rw [mapsAfter, List.foldl_append, List.foldl_append]
      exact saved_of_writes writes ⟨maps.saved, maps.current⟩
  · intro other same
    have answers (key : String) : maps.current.get? key = (mapsAfter other).current.get? key := by
      rw [answering.current, (answering_after other).current, same]
    exact ⟨answers, congrArg listed (eq_of_get? answers)⟩

/-- One map is written key by key while a copy of it is kept aside, the other is collected, and the
resolver comes first or last. -/
theorem maps_true_to_histories_of_two_orders :
    let resolver : Entry NameResolver := .resolver fun _ _ _ => .ok none
    let steps : List (Step NameResolver) := [.write (.insert "b" resolver), .save, .swap,
      .write (.withLiteral "a" "one"), .write (.withLiteral "a" "two")]
    let other : List (Step NameResolver) :=
      [.write (.collect [("a", "one"), ("a", "two")]), .write (.insert "b" resolver)]
    (∀ key, lastEntry (historiesAfter steps).current key =
      lastEntry (historiesAfter other).current key) ∧
    (∀ key, (mapsAfter steps).current.get? key = (mapsAfter other).current.get? key) ∧
    (mapsAfter steps).current.listed = (mapsAfter other).current.listed ∧
    (mapsAfter other).current.listed = "\x7b\"a\": Literal(\"two\"), \"b\": Resolver(..)\x7d" ∧
    (mapsAfter steps).saved.keys = ["b"] := by
  intro resolver steps other
  have same (key : String) : lastEntry (historiesAfter steps).current key =
      lastEntry (historiesAfter other).current key := by
    show List.lookup key [("a", .literal "two"), ("a", .literal "one"), ("b", resolver)] =
      List.lookup key [("b", resolver), ("a", .literal "two"), ("a", .literal "one")]
    simp only [lookup_cons_eq_ite]
    by_cases b : key = "b"
    · simp [b]
    · simp [b]
  obtain ⟨-, -, orders⟩ := maps_true_to_histories steps
  obtain ⟨answers, texts⟩ := orders other same
  exact ⟨same, answers, texts, by decide +kernel, by decide +kernel⟩

end OverrideMap
end SchemaTypes
