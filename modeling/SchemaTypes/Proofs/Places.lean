import SchemaTypes.FileTree

/-! Files that are made. A created file holds what is put into it, under the path that it was created
for, and creating it leaves every file and directory that was there before, but for the file that it
cuts. -/
namespace SchemaTypes
namespace FileTree
variable {t made : FileTree} {place other goal : Place} {path : String}

theorem lookup_filter_ne (different : other ≠ place) (nodes : List (Place × Node)) :
    (nodes.filter (·.1 ≠ place)).lookup other = nodes.lookup other := by
  induction nodes with
  | nil => rfl
  | cons first rest ih =>
    obtain ⟨key, node⟩ := first
    by_cases same : key = place
    · subst same
      simpa [List.lookup_cons, beq_eq_false_iff_ne.mpr different] using ih
    · simp only [ne_eq, same, not_false_eq_true, decide_true, List.filter_cons_of_pos,
        List.lookup_cons, ← ih]

theorem node?_put_self (t : FileTree) (below : place ≠ []) (node : Node) :
    (t.put place node).node? place = some node := by
  simp [node?, put, below]

theorem node?_put_of_ne (t : FileTree) (different : other ≠ place) (node : Node) :
    (t.put place node).node? other = t.node? other := by
  simp only [node?, put, List.lookup_cons, beq_eq_false_iff_ne.mpr different,
    lookup_filter_ne different]

/-- A file does not stand in the way to where no directory was. -/
theorem isDirectory_put (absent : t.isDirectory place = false) (node : Node)
    (directory : t.isDirectory other) : (t.put place node).isDirectory other := by
  have different : other ≠ place := by
    rintro rfl
    simp [absent] at directory
  rwa [isDirectory, node?_put_of_ne t different]

theorem walk_of_directories (kept : ∀ place, t.isDirectory place → made.isDirectory place)
    {parts : List String} (found : t.walk place parts = some goal) :
    made.walk place parts = some goal := by
  induction parts generalizing place with
  | nil => exact found
  | cons part rest ih =>
    simp only [walk] at found ⊢
    split at found
    · next passable =>
      have named := Bool.and_eq_true_iff.mp passable
      rw [if_pos (Bool.and_eq_true_iff.mpr ⟨named.1, kept _ named.2⟩)]
      exact ih found
    · simp at found

theorem locate_of_directories (kept : ∀ place, t.isDirectory place → made.isDirectory place)
    (found : t.locate path = some goal) : made.locate path = some goal := by
  cases ends : (parts path).getLast? with
  | none => simpa only [locate, ends] using found
  | some last =>
    simp only [locate, ends] at found ⊢
    split at found
    · next valid =>
      rw [if_pos valid]
      obtain ⟨directory, walked, rfl⟩ := Option.map_eq_some_iff.mp found
      exact Option.map_eq_some_iff.mpr ⟨directory, walk_of_directories kept walked, rfl⟩
    · simp at found

/-- First directories are made; the file is put where the path then leads, unless that is a
directory. -/
theorem create_cases {place? : Option Place} (created : t.create path = (made, place?)) :
    ∃ directories reached, t.makeDirectories [] (parts path).dropLast = (directories, reached) ∧
      (place? = none ∧ made = directories ∨
        ∃ place, place? = some place ∧ endsInDirectory path = false ∧
          directories.locate path = some place ∧ directories.isDirectory place = false ∧
          made = directories.put place (.file [])) := by
  unfold create at created
  split at created
  · next directories stopped =>
    obtain ⟨rfl, rfl⟩ := Prod.mk.inj created
    exact ⟨directories, false, stopped, .inl ⟨rfl, rfl⟩⟩
  · next directories reached =>
    refine ⟨directories, true, reached, ?_⟩
    split at created
    · obtain ⟨rfl, rfl⟩ := Prod.mk.inj created
      exact .inl ⟨rfl, rfl⟩
    · next ends =>
      split at created
      · obtain ⟨rfl, rfl⟩ := Prod.mk.inj created
        exact .inl ⟨rfl, rfl⟩
      · next goal located =>
        split at created
        · obtain ⟨rfl, rfl⟩ := Prod.mk.inj created
          exact .inl ⟨rfl, rfl⟩
        · next free =>
          obtain ⟨rfl, rfl⟩ := Prod.mk.inj created
          exact .inr ⟨goal, rfl, by simpa using ends, located, by simpa using free, rfl⟩

theorem locate_put_of_create (created : t.create path = (made, some place)) (content : Bytes) :
    place ≠ [] ∧ (made.put place (.file content)).locate path = some place := by
  obtain ⟨directories, _, -, ⟨⟨⟩, -⟩ | ⟨_, ⟨⟩, ends, located, free, rfl⟩⟩ := create_cases created
  have below : place ≠ [] := by
    rintro rfl
    simp [isDirectory, node?] at free
  have stillFree : (directories.put place (.file [])).isDirectory place = false := by
    simp [isDirectory, node?_put_self _ below]
  refine ⟨below, locate_of_directories ?_ located⟩
  intro other directory
  exact isDirectory_put stillFree _ (isDirectory_put free _ directory)

theorem read_put_of_create (created : t.create path = (made, some place)) (content : Bytes) :
    (made.put place (.file content)).read path = some content := by
  obtain ⟨below, located⟩ := locate_put_of_create created content
  obtain ⟨_, _, -, ⟨⟨⟩, -⟩ | ⟨_, ⟨⟩, ends, -, -, -⟩⟩ := create_cases created
  rw [read, ends, located, Option.bind_some, node?_put_self _ below]
  rfl

theorem makeDirectories_keeps {parts : List String} {reached : Bool} {node : Node}
    (walked : t.makeDirectories place parts = (made, reached)) (there : t.node? other = some node) :
    made.node? other = some node := by
  induction parts generalizing t place with
  | nil =>
    obtain ⟨rfl, _⟩ := Prod.mk.inj walked
    exact there
  | cons part rest ih =>
    simp only [makeDirectories] at walked
    split at walked
    · obtain ⟨rfl, _⟩ := Prod.mk.inj walked
      exact there
    · split at walked
      · exact ih walked there
      · obtain ⟨rfl, _⟩ := Prod.mk.inj walked
        exact there
      · next absent =>
        apply ih walked
        have different : other ≠ step place part := by
          rintro rfl
          simp [there] at absent
        rwa [node?_put_of_ne t different]

/-- Creating a file leaves everything else as it is, whether it succeeds or not. -/
theorem create_keeps {place? : Option Place} {node : Node}
    (created : t.create path = (made, place?)) (there : t.node? other = some node)
    (different : place? ≠ some other) : made.node? other = some node := by
  obtain ⟨directories, _, walked, ⟨-, rfl⟩ | ⟨place, rfl, -, -, -, rfl⟩⟩ := create_cases created
  · exact makeDirectories_keeps walked there
  · have apart : other ≠ place := fun same => different (congrArg some same.symm)
    rw [node?_put_of_ne _ apart]
    exact makeDirectories_keeps walked there

end FileTree
end SchemaTypes
