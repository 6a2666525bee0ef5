import ServiceClient.Files.Disk

/-! What operations leave as it was on a disk. They make directories and change files at places of
their own; all other files stay, and so do all directories, so that paths lead where they led. -/

namespace ServiceClient.Files.Disk
variable {d d' : Disk} {place other : Place} {path : String}

theorem lookup_cons (p : Place) (node : Node) (nodes : List (Place × Node)) :
    ((p, node) :: nodes).lookup other = if other = p then some node else nodes.lookup other := by
  rw [List.lookup_cons]
  split <;> simp_all

theorem lookup_setNodes (node : Node) (nodes : List (Place × Node)) :
    (setNodes place node nodes).lookup other =
      if other = place then some node else nodes.lookup other := by
  induction nodes with
  | nil => exact lookup_cons place node []
  | cons entry nodes ih =>
    obtain ⟨p, n⟩ := entry
    rw [setNodes, lookup_cons]
    split
    · rename_i met
      rw [lookup_cons, met]
      split <;> rfl
    · rename_i met
      rw [lookup_cons, ih]
      by_cases same : other = p
      · rw [if_pos same, if_pos same, if_neg (same ▸ met)]
      · rw [if_neg same, if_neg same]

theorem lookup_filter_ne (nodes : List (Place × Node)) :
    (nodes.filter (·.1 != place)).lookup other =
      if other = place then none else nodes.lookup other := by
  induction nodes with
  | nil => exact (ite_self none).symm
  | cons entry nodes ih =>
    obtain ⟨p, n⟩ := entry
    rw [lookup_cons]
    by_cases met : p = place
    · rw [List.filter_cons_of_neg (by simpa using met), ih, met]
      split <;> rfl
    · rw [List.filter_cons_of_pos (by simpa using met), lookup_cons, ih]
      by_cases same : other = p
      · rw [if_pos same, if_pos same, if_neg (same ▸ met)]
      · rw [if_neg same, if_neg same]

theorem node?_set (filled : place ≠ []) (node : Node) :
    (d.set place node).node? other = if other = place then some node else d.node? other := by
  by_cases root : other = []
  · simp [node?, root, Ne.symm filled]
  · simp [node?, root, set, lookup_setNodes]

theorem node?_erase (filled : place ≠ []) :
    (d.erase place).node? other = if other = place then none else d.node? other := by
  by_cases root : other = []
  · simp [node?, root, Ne.symm filled]
  · simp [node?, root, erase, lookup_filter_ne]

/-- A step that leaves all directories as they were, and all files but those at the places
`touched`. -/
structure Keeps (touched : List Place) (d d' : Disk) : Prop where
  current : d'.current = d.current
  directories : ∀ {place : Place}, d.node? place = some .directory →
    d'.node? place = some .directory
  files : ∀ {place : Place} {content : String}, place ∉ touched →
    d.node? place = some (.file content) → d'.node? place = some (.file content)

namespace Keeps
variable {touched touched' : List Place} {d'' : Disk}

theorem refl (touched : List Place) (d : Disk) : Keeps touched d d :=
  ⟨rfl, id, fun _ => id⟩

theorem trans (first : Keeps touched d d') (second : Keeps touched d' d'') :
    Keeps touched d d'' where
  current := second.current.trans first.current
  directories := second.directories ∘ first.directories
  files untouched := second.files untouched ∘ first.files untouched

theorem weaken (keeps : Keeps touched d d') (more : touched ⊆ touched') : Keeps touched' d d' where
  current := keeps.current
  directories := keeps.directories
  files untouched := keeps.files fun mem => untouched (more mem)

end Keeps

theorem keeps_set_directory (fresh : d.node? place = none) :
    Keeps [] d (d.set place .directory) := by
  have filled : place ≠ [] := by
    rintro rfl
    cases fresh
  refine ⟨rfl, fun {other} held => ?_, fun {other content} _ held => ?_⟩
  · rw [node?_set filled]
    split
    · rfl
    · exact held
  · rw [node?_set filled, if_neg, held]
    rintro rfl
    rw [fresh] at held
    cases held

theorem keeps_set_file (filled : place ≠ []) (free : d.node? place ≠ some .directory)
    (content : String) : Keeps [place] d (d.set place (.file content)) := by
  refine ⟨rfl, fun {other} held => ?_, fun {other content} apart held => ?_⟩
  · rw [node?_set filled, if_neg, held]
    rintro rfl
    exact free held
  · rw [node?_set filled, if_neg (by simpa using apart), held]

theorem keeps_erase (filled : place ≠ []) (free : d.node? place ≠ some .directory) :
    Keeps [place] d (d.erase place) := by
  refine ⟨rfl, fun {other} held => ?_, fun {other content} apart held => ?_⟩
  · rw [node?_erase filled, if_neg, held]
    rintro rfl
    exact free held
  · rw [node?_erase filled, if_neg (by simpa using apart), held]

theorem keeps_makeAlong (place : Place) (allowed : Option Nat) (names : List String) :
    Keeps [] d (d.makeAlong place allowed names).1 := by
  induction names generalizing d place allowed with
  | nil => exact .refl [] d
  | cons name names ih =>
    rw [makeAlong]
    split
    · exact ih ..
    · split
      · exact .refl [] d
      · dsimp only
        split
        · exact ih ..
        · exact .refl [] d
        · rename_i fresh
          split
          · exact .refl [] d
          · exact (keeps_set_directory fresh).trans (ih ..)

theorem keeps_makeDirectories (path : String) (allowed : Option Nat) :
    Keeps [] d (d.makeDirectories path allowed).1 := by
  rw [makeDirectories]
  split
  · exact .refl [] d
  · exact keeps_makeAlong ..

/-- Where names lead from a place on, whatever is there. -/
def walk (place : Place) : List String → Place
  | [] => place
  | name :: names => if name = ".." then walk place.dropLast names else walk (place ++ [name]) names

/-- The place that a path names, whatever is there. -/
def placeOf (d : Disk) (path : String) : Place :=
  walk (d.start path) (Path.names path).dropLast ++ (Path.names path).getLast?.toList

theorem walk_of_enter {names : List String} (entered : d.enter place names = some other) :
    walk place names = other := by
  induction names generalizing place with
  | nil => exact Option.some.inj entered
  | cons name names ih =>
    rw [enter] at entered
    rw [walk]
    split at entered
    · rename_i up
      rw [if_pos up, ih entered]
    · rename_i down
      rw [if_neg down]
      split at entered
      · exact ih entered
      · cases entered

theorem filePlace?_eq_some : d.filePlace? path = some place ↔
    ∃ name directory, (Path.names path).getLast? = some name ∧
      (path.toList.contains '\x00' || !Path.endsInName path || !nameOk name) = false ∧
      d.enter (d.start path) (Path.names path).dropLast = some directory ∧
      directory ++ [name] = place := by
  simp only [filePlace?, Option.bind_eq_bind, Option.bind_eq_some_iff]
  refine exists_congr fun name => ?_
  constructor
  · rintro ⟨last, made⟩
    split at made
    · cases made
    · rename_i fits
      obtain ⟨directory, entered, same⟩ := Option.bind_eq_some_iff.mp made
      exact ⟨directory, last, by simpa using fits, entered, Option.some.inj same⟩
  · rintro ⟨directory, last, fits, entered, same⟩
    refine ⟨last, ?_⟩
    rw [fits, if_neg Bool.false_ne_true]
    exact Option.bind_eq_some_iff.mpr ⟨directory, entered, congrArg some same⟩

theorem placeOf_of_filePlace? (found : d.filePlace? path = some other) :
    d.placeOf path = other ∧ other ≠ [] := by
  obtain ⟨name, directory, last, -, entered, rfl⟩ := filePlace?_eq_some.mp found
  constructor
  · rw [placeOf, walk_of_enter entered, last, Option.toList_some]
  · simp

section Paths
variable {touched : List Place} (keeps : Keeps touched d d')
include keeps

theorem Keeps.start_eq (path : String) : d'.start path = d.start path := by
  rw [start, start, keeps.current]

theorem Keeps.placeOf_eq (path : String) : d'.placeOf path = d.placeOf path := by
  rw [placeOf, placeOf, keeps.start_eq]

theorem Keeps.enter_eq_some {names : List String} (entered : d.enter place names = some other) :
    d'.enter place names = some other := by
  induction names generalizing place with
  | nil => exact entered
  | cons name names ih =>
    rw [enter] at entered ⊢
    split at entered
    · rename_i up
      rw [if_pos up, ih entered]
    · rename_i down
      rw [if_neg down]
      split at entered
      · rename_i there
        rw [Bool.and_eq_true, decide_eq_true_eq] at there
        rw [if_pos (by simp [there.1, keeps.directories there.2]), ih entered]
      · cases entered

theorem Keeps.filePlace?_eq_some (found : d.filePlace? path = some place) :
    d'.filePlace? path = some place := by
  obtain ⟨name, directory, last, fits, entered, same⟩ := Disk.filePlace?_eq_some.mp found
  refine Disk.filePlace?_eq_some.mpr ⟨name, directory, last, fits, ?_, same⟩
  rw [keeps.start_eq]
  exact keeps.enter_eq_some entered

end Paths

theorem read?_eq_some {content : String} : d.read? path = some content ↔
    d.filePlace? path = some (d.placeOf path) ∧
      d.node? (d.placeOf path) = some (.file content) := by
  simp only [read?, Option.bind_eq_bind, Option.bind_eq_some_iff]
  constructor
  · rintro ⟨place, found, held⟩
    obtain ⟨rfl, -⟩ := placeOf_of_filePlace? found
    refine ⟨found, ?_⟩
    split at held
    · rename_i there
      rw [there, Option.some.inj held]
    · cases held
  · rintro ⟨found, held⟩
    exact ⟨_, found, by rw [held]⟩

theorem Keeps.read?_eq_some {touched : List Place} (keeps : Keeps touched d d') {content : String}
    (untouched : d.placeOf path ∉ touched) (held : d.read? path = some content) :
    d'.read? path = some content := by
  obtain ⟨found, held⟩ := Disk.read?_eq_some.mp held
  rw [Disk.read?_eq_some, keeps.placeOf_eq]
  exact ⟨keeps.filePlace?_eq_some found, keeps.files untouched held⟩

theorem writeFile?_eq_some {content : String} (wrote : d.writeFile? path content = some d') :
    Keeps [d.placeOf path] d d' ∧ d'.read? path = some content := by
  simp only [writeFile?, Option.bind_eq_bind, Option.bind_eq_some_iff] at wrote
  obtain ⟨place, found, wrote⟩ := wrote
  obtain ⟨rfl, filled⟩ := placeOf_of_filePlace? found
  split at wrote
  · cases wrote
  · rename_i free
    cases wrote
    have keeps := keeps_set_file filled free content
    refine ⟨keeps, Disk.read?_eq_some.mpr ?_⟩
    rw [keeps.placeOf_eq]
    exact ⟨keeps.filePlace?_eq_some found, by rw [node?_set filled, if_pos rfl]⟩

/-- A file that is moved is found at its new path, and nothing is left where it was. -/
theorem rename?_eq_some {source target : String} (renamed : d.rename? source target = some d') :
    Keeps [d.placeOf source, d.placeOf target] d d' ∧
      (∀ content, d.read? source = some content → d'.read? target = some content) ∧
      (d.placeOf source ≠ d.placeOf target → d'.node? (d.placeOf source) = none) := by
  simp only [rename?, Option.bind_eq_bind, Option.bind_eq_some_iff] at renamed
  obtain ⟨content, held, fromPlace, found, toPlace, found', renamed⟩ := renamed
  obtain ⟨rfl, filled⟩ := placeOf_of_filePlace? found
  obtain ⟨rfl, filled'⟩ := placeOf_of_filePlace? found'
  rw [held]
  have there := (Disk.read?_eq_some.mp held).2
  have free : d.node? (d.placeOf source) ≠ some .directory := by simp [there]
  split at renamed
  · cases renamed
  rename_i free'
  split at renamed
  · rename_i same
    cases renamed
    refine ⟨.refl _ d, ?_, fun apart => absurd same apart⟩
    rintro _ ⟨⟩
    exact Disk.read?_eq_some.mpr ⟨found', same ▸ there⟩
  · rename_i apart
    cases renamed
    have erased : Keeps [d.placeOf source] d (d.erase (d.placeOf source)) :=
      keeps_erase filled free
    have free'' : (d.erase (d.placeOf source)).node? (d.placeOf target) ≠ some .directory := by
      rwa [node?_erase filled, if_neg (Ne.symm apart)]
    have keeps : Keeps [d.placeOf source, d.placeOf target] d
        ((d.erase (d.placeOf source)).set (d.placeOf target) (.file content)) :=
      (erased.weaken (by simp)).trans ((keeps_set_file filled' free'' content).weaken (by simp))
    refine ⟨keeps, ?_, fun _ => ?_⟩
    · rintro _ ⟨⟩
      rw [Disk.read?_eq_some, keeps.placeOf_eq]
      exact ⟨keeps.filePlace?_eq_some found', by rw [node?_set filled', if_pos rfl]⟩
    · rw [node?_set filled', if_neg apart, node?_erase filled, if_pos rfl]

end ServiceClient.Files.Disk
