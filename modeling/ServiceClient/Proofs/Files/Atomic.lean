import ServiceClient.Files.Atomic
import ServiceClient.Proofs.Files.Disk

/-! Writing through a temporary file, whichever step fails. A run changes no file but the one at the
path and the one at the temporary path. So it is atomic where nothing stands at the temporary path;
a file that does is overwritten, and gone once the run has succeeded. -/

namespace ServiceClient.Files
open Disk

def Disk.temporaryPlace (d : Disk) (path : String) : Place :=
  d.placeOf (temporaryPath path)

/-- A run leaves the file at the place as it is, if there is one. -/
def Spares (faults : Faults) (d : Disk) (path content : String) (place : Place) : Prop :=
  ∀ old, d.node? place = some (.file old) →
    (writeAtomic faults d path content).disk.node? place = some (.file old)

/-- What is expected of a run: the file at the path keeps its content or has exactly the new one,
and no other file is touched. -/
structure IsAtomic (faults : Faults) (d : Disk) (path content : String) : Prop where
  kept : (writeAtomic faults d path content).failure.isSome → ∀ old, d.read? path = some old →
    (writeAtomic faults d path content).disk.read? path = some old
  replaced : (writeAtomic faults d path content).failure = none →
    (writeAtomic faults d path content).disk.read? path = some content
  others : ∀ place ≠ d.placeOf path, Spares faults d path content place

section Steps
variable (faults : Faults) (d : Disk) (path content : String)

theorem keeps_makeParents : Keeps [] d (makeParents faults d path).disk := by
  rw [makeParents]
  split
  · exact .refl [] d
  · exact keeps_makeDirectories ..

theorem writeTemporary_spec :
    Keeps [d.temporaryPlace path] d (writeTemporary faults d path content).disk ∧
      ((writeTemporary faults d path content).failure = none →
        (writeTemporary faults d path content).disk.read? (temporaryPath path) = some content) := by
  rw [writeTemporary]
  split
  · exact ⟨.refl _ d, nofun⟩
  · split
    · split
      · rename_i wrote
        obtain ⟨keeps, held⟩ := writeFile?_eq_some wrote
        exact ⟨keeps, fun _ => held⟩
      · exact ⟨.refl _ d, nofun⟩
    · rename_i n _
      refine ⟨?_, nofun⟩
      cases wrote : d.writeFile? (temporaryPath path) (String.ofList (content.toList.take n)) with
      | none => exact .refl _ d
      | some d' => exact (writeFile?_eq_some wrote).1

theorem takePlace_spec :
    (takePlace faults d path).failure.isSome ∧ (takePlace faults d path).disk = d ∨
      (takePlace faults d path).failure = none ∧
        d.rename? (temporaryPath path) path = some (takePlace faults d path).disk := by
  rw [takePlace]
  cases faults.replacing with
  | true => exact .inl ⟨rfl, rfl⟩
  | false =>
    cases renamed : d.rename? (temporaryPath path) path with
    | none => exact .inl ⟨rfl, rfl⟩
    | some d' => exact .inr ⟨rfl, rfl⟩

/-- A run that fails has changed the temporary file at most. One that succeeds has moved the whole
content from there to its place. -/
theorem writeAtomic_spec :
    (writeAtomic faults d path content).failure.isSome ∧
        Keeps [d.temporaryPlace path] d (writeAtomic faults d path content).disk ∨
      (writeAtomic faults d path content).failure = none ∧
        ∃ written, Keeps [d.temporaryPlace path] d written ∧
          written.read? (temporaryPath path) = some content ∧
          written.rename? (temporaryPath path) path =
            some (writeAtomic faults d path content).disk := by
  have parents := (keeps_makeParents faults d path).weaken
    (List.nil_subset [d.temporaryPlace path])
  cases made : (makeParents faults d path).failure with
  | some failed => simpa [writeAtomic, Written.andThen, made] using parents
  | none =>
    obtain ⟨keeps, held⟩ := writeTemporary_spec faults (makeParents faults d path).disk path content
    rw [Disk.temporaryPlace, parents.placeOf_eq] at keeps
    have both := parents.trans keeps
    cases wrote : (writeTemporary faults (makeParents faults d path).disk path content).failure with
    | some failed => simpa [writeAtomic, Written.andThen, made, wrote] using both
    | none =>
      have last : writeAtomic faults d path content = takePlace faults
          (writeTemporary faults (makeParents faults d path).disk path content).disk path := by
        simp [writeAtomic, Written.andThen, made, wrote]
      rw [last]
      rcases takePlace_spec faults
        (writeTemporary faults (makeParents faults d path).disk path content).disk path with
        ⟨failed, same⟩ | ⟨done, renamed⟩
      · exact .inl ⟨failed, by rwa [same]⟩
      · exact .inr ⟨done, _, both, held wrote, renamed⟩

theorem spares_of_failure (failed : (writeAtomic faults d path content).failure.isSome)
    {place : Place} (apart : place ≠ d.temporaryPlace path) :
    Spares faults d path content place := by
  rcases writeAtomic_spec faults d path content with ⟨-, keeps⟩ | ⟨done, -⟩
  · exact fun old => keeps.files (by simpa using apart)
  · rw [done] at failed
    cases failed

/-- After success nothing is left at the temporary path, unless it is the path itself. -/
theorem writeAtomic_of_success (done : (writeAtomic faults d path content).failure = none) :
    (writeAtomic faults d path content).disk.read? path = some content ∧
      (∀ place, place ≠ d.temporaryPlace path → place ≠ d.placeOf path →
        Spares faults d path content place) ∧
      (d.temporaryPlace path ≠ d.placeOf path →
        (writeAtomic faults d path content).disk.node? (d.temporaryPlace path) = none) := by
  rcases writeAtomic_spec faults d path content with ⟨failed, -⟩ | ⟨-, written, keeps, held, moved⟩
  · rw [done] at failed
    cases failed
  · obtain ⟨keeps', whole, gone⟩ := rename?_eq_some moved
    rw [keeps.placeOf_eq, keeps.placeOf_eq] at keeps' gone
    refine ⟨whole content held, fun place temporary target old there => ?_, gone⟩
    refine keeps'.files ?_ (keeps.files (by simpa using temporary) there)
    simpa using ⟨temporary, target⟩

end Steps

/-- Whichever step fails, a run spares all files but the one at the temporary path and, if it
succeeds, the one that it replaces. It is atomic if no file stands at the temporary path, and if one
does that is not the file itself, no run that succeeds is. -/
theorem atomic_unless_temporary_taken (faults : Faults) (d : Disk) (path content : String) :
    (∀ place ≠ d.temporaryPlace path,
      (writeAtomic faults d path content).failure.isSome ∨ place ≠ d.placeOf path →
        Spares faults d path content place) ∧
    ((writeAtomic faults d path content).failure = none →
      (writeAtomic faults d path content).disk.read? path = some content) ∧
    ((∀ old, d.node? (d.temporaryPlace path) ≠ some (.file old)) →
      IsAtomic faults d path content) ∧
    ((writeAtomic faults d path content).failure = none →
      d.temporaryPlace path ≠ d.placeOf path → IsAtomic faults d path content →
        ∀ old, d.node? (d.temporaryPlace path) ≠ some (.file old)) := by
  have spares : ∀ place ≠ d.temporaryPlace path,
      (writeAtomic faults d path content).failure.isSome ∨ place ≠ d.placeOf path →
        Spares faults d path content place := by
    intro place temporary sort
    cases done : (writeAtomic faults d path content).failure with
    | some failed => exact spares_of_failure faults d path content (by simp [done]) temporary
    | none =>
      have target : place ≠ d.placeOf path := by simpa [done] using sort
      exact (writeAtomic_of_success faults d path content done).2.1 place temporary target
  refine ⟨spares, fun done => (writeAtomic_of_success faults d path content done).1, ?_, ?_⟩
  · intro free
    have elsewhere : ∀ {place old}, d.node? place = some (.file old) →
        place ≠ d.temporaryPlace path :=
      fun there same => free _ (same ▸ there)
    refine ⟨fun failed old held => ?_, fun done => ?_, fun place target old there => ?_⟩
    · obtain ⟨found, there⟩ := read?_eq_some.mp held
      rcases writeAtomic_spec faults d path content with ⟨-, keeps⟩ | ⟨done, -⟩
      · exact keeps.read?_eq_some (by simpa using elsewhere there) held
      · rw [done] at failed
        cases failed
    · exact (writeAtomic_of_success faults d path content done).1
    · exact spares place (elsewhere there) (.inr target) old there
  · intro done apart atomic old there
    obtain ⟨-, -, gone⟩ := writeAtomic_of_success faults d path content done
    have left := atomic.others _ apart old there
    rw [gone apart] at left
    cases left

/-- A directory with a temporary file of someone else. -/
def sharedDisk : Disk where
  nodes := [(["out"], .directory), (["out", "a.tmp"], .file "keep"), (["out", "b.rs"], .file "old")]

theorem sharedDisk_replaces_b :
    (∀ old, sharedDisk.node? (sharedDisk.temporaryPlace "out/b.rs") ≠ some (.file old)) ∧
      IsAtomic { written := some 2 } sharedDisk "out/b.rs" "new" ∧
      (writeAtomic { written := some 2 } sharedDisk "out/b.rs" "new").disk.read? "out/b.rs" =
        some "old" := by
  have free : ∀ old, sharedDisk.node? (sharedDisk.temporaryPlace "out/b.rs") ≠
      some (.file old) := by
    have empty : sharedDisk.node? (sharedDisk.temporaryPlace "out/b.rs") = none := by
      decide +kernel
    simp [empty]
  obtain ⟨-, -, atomic, -⟩ :=
    atomic_unless_temporary_taken { written := some 2 } sharedDisk "out/b.rs" "new"
  exact ⟨free, atomic free, (atomic free).kept (by decide +kernel) "old" (by decide +kernel)⟩

/-- A run without any fault loses the file at the temporary path. And a file whose own name ends so
is half written when the system fails in the middle. -/
theorem temporary_file_lost :
    (sharedDisk.node? ["out", "a.tmp"] = some (.file "keep") ∧
      writeAtomic {} sharedDisk "out/a.rs" "code" =
        ⟨{ nodes := [(["out"], .directory), (["out", "b.rs"], .file "old"),
            (["out", "a.rs"], .file "code")] }, none⟩ ∧
      ¬IsAtomic {} sharedDisk "out/a.rs" "code") ∧
    (sharedDisk.read? "out/a.tmp" = some "keep" ∧
      (writeAtomic { written := some 2 } sharedDisk "out/a.tmp" "code").disk.read? "out/a.tmp" =
        some "co" ∧
      ¬IsAtomic { written := some 2 } sharedDisk "out/a.tmp" "code") := by
  have ran : writeAtomic {} sharedDisk "out/a.rs" "code" =
      ⟨{ nodes := [(["out"], .directory), (["out", "b.rs"], .file "old"),
        (["out", "a.rs"], .file "code")] }, none⟩ := by
    decide +kernel
  have half : (writeAtomic { written := some 2 } sharedDisk "out/a.tmp" "code").disk.read?
      "out/a.tmp" = some "co" := by
    decide +kernel
  refine ⟨⟨by decide, ran, fun atomic => ?_⟩, ⟨by decide +kernel, half, fun atomic => ?_⟩⟩
  · have kept := atomic.others ["out", "a.tmp"] (by decide +kernel) "keep" (by decide)
    rw [ran] at kept
    exact absurd kept (by decide)
  · have kept := atomic.kept (by decide +kernel) "keep" (by decide +kernel)
    rw [half] at kept
    exact absurd kept (by decide)

end ServiceClient.Files
