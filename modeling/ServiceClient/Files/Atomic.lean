import ServiceClient.Files.Disk

/-! Writing a file through a temporary one beside it, which takes the place of the file in one step.
The temporary file has the same path with the extension `tmp`. -/

namespace ServiceClient.Files

def temporaryExtension : String := "tmp"

def temporaryPath (path : String) : String :=
  Path.withExtension path temporaryExtension

/-- Where the system fails although nothing on the disk is in the way. -/
structure Faults where
  /-- How many directories can be made, if not all. -/
  directories : Option Nat := none
  /-- Whether the temporary file cannot be opened. -/
  opening : Bool := false
  /-- How many characters reach the temporary file, if not all. -/
  written : Option Nat := none
  replacing : Bool := false
  deriving DecidableEq

/-- The disk afterwards, and the path at which the writing failed, if it did. -/
structure Written where
  disk : Disk
  failure : Option String
  deriving DecidableEq

/-- Makes the directories that a path needs; the path of the directories on failure. -/
def makeParents (faults : Faults) (d : Disk) (path : String) : Written :=
  match (Path.parent? path).filter (· != "") with
  | none => ⟨d, none⟩
  | some parent =>
    let (made, ok) := d.makeDirectories parent faults.directories
    ⟨made, if ok then none else some parent⟩

def writeTemporary (faults : Faults) (d : Disk) (path content : String) : Written :=
  let temporary := temporaryPath path
  if faults.opening then ⟨d, some temporary⟩
  else
    match faults.written with
    | none =>
      match d.writeFile? temporary content with
      | some d => ⟨d, none⟩
      | none => ⟨d, some temporary⟩
    | some n =>
      ⟨(d.writeFile? temporary (String.ofList (content.toList.take n))).getD d, some temporary⟩

def takePlace (faults : Faults) (d : Disk) (path : String) : Written :=
  match if faults.replacing then none else d.rename? (temporaryPath path) path with
  | some d => ⟨d, none⟩
  | none => ⟨d, some path⟩

namespace Written

/-- Goes on with the next step unless one has failed. -/
def andThen (w : Written) (next : Disk → Written) : Written :=
  match w.failure with
  | none => next w.disk
  | some _ => w

end Written

def writeAtomic (faults : Faults) (d : Disk) (path content : String) : Written :=
  ((makeParents faults d path).andThen (writeTemporary faults · path content)).andThen
    (takePlace faults · path)

end ServiceClient.Files
