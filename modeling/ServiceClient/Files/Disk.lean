import ServiceClient.Files.Path
import ServiceClient.Text.Utf8

/-! A tree of files and directories, and the few operations on it that writing a file takes. A place
in the tree is the list of names from the root on. -/

namespace ServiceClient.Files

abbrev Place := List String

inductive Node where
  | directory
  | file (content : String)
  deriving DecidableEq

structure Disk where
  /-- All but the root, which is a directory. -/
  nodes : List (Place × Node) := []
  /-- Where relative paths start. -/
  current : Place := []
  deriving DecidableEq

/-- What a name can be: no NUL, and at most 255 bytes. -/
def nameOk (name : String) : Bool :=
  !name.toList.contains '\x00' && (Text.utf8 name).length ≤ 255

namespace Disk

def node? (d : Disk) (place : Place) : Option Node :=
  if place.isEmpty then some .directory else d.nodes.lookup place

/-- Puts a node at a place, in place of any node there. -/
def setNodes (place : Place) (node : Node) : List (Place × Node) → List (Place × Node)
  | [] => [(place, node)]
  | (p, n) :: nodes => if p = place then (p, node) :: nodes else (p, n) :: setNodes place node nodes

def set (d : Disk) (place : Place) (node : Node) : Disk :=
  { d with nodes := setNodes place node d.nodes }

def erase (d : Disk) (place : Place) : Disk :=
  { d with nodes := d.nodes.filter (·.1 != place) }

def start (d : Disk) (path : String) : Place :=
  if path.toList.head? = some '/' then [] else d.current

/-- Follows names through directories that exist. -/
def enter (d : Disk) (place : Place) : List String → Option Place
  | [] => some place
  | name :: names =>
    if name = ".." then d.enter place.dropLast names
    else if nameOk name && d.node? (place ++ [name]) = some .directory then
      d.enter (place ++ [name]) names
    else none

/-- Where the file that a path names is or could be. -/
def filePlace? (d : Disk) (path : String) : Option Place := do
  let names := Path.names path
  let name ← names.getLast?
  if path.toList.contains '\x00' || !Path.endsInName path || !nameOk name then none
  let directory ← d.enter (d.start path) names.dropLast
  some (directory ++ [name])

def read? (d : Disk) (path : String) : Option String := do
  let place ← d.filePlace? path
  match d.node? place with
  | some (.file content) => some content
  | _ => none

/-- Makes what is missing of the directories along `names`, but at most `allowed` of them. The
result says whether all exist in the end. -/
def makeAlong (d : Disk) (place : Place) (allowed : Option Nat) : List String → Disk × Bool
  | [] => (d, true)
  | name :: names =>
    if name = ".." then d.makeAlong place.dropLast allowed names
    else if !nameOk name then (d, false)
    else
      let next := place ++ [name]
      match d.node? next with
      | some .directory => d.makeAlong next allowed names
      | some (.file _) => (d, false)
      | none =>
        if allowed = some 0 then (d, false)
        else (d.set next .directory).makeAlong next (allowed.map (· - 1)) names

def makeDirectories (d : Disk) (path : String) (allowed : Option Nat) : Disk × Bool :=
  if path.toList.contains '\x00' then (d, false)
  else d.makeAlong (d.start path) allowed (Path.names path)

/-- Creates a file or replaces its content. -/
def writeFile? (d : Disk) (path content : String) : Option Disk := do
  let place ← d.filePlace? path
  if d.node? place = some .directory then none
  else some (d.set place (.file content))

/-- Moves a file onto another path, over any file there. -/
def rename? (d : Disk) (source target : String) : Option Disk := do
  let content ← d.read? source
  let fromPlace ← d.filePlace? source
  let toPlace ← d.filePlace? target
  if d.node? toPlace = some .directory then none
  else if fromPlace = toPlace then some d
  else some ((d.erase fromPlace).set toPlace (.file content))

end Disk
end ServiceClient.Files
