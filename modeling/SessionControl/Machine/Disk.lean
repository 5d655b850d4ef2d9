import SessionControl.Machine.SystemFault
import SessionControl.Text.Bytes

set_option autoImplicit false

/-! # Disks

A disk is a tree of directories and files, told by the places of its nodes: the names on the way
from the root. A path is followed name by name from the root or from a working directory. Empty
names and `.` stay where they are, `..` goes up, a link goes where it points to, and only a directory
has anything below it. -/

namespace SessionControl.Machine

/-- The names on the way from the root to a node. -/
abbrev Place := List Bytes

/-- What can be at a place. -/
inductive Node
  | directory
  | file (contents : Bytes) (executable : Bool)
  /-- Stands for another path. -/
  | link (target : Bytes)
  /-- Takes everything and gives nothing. -/
  | sink
  deriving DecidableEq, Repr

/-- Nodes by their places. The root is a directory and is not listed. -/
structure Disk where
  nodes : List (Place × Node)

/-! ## Paths -/

namespace Path

/-- The names of a path. -/
def names (path : Bytes) : List Bytes := (Bytes.splitOn '/' path).filter fun n => n ≠ []

/-- Whether a path begins at the root. -/
def isAbsolute : Bytes → Bool
  | '/' :: _ => true
  | _ => false

/-- Whether a path asks for a directory. -/
def endsInSlash (path : Bytes) : Bool := path.getLast? = some '/'

/-- The bytes of the longest name. -/
def nameLimit : Nat := 255

/-- The first length at which a path is too long. -/
def lengthLimit : Nat := 4096

/-- The last name of a path. -/
def lastName (path : Bytes) : Bytes := (names path).getLast?.getD []

/-- The path of a place. -/
def ofPlace (place : Place) : Bytes :=
  match place with
  | [] => ['/']
  | _ => place.flatMap fun n => '/' :: n

end Path

namespace Disk

/-! ## Nodes -/

/-- What is at a place. -/
def node? (d : Disk) (place : Place) : Option Node :=
  if place = [] then some .directory
  else (d.nodes.find? fun e => e.1 = place).map (·.2)

/-- Leaves a place out. -/
def without (d : Disk) (place : Place) : Disk := ⟨d.nodes.filter fun e => e.1 ≠ place⟩

/-- Puts a node at a place, instead of what was there. -/
def put (d : Disk) (place : Place) (node : Node) : Disk :=
  match d.nodes.findIdx? fun e => e.1 = place with
  | some i => ⟨d.nodes.set i (place, node)⟩
  | none => ⟨(place, node) :: d.nodes⟩

/-- The names in a directory, in the order of their bytes. -/
def namesIn (d : Disk) (place : Place) : List Bytes :=
  let inside := d.nodes.filterMap fun e =>
    if e.1.dropLast = place then e.1.getLast? else none
  inside.mergeSort fun a b => !Bytes.lt b a

/-! ## Following paths -/

/-- Follows names from a place. Each step takes a name away or follows a link, so that a path of
    admissible length takes fewer steps than `fuel` unless its links lead round in a circle. -/
def follow (d : Disk) : Nat → Place → List Bytes → Except SystemFault Place
  | 0, _, _ => .error .tooManyLinks
  | _ + 1, place, [] => .ok place
  | fuel + 1, place, name :: rest =>
    match d.node? place with
    | some .directory =>
      if name = ['.'] then follow d fuel place rest
      else if name = ['.', '.'] then follow d fuel place.dropLast rest
      else if Path.nameLimit < name.length then .error .nameTooLong
      else
        match d.node? (place ++ [name]) with
        | none => .error .notFound
        | some (.link target) =>
          follow d fuel (if Path.isAbsolute target then [] else place) (Path.names target ++ rest)
        | some _ => follow d fuel (place ++ [name]) rest
    | _ => .error .notADirectory

/-- More steps than any path takes. -/
def followFuel : Nat := 10000

/-- Follows names from where a path begins. -/
def start (d : Disk) (here : Place) (path : Bytes) (names : List Bytes) :
    Except SystemFault Place :=
  d.follow followFuel (if Path.isAbsolute path then [] else here) names

/-- A path as such: not empty, and not too long. -/
def checkPath (path : Bytes) : Except SystemFault Unit :=
  if path = [] then .error .notFound
  else if Path.lengthLimit ≤ path.length then .error .nameTooLong
  else .ok ()

/-- The place that a path leads to. -/
def resolve (d : Disk) (here : Place) (path : Bytes) : Except SystemFault Place := do
  checkPath path
  let place ← d.start here path (Path.names path)
  if Path.endsInSlash path ∧ d.node? place ≠ some .directory then .error .notADirectory
  else .ok place

/-- The place that a path leads to, or would lead to if there were something: all but its last name
    has to lead to a directory. -/
def resolveNew (d : Disk) (here : Place) (path : Bytes) : Except SystemFault Place :=
  match d.resolve here path with
  | .ok place => .ok place
  | .error .notFound => do
    checkPath path
    let names := Path.names path
    match names.getLast? with
    | none => .error .notFound
    | some name =>
      let parent ← d.start here path names.dropLast
      if name = ['.'] ∨ name = ['.', '.'] then .error .notFound
      else if (d.node? (parent ++ [name])).isSome then .error .notFound
      else .ok (parent ++ [name])
  | .error f => .error f

/-- What a path leads to. -/
def find (d : Disk) (here : Place) (path : Bytes) : Except SystemFault Node := do
  let place ← d.resolve here path
  match d.node? place with
  | some node => .ok node
  | none => .error .notFound

/-- Whether a path leads to something. -/
def has (d : Disk) (here : Place) (path : Bytes) : Bool :=
  match d.resolve here path with
  | .ok _ => true
  | .error _ => false

/-- The bytes of what a path leads to. -/
def read (d : Disk) (here : Place) (path : Bytes) : Except SystemFault Bytes := do
  match ← d.find here path with
  | .directory => .error .isADirectory
  | .file contents _ => .ok contents
  | .link _ => .error .tooManyLinks
  | .sink => .ok []

/-! ## Building -/

/-- Puts a directory at a place and at every place on the way to it, unless one is there. -/
def ensureDirectory (d : Disk) (place : Place) : Disk :=
  (List.range place.length).foldl
    (fun d n =>
      let p := place.take (n + 1)
      if (d.node? p).isSome then d else d.put p .directory)
    d

/-- Puts a node at a place, with the directories on the way. -/
def install (d : Disk) (place : Place) (node : Node) : Disk :=
  (d.ensureDirectory place.dropLast).put place node

end Disk
end SessionControl.Machine
