import TestFleet.Files.Path
import TestFleet.Files.Failure
import TestFleet.Text.Utf8
import TestFleet.Order.Ascending
/-!
# A tree of files

Files, directories and links are kept by their full path, a list of names from the root. `resolve`
walks a path as a system does: every part but the last must be a directory that exists and may be
searched, `..` leads back up, a link leads to where it points, a part may have 255 octets at most,
and a path 4095. Operations fail for the reasons a system gives.

Everything in the tree belongs to the one user who works on it, and that user has no more rights
than the modes of files and directories say.
-/
namespace TestFleet.Files

/-- The octets of a file. -/
abbrev Octets := List UInt8

/-- What stands at a place. -/
inductive Node where
  | directory
  | file (content : Octets)
  /-- A file that takes everything and holds nothing. -/
  | sink
  /-- Another name for what a path leads to. -/
  | link (target : String)
  deriving DecidableEq, Repr, Inhabited

/-- A place: the names from the root. -/
abbrev Place := List String

/-- What is known of a node beside what it holds. -/
structure Traits where
  /-- The permissions, twelve bits. -/
  mode : Nat
  /-- When it was last changed, in nanoseconds after 1970 began. -/
  changed : Int
  deriving DecidableEq, Repr, Inhabited

/-- The rights of a node's owner. -/
inductive Right where
  | read
  | write
  | search
  deriving DecidableEq, Repr

/-- The bit of a mode that gives a right to the owner. -/
def Right.bit : Right → Nat
  | .read => 256
  | .write => 128
  | .search => 64

/-- All files and directories, and the directory that relative paths start from. -/
structure Tree where
  nodes : List (Place × Node)
  current : Place
  /-- The traits of the nodes whose traits are not those that all nodes start with. -/
  traits : List (Place × Traits) := []
  /-- Places at which one and the same file stands. -/
  twins : List (List Place) := []
  deriving Repr, Inhabited

/-- The mode that a node has unless it is given another. -/
def Node.usualMode : Node → Nat
  | .directory => 0o755
  | .file _ => 0o644
  | .sink => 0o666
  | .link _ => 0o777

namespace Tree

/-- What stands at a place. The root is a directory. -/
def node? (t : Tree) (place : Place) : Option Node :=
  if place.isEmpty then some .directory else t.nodes.lookup place

/-- The traits of what stands at a place. -/
def traitsAt (t : Tree) (place : Place) : Traits :=
  (t.traits.lookup place).getD ⟨((t.node? place).getD .directory).usualMode, 0⟩

/-- The places at which the file stands that stands at a place. -/
def placesOf (t : Tree) (place : Place) : List Place :=
  (t.twins.find? (·.contains place)).getD [place]

/-- Gives traits to what stands at a place. -/
def setTraits (t : Tree) (place : Place) (traits : Traits) : Tree :=
  let places := t.placesOf place
  { t with
    traits := places.map (·, traits) ++ t.traits.filter fun (p, _) => !places.contains p }

/-- Whether the owner has a right to what stands at a place. -/
def permits (t : Tree) (right : Right) (place : Place) : Bool :=
  (t.traitsAt place).mode &&& right.bit != 0

/-- Puts something at a place. -/
def put (t : Tree) (place : Place) (node : Node) : Tree :=
  if (t.nodes.lookup place).isSome then
    let places := t.placesOf place
    { t with nodes := t.nodes.map fun (p, n) => if places.contains p then (p, node) else (p, n) }
  else { t with nodes := t.nodes ++ [(place, node)] }

/-- Takes away what stands at a place. -/
def erase (t : Tree) (place : Place) : Tree :=
  { t with
    nodes := t.nodes.filter (·.1 != place)
    traits := t.traits.filter (·.1 != place)
    twins := t.twins.map (·.filter (· != place)) }

/-- Gives the file at a place another place as well. -/
def makeTwin (t : Tree) (place twin : Place) : Tree :=
  match t.node? place with
  | none => t
  | some node =>
    let places := t.placesOf place
    { t with
      nodes := t.nodes ++ [(twin, node)]
      traits := (twin, t.traitsAt place) :: t.traits
      twins := (places ++ [twin]) :: t.twins.filter (!·.contains place) }

/-- Whether one place is another or below it. -/
def isWithin (place other : Place) : Bool := other.take place.length == place

/-- Whether a place is in a directory itself, not deeper. -/
def isChild (directory place : Place) : Bool :=
  place.length == directory.length + 1 && isWithin directory place

/-- Whether something stands below a place. -/
def hasBelow (t : Tree) (place : Place) : Bool := t.nodes.any fun (p, _) => isChild place p

/-- The greatest number of octets in a name. -/
def nameLimit : Nat := 255

/-- The greatest number of octets in a path. -/
def pathLimit : Nat := 4095

/-- The greatest number of links on one way. -/
def linkLimit : Nat := 40

/-- Walks from a directory along names. The last one need not exist; a link there is followed if
`follow`. -/
def walk (t : Tree) (follow : Bool) (links : Nat) (at_ : Place) (names : List String) :
    Except Failure Place :=
  match names with
  | [] => .ok at_
  | name :: rest =>
    if nameLimit < name.utf8ByteSize then .error .nameTooLong
    else if !t.permits .search at_ then .error .permission
    else if name = ".." then walk t follow links at_.dropLast rest
    else
      let next := at_ ++ [name]
      match t.node? next, rest with
      | some (.link target), [] =>
        if follow then
          match links with
          | 0 => .error .tooManyLinks
          | n + 1 => walk t follow n (if isAbsolute target then [] else at_) (parts target)
        else .ok next
      | some (.link target), other :: more =>
        match links with
        | 0 => .error .tooManyLinks
        | n + 1 =>
          walk t follow n (if isAbsolute target then [] else at_) (parts target ++ other :: more)
      | _, [] => .ok next
      | some .directory, other :: more => walk t follow links next (other :: more)
      | some _, _ :: _ => .error .notDirectory
      | none, _ :: _ => .error .notFound
  termination_by (links, names.length)

/-- The place a path leads to, through a link at its end if `follow`. -/
def resolveWith (t : Tree) (follow : Bool) (path : String) : Except Failure Place :=
  if path.isEmpty then .error .notFound
  else if path.toList.any (·.toNat == 0) then .error .invalidName
  else if pathLimit < path.utf8ByteSize then .error .nameTooLong
  else
    walk t (follow || endsAsDirectory path) linkLimit (if isAbsolute path then [] else t.current)
      (parts path)

/-- The place a path leads to. -/
def resolve (t : Tree) (path : String) : Except Failure Place := t.resolveWith true path

/-- What stands at the place that a path leads to. The current directory is still there for those
who are in it when it has been taken away. -/
def standing (t : Tree) (path : String) (place : Place) : Except Failure (Place × Node) :=
  match t.node? place with
  | none =>
    if !path.isEmpty && !isAbsolute path && (parts path).isEmpty then .ok (place, .directory)
    else .error .notFound
  | some .directory => .ok (place, .directory)
  | some node => if endsAsDirectory path then .error .notDirectory else .ok (place, node)

/-- What a path leads to. -/
def find (t : Tree) (path : String) : Except Failure (Place × Node) := do
  t.standing path (← t.resolve path)

/-- What a path leads to; a link at its end is not followed. -/
def findHere (t : Tree) (path : String) : Except Failure (Place × Node) := do
  t.standing path (← t.resolveWith false path)

/-- The octets of a file. -/
def read (t : Tree) (path : String) : Except Failure Octets := do
  let (place, node) ← t.find path
  if !t.permits .read place then throw .permission
  match node with
  | .directory => throw .isDirectory
  | .file content => pure content
  | .sink => pure []
  | .link _ => throw .tooManyLinks

/-- The text of a file. -/
def readText (t : Tree) (path : String) : Except Failure String := do
  match Text.Utf8.decode? (← t.read path) with
  | some s => pure s
  | none => throw .notUtf8

/-- Refuses a place in a directory that does not exist or that may not be changed. -/
def allowChange (t : Tree) (place : Place) : Except Failure Unit :=
  match t.node? place.dropLast with
  | none => .error .notFound
  | some _ =>
    if t.permits .write place.dropLast && t.permits .search place.dropLast then .ok ()
    else .error .permission

/-- Writes a file whose directory exists; `edit` gives the new content from the old. -/
def edit (t : Tree) (path : String) (edit : Octets → Octets) : Except Failure Tree := do
  let place ← t.resolve path
  match t.node? place with
  | some .directory => throw .isDirectory
  | some (.link _) => throw .tooManyLinks
  | some .sink => pure t
  | some (.file content) =>
    if endsAsDirectory path then throw .notDirectory
    else if !t.permits .write place then throw .permission
    else pure (t.put place (.file (edit content)))
  | none =>
    if endsAsDirectory path then throw .isDirectory
    t.allowChange place
    pure (t.put place (.file (edit [])))

/-- Writes a file anew. -/
def write (t : Tree) (path : String) (content : Octets) : Except Failure Tree :=
  t.edit path fun _ => content

/-- Adds to the end of a file. -/
def append (t : Tree) (path : String) (content : Octets) : Except Failure Tree :=
  t.edit path (· ++ content)

/-- Makes one directory. -/
def makeDirectory (t : Tree) (path : String) : Except Failure Tree := do
  let place ← t.resolveWith false path
  match t.node? place with
  | some _ => throw .exists
  | none =>
    t.allowChange place
    pure (t.put place .directory)

/-- Makes a link. -/
def makeLink (t : Tree) (target path : String) : Except Failure Tree := do
  let place ← t.resolveWith false path
  match t.node? place with
  | some _ => throw .exists
  | none =>
    if target.isEmpty || endsAsDirectory path then throw .notFound
    t.allowChange place
    pure (t.put place (.link target))

/-- Makes the directories along names where they are missing. -/
def makeAlong (t : Tree) (at_ : Place) : List String → Except Failure Tree
  | [] => .ok t
  | name :: rest =>
    if nameLimit < name.utf8ByteSize then .error .nameTooLong
    else
      match walk t true linkLimit at_ [name] with
      | .error e => .error e
      | .ok next =>
        match t.node? next with
        | some .directory => makeAlong t next rest
        | some _ => .error (if rest.isEmpty then .exists else .notDirectory)
        | none =>
          match t.allowChange next with
          | .error e => .error e
          | .ok () => makeAlong (t.put next .directory) next rest

/-- Makes a directory and all directories above it that are missing. -/
def makeDirectories (t : Tree) (path : String) : Except Failure Tree :=
  if path.toList.any (·.toNat == 0) then .error .invalidName
  else makeAlong t (if isAbsolute path then [] else t.current) (parts path)

/-- Makes the directories above a path that are missing. -/
def makeParents (t : Tree) (path : String) : Except Failure Tree :=
  if path.toList.any (·.toNat == 0) then .error .invalidName
  else if pathLimit < (above path).utf8ByteSize then .error .nameTooLong
  else makeAlong t (if isAbsolute path then [] else t.current) (parts path).dropLast

/-- Takes away a file or a link. -/
def removeFile (t : Tree) (path : String) : Except Failure Tree := do
  let (place, node) ← t.findHere path
  if node == .directory then throw .isDirectory
  t.allowChange place
  pure (t.erase place)

/-- Takes away an empty directory. -/
def removeDirectory (t : Tree) (path : String) : Except Failure Tree := do
  let (place, node) ← t.findHere path
  if node != .directory then throw .notDirectory
  if t.hasBelow place then throw .notEmpty
  t.allowChange place
  pure (t.erase place)

/-- Takes away whatever stands at a place and below it. -/
def removeAll (t : Tree) (place : Place) : Tree :=
  { t with
    nodes := t.nodes.filter fun (p, _) => !isWithin place p
    traits := t.traits.filter fun (p, _) => !isWithin place p
    twins := t.twins.map (·.filter (!isWithin place ·)) }

/-- A place after what stands at one place has gone to another. -/
def moved (source target : Place) (place : Place) : Place :=
  if isWithin source place then target ++ place.drop source.length else place

/-- Gives what stands at a place, and all below it, another place, whatever stood there. -/
def rename (t : Tree) (source target : Place) : Tree :=
  let t := if source == target then t else t.removeAll target
  { t with
    nodes := t.nodes.map fun (p, n) => (moved source target p, n)
    traits := t.traits.map fun (p, x) => (moved source target p, x)
    twins := t.twins.map (·.map (moved source target))
    current := moved source target t.current }

/-- The names in a directory, in ascending order. -/
def list (t : Tree) (place : Place) : List String :=
  let below := t.nodes.filterMap fun (p, _) => if isChild place p then p.getLast? else none
  Ascending.ofList Ascending.textBefore below

/-- Whether all directories from a place down to another may be read and searched. -/
def isOpenTo (t : Tree) (place : Place) : Place → Bool
  | [] => true
  | name :: rest =>
    t.permits .read place && t.permits .search place && isOpenTo t (place ++ [name]) rest

/-- What reading a node as a file gives. -/
def contentAt? (t : Tree) (place : Place) : Node → Option Octets
  | .file content => some (if t.permits .read place then content else [])
  | .link _ =>
    match t.find ("/" ++ "/".intercalate place) with
    | .ok (p, .file content) => some (if t.permits .read p then content else [])
    | .ok _ => none
    | .error _ => some []
  | _ => none

/-- The files below the current directory, by their relative paths in ascending order. A file that
may not be read has nothing to show, and what is in a directory that may not be read is not seen. -/
def files (t : Tree) : List (String × Octets) :=
  Ascending.mapOfList <| t.nodes.filterMap fun (p, n) =>
    if isWithin t.current p && t.current.length < p.length
        && t.isOpenTo t.current (p.drop t.current.length) then
      (t.contentAt? p n).map (("/".intercalate (p.drop t.current.length), ·))
    else none

end Tree

end TestFleet.Files
