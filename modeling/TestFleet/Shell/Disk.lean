import TestFleet.Files.Tree
/-!
# Files that processes have open

A disk is a tree of files and what processes have open of it. What is open has a place to read and
write at, which all descriptors that stand for it share. A change of the disk made by a process in
the background is kept as an effect with its time, so that others see it when that time has come.
-/
namespace TestFleet.Shell

open Files (Octets Failure Place Tree)

/-- A file that is open. -/
structure Opened where
  place : Place
  offset : Nat
  /-- Whether what is written goes to the end of the file, wherever that is. -/
  appends : Bool
  reads : Bool
  writes : Bool
  deriving Repr, Inhabited

/-- A tree of files, and what is open of it. -/
structure Disk where
  tree : Tree
  opened : List (Nat × Opened)
  deriving Inhabited

/-- A change of a disk. -/
structure Effect where
  /-- When it happens. -/
  at_ : Nat
  /-- The background job that it belongs to, 0 if to none. -/
  job : Nat
  act : Disk → Disk
  deriving Inhabited

/-- The permissions of something new, of those that it could have. -/
def masked (umask mode : Nat) : Nat := mode - (mode &&& umask)

/-- A tree with the file that a path leads to changed at a time, or made. -/
def editedAt (umask : Nat) (time : Int) (path : String) (edit : Octets → Octets) (t : Tree) :
    Except Failure Tree := do
  let place ← t.resolve path
  let after ← t.edit path edit
  match t.node? place with
  | none => pure (after.setTraits place ⟨masked umask 0o666, time⟩)
  | some (.file _) => pure (after.setTraits place { t.traitsAt place with changed := time })
  | some _ => pure after

/-- A tree with a new directory. -/
def withDirectory (umask : Nat) (time : Int) (path : String) (t : Tree) : Except Failure Tree := do
  let place ← t.resolveWith false path
  pure ((← t.makeDirectory path).setTraits place ⟨masked umask 0o777, time⟩)

namespace Disk

/-- The disk with something written to an open file at a time. -/
def write (d : Disk) (id : Nat) (octets : Octets) (time : Int) : Disk :=
  match d.opened.lookup id with
  | none => d
  | some o =>
    match d.tree.node? o.place with
    | some (.file content) =>
      let start := if o.appends then content.length else o.offset
      let filled := content ++ List.replicate (start - content.length) 0
      let whole := filled.take start ++ octets ++ filled.drop (start + octets.length)
      let tree := d.tree.put o.place (.file whole)
      { tree := tree.setTraits o.place { tree.traitsAt o.place with changed := time }
        opened := d.opened.map fun (n, p) =>
          if n == id then (n, { p with offset := start + octets.length }) else (n, p) }
    | _ => d

/-- What can still be read from an open file. -/
def rest (d : Disk) (id : Nat) : Octets :=
  match d.opened.lookup id with
  | none => []
  | some o =>
    match d.tree.node? o.place with
    | some (.file content) => content.drop o.offset
    | _ => []

/-- The disk after a number of octets has been read from an open file. -/
def behind (d : Disk) (id count : Nat) : Disk :=
  { d with opened := d.opened.map fun (n, o) =>
      if n == id then (n, { o with offset := o.offset + count }) else (n, o) }

/-- Where a file goes that has lost its last name and is still open. No path leads there. -/
def nameless (id : Nat) : Place := ["/", toString id]

/-- The disk after a change, with the files of the former disk that are open and have lost a name:
they stand at another of their places, or at one without a name. -/
def keeping (former d : Disk) : Disk :=
  d.opened.foldl (fun d (id, o) =>
    match d.tree.nodes.lookup o.place, former.tree.nodes.lookup o.place with
    | none, some (.file content) =>
      let others := (former.tree.placesOf o.place).filter fun p =>
        p != o.place && (d.tree.nodes.lookup p).isSome
      let place := others.headD (nameless id)
      let tree := if others.isEmpty then d.tree.put place (.file content) else d.tree
      { tree
        opened := d.opened.map fun (n, p) =>
          (n, if p.place == o.place then { p with place } else p) }
    | _, _ => d) d

/-- The disk after what stands at a place has gone to another. -/
def rename (d : Disk) (source target : Place) : Disk :=
  let cleared := if source == target then d
    else d.keeping { d with tree := d.tree.removeAll target }
  { tree := cleared.tree.rename source target
    opened := cleared.opened.map fun (n, o) =>
      (n, { o with place := Tree.moved source target o.place }) }

/-- A change of the tree as a change of the disk, made by a process in a directory of its own. -/
def changing (current : Place) (f : Tree → Except Failure Tree) (d : Disk) : Disk :=
  match f { d.tree with current } with
  | .ok tree => { d with tree := { tree with current := d.tree.current } }
  | .error _ => d

end Disk

end TestFleet.Shell
