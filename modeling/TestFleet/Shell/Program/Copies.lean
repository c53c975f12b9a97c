import TestFleet.Shell.Program.Entries
/-!
# Programs that copy and rename

What is given another name goes into the target if that is a directory. A file that is copied has
the mode of its source, less what is masked, unless it was there before.
-/
namespace TestFleet.Shell.Program

open Files (Octets Failure Place Node Tree)

/-- Where something goes that is given another name: into the target if that is a directory. -/
def landing (directly : Bool) (source target : String) : Doing String := do
  if !directly && (← isDirectory target) then pure (Files.join target (lastName source))
  else pure target

/-- The sources among some operands, and their target. -/
def sourcesOf (g : Given) : Doing (List String × String) := do
  match g.value? "t", g.operands with
  | some _, [] => misused 1 "missing file operand"
  | some t, operands =>
    if !(← isDirectory t) then
      fail 1 ("target directory " ++ named t ++ ": " ++ Failure.notFound.words)
    pure (operands, t)
  | none, [] => misused 1 "missing file operand"
  | none, [a] => misused 1 ("missing destination file operand after " ++ named a)
  | none, operands =>
    let target := operands.getLastD ""
    if 2 < operands.length && !(← isDirectory target) then
      let why : Failure := match (← get).find target with
        | .ok _ => .notDirectory
        | .error f => f
      fail 1 ("target " ++ named target ++ ": " ++ why.words)
    pure (operands.dropLast, target)

/-- Copies a file's content to a path; its mode goes along if the file is new, and all its traits if
`exact`. -/
def copyFile (exact force : Bool) (source : String) (place : Place) (target : String) :
    Doing Bool := do
  let s ← get
  let traits := s.tree.traitsAt place
  if !s.tree.permits .read place then
    troubled ("cannot open " ++ named source ++ " for reading: " ++ Failure.permission.words)
  else
    let content : Octets :=
      match s.tree.node? place with
      | some (.file os) => os
      | _ => []
    let isNew : Bool := match s.find target with | .ok _ => false | .error _ => true
    let blocked : Bool :=
      match s.find target with
      | .ok (p, _) => !s.tree.permits .write p
      | .error _ => false
    if blocked && force then
      modify fun t => match t.change (·.removeFile (plainPath target)) with
        | .ok u => u
        | .error _ => t
    match (← get).change (editedAt s.umask s.clock (plainPath target) fun _ => content) with
    | .error why =>
      let why := if isNew && why == .isDirectory then Failure.notDirectory else why
      troubled ("cannot create regular file " ++ named target ++ ": " ++ why.words)
    | .ok t =>
      set t
      match t.find target with
      | .ok (p, .file _) =>
        let mode := masked s.umask (traits.mode &&& 0o777)
        if exact then retraited p (fun _ => traits)
        else if isNew || blocked then retraited p (fun x => { x with mode })
      | _ => pure ()
      pure true

/-- Copies a directory with all that is in it to a place. -/
def copyDeep (exact : Bool) (source target : Place) : Doing Unit := do
  let s ← get
  let inside := s.tree.nodes.filter fun (p, _) => Tree.isWithin source p
  for (p, node) in inside do
    let q := target ++ p.drop source.length
    let traits := s.tree.traitsAt p
    modify fun t => t.act fun d =>
      if node == .directory && d.tree.node? q == some .directory then d
      else
        let given := if exact then traits else ⟨masked s.umask (traits.mode &&& 0o777), s.clock⟩
        { d with tree := (d.tree.put q node).setTraits q given }

/-- Whether what stands at one place was changed later than what stands at another. -/
def isNewer (t : Tree) (place other : Place) : Bool :=
  (t.traitsAt other).changed < (t.traitsAt place).changed

/-- Copies files, and directories if asked for. -/
def cp (args : List String) : Doing Nat := do
  let g ← given 1 true ("a/archive f/force i/interactive n/no-clobber r/recursive R p "
    ++ "v/verbose t=/target-directory T/no-target-directory u/update L/dereference "
    ++ "P/no-dereference d H s/symbolic-link l/link x =/preserve b /parents") args
  let (sources, target) ← sourcesOf g
  let deep := g.has "r" || g.has "R" || g.has "a"
  let exact := g.has "p" || g.has "a" || g.has "preserve"
  let asLinks := (g.has "a" || g.has "P" || g.has "d") || deep && !g.has "L"
  eachOperand sources fun source => do
    let path ← landing (g.has "T") source target
    let found ← if asLinks then nodeAt source else pure ((← get).find source)
    let there := (← get).find path
    match found with
    | .error why => troubled ("cannot stat " ++ named source ++ ": " ++ why.words)
    | .ok (place, .directory) =>
      if !deep then
        troubled ("-r not specified; omitting directory " ++ named source)
      else
        match there, (← get).tree.resolve (plainPath path) with
        | .ok (_, .file _), _ =>
          troubled ("cannot overwrite non-directory " ++ named path ++ " with directory "
            ++ named source)
        | _, .error why =>
          troubled ("cannot create directory " ++ named path ++ ": " ++ why.words)
        | _, .ok landed =>
          if Tree.isWithin place landed then
            troubled ("cannot copy a directory, " ++ named source ++ ", into itself, "
              ++ named path)
          else
            match (← get).tree.allowChange landed with
            | .error why =>
              troubled ("cannot create directory " ++ named path ++ ": " ++ why.words)
            | .ok () =>
              copyDeep exact place landed
              if g.has "v" then say 1 (named source ++ " -> " ++ named path ++ "\n")
              pure true
    | .ok (_, .link aim) =>
      let s ← get
      match s.change fun t => t.makeLink aim (plainPath path) with
      | .ok t =>
        set t
        pure true
      | .error why => troubled ("cannot create symbolic link " ++ named path ++ ": " ++ why.words)
    | .ok (place, _) =>
      match there with
      | .ok (p, .directory) =>
        if p == place then pure true
        else
          troubled ("cannot overwrite directory " ++ named path ++ " with non-directory "
            ++ named source)
      | .ok (p, _) =>
        if ((← get).tree.placesOf place).contains p then
          troubled (named source ++ " and " ++ named path ++ " are the same file")
        else if g.has "n" then pure true
        else if g.has "u" && !isNewer (← get).tree place p then pure true
        else do
          let well ← copyFile exact (g.has "f") source place path
          if well && g.has "v" then say 1 (named source ++ " -> " ++ named path ++ "\n")
          pure well
      | .error _ => do
        let well ← copyFile exact (g.has "f") source place path
        if well && g.has "v" then say 1 (named source ++ " -> " ++ named path ++ "\n")
        pure well

/-- Gives files and directories another name or another directory. -/
def mv (args : List String) : Doing Nat := do
  let g ← given 1 true ("f/force i/interactive n/no-clobber v/verbose t=/target-directory "
    ++ "T/no-target-directory u/update b") args
  let (sources, target) ← sourcesOf g
  eachOperand sources fun source => do
    let path ← landing (g.has "T") source target
    match ← nodeAt source with
    | .error why => troubled ("cannot stat " ++ named source ++ ": " ++ why.words)
    | .ok (place, node) =>
      let isDir := node == .directory
      let moved (landed : Place) : Doing Bool := do
        let t := (← get).tree
        match t.allowChange place, t.allowChange landed with
        | .ok (), .ok () =>
          modify fun s => s.act fun d => d.rename place landed
          if g.has "v" then
            say 1 ("renamed " ++ named source ++ " -> " ++ named path ++ "\n")
          pure true
        | .error why, _ | _, .error why =>
          troubled ("cannot move " ++ named source ++ " to " ++ named path ++ ": " ++ why.words)
      match (← get).tree.resolveWith false (plainPath path) with
      | .error why =>
        troubled ("cannot move " ++ named source ++ " to " ++ named path ++ ": " ++ why.words)
      | .ok landed =>
        match (← get).tree.node? landed with
        | none =>
          if isDir && Tree.isWithin place landed then
            troubled ("cannot move " ++ named source ++ " to a subdirectory of itself, "
              ++ named path)
          else if !isDir && Files.endsAsDirectory path then
            troubled ("cannot move " ++ named source ++ " to " ++ named path ++ ": "
              ++ Failure.notDirectory.words)
          else moved landed
        | some there =>
          let bothDirectories := isDir && there == .directory
          if landed == place then
            troubled (named source ++ " and " ++ named path ++ " are the same file")
          else if g.has "n" then pure true
          else if isDir && Tree.isWithin place landed then
            troubled ("cannot move " ++ named source ++ " to a subdirectory of itself, "
              ++ named path)
          else if isDir && !bothDirectories then
            troubled ("cannot overwrite non-directory " ++ named path ++ " with directory "
              ++ named source)
          else if !isDir && there == .directory then
            troubled ("cannot overwrite directory " ++ named path ++ " with non-directory")
          else if bothDirectories && (← get).tree.hasBelow landed then
            troubled ("cannot overwrite " ++ named path ++ ": " ++ Failure.notEmpty.words)
          else moved landed

/-- Makes links. -/
def ln (args : List String) : Doing Nat := do
  let g ← given 1 true ("s/symbolic f/force n/no-dereference v/verbose t=/target-directory "
    ++ "T/no-target-directory i b r/relative L P") args
  let (sources, target) ←
    match g.operands, g.value? "t" with
    | [a], none => pure ([a], ".")
    | [], none => misused 1 "missing file operand"
    | _, _ => sourcesOf g
  let kind := if g.has "s" then "symbolic" else "hard"
  eachOperand sources fun source => do
    let stands : Bool := g.has "n" && match ← nodeAt target with
      | .ok (_, .link _) => true
      | _ => false
    let path ← landing (g.has "T" || stands) source target
    if g.has "f" then
      match ← nodeAt path with
      | .ok (place, node) =>
        if node != .directory then
          modify fun s => s.act fun d => { d with tree := d.tree.erase place }
      | .error _ => pure ()
    let s ← get
    let made : Except Failure Session :=
      if g.has "s" then s.change fun t => t.makeLink (plainPath source) (plainPath path)
      else
        match s.tree.findHere (plainPath path), s.find source with
        | .ok _, .ok _ => .error .exists
        | _, .ok (place, .file _) =>
          if Files.endsAsDirectory path then .error .notFound
          else s.change fun t => do
            let twin ← t.resolveWith false (plainPath path)
            t.allowChange twin
            pure (t.makeTwin place twin)
        | _, .ok _ => .error .notPermitted
        | _, .error _ => .ok s
    match g.has "s", s.find source, made with
    | false, .error why, _ => troubled ("failed to access " ++ named source ++ ": " ++ why.words)
    | false, .ok (_, .directory), _ =>
      troubled (source ++ ": hard link not allowed for directory")
    | _, _, .ok t =>
      set t
      if g.has "v" then
        say 1 (named path ++ (if g.has "s" then " -> " else " => ") ++ named source ++ "\n")
      pure true
    | _, _, .error why =>
      troubled ("failed to create " ++ kind ++ " link " ++ named path
        ++ (if why == .exists then "" else " => " ++ named source) ++ ": " ++ why.words)

/-- Gives a file one more name. -/
def link (args : List String) : Doing Nat := do
  let g ← given 1 true "" args
  match g.operands with
  | [] => misused 1 "missing operand"
  | [a] => misused 1 ("missing operand after " ++ named a)
  | [source, path] => do
    let s ← get
    let made := s.change fun t => do
      let (place, node) ← t.findHere (plainPath source)
      if node == .directory then throw .notPermitted
      let twin ← t.resolveWith false (plainPath path)
      if (t.node? twin).isSome then throw .exists
      t.allowChange twin
      pure (t.makeTwin place twin)
    eachOperand [path] fun path =>
      match made with
      | .ok t => do
        set t
        pure true
      | .error why =>
        troubled ("cannot create link " ++ named path ++ " to " ++ named source ++ ": "
          ++ why.words)
  | _ :: _ :: extra :: _ => misused 1 ("extra operand " ++ named extra)

end TestFleet.Shell.Program
