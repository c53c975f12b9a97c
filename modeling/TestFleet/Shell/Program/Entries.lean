import TestFleet.Shell.Mode
import TestFleet.Shell.Program.Calendar
/-!
# Programs that work on directories

Files, directories and links are made, named anew, copied, taken away and listed. Each operand is
dealt with by itself: one that fails is complained of, and the others are done all the same.
-/
namespace TestFleet.Shell.Program

open Files (Octets Failure Place Node Tree)

/-- The status that says whether all went well. -/
def statusOf (well : Bool) : Nat := if well then 0 else 1

/-- Does something for each operand, and says whether all went well. -/
def eachOperand (operands : List String) (f : String → Doing Bool) : Doing Nat := do
  let mut well := true
  for p in operands do
    if !(← f p) then well := false
  pure (statusOf well)

/-- Complains, and says that something went wrong. -/
def troubled (message : String) : Doing Bool := do
  blame message
  pure false

/-- The last name in a path. -/
def lastName (path : String) : String :=
  let cs := Text.dropWhileEnd (· == '/') path.toList
  if cs.isEmpty then (if path.isEmpty then "" else "/")
  else String.ofList (cs.reverse.takeWhile (· != '/')).reverse

/-- A path without its last name. -/
def directoryOf (path : String) : String :=
  let cs := Text.dropWhileEnd (· == '/') path.toList
  let front := (cs.reverse.dropWhile (· != '/')).reverse
  let kept := Text.dropWhileEnd (· == '/') front
  if !kept.isEmpty then String.ofList kept
  else if front.isEmpty && !(cs.isEmpty && !path.isEmpty) then "."
  else "/"

/-- The node that a path leads to, a link at its end not followed. -/
def nodeAt (path : String) : Doing (Except Failure (Place × Node)) := do
  pure ((← get).tree.findHere (plainPath path))

/-- Whether a path leads to a directory. -/
def isDirectory (path : String) : Doing Bool := do
  match (← get).find path with
  | .ok (_, .directory) => pure true
  | _ => pure false

/-- A change of the traits of what stands at a place. -/
def retraited (place : Place) (f : Files.Traits → Files.Traits) : Doing Unit :=
  modify fun s => s.act fun d =>
    { d with tree := d.tree.setTraits place (f (d.tree.traitsAt place)) }

/-! ## Directories -/

/-- The paths to a directory and to all above it that the path names. -/
def pathsTo (path : String) : List String :=
  let names := (Text.splitOnChar '/' path).filter (!·.isEmpty)
  let front := if Files.isAbsolute path then "/" else ""
  (List.range names.length).map fun i => front ++ "/".intercalate (names.take (i + 1))

/-- Makes a directory; one that is there counts as made if `parents`. -/
def makeOne (verbose parents : Bool) (path : String) : Doing Bool := do
  let s ← get
  match s.change (withDirectory s.umask s.clock (plainPath path)) with
  | .ok t =>
    set t
    if verbose then
      say 1 ((← calledAs) ++ ": created directory " ++ named path ++ "\n")
    pure true
  | .error why =>
    if parents && why == .exists && (← isDirectory path) then pure true
    else troubled ("cannot create directory " ++ named path ++ ": " ++ why.words)

/-- Makes directories. -/
def mkdir (args : List String) : Doing Nat := do
  let g ← given 1 true "p/parents m=/mode v/verbose Z" args
  if g.operands.isEmpty then misused 1 "missing operand"
  let mode ←
    match g.value? "m" with
    | none => pure none
    | some m =>
      match Mode.given? true (← get).umask m 0o777 with
      | some n => pure (some n)
      | none => fail 1 ("invalid mode " ++ named m)
  eachOperand g.operands fun path => do
    let steps := if g.has "p" then pathsTo path else [path]
    let mut well := true
    for p in steps do
      if well then
        let isLast : Bool := p == steps.getLastD ""
        let blocked : Bool ←
          if isLast || !g.has "p" then pure false
          else
            match (← get).find p with
            | .ok (_, .directory) | .error .notFound => pure false
            | _ => pure true
        if blocked then
          well ← troubled ("cannot create directory " ++ named p ++ ": "
            ++ Failure.notDirectory.words)
        else well ← makeOne (g.has "v") (g.has "p") p
    if well then
      match mode, (← get).find path with
      | some m, .ok (place, _) => retraited place fun t => { t with mode := m }
      | _, _ => pure ()
    pure well

/-- Takes empty directories away. -/
def rmdir (args : List String) : Doing Nat := do
  let g ← given 1 true "p/parents v/verbose /ignore-fail-on-non-empty" args
  if g.operands.isEmpty then misused 1 "missing operand"
  eachOperand g.operands fun path => do
    let steps := if g.has "p" then (pathsTo path).reverse else [path]
    let mut well := true
    for p in steps do
      if well then
        if g.has "v" then
          say 1 ((← calledAs) ++ ": removing directory, " ++ named p ++ "\n")
        let s ← get
        let itself := (Files.parts p).isEmpty && !p.isEmpty && !p.startsWith "/" || p.endsWith "/."
        let removed :=
          if itself then .error .invalidArgument else s.change (·.removeDirectory (plainPath p))
        match removed with
        | .ok t => set t
        | .error why =>
          if why == .notEmpty && g.has "ignore-fail-on-non-empty" then return true
          well ← troubled ("failed to remove "
            ++ (if p == path then "" else "directory ") ++ named p ++ ": " ++ why.words)
    pure well

/-! ## Taking away -/

/-- Takes away one name of a file. -/
def unlink (args : List String) : Doing Nat := do
  let g ← given 1 true "" args
  match g.operands with
  | [] => misused 1 "missing operand"
  | [path] => eachOperand [path] fun path => do
    let s ← get
    match s.change (·.removeFile (plainPath path)) with
    | .ok t => do
      set t
      pure true
    | .error why => troubled ("cannot unlink " ++ named path ++ ": " ++ why.words)
  | _ :: extra :: _ => misused 1 ("extra operand " ++ named extra)

/-- Takes away what stands at a place, and all below it; says whether all of it is gone. -/
def removeDeep (verbose : Bool) (path : String) (place : Place) : Doing Bool := do
  let s ← get
  let inside := s.tree.nodes.filter fun (p, _) => Tree.isWithin place p
  let deepest := inside.mergeSort fun a b => b.1.length ≤ a.1.length
  let mut well := true
  for (p, node) in deepest do
    let shown := if p == place then path
      else Files.join path (Text.Bytewise.ofText ("/".intercalate (p.drop place.length)))
    let t := (← get).tree
    if node == .directory && t.hasBelow p then
      well := false
    else
      match t.allowChange p with
      | .error why => well ← troubled ("cannot remove " ++ named shown ++ ": " ++ why.words)
      | .ok () =>
        modify fun s => s.act fun d => { d with tree := d.tree.erase p }
        if verbose then
          say 1 ("removed " ++ (if node == .directory then "directory " else "") ++ named shown
            ++ "\n")
  pure well

/-- Takes files away, and directories if asked for. -/
def rm (args : List String) : Doing Nat := do
  let g ← given 1 true ("f/force i I r/recursive R d/dir v/verbose =/interactive "
    ++ "/one-file-system /no-preserve-root /preserve-root") args
  let force := g.has "f"
  let deep := g.has "r" || g.has "R"
  if g.operands.isEmpty then
    if force then return 0 else misused 1 "missing operand"
  eachOperand g.operands fun path => do
    match ← nodeAt path with
    | .error why =>
      if force && (why == .notFound || why == .notDirectory) then pure true
      else troubled ("cannot remove " ++ named path ++ ": " ++ why.words)
    | .ok (place, node) =>
      let isDirectory := node == .directory
      let bare := String.ofList (Text.dropWhileEnd (· == '/') path.toList)
      let isLink : Bool := match ← nodeAt bare with | .ok (_, .link _) => true | _ => false
      if isDirectory && deep && path.endsWith "/" && isLink then
        for name in (← get).tree.list place do
          let inside := Files.join path (Text.Bytewise.ofText name)
          let _ ← removeDeep (g.has "v") inside (place ++ [name])
        troubled ("cannot remove " ++ named path ++ ": " ++ Failure.notDirectory.words)
      else if isDirectory && deep && (lastName path == "." || lastName path == "..") then
        troubled ("refusing to remove '.' or '..' directory: skipping " ++ named path)
      else if isDirectory && !deep then
        if !g.has "d" then
          troubled ("cannot remove " ++ named path ++ ": " ++ Failure.isDirectory.words)
        else if (← get).tree.hasBelow place then
          troubled ("cannot remove " ++ named path ++ ": " ++ Failure.notEmpty.words)
        else removeDeep (g.has "v") path place
      else removeDeep (g.has "v") path place

/-! ## Traits -/

/-- Makes files that are missing, and says when files were changed. -/
def touch (args : List String) : Doing Nat := do
  let g ← given 1 true ("a c/no-create d=/date f h/no-dereference m r=/reference t= =/time") args
  let now := (← get).clock
  let time ←
    match g.value? "d", g.value? "t", g.value? "r" with
    | some d, _, _ =>
      match timeOf? now d with
      | some t => pure (some t)
      | none => fail 1 ("invalid date format " ++ named d)
    | none, some t, _ =>
      match stampTime? now t with
      | some t => pure (some t)
      | none => fail 1 ("invalid date format " ++ named t)
    | none, none, some r =>
      match (← get).find r with
      | .ok (place, _) => pure (some ((← get).tree.traitsAt place).changed)
      | .error why => fail 1 ("failed to get attributes of " ++ named r ++ ": " ++ why.words)
    | none, none, none => pure none
  if g.operands.isEmpty then misused 1 "missing file operand"
  eachOperand g.operands fun path => do
    let s ← get
    let at_ := time.getD s.clock
    match s.find path with
    | .ok (place, _) =>
      if !(g.has "a") || g.has "m" then retraited place fun t => { t with changed := at_ }
      pure true
    | .error why =>
      if why == .notFound && g.has "c" then pure true
      else if why != .notFound then
        troubled ("cannot touch " ++ named path ++ ": " ++ why.words)
      else
        match s.change (editedAt s.umask at_ (plainPath path) id) with
        | .ok t =>
          set t
          pure true
        | .error why =>
          let why := if why == .isDirectory then Failure.notFound else why
          troubled ("cannot touch " ++ named path ++ ": " ++ why.words)

/-- Whether an argument gives a mode although it starts with a minus sign. -/
def isModeArgument (a : String) : Bool :=
  a.startsWith "-" && 1 < a.length
    && (a.toList.drop 1).all ("rwxXstugoa,+-=01234567".toList.contains ·)

/-- Gives files other rights. -/
def chmod (args : List String) : Doing Nat := do
  let minus := args.find? isModeArgument
  let others := match minus with | some m => args.erase m | none => args
  let g ← given 1 true ("R/recursive v/verbose c/changes f/silent/quiet =/reference "
    ++ "/preserve-root /no-preserve-root") others
  let (mode, operands) ←
    match minus, g.value? "reference", g.operands with
    | some m, _, operands => pure (m, operands)
    | none, some r, operands =>
      match (← get).find r with
      | .ok (place, _) =>
        pure (String.ofList (Nat.toDigits 8 ((← get).tree.traitsAt place).mode), operands)
      | .error why => fail 1 ("failed to get attributes of " ++ named r ++ ": " ++ why.words)
    | none, none, [] => misused 1 "missing operand"
    | none, none, m :: operands => pure (m, operands)
  if operands.isEmpty then misused 1 ("missing operand after " ++ named mode)
  if (Mode.given? false 0 mode 0).isNone then misused 1 ("invalid mode: " ++ named mode)
  let one (path : String) (place : Place) : Doing Unit := do
    let s ← get
    let old := (s.tree.traitsAt place).mode
    let isDir := s.tree.node? place == some .directory
    let new := (Mode.given? isDir s.umask mode old).getD old
    retraited place fun t => { t with mode := new }
    let form (m : Nat) : String :=
      String.ofList ((Nat.toDigits 8 (0o10000 + m)).drop 1) ++ " (" ++ Mode.text m ++ ")"
    if old != new && (g.has "v" || g.has "c") then
      say 1 ("mode of " ++ named path ++ " changed from " ++ form old ++ " to " ++ form new ++ "\n")
    else if g.has "v" then
      say 1 ("mode of " ++ named path ++ " retained as " ++ form old ++ "\n")
  eachOperand operands fun path => do
    match (← get).find path with
    | .error why =>
      if g.has "f" then pure false
      else troubled ("cannot access " ++ named path ++ ": " ++ why.words)
    | .ok (place, node) =>
      one path place
      if g.has "R" && node == .directory then
        for (p, n) in (← get).tree.nodes do
          match n with
          | .link _ => pure ()
          | _ =>
            if Tree.isWithin place p && place.length < p.length then
              one (Files.join path (Text.Bytewise.ofText ("/".intercalate (p.drop place.length)))) p
      pure true

end TestFleet.Shell.Program
