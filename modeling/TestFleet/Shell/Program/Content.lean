import TestFleet.Shell.Glob
import TestFleet.Shell.Program.Call
/-!
# Programs that show files

Each of them reads the files that it is given, or the standard input, and writes them out in whole
or in part, or counts what is in them.
-/
namespace TestFleet.Shell.Program

open Files (Octets Failure Place Node)

/-- The operands, or the standard input if there are none. -/
def Given.files (g : Given) : List String := if g.operands.isEmpty then ["-"] else g.operands

/-! ## Files one after the other -/

/-- How a file's octets are shown. -/
structure Showing where
  numbersAll : Bool
  numbersFull : Bool
  squeezes : Bool
  marksEnds : Bool
  marksTabs : Bool
  visible : Bool

/-- An octet that cannot be seen, in characters that can. -/
def visibleForm (c : Char) : List Char :=
  let plain (n : Nat) : List Char :=
    if n < 32 then ['^', Char.ofNat (n + 64)] else if n == 127 then ['^', '?'] else [Char.ofNat n]
  if 128 ≤ c.toNat then 'M' :: '-' :: plain (c.toNat - 128) else plain c.toNat

/-- Where the showing of files stands: the number of the next line, whether a line starts, and
whether the last line was empty. -/
structure Shown where
  next : Nat
  starts : Bool
  empty : Bool

/-- What is shown of some characters. -/
def Showing.show (o : Showing) : Shown → List Char → List Char × Shown
  | st, [] => ([], st)
  | st, c :: rest =>
    let counted : Bool := st.starts && (o.numbersAll || o.numbersFull && c != '\n')
    let front : List Char :=
      if counted then (padLeft 6 (toString st.next)).toList ++ ['\t'] else []
    let next := if counted then st.next + 1 else st.next
    if c == '\n' then
      if st.starts && st.empty && o.squeezes then Showing.show o st rest
      else
        let (more, last) := Showing.show o ⟨next, true, st.starts⟩ rest
        (front ++ (if o.marksEnds then ['$', '\n'] else ['\n']) ++ more, last)
    else
      let form : List Char :=
        if c == '\t' then if o.marksTabs then ['^', 'I'] else ['\t']
        else if o.visible then visibleForm c
        else [c]
      let (more, last) := Showing.show o ⟨next, false, false⟩ rest
      (front ++ form ++ more, last)

/-- Whether a file is what the standard output goes to, and not empty. -/
def isOwnOutput (path : String) : Doing Bool := do
  let s ← get
  match s.descriptors.lookup 1, s.find path with
  | some (.file id), .ok (place, .file content) =>
    pure (((s.disk.opened.lookup id).map (·.place)) == some place && !content.isEmpty)
  | _, _ => pure false

/-- Writes files one after the other. -/
def cat (args : List String) : Doing Nat := do
  let g ← given 1 true ("A/show-all b/number-nonblank e E/show-ends n/number s/squeeze-blank "
    ++ "t T/show-tabs u v/show-nonprinting") args
  let o : Showing :=
    ⟨g.has "n" && !g.has "b", g.has "b", g.has "s", g.has "A" || g.has "e" || g.has "E",
      g.has "A" || g.has "t" || g.has "T", g.has "A" || g.has "e" || g.has "t" || g.has "v"⟩
  let mut status := 0
  let mut state : Shown := ⟨1, true, false⟩
  for path in g.files do
    if path != "-" && (← isOwnOutput path) then
      blame (path ++ ": input file is output file")
      status := 1
    else
      match ← contentOf true path with
      | .error why =>
        blame (path ++ ": " ++ why)
        status := 1
      | .ok cs =>
        let (shown, after) := o.show state cs
        print shown
        state := after
  pure status

/-- Writes the lines of files, the last one first. -/
def tac (args : List String) : Doing Nat := do
  let g ← given 1 true "b/before r/regex s=/separator" args
  let mut status := 0
  for path in g.files do
    match ← contentOf true path with
    | .error why =>
      blame ((if why == Failure.isDirectory.words then path ++ ": read error: " ++ why
        else "failed to open " ++ named path ++ " for reading: " ++ why))
      status := 1
    | .ok cs =>
      let (ls, ended) := linesOf cs
      match ended, ls.reverse with
      | false, last :: rest => print (last ++ joinedLines rest)
      | _, ls => print (joinedLines ls)
  pure status

/-- Writes lines with their characters in reverse. -/
def rev (args : List String) : Doing Nat := do
  let g ← given 1 true "V/version h/help" args
  let mut status := 0
  for path in g.files do
    match ← contentOf (g.operands.isEmpty) path with
    | .error why =>
      blame ("cannot open " ++ path ++ ": " ++ why)
      status := 1
    | .ok cs =>
      let (ls, ended) := linesOf cs
      let turned := ls.map (·.reverse)
      print (if ended then joinedLines turned else (joinedLines turned).dropLast)
  pure status

/-! ## Parts of files -/

/-- A part of a file: so many lines or octets at its start or its end, or all but so many. -/
structure Extent where
  lines : Bool
  count : Nat
  /-- Whether the count is what is left out. -/
  leaves : Bool

/-- The first so many lines of some characters, the last one with its end if it has one. -/
def firstLines : Nat → List Char → List Char
  | 0, _ => []
  | _ + 1, [] => []
  | n + 1, c :: rest => if c == '\n' then c :: firstLines n rest else c :: firstLines (n + 1) rest

/-- How many lines some characters make. -/
def lineCount (cs : List Char) : Nat :=
  cs.count '\n' + (if cs.isEmpty || cs.getLast? == some '\n' then 0 else 1)

/-- The part at the start of some characters. -/
def Extent.first (e : Extent) (cs : List Char) : List Char :=
  let total := if e.lines then lineCount cs else cs.length
  let n := if e.leaves then total - e.count else e.count
  if e.lines then firstLines n cs else cs.take n

/-- The part at the end of some characters. -/
def Extent.last (e : Extent) (cs : List Char) : List Char :=
  let total := if e.lines then lineCount cs else cs.length
  let n := if e.leaves then e.count - 1 else total - e.count
  cs.drop (if e.lines then (firstLines n cs).length else n)

/-- The extent that an argument asks for; a sign in front of it says that it is left out. -/
def extentOf (lines : Bool) (sign : Char) (other : Option Char) (arg : String) : Doing Extent := do
  let (leaves, digits) : Bool × String :=
    match arg.toList with
    | c :: rest =>
      if c == sign then (true, String.ofList rest)
      else if some c == other then (false, String.ofList rest)
      else (false, arg)
    | [] => (false, arg)
  match count? digits with
  | some n => pure ⟨lines, n, leaves⟩
  | none =>
    fail 1 ("invalid number of " ++ (if lines then "lines" else "bytes") ++ ": " ++ named digits)

/-- Arguments with a first one such as `-5` written as an option of its own; and `+5`, if that is
allowed. -/
def withoutBareCount (plus : Bool) (args : List String) : List String :=
  match args with
  | a :: rest =>
    match a.toList with
    | '+' :: d :: _ => if plus && d.isDigit then "-n" :: args else args
    | '-' :: d :: more =>
      if d.isDigit then
        let digits := (d :: more).takeWhile Char.isDigit
        let letters := (d :: more).drop digits.length
        "-n" :: String.ofList (digits) :: (if letters.isEmpty then rest
          else String.ofList ('-' :: letters) :: rest)
      else args
    | _ => args
  | [] => []

/-- The name of a file as a title has it. -/
def titleOf (path : String) : String := if path == "-" then "standard input" else path

/-- Shows parts of files, each with a title if there are several. -/
def showParts (g : Given) (part : String → Doing (Except String (List Char))) : Doing Nat := do
  let files := g.files
  let titled : Bool :=
    match g.last? ["q", "v"] with
    | some "q" => false
    | some _ => true
    | none => 1 < files.length
  let mut status := 0
  let mut first := true
  for path in files do
    match ← part path with
    | .error why =>
      if why == Failure.isDirectory.words then
        if titled then
          say 1 ((if first then "" else "\n") ++ "==> " ++ titleOf path ++ " <==\n")
          first := false
        blame ("error reading " ++ named (titleOf path) ++ ": " ++ why)
      else
        blame ("cannot open " ++ named (titleOf path) ++ " for reading: " ++ why)
      status := 1
    | .ok cs =>
      if titled then say 1 ((if first then "" else "\n") ++ "==> " ++ titleOf path ++ " <==\n")
      first := false
      print cs
  pure status

/-- Writes the first part of files. -/
def head (args : List String) : Doing Nat := do
  let g ← given 1 true "n=/lines c=/bytes q/quiet/silent v/verbose z/zero-terminated"
    (withoutBareCount false args)
  let extent ←
    match g.last? ["n", "c"] with
    | some key => extentOf (key == "n") '-' none ((g.value? key).getD "")
    | none => pure ⟨true, 10, false⟩
  showParts g fun path => do
    if path != "-" then
      pure ((← contentOf true path).map (byLines g extent.first))
    else
      match (← get).readFailure? 0 with
      | some why => pure (.error why)
      | none => do
        let chars (os : Octets) : List Char := (Text.Bytewise.ofOctets os).toList
        let (os, more) ← available 0
        let enough : Bool := !extent.leaves
          && (if extent.lines then extent.count ≤ os.count 10 else extent.count ≤ os.length)
        if more && !enough then awaitEnd 0
        let (os, _) ← available 0
        let cs := byLines g extent.first (chars os)
        let target := (← get).descriptors.lookup 0
        consume 0 (match target with | some (.file _) => cs.length | _ => os.length)
        pure (.ok cs)

/-- Writes the last part of files. -/
def tail (args : List String) : Doing Nat := do
  let g ← given 1 true "n=/lines c=/bytes q/quiet/silent v/verbose f?/follow F z/zero-terminated"
    (withoutBareCount true args)
  let extent ←
    match g.last? ["n", "c"] with
    | some key => extentOf (key == "n") '+' (some '-') ((g.value? key).getD "")
    | none => pure ⟨true, 10, false⟩
  let status ← showParts g fun path => do pure ((← contentOf true path).map (byLines g extent.last))
  if g.has "f" && !g.operands.isEmpty || g.has "F" then pass never
  pure status

/-! ## Counting and copying -/

/-- What is counted in a text. -/
structure Tally where
  lines : Nat
  words : Nat
  octets : Nat
  longest : Nat

/-- The tally of nothing. -/
def Tally.zero : Tally := ⟨0, 0, 0, 0⟩

/-- What a letter asks for. -/
def Tally.column (t : Tally) : Char → Nat
  | 'l' => t.lines
  | 'w' => t.words
  | 'L' => t.longest
  | _ => t.octets

/-- The number of words in a text, each with a character that can be seen. -/
def wordCount (cs : List Char) : Nat :=
  ((Text.pieces OctetClass.space.holds cs).filter fun w =>
    w.any OctetClass.graph.holds).length

/-- The width of a line on a screen. -/
def lineWidth (cs : List Char) : Nat :=
  cs.foldl (fun n c =>
    if c == '\t' then n + 8 - n % 8 else if OctetClass.print.holds c then n + 1 else n) 0

/-- What there is in a text. -/
def Tally.ofText (cs : List Char) : Tally :=
  ⟨cs.count '\n', wordCount cs, cs.length,
    ((linesOf cs).1.map lineWidth).foldl max 0⟩

/-- Two tallies as one. -/
def Tally.plus (a b : Tally) : Tally :=
  ⟨a.lines + b.lines, a.words + b.words, a.octets + b.octets, max a.longest b.longest⟩

/-- The size of a file, none if it is no file. -/
def sizeOf? (path : String) : Doing (Except Failure (Option Nat)) := do
  let s ← get
  if path == "-" then
    match s.descriptors.lookup 0 with
    | some (.file id) =>
      let place := ((s.disk.opened.lookup id).map (·.place)).getD []
      match s.tree.node? place with
      | some (.file content) => pure (.ok (some content.length))
      | _ => pure (.ok none)
    | _ => pure (.ok none)
  else
    match s.find path with
    | .ok (_, .file content) => pure (.ok (some content.length))
    | .ok _ => pure (.ok none)
    | .error f => pure (.error f)

/-- The width of the columns in which counts are shown. -/
def columnWidth (files : List String) (columns : Nat) : Doing Nat := do
  if files.length == 1 && columns == 1 then return 1
  let mut total := 0
  let mut least := 1
  for path in files do
    match ← sizeOf? path with
    | .ok (some n) => total := total + n
    | .ok none => least := 7
    | .error _ => pure ()
  pure (max least (toString total).length)

/-- Counts lines, words and octets. -/
def wc (args : List String) : Doing Nat := do
  let g ← given 1 true "l/lines w/words c/bytes m/chars L/max-line-length" args
  let wanted := if g.options.isEmpty then "lwc".toList else
    "lwmcL".toList.filter fun c => g.has (String.singleton c)
  let files := g.files
  let width ← columnWidth files wanted.length
  let line (t : Tally) (name : String) : String :=
    " ".intercalate (wanted.map fun c => padLeft width (toString (t.column c)))
      ++ (if name.isEmpty then "" else " " ++ name) ++ "\n"
  let mut status := 0
  let mut total : Tally := .zero
  for path in files do
    let name := if g.operands.isEmpty then "" else path
    match ← contentOf true path with
    | .error why =>
      blame ((if path == "-" then "standard input" else path) ++ ": " ++ why)
      if why == Failure.isDirectory.words then say 1 (line .zero name)
      status := 1
    | .ok cs =>
      let t := Tally.ofText cs
      total := total.plus t
      say 1 (line t name)
  if 1 < files.length then say 1 (line total "total")
  pure status

/-- Writes the standard input to files and to the standard output. -/
def tee (args : List String) : Doing Nat := do
  let g ← given 1 true "a/append i/ignore-interrupts p output-error?" args
  let mut status := 0
  let mut opened : List String := []
  for path in g.operands do
    let s ← get
    let made ← changing path (editedAt s.umask s.clock (plainPath path) fun os =>
      if g.has "a" then os else [])
    if made then opened := opened ++ [path] else status := 1
  let octets ← readAll 0
  modify (·.write 1 octets)
  for path in opened do
    let s ← get
    let _ ← changing path (editedAt s.umask s.clock (plainPath path) (· ++ octets))
  pure status

/-- Writes a line again and again. -/
def yes (args : List String) : Doing Nat := do
  let line := (if args.isEmpty then "y" else " ".intercalate args) ++ "\n"
  say 1 (String.join (List.replicate 2000 line))
  throw .endless

end TestFleet.Shell.Program
