import TestFleet.Shell.Glob
import TestFleet.Shell.Program.Content
/-!
# Programs that work on lines and columns

Lines are put in order, taken once, cut into columns, or changed octet by octet. Octets are ordered
by their numbers.
-/
namespace TestFleet.Shell.Program

open Files (Octets Failure Place Node)

/-! ## Order -/

/-- Whether one text comes before another. -/
def textBefore (a b : List Char) : Bool := a.lex b fun x y => decide (x.toNat < y.toNat)

/-- How two texts stand to each other. -/
def textOrder (a b : List Char) : Ordering :=
  if textBefore a b then .lt else if textBefore b a then .gt else .eq

/-- How lines are compared, by a part of them or as a whole. -/
structure Comparing where
  skipsBlanks : Bool
  skipsBlanksAtEnd : Bool
  numeric : Bool
  dictionary : Bool
  folded : Bool
  visible : Bool
  months : Bool
  reversed : Bool

/-- A part of a line: from a character of a field to one of another, counted from 0. No field at
the end means the end of the line; no character there, the end of its field. -/
structure Part where
  startField : Nat
  startChar : Nat
  endField : Option Nat
  endChar : Nat

/-- A key to sort by. -/
structure SortKey where
  part : Part
  how : Comparing

/-- Characters between which fields lie, unless another one is given. -/
def isColumnBlank (c : Char) : Bool := c == ' ' || c == '\t'

/-- A line without so many fields at its start, and without what separates them from the next if
`separated`. -/
def afterFields (separator : Option Char) (separated : Bool) : Nat → List Char → List Char
  | 0, cs => cs
  | n + 1, cs =>
    match separator with
    | some c =>
      let rest := cs.dropWhile (· != c)
      afterFields separator separated n (if n != 0 || separated then rest.drop 1 else rest)
    | none =>
      afterFields separator separated n
        ((cs.dropWhile isColumnBlank).dropWhile (!isColumnBlank ·))

/-- What a key takes of a line. -/
def SortKey.text (k : SortKey) (separator : Option Char) (line : List Char) : List Char :=
  let skip (yes : Bool) (cs : List Char) : List Char :=
    if yes then cs.dropWhile isColumnBlank else cs
  let start := (skip k.how.skipsBlanks (afterFields separator true k.part.startField line)).drop
    k.part.startChar
  match k.part.endField with
  | none => start
  | some n =>
    let behind :=
      if k.part.endChar == 0 then afterFields separator false (n + 1) line
      else (skip k.how.skipsBlanksAtEnd (afterFields separator true n line)).drop k.part.endChar
    start.take (start.length - behind.length)

/-- A decimal number at the start of a text: whether it is negative, its whole part without zeros
at the start, and its fraction without zeros at the end. -/
def decimalAt (cs : List Char) : Bool × List Char × List Char :=
  let cs := cs.dropWhile isColumnBlank
  let (negative, cs) : Bool × List Char :=
    match cs with
    | '-' :: rest => (true, rest)
    | _ => (false, cs)
  let whole := (cs.takeWhile Char.isDigit).dropWhile (· == '0')
  let fraction : List Char :=
    match cs.dropWhile Char.isDigit with
    | '.' :: rest => Text.dropWhileEnd (· == '0') (rest.takeWhile Char.isDigit)
    | _ => []
  (negative && !(whole.isEmpty && fraction.isEmpty), whole, fraction)

/-- How the numbers at the start of two texts stand to each other. -/
def decimalOrder (a b : List Char) : Ordering :=
  let (m, aw, af) := decimalAt a
  let (n, bw, bf) := decimalAt b
  let size : Ordering :=
    (compare aw.length bw.length).then ((textOrder aw bw).then (textOrder af bf))
  match m, n with
  | false, false => size
  | true, true => size.swap
  | true, false => .lt
  | false, true => .gt

/-- The number of the month that a text starts with, 0 if with none. -/
def monthAt (cs : List Char) : Nat :=
  let name := ((cs.dropWhile isColumnBlank).take 3).map Char.toUpper
  let names := ["JAN", "FEB", "MAR", "APR", "MAY", "JUN", "JUL", "AUG", "SEP", "OCT", "NOV", "DEC"]
  ((names.map String.toList).idxOf? name).elim 0 (· + 1)

/-- How two keys stand to each other. -/
def Comparing.order (k : Comparing) (a b : List Char) : Ordering :=
  let kept (cs : List Char) : List Char :=
    let cs := if k.dictionary then cs.filter fun c => isColumnBlank c || c.isAlphanum else cs
    let cs := if k.visible then cs.filter OctetClass.print.holds else cs
    if k.folded then cs.map Char.toUpper else cs
  let r : Ordering :=
    if k.numeric then decimalOrder a b
    else if k.months then compare (monthAt a) (monthAt b)
    else textOrder (kept a) (kept b)
  if k.reversed then r.swap else r

/-- A comparison as letters ask for it. -/
def Comparing.ofLetters (letters endLetters : List Char) : Comparing :=
  let all := letters ++ endLetters
  ⟨letters.contains 'b', endLetters.contains 'b', all.contains 'n' || all.contains 'g',
    all.contains 'd', all.contains 'f', all.contains 'i', all.contains 'M', all.contains 'r'⟩

/-- One end of a key: a field, perhaps with a character in it, and letters. -/
def keyEnd? (cs : List Char) : Option (Nat × Nat × List Char) :=
  let value (ds : List Char) : Nat := ds.foldl (fun n c => n * 10 + (c.toNat - '0'.toNat)) 0
  let field := cs.takeWhile Char.isDigit
  if field.isEmpty then none
  else
    match cs.drop field.length with
    | '.' :: rest =>
      let char := rest.takeWhile Char.isDigit
      if char.isEmpty then none else some (value field, value char, rest.drop char.length)
    | letters => some (value field, 0, letters)

/-- The key that an argument describes. Letters of its own make it forget those that all keys
have. -/
def sortKey? (usual : List Char) (arg : String) : Option SortKey :=
  match Text.splitOnChar ',' arg with
  | front :: back =>
    match keyEnd? front.toList, back with
    | some (f, c, letters), [] =>
      if f == 0 then none
      else
        let how := if letters.isEmpty then Comparing.ofLetters usual usual
          else Comparing.ofLetters letters []
        some ⟨⟨f - 1, c - 1, none, 0⟩, how⟩
    | some (f, c, letters), [second] =>
      match keyEnd? second.toList with
      | some (g, d, more) =>
        if f == 0 || g == 0 then none
        else
          let how := if letters.isEmpty && more.isEmpty then Comparing.ofLetters usual usual
            else Comparing.ofLetters letters more
          some ⟨⟨f - 1, c - 1, some (g - 1), d⟩, how⟩
      | none => none
    | _, _ => none
  | [] => none

/-- The options of sorting, with their letters and names. -/
def sortOptions : String :=
  "b/ignore-leading-blanks d/dictionary-order f/ignore-case g/general-numeric-sort "
    ++ "i/ignore-nonprinting M/month-sort h/human-numeric-sort n/numeric-sort R/random-sort "
    ++ "r/reverse V/version-sort c/check C k=/key m/merge o=/output s/stable S=/buffer-size "
    ++ "t=/field-separator T=/temporary-directory u/unique z/zero-terminated"

/-- Writes lines in order. -/
def sort (args : List String) : Doing Nat := do
  let g ← given 2 true sortOptions args
  let separator ←
    match (g.value? "t").map String.toList with
    | none => pure none
    | some [c] => pure (some c)
    | some [] => fail 2 "empty tab"
    | some ['\\', '0'] => pure (some (Char.ofNat 0))
    | some cs => fail 2 ("multi-character tab " ++ named (String.ofList cs))
  let letters := "bdfgiMhnRrV".toList.filter fun c => g.has (String.singleton c)
  let described := (g.options.filter (·.1 == "k")).map fun (_, v) => (v, sortKey? letters v)
  if let some (v, _) := described.find? (·.2.isNone) then
    if v.startsWith "0" then
      fail 2 ("field number is zero: invalid field specification " ++ named v)
    fail 2 ("invalid number at field start: invalid count at start of " ++ named v)
  let whole : SortKey := ⟨⟨0, 0, none, 0⟩, Comparing.ofLetters letters letters⟩
  let keys :=
    if described.isEmpty && letters.any (· != 'r') then [whole]
    else described.filterMap (·.2)
  let byKeys (a b : List Char) : Ordering :=
    keys.foldl (fun r k => r.then (k.how.order (k.text separator a) (k.text separator b))) .eq
  let last (a b : List Char) : Ordering :=
    if letters.contains 'r' then (textOrder a b).swap else textOrder a b
  let order (a b : List Char) : Ordering :=
    if keys.isEmpty then last a b
    else if g.has "s" || g.has "u" then byKeys a b
    else (byKeys a b).then (last a b)
  let same (a b : List Char) : Bool := (if keys.isEmpty then last a b else byKeys a b) == .eq
  if g.has "c" || g.has "C" then
    let path := g.files.headD "-"
    match ← contentOf true path with
    | .error why => fail 2 ("cannot read: " ++ path ++ ": " ++ why)
    | .ok cs =>
      let ls := (linesOf cs).1
      let wrong := (ls.zip (ls.drop 1)).zipIdx.find? fun ((a, b), _) =>
        if g.has "u" then order a b != .lt else order a b == .gt
      match wrong with
      | none => return 0
      | some ((_, b), i) =>
        if !g.has "C" then
          blame (path ++ ":" ++ toString (i + 2) ++ ": disorder: " ++ String.ofList b)
        return 1
  let mut all : List (List Char) := []
  for path in g.files do
    match ← contentOf true path with
    | .error why =>
      fail 2 ((if why == Failure.isDirectory.words then "read failed: " else "cannot read: ")
        ++ path ++ ": " ++ why)
    | .ok cs => all := all ++ (linesOf (if g.has "z" then exchanged cs else cs)).1
  let sorted := all.mergeSort fun a b => order a b != .gt
  let kept := if g.has "u" then distinctRuns same sorted else sorted
  let result (ls : List (List Char)) : List Char :=
    if g.has "z" then exchanged (joinedLines ls) else joinedLines ls
  match g.value? "o" with
  | none => print (result kept)
  | some path =>
    let s ← get
    let octets := Text.Bytewise.octets (String.ofList (result kept))
    match s.change (editedAt s.umask s.clock (plainPath path) fun _ => octets) with
    | .ok t => set t
    | .error e => fail 2 ("open failed: " ++ path ++ ": " ++ e.words)
  pure 0
where
  /-- The first of each run of lines that count as the same. -/
  distinctRuns (same : List Char → List Char → Bool) : List (List Char) → List (List Char)
    | [] => []
    | a :: rest =>
      a :: distinctAfter same a rest
  /-- The same, behind a line. -/
  distinctAfter (same : List Char → List Char → Bool) (a : List Char) :
      List (List Char) → List (List Char)
    | [] => []
    | b :: rest =>
      if same a b then distinctAfter same a rest else b :: distinctAfter same b rest

/-! ## Repetitions -/

/-- Lines in runs of those that count as the same. -/
def runsOf (same : List Char → List Char → Bool) (ls : List (List Char)) :
    List (List (List Char)) :=
  ls.foldr (fun l runs =>
    match runs with
    | (m :: run) :: rest => if same l m then (l :: m :: run) :: rest else [l] :: (m :: run) :: rest
    | _ => [l] :: runs) []

/-- The number that an option was given, 0 if none. -/
def optionNumber (g : Given) (key what : String) : Doing Nat := do
  match g.value? key with
  | none => pure 0
  | some v =>
    match v.toNat? with
    | some n => pure n
    | none => fail 1 (v ++ ": invalid number of " ++ what)

/-- Writes lines without their repetitions in a row. -/
def uniq (args : List String) : Doing Nat := do
  let g ← given 1 true ("c/count d/repeated D/all-repeated u/unique i/ignore-case "
    ++ "f=/skip-fields s=/skip-chars w=/check-chars z/zero-terminated") args
  if let _ :: _ :: extra :: _ := g.operands then misused 1 ("extra operand " ++ named extra)
  let fields ← optionNumber g "f" "fields to skip"
  let chars ← optionNumber g "s" "bytes to skip"
  let width ← optionNumber g "w" "bytes to compare"
  let key (l : List Char) : List Char :=
    let l := (afterFields none true fields l).drop chars
    let l := if (g.value? "w").isSome then l.take width else l
    if g.has "i" then l.map Char.toLower else l
  let path := g.files.headD "-"
  match ← contentOf true path with
  | .error why =>
    fail 1 ((if why == Failure.isDirectory.words then "error reading " ++ named path else path)
      ++ ": " ++ why)
  | .ok cs =>
    let cs := if g.has "z" then exchanged cs else cs
    let runs := runsOf (fun a b => key a == key b) (linesOf cs).1
    let wanted := runs.filter fun r =>
      if g.has "d" || g.has "D" then 1 < r.length && !(g.has "u" && !g.has "D")
      else if g.has "u" then r.length == 1
      else true
    let shown := wanted.flatMap fun r =>
      if g.has "D" then r
      else
        let front := if g.has "c" then (padLeft 7 (toString r.length)).toList ++ [' '] else []
        [front ++ r.headD []]
    let result := if g.has "z" then exchanged (joinedLines shown) else joinedLines shown
    match g.operands with
    | [_, target] =>
      let s ← get
      let octets := Text.Bytewise.octets (String.ofList result)
      if ← changing target (editedAt s.umask s.clock (plainPath target) fun _ => octets) then pure 0
      else pure 1
    | _ =>
      print result
      pure 0

/-! ## Columns -/

/-- The ranges of a list such as `1,3-5,7-`: each with its first number and its last. -/
def ranges? (s : String) : Option (List (Nat × Option Nat)) :=
  (Text.splitOnChar ',' s).mapM fun r =>
    match Text.splitOnChar '-' r with
    | [a] => a.toNat?.map fun n => (n, some n)
    | [a, b] =>
      match a.isEmpty, b.isEmpty with
      | true, true => none
      | true, false => b.toNat?.map fun n => (1, some n)
      | false, true => a.toNat?.map fun n => (n, none)
      | false, false => a.toNat?.bind fun m => b.toNat?.map fun n => (m, some n)
    | _ => none

/-- Whether a number lies in one of some ranges. -/
def inRanges (rs : List (Nat × Option Nat)) (n : Nat) : Bool :=
  rs.any fun (low, high) => low ≤ n && (high.map fun h => decide (n ≤ h)).getD true

/-- Characters that lie at some places, in pieces of those in a row. -/
def chosenRuns (wanted : Nat → Bool) (cs : List Char) : List (List Char) :=
  let marked := cs.zipIdx.map fun (c, i) => (c, wanted (i + 1))
  let runs := (Text.pieces (fun (p : Char × Bool) => !p.2) marked).filter (!·.isEmpty)
  runs.map fun r => r.map (·.1)

/-- Writes parts of lines. -/
def cut (args : List String) : Doing Nat := do
  let g ← given 1 true ("b=/bytes c=/characters f=/fields d=/delimiter n s/only-delimited "
    ++ "/complement =/output-delimiter z/zero-terminated") args
  let lists := g.options.filter fun (k, _) => k == "b" || k == "c" || k == "f"
  match lists with
  | [] => misused 1 "you must specify a list of bytes, characters, or fields"
  | [(kind, list)] =>
    let rs ←
      match ranges? list with
      | some rs => pure rs
      | none =>
        misused 1 (if kind == "f" then "invalid field value " ++ named list
          else "invalid byte or character range " ++ named list)
    if rs.any fun r => r.1 == 0 || r.2 == some 0 then
      misused 1 (if kind == "f" then "fields are numbered from 1"
        else "byte/character positions are numbered from 1")
    if rs.any fun r => (r.2.map fun h => decide (h < r.1)).getD false then
      misused 1 "invalid decreasing range"
    let delimiter ←
      match (g.value? "d").map String.toList with
      | none => pure '\t'
      | some [c] => pure c
      | some [] => pure (Char.ofNat 0)
      | some _ => misused 1 "the delimiter must be a single character"
    if kind != "f" && (g.value? "d").isSome then
      misused 1 "an input delimiter may be specified only when operating on fields"
    let wanted (n : Nat) : Bool := inRanges rs n != g.has "complement"
    let between := (g.value? "output-delimiter").map String.toList
    let line (l : List Char) : Option (List Char) :=
      if kind == "f" then
        if !l.contains delimiter then (if g.has "s" then none else some l)
        else
          let fields := (Text.pieces (· == delimiter) l).zipIdx.filter fun (_, i) => wanted (i + 1)
          some ((between.getD [delimiter]).intercalate (fields.map (·.1)))
      else some ((between.getD []).intercalate (chosenRuns wanted l))
    let mut status := 0
    for path in g.files do
      match ← contentOf true path with
      | .error why =>
        blame (path ++ ": " ++ why)
        status := 1
      | .ok cs =>
        print (byLines g (fun cs => joinedLines ((linesOf cs).1.filterMap line)) cs)
    pure status
  | _ => misused 1 "only one list may be specified"

/-! ## Octets one for another -/

/-- One member of a set of octets, an escape behind a backslash, and the rest. -/
def memberAt : List Char → Option (Char × List Char)
  | [] => none
  | ['\\'] => some ('\\', [])
  | '\\' :: c :: rest =>
    let octal (ds : List Char) : Char :=
      Char.ofNat (ds.foldl (fun n d => n * 8 + (d.toNat - '0'.toNat)) 0 % 256)
    let digits := ((c :: rest).take 3).takeWhile fun d => '0' ≤ d && d ≤ '7'
    if !digits.isEmpty then some (octal digits, (c :: rest).drop digits.length)
    else
      let plain : Char :=
        match c with
        | 'a' => Char.ofNat 7
        | 'b' => Char.ofNat 8
        | 'f' => Char.ofNat 12
        | 'n' => '\n'
        | 'r' => '\r'
        | 't' => '\t'
        | 'v' => Char.ofNat 11
        | c => c
      some (plain, rest)
  | c :: rest => some (c, rest)

/-- The octets of a class. -/
def classMembers (k : OctetClass) : List Char :=
  ((List.range 256).map Char.ofNat).filter k.holds

/-- The octets of a set in their order; an octet that is repeated to fill the set is given apart,
with how many stand before it. -/
def setMembersOf : Nat → List Char → Except String (List Char × Option (Nat × Char))
  | 0, _ => .ok ([], none)
  | _ + 1, [] => .ok ([], none)
  | fuel + 1, cs =>
    let adding (front rest : List Char) : Except String (List Char × Option (Nat × Char)) := do
      let (more, filling) ← setMembersOf fuel rest
      .ok (front ++ more, filling.map fun (n, c) => (n + front.length, c))
    let single : Except String (List Char × Option (Nat × Char)) :=
      match memberAt cs with
      | none => .ok ([], none)
      | some (low, '-' :: rest) =>
        match memberAt rest with
        | none => adding [low] ('-' :: rest)
        | some (high, after) =>
          if high < low then
            .error ("range-endpoints of '" ++ String.ofList [low, '-', high]
              ++ "' are in reverse collating sequence order")
          else
            adding ((List.range (high.toNat + 1 - low.toNat)).map fun i =>
              Char.ofNat (low.toNat + i)) after
      | some (c, rest) => adding [c] rest
    match cs with
    | '[' :: ':' :: inner =>
      let name := inner.takeWhile (· != ':')
      match OctetClass.ofName? (String.ofList name), inner.drop name.length with
      | some k, ':' :: ']' :: rest => adding (classMembers k) rest
      | none, ':' :: ']' :: _ => .error ("invalid character class " ++ named (String.ofList name))
      | _, _ => single
    | '[' :: '=' :: c :: '=' :: ']' :: rest => adding [c] rest
    | '[' :: inner =>
      match memberAt inner with
      | some (c, '*' :: after) =>
        let digits := after.takeWhile Char.isDigit
        match after.drop digits.length with
        | ']' :: rest =>
          let base := if digits.head? == some '0' then 8 else 10
          let n := digits.foldl (fun n d => n * base + (d.toNat - '0'.toNat)) 0
          if n == 0 then do
            let (more, _) ← setMembersOf fuel rest
            .ok (more, some (0, c))
          else adding (List.replicate n c) rest
        | _ => single
      | _ => single
    | _ => single

/-- A set of octets filled up to a size. -/
def filledSet (size : Nat) (s : List Char × Option (Nat × Char)) : List Char :=
  match s.2 with
  | none => s.1
  | some (n, c) => s.1.take n ++ List.replicate (size - s.1.length) c ++ s.1.drop n

/-- Text without repetitions in a row of the octets of a set. -/
def squeezed (set : List Char) : List Char → List Char
  | a :: b :: rest =>
    if a == b && set.contains a then squeezed set (b :: rest) else a :: squeezed set (b :: rest)
  | cs => cs

/-- Changes octets one for another, or takes them away. -/
def tr (args : List String) : Doing Nat := do
  let g ← given 1 false "c/complement C d/delete s/squeeze-repeats t/truncate-set1" args
  let deletes := g.has "d"
  let squeezes := g.has "s"
  let hint : Doing Unit := do
    say 2 ("Try '" ++ (← calledAs) ++ " --help' for more information.\n")
    throw (.exit 1)
  let least := if deletes == squeezes then 2 else 1
  let most := if deletes && !squeezes then 1 else 2
  if g.operands.isEmpty then misused 1 "missing operand"
  if g.operands.length < least then
    blame ("missing operand after " ++ named (g.operands.getLastD ""))
    say 2 (if squeezes then
        "Two strings must be given when both deleting and squeezing repeats.\n"
      else "Two strings must be given when translating.\n")
    hint
  if let some extra := g.operands[most]? then
    blame ("extra operand " ++ named extra)
    if g.operands.length == 2 then
      say 2 "Only one string may be given when deleting without squeezing repeats.\n"
    hint
  let read (s : String) : Doing (List Char × Option (Nat × Char)) := do
    if (s.toList.reverse.takeWhile (· == '\\')).length % 2 == 1 then
      blame "warning: an unescaped backslash at end of string is not portable"
    match setMembersOf (s.length + 1) s.toList with
    | .ok r => pure r
    | .error why => fail 1 why
  let first ← read (g.operands.headD "")
  if first.2.isSome then fail 1 "the [c*] repeat construct may not appear in string1"
  let source :=
    if g.has "c" || g.has "C" then
      ((List.range 256).map Char.ofNat).filter (!first.1.contains ·)
    else first.1
  let second ←
    match g.operands[1]? with
    | some s => do pure (some (filledSet source.length (← read s)))
    | none => pure none
  let cs := (Text.Bytewise.ofOctets (← readAll 0)).toList
  match second with
  | some target =>
    if deletes then
      print (squeezed target (cs.filter (!source.contains ·)))
    else
      if target.isEmpty && !g.has "t" then
        fail 1 "when not truncating set1, string2 must be non-empty"
      let source := if g.has "t" then source.take target.length else source
      let pairs := source.zipIdx.map fun (c, i) => (c, target[i]?.getD (target.getLastD c))
      let table := pairs.reverse
      let changed := cs.map fun c => (table.lookup c).getD c
      print (if squeezes then squeezed target changed else changed)
  | none =>
    print (if deletes then cs.filter (!source.contains ·) else squeezed source cs)
  pure 0

end TestFleet.Shell.Program
