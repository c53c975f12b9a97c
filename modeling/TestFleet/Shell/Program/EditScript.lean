import TestFleet.Shell.Program.Expression
/-!
# Scripts for editing lines

A script is a list of commands, each with an address that says for which lines it counts. Blocks
are kept as jumps: a block that does not count goes on behind its end.
-/
namespace TestFleet.Shell.Program.Edit

/-- A pattern in a script; none stands for the one that was used last. -/
abbrev Pattern := Option (Expression × Bool)

/-- What chooses a line. -/
inductive Address where
  | line (n : Nat)
  | last
  | holds (p : Pattern)
  /-- A line, and every so many after it. -/
  | every (first step : Nat)

/-- What ends a range of lines. -/
inductive RangeEnd where
  | at_ (a : Address)
  /-- So many lines further on. -/
  | after (n : Nat)
  /-- A line whose number is a multiple. -/
  | multiple (n : Nat)

/-- The lines for which a command counts. -/
inductive Scope where
  | all
  | one (a : Address)
  | range (a : Address) (b : RangeEnd)

/-- A part of what is put in the place of a match. -/
inductive Part where
  | char (c : Char)
  | group (n : Nat)
  /-- A change of the case of what follows: of all of it or of one character; or the end of it. -/
  | case (letter : Char)
  deriving Inhabited

/-- What a substitution is to do. -/
structure Substitution where
  pattern : Pattern
  parts : List Part
  all : Bool
  number : Nat
  prints : Bool
  file : Option String

/-- What a command does. -/
inductive Action where
  /-- Goes on behind the end of a block unless the command counts. -/
  | block (behind : Nat)
  | nothing
  | number
  | append (text : List Char)
  | insert (text : List Char)
  | change (text : List Char)
  | branch (label : String)
  | branchIf (label : String)
  | branchUnless (label : String)
  | label (name : String)
  | delete
  | deleteFirst
  | get
  | getMore
  | hold
  | holdMore
  | exchange
  | list
  | next
  | nextMore
  | print
  | printFirst
  | quit (status : Nat) (shows : Bool)
  | readFile (path : String)
  | substitute (s : Substitution)
  | writeFile (path : String)
  | translate (table : List (Char × Char))

/-- A command of a script. -/
structure Command where
  scope : Scope
  inverted : Bool
  action : Action

instance : Inhabited Command := ⟨⟨.all, false, .nothing⟩⟩

/-- What is wrong with a script, and where. -/
structure Fault where
  at_ : Nat
  message : String

/-- What is left of a script, and how much of it there was. -/
structure Rest where
  chars : List Char
  size : Nat
  extended : Bool

/-- Reading of a script. -/
abbrev Reading := StateT Rest (Except Fault)

/-- Refuses what has been read, at the place where the reading stands. -/
def refuse {α : Type} (message : String) : Reading α := fun r =>
  .error ⟨r.size - r.chars.length, message⟩

/-- The next character, not used up. -/
def peek : Reading (Option Char) := do pure (← get).chars.head?

/-- Uses up characters. -/
def drop (n : Nat) : Reading Unit := modify fun r => { r with chars := r.chars.drop n }

/-- The characters of a kind that come next, used up. -/
def run (p : Char → Bool) : Reading (List Char) := do
  let cs := (← get).chars.takeWhile p
  drop cs.length
  pure cs

/-- Uses up blanks. -/
def blanks : Reading Unit := do
  let _ ← run fun c => c == ' ' || c == '\t'

/-- The number that comes next. -/
def number? : Reading (Option Nat) := do
  let ds ← run Char.isDigit
  pure (if ds.isEmpty then none else some (ds.foldl (fun n c => n * 10 + (c.toNat - '0'.toNat)) 0))

/-- Text up to a delimiter, which is used up. A delimiter behind a backslash stands for itself; in a
pattern none ends it between brackets. -/
def delimited (mark : Char) (pattern : Bool) :
    Nat → Bool → List Char → Option (List Char × List Char)
  | 0, _, _ => none
  | _ + 1, _, [] => none
  | fuel + 1, inside, cs =>
    let more (front rest : List Char) (inside : Bool) : Option (List Char × List Char) :=
      (delimited mark pattern fuel inside rest).map fun (t, r) => (front ++ t, r)
    match cs with
    | [] => none
    | '\\' :: c :: rest =>
      if inside then more ['\\'] (c :: rest) true
      else if c == mark then more [c] rest false
      else if c == 'n' then more ['\n'] rest false
      else if c == 't' then more ['\t'] rest false
      else more ['\\', c] rest false
    | '[' :: rest =>
      if pattern && !inside && mark != '[' then
        let front := match rest with
          | '^' :: ']' :: _ => ['^', ']']
          | '^' :: _ => ['^']
          | ']' :: _ => [']']
          | _ => []
        more ('[' :: front) (rest.drop front.length) true
      else if '[' == mark && !inside then some ([], rest)
      else more ['['] rest inside
    | ']' :: rest =>
      if inside then more [']'] rest false
      else if mark == ']' then some ([], rest)
      else more [']'] rest false
    | c :: rest =>
      if c == mark && !inside then some ([], rest)
      else if c == '\n' then none
      else more [c] rest inside

/-- Where a line ends that no backslash joins with the next one, and what follows. -/
def unended : List Char → List Char
  | '\\' :: _ :: rest => unended rest
  | '\n' :: rest => '\n' :: rest
  | _ :: rest => unended rest
  | [] => []

/-- The same, as a step of reading. -/
def delimitedText (mark : Char) (pattern : Bool) (why : String) : Reading (List Char) := do
  let r ← get
  match delimited mark pattern (r.chars.length + 1) false r.chars with
  | some (text, rest) => do
    set { r with chars := rest }
    pure text
  | none => do
    set { r with chars := unended r.chars }
    refuse why

/-- The pattern of a text. -/
def patternOf (text : List Char) (folded : Bool) : Reading Pattern := do
  if text.isEmpty then pure none
  else
    match Expression.ofText (← get).extended text with
    | .ok (e, _) => pure (some (e, folded))
    | .error f => refuse f.message

/-- An address, if one comes next. -/
def address? : Reading (Option Address) := do
  match ← peek with
  | some '$' =>
    drop 1
    pure (some .last)
  | some c =>
    if c.isDigit then
      let n := (← number?).getD 0
      if (← peek) == some '~' then
        drop 1
        pure (some (.every n ((← number?).getD 0)))
      else pure (some (.line n))
    else if c == '/' || c == '\\' then
      drop 1
      let mark ← if c == '/' then pure '/' else do
        let m := (← peek).getD '/'
        drop 1
        pure m
      let text ← delimitedText mark true "unterminated address regex"
      let folded ← run fun k => k == 'I' || k == 'M'
      pure (some (.holds (← patternOf text (folded.contains 'I'))))
    else pure none
  | none => pure none

/-- The scope of a command. -/
def scope : Reading Scope := do
  match ← address? with
  | none => pure .all
  | some a =>
    blanks
    if (← peek) == some ',' then
      drop 1
      blanks
      match ← peek with
      | some '+' =>
        drop 1
        pure (.range a (.after ((← number?).getD 0)))
      | some '~' =>
        drop 1
        pure (.range a (.multiple ((← number?).getD 0)))
      | _ =>
        match ← address? with
        | some b => pure (.range a (.at_ b))
        | none => refuse "unexpected `,'"
    else pure (.one a)

/-- The text of a command that adds lines: behind a backslash and the end of its line, or on the
same line. -/
def addedText : Reading (List Char) := do
  blanks
  if (← get).chars.isEmpty then refuse "expected \\ after `a', `c' or `i'"
  if (← peek) == some '\\' then
    drop 1
    blanks
    if (← peek) == some '\n' then drop 1
  let r ← get
  let rec lines : List Char → List Char × List Char
    | [] => ([], [])
    | '\\' :: c :: rest =>
      let (t, more) := lines rest
      (c :: t, more)
    | '\n' :: rest => ([], rest)
    | c :: rest =>
      let (t, more) := lines rest
      (c :: t, more)
  let (text, rest) := lines r.chars
  set { r with chars := rest }
  pure (text ++ ['\n'])

/-- What is put in the place of a match. -/
def replacement : List Char → List Part
  | '\\' :: c :: rest =>
    (if c.isDigit then .group (c.toNat - '0'.toNat)
    else if "LUluE".toList.contains c then .case c
    else .char c) :: replacement rest
  | '&' :: rest => .group 0 :: replacement rest
  | c :: rest => .char c :: replacement rest
  | [] => []

/-- The rest of a line, as the name of a file. -/
def fileName : Reading String := do
  blanks
  let cs ← run (· != '\n')
  if cs.isEmpty then refuse "missing filename in r/R/w/W commands"
  pure (String.ofList cs)

/-- The signs behind a substitution. -/
def substitutionFlags : Nat → Substitution → Bool → Reading (Substitution × Bool)
  | 0, s, folded => pure (s, folded)
  | fuel + 1, s, folded => do
    match ← peek with
    | some 'g' =>
      drop 1
      substitutionFlags fuel { s with all := true } folded
    | some 'p' =>
      drop 1
      substitutionFlags fuel { s with prints := true } folded
    | some 'i' | some 'I' =>
      drop 1
      substitutionFlags fuel s true
    | some 'm' | some 'M' | some 'e' =>
      drop 1
      substitutionFlags fuel s folded
    | some 'w' =>
      drop 1
      pure ({ s with file := some (← fileName) }, folded)
    | some c =>
      if c.isDigit then
        match ← number? with
        | some 0 => refuse "number option to `s' command may not be zero"
        | n => substitutionFlags fuel { s with number := n.getD 1 } folded
      else if c == ' ' || c == '\t' then
        drop 1
        substitutionFlags fuel s folded
      else if c == ';' || c == '\n' || c == '\x7d' || c == '#' then pure (s, folded)
      else
        drop 1
        refuse "unknown option to `s'"
    | none => pure (s, folded)

/-- The table of a translation, of two texts of one length. -/
def translation (a b : List Char) : Option (List (Char × Char)) :=
  let rec plain : List Char → List Char
    | '\\' :: '\\' :: rest => '\\' :: plain rest
    | c :: rest => c :: plain rest
    | [] => []
  if (plain a).length == (plain b).length then some ((plain a).zip (plain b)) else none

/-- A word behind a command: up to white space or a semicolon. -/
def labelText : Reading String := do
  blanks
  pure (String.ofList (← run fun c => c != '\n' && c != ';' && c != ' '))

/-- What a letter asks for, the letter used up. -/
def action (letter : Char) : Reading Action := do
  match letter with
  | '=' => pure .number
  | 'a' => do pure (.append (← addedText))
  | 'i' => do pure (.insert (← addedText))
  | 'c' => do pure (.change (← addedText))
  | 'b' => do pure (.branch (← labelText))
  | 't' => do pure (.branchIf (← labelText))
  | 'T' => do pure (.branchUnless (← labelText))
  | 'd' => pure .delete
  | 'D' => pure .deleteFirst
  | 'g' => pure .get
  | 'G' => pure .getMore
  | 'h' => pure .hold
  | 'H' => pure .holdMore
  | 'x' => pure .exchange
  | 'l' => do
    let _ ← number?
    pure .list
  | 'n' => pure .next
  | 'N' => pure .nextMore
  | 'p' => pure .print
  | 'P' => pure .printFirst
  | 'q' => do
    blanks
    pure (.quit ((← number?).getD 0) true)
  | 'Q' => do
    blanks
    pure (.quit ((← number?).getD 0) false)
  | 'r' => do pure (.readFile (← fileName))
  | 'w' => do pure (.writeFile (← fileName))
  | 's' => do
    match ← peek with
    | none => refuse "unterminated `s' command"
    | some mark =>
      drop 1
      let text ← delimitedText mark true "unterminated `s' command"
      let other ← delimitedText mark false "unterminated `s' command"
      let (s, folded) ← substitutionFlags (← get).chars.length.succ
        ⟨none, replacement other, false, 1, false, none⟩ false
      pure (.substitute { s with pattern := ← patternOf text folded })
  | 'y' => do
    match ← peek with
    | none => refuse "unterminated `y' command"
    | some mark =>
      drop 1
      let a ← delimitedText mark false "unterminated `y' command"
      let b ← delimitedText mark false "unterminated `y' command"
      match translation a b with
      | some table => pure (.translate table)
      | none => refuse "strings for `y' command are different lengths"
  | c => refuse ("unknown command: `" ++ String.singleton c ++ "'")

/-- Whether a command takes the rest of its line. -/
def takesLine (letter : Char) : Bool := "aicrw".toList.contains letter

/-- The commands of a script. `behind` counts those before it; `open_` the blocks it stands in. -/
def commands : Nat → Nat → Nat → Reading (List Command)
  | 0, _, _ => pure []
  | fuel + 1, behind, open_ => do
    let _ ← run fun c => c == ' ' || c == '\t' || c == '\n' || c == ';'
    match ← peek with
    | none =>
      if open_ == 0 then pure [] else fun _ => .error ⟨0, "unmatched `\x7b'"⟩
    | some '#' => do
      let _ ← run (· != '\n')
      commands fuel behind open_
    | some '\x7d' => do
      drop 1
      if open_ == 0 then refuse "unexpected `\x7d'" else pure []
    | some ':' => do
      drop 1
      let name ← labelText
      if name.isEmpty then refuse "\":\" lacks a label"
      pure (⟨.all, false, .label name⟩ :: (← commands fuel (behind + 1) open_))
    | some _ => do
      let where_ ← scope
      blanks
      let bangs ← run (· == '!')
      blanks
      let inverted := !bangs.isEmpty
      match ← peek with
      | none => refuse "missing command"
      | some '\x7b' => do
        drop 1
        let inner ← commands fuel (behind + 1) (open_ + 1)
        let next := behind + 1 + inner.length
        let rest ← commands fuel next open_
        pure (⟨where_, inverted, .block next⟩ :: inner ++ rest)
      | some letter => do
        drop 1
        let a ← action letter
        if !takesLine letter then
          blanks
          match ← peek with
          | none | some ';' | some '\n' | some '#' | some '\x7d' => pure ()
          | some _ => do
            drop 1
            refuse "extra characters after command"
        pure (⟨where_, inverted, a⟩ :: (← commands fuel (behind + 1) open_))

/-- The commands of a script. -/
def script (extended : Bool) (text : List Char) : Except Fault (List Command) :=
  match (commands (2 * text.length + 4) 0 0).run ⟨text, text.length, extended⟩ with
  | .ok (cs, _) => .ok cs
  | .error f => .error f

end TestFleet.Shell.Program.Edit
