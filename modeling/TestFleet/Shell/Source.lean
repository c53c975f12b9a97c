import TestFleet.Shell.Script
/-!
# The text that a script is read from

A source is what is left of a script, with the number of the line it stands in. A backslash at the
end of a line joins it with the next one. Names of aliases are replaced by their texts in the
source itself; an alias is not replaced inside its own text, and where that text ends in a blank
the next word may be the name of an alias too.
-/
namespace TestFleet.Shell

/-- A word as it is read: its pieces, and whether any part of it is quoted. -/
structure Word where
  pieces : List Piece
  quoted : Bool
  deriving Inhabited

/-- The text of a word in which nothing is quoted or expanded. -/
def Word.plain? (w : Word) : Option String :=
  if w.quoted then none
  else
    match w.pieces with
    | [] => some ""
    | [.literal cs false] => some (String.ofList cs)
    | _ => none

/-- What an operator of redirection asks for. -/
inductive Redirection where
  | file (opening : Opening)
  | copy
  | here (stripTabs : Bool)
  deriving DecidableEq, Repr, Inhabited

/-- A token of a script. -/
inductive Token where
  | newline
  | semicolon
  | ampersand
  | both
  | either
  | pipe
  | opening
  | closing
  | endOfCase
  | endOfFile
  | redirect (descriptor : Nat) (kind : Redirection)
  | keyword (name : String)
  | word (w : Word)
  deriving Inhabited

/-- Words that mean something where a command starts. -/
def keywords : List String :=
  ["if", "then", "elif", "else", "fi", "for", "while", "until", "do", "done", "case", "esac",
    "\x7b", "\x7d", "!", "in"]

namespace Token

/-- The token as faults name it. -/
def text : Token → String
  | .newline => "newline"
  | .semicolon => "\";\""
  | .ampersand => "\"&\""
  | .both => "\"&&\""
  | .either => "\"||\""
  | .pipe => "\"|\""
  | .opening => "\"(\""
  | .closing => "\")\""
  | .endOfCase => "\";;\""
  | .endOfFile => "end of file"
  | .redirect _ _ => "redirection"
  | .keyword name => "\"" ++ name ++ "\""
  | .word _ => "word"

/-- Whether the token ends a list of commands inside another command. -/
def endsList : Token → Bool
  | .endOfFile | .closing | .endOfCase => true
  | .keyword name =>
    ["then", "elif", "else", "fi", "do", "done", "esac", "\x7d"].contains name
  | _ => false

def isNewline : Token → Bool
  | .newline => true
  | _ => false

end Token

/-- What is left of a script. -/
structure Source where
  chars : List Char
  line : Nat
  /-- Lines below the present one that have been read already. -/
  ahead : Nat
  /-- A token that has been read, but not used. -/
  pushed : Option Token
  aliases : List (String × String)
  /-- Aliases that were replaced, each with how many characters are left where its text ends. -/
  inUse : List (String × Nat)
  /-- How many characters are left where the text of an alias ends in a blank. -/
  blankEnds : List Nat
  deriving Inhabited

/-- Reading of a source; a fault comes with the line it was met in. -/
abbrev Reading := StateT Source (Except (Fault × Nat))

namespace Source

/-- The source of a text. -/
def ofText (text : String) (aliases : List (String × String)) : Source :=
  ⟨text.toList, 1, 0, none, aliases, [], []⟩

/-- The source behind its next character. -/
def behind (s : Source) : Source :=
  match s.chars with
  | '\n' :: rest => { s with chars := rest, line := s.line + 1 + s.ahead, ahead := 0 }
  | _ :: rest => { s with chars := rest }
  | [] => s

/-- The source behind joined ends of lines. -/
def joined (s : Source) : Source :=
  let rec ends : List Char → Nat → List Char × Nat
    | '\\' :: '\n' :: rest, n => ends rest (n + 1)
    | cs, n => (cs, n)
  let (chars, n) := ends s.chars 0
  if n == 0 then s else { s with chars, line := s.line + n + s.ahead, ahead := 0 }

/-- The text of an alias in the place of its name, which has just been read. -/
def withAlias (s : Source) (name text : String) : Source :=
  let left := s.chars.length
  { s with
    chars := text.toList ++ s.chars
    inUse := (name, left) :: s.inUse
    blankEnds :=
      match text.toList.getLast? with
      | some ' ' | some '\t' => left :: s.blankEnds
      | _ => s.blankEnds }

/-- The text of the alias that a word names, which has just been read. -/
def alias? (s : Source) (name : String) : Option String :=
  let left := s.chars.length
  if s.inUse.any fun (n, ends) => n == name && ends ≤ left then none else s.aliases.lookup name

/-- What is left of the line, quoted ends of lines included, and the lines after it. -/
def lineEnd : List Char → List Char × List Char
  | [] => ([], [])
  | '\n' :: rest => ([], rest)
  | ' ' :: '#' :: rest =>
    (' ' :: '#' :: rest.takeWhile (· != '\n'), (rest.dropWhile (· != '\n')).drop 1)
  | '\\' :: c :: rest =>
    let (line, below) := lineEnd rest
    ('\\' :: c :: line, below)
  | '\'' :: rest =>
    let (line, below) := inSingle rest
    ('\'' :: line, below)
  | '"' :: rest =>
    let (line, below) := inDouble rest
    ('"' :: line, below)
  | c :: rest =>
    let (line, below) := lineEnd rest
    (c :: line, below)
where
  /-- The same, between single quotes. -/
  inSingle : List Char → List Char × List Char
    | [] => ([], [])
    | '\'' :: rest =>
      let (line, below) := lineEnd rest
      ('\'' :: line, below)
    | c :: rest =>
      let (line, below) := inSingle rest
      (c :: line, below)
  /-- The same, between double quotes. -/
  inDouble : List Char → List Char × List Char
    | [] => ([], [])
    | '\\' :: c :: rest =>
      let (line, below) := inDouble rest
      ('\\' :: c :: line, below)
    | '"' :: rest =>
      let (line, below) := lineEnd rest
      ('"' :: line, below)
    | c :: rest =>
      let (line, below) := inDouble rest
      (c :: line, below)

end Source

namespace Reading

/-- Refuses what is read. -/
def fault {α : Type} (f : Fault) : Reading α := fun s => .error (f, s.line)

/-- The next character, none at the end. It is not used up. -/
def peek : Reading (Option Char) := fun s =>
  let s := s.joined
  .ok (s.chars.head?, s)

/-- The next character, ends of lines not joined. It is not used up. -/
def peekRaw : Reading (Option Char) := fun s => .ok (s.chars.head?, s)

/-- Uses up a character. -/
def drop : Reading Unit := modify Source.behind

/-- Whether a character comes next; it is used up if so. -/
def sees (c : Char) : Reading Bool := do
  if (← peek) == some c then
    drop
    pure true
  else pure false

/-- Gives a token back. -/
def push (t : Token) : Reading Unit := modify fun s => { s with pushed := some t }

/-- Refuses a token. -/
def unexpected {α : Type} (t : Token) (expecting : Option String) : Reading α :=
  fault (.unexpected t.text expecting)

end Reading

end TestFleet.Shell
