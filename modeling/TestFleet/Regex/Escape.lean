import TestFleet.Regex.Pattern
/-!
# Escapes of regular expressions

What a backslash and the characters after it stand for: a character, a set of characters or a
condition on a place. In verbose patterns, blanks and comments may stand nearly everywhere, within
the digits of a code point and the name of a property too.
-/
namespace TestFleet.Regex

/-- What flags change. -/
structure Flags where
  ignoreCase : Bool := false
  multiLine : Bool := false
  dotAll : Bool := false
  swapGreed : Bool := false
  unicode : Bool := true
  returns : Bool := false
  verbose : Bool := false
  deriving DecidableEq, Repr, Inhabited

/-- Characters that mean something unless escaped. -/
def isMeta (c : Char) : Bool :=
  ['\\', '.', '+', '*', '?', '(', ')', '|', '[', ']', '\x7b', '\x7d', '^', '$', '#', '&', '-',
    '~'].contains c

/-- Characters that an escape leaves as they are. -/
def isEscapable (c : Char) : Bool :=
  isMeta c || (c.toNat < 0x80 && !c.isAlphanum && c != '<' && c != '>')

/-- The rest after blanks and comments, so many pieces of them at most. -/
def skipPieces : Nat → List Char → List Char
  | 0, cs => cs
  | fuel + 1, cs =>
    match cs with
    | '#' :: rest => skipPieces fuel ((rest.dropWhile (· != '\n')).drop 1)
    | c :: rest => if Text.isBlank c then skipPieces fuel rest else cs
    | [] => []

/-- The rest after what verbose patterns skip. -/
def skip (flags : Flags) (cs : List Char) : List Char :=
  if flags.verbose then skipPieces (cs.length + 1) cs else cs

/-- A set with the other cases of its letters if case is ignored, which are those of ASCII without
Unicode. -/
def Flags.fold (flags : Flags) (set : List Unicode.Range) : List Unicode.Range :=
  let moved (low high : Nat) (f : Nat → Nat) : List Unicode.Range :=
    (Unicode.inter set [⟨low, high⟩]).map fun r => ⟨f r.low, f r.high⟩
  if !flags.ignoreCase then set
  else if flags.unicode then Unicode.foldClosure set
  else Unicode.joined (set ++ moved 65 90 (· + 32) ++ moved 97 122 (· - 32))

/-- A set or its complement, letters in every case that counts as the same. Without Unicode there
are no complements, since they would hold octets that are no characters. -/
def Flags.foldNegate? (flags : Flags) (negated : Bool) (set : List Unicode.Range) :
    Option (List Unicode.Range) :=
  let folded := flags.fold (Unicode.joined set)
  if !negated then some folded
  else if flags.unicode then some (Unicode.complement folded)
  else none

/-- A pattern of one literal character. -/
def literal (flags : Flags) (c : Char) : Pattern :=
  Pattern.ofSet (flags.fold [Unicode.only c.toNat])

/-- The value of a hexadecimal digit. -/
def hexDigit? (c : Char) : Option Nat :=
  if c.isDigit then some (c.toNat - '0'.toNat)
  else if 'a' ≤ c ∧ c ≤ 'f' then some (c.toNat - 'a'.toNat + 10)
  else if 'A' ≤ c ∧ c ≤ 'F' then some (c.toNat - 'A'.toNat + 10)
  else none

/-- The character with a code point, if there is one. -/
def charOf? (n : Nat) : Option Char :=
  if n < 0xD800 ∨ (0xDFFF < n ∧ n < 0x110000) then some (Char.ofNat n) else none

/-- The character that hexadecimal digits write. -/
def hexChar? (ds : List Char) : Option Char :=
  if ds.isEmpty then none
  else (ds.foldlM (fun n c => (hexDigit? c).map (n * 16 + ·)) 0).bind charOf?

/-- So many characters, and the rest. -/
def take? (flags : Flags) : Nat → List Char → Option (List Char × List Char)
  | 0, cs => some ([], cs)
  | _ + 1, [] => none
  | n + 1, c :: rest => (take? flags n (skip flags rest)).map fun (cs, rest) => (c :: cs, rest)

/-- The characters before a closing brace, so many at most, and the rest after it. -/
def upToBrace? (flags : Flags) : Nat → List Char → Option (List Char × List Char)
  | 0, _ => none
  | fuel + 1, cs =>
    match skip flags cs with
    | [] => none
    | '\x7d' :: rest => some ([], rest)
    | c :: rest => (upToBrace? flags fuel rest).map fun (cs, rest) => (c :: cs, rest)

/-- The characters between an opening brace, just read, and the closing one. -/
def braced? (flags : Flags) (cs : List Char) : Option (List Char × List Char) :=
  upToBrace? flags (cs.length + 1) cs

/-- A character by its code point: so many digits, or any number of them in braces. -/
def hexEscape? (flags : Flags) (digits : Nat) (cs : List Char) : Option (Char × List Char) := do
  let (ds, rest) ← match skip flags cs with
    | '\x7b' :: rest => braced? flags rest
    | cs => take? flags digits cs
  some (← hexChar? ds, rest)

/-- The digits, blanks or word characters that a letter after a backslash stands for. Complements
need Unicode. -/
def perlClass? (flags : Flags) (c : Char) : Option (List Unicode.Range) :=
  let set? : Option (List Unicode.Range) :=
    match c.toLower with
    | 'd' => some (if flags.unicode then Unicode.rangesNd else [⟨48, 57⟩])
    | 's' =>
      if flags.unicode then Unicode.property? "White_Space" else some [⟨9, 13⟩, ⟨32, 32⟩]
    | 'w' =>
      some (if flags.unicode then Unicode.wordRanges
        else [⟨48, 57⟩, ⟨65, 90⟩, ⟨95, 95⟩, ⟨97, 122⟩])
    | _ => none
  let plain : Flags := { flags with ignoreCase := false }
  set?.bind (plain.foldNegate? c.isUpper)

/-- A text cut at the first place where some characters stand. -/
def cutAt? (mark : List Char) (before : List Char) :
    List Char → Option (List Char × List Char)
  | [] => none
  | c :: rest =>
    match Text.dropLeading? mark (c :: rest) with
    | some after => some (before.reverse, after)
    | none => cutAt? mark (c :: before) rest

/-- The ranges of a class by what stands between the braces of `\p`, and whether they are to be
left out: a name, or a property and a value with `!=`, `:` or `=` between them. -/
def namedRanges? (cs : List Char) : Option (List Unicode.Range × Bool) :=
  let valued (found : List Char × List Char) : Option (List Unicode.Range) :=
    Unicode.classOf? (String.ofList found.1) (String.ofList found.2)
  match cutAt? ['!', '='] [] cs with
  | some found => (valued found).map (·, true)
  | none =>
    match cutAt? [':'] [] cs <|> cutAt? ['='] [] cs with
    | some found => (valued found).map (·, false)
    | none => (Unicode.class? (String.ofList cs)).map (·, false)

/-- A named class, after `\p` or `\P`. -/
def unicodeClass? (flags : Flags) (negated : Bool) (cs : List Char) :
    Option (List Unicode.Range × List Char) := do
  if !flags.unicode then none
  else
    let (name, rest) ← match skip flags cs with
      | '\x7b' :: rest => braced? flags rest
      | '\\' :: _ | [] => none
      | c :: rest => some ([c], rest)
    let (set, n) ← namedRanges? name
    let set ← flags.foldNegate? (negated != n) set
    some (set, rest)

/-- What an escape stands for. -/
inductive Escape where
  | char (c : Char)
  | set (s : List Unicode.Range)
  | look (l : Look)

/-- The kinds of word boundaries in braces. -/
def boundaryKinds (ascii : Bool) : List (String × Look) :=
  [("start", .wordStart ascii), ("end", .wordEnd ascii),
    ("start-half", .wordStartHalf ascii), ("end-half", .wordEndHalf ascii)]

/-- A letter or a hyphen. -/
def isKindChar (c : Char) : Bool := c.isAlpha || c == '-'

/-- The letters and hyphens at the start, so many at most, and the rest. -/
def kindName (flags : Flags) : Nat → List Char → List Char × List Char
  | 0, cs => ([], cs)
  | fuel + 1, c :: rest =>
    if isKindChar c then
      let (name, rest) := kindName flags fuel (skip flags rest)
      (c :: name, rest)
    else ([], c :: rest)
  | _, [] => ([], [])

/-- A word boundary after `\b`. A brace that no letter or hyphen follows begins a repetition. -/
def boundary? (flags : Flags) (cs : List Char) : Option (Look × List Char) :=
  let plain : Look × List Char := (.wordEdge !flags.unicode, cs)
  match cs with
  | '\x7b' :: rest =>
    match skip flags rest with
    | [] => none
    | c :: more =>
      if !isKindChar c then some plain
      else
        let (name, after) := kindName flags (more.length + 1) (c :: more)
        match after, (boundaryKinds !flags.unicode).lookup (String.ofList name) with
        | '\x7d' :: after, some l => some (l, after)
        | _, _ => none
  | _ => some plain

/-- An escape, after its backslash. Without Unicode, two digits after `x` name an octet, which is a
character only below 128. -/
def escape? (flags : Flags) (cs : List Char) : Option (Escape × List Char) :=
  match cs with
  | [] => none
  | c :: rest =>
    let ascii := !flags.unicode
    let char (found : Option (Char × List Char)) : Option (Escape × List Char) :=
      found.map fun (c, rest) => (.char c, rest)
    let set (found : Option (List Unicode.Range × List Char)) : Option (Escape × List Char) :=
      found.map fun (s, rest) => (.set s, rest)
    match c with
    | 'a' => some (.char (Char.ofNat 7), rest)
    | 'f' => some (.char (Char.ofNat 12), rest)
    | 't' => some (.char '\t', rest)
    | 'n' => some (.char '\n', rest)
    | 'r' => some (.char '\r', rest)
    | 'v' => some (.char (Char.ofNat 11), rest)
    | 'A' => some (.look .textStart, rest)
    | 'z' => some (.look .textEnd, rest)
    | 'B' => some (.look (.notWordEdge ascii), rest)
    | '<' => some (.look (.wordStart ascii), rest)
    | '>' => some (.look (.wordEnd ascii), rest)
    | 'b' => (boundary? flags rest).map fun (l, rest) => (.look l, rest)
    | 'x' =>
      char ((hexEscape? flags 2 rest).filter fun (c, _) =>
        flags.unicode || c.toNat < 0x80 || (skip flags rest).head? == some '\x7b')
    | 'u' => char (hexEscape? flags 4 rest)
    | 'U' => char (hexEscape? flags 8 rest)
    | 'p' => set (unicodeClass? flags false rest)
    | 'P' => set (unicodeClass? flags true rest)
    | _ =>
      if ['d', 's', 'w', 'D', 'S', 'W'].contains c then
        (perlClass? flags c).map fun s => (.set s, rest)
      else if isEscapable c then some (.char c, rest)
      else none

end TestFleet.Regex
