import TestFleet.Regex.Bracket
import TestFleet.Regex.Room
/-!
# Reading regular expressions

The grammar: literals and escapes, `.`, bracketed sets with ranges, nested sets and set operations,
named classes, anchors and word boundaries, groups with and without names and flags, alternation,
and greedy or lazy repetition. Back-references and look-around do not belong to it. Flags hold from
where they are set to the end of their group. A pattern that is nested too deep or takes too much
room is refused.
-/
namespace TestFleet.Regex

/-- How deep groups, repetitions, sequences, alternatives and bracketed sets may stand in one
another. -/
def nestingLimit : Nat := 250

/-- A decimal number with blanks around it, below 2^32; so many digits at most. -/
def digits (flags : Flags) : Nat → List Char → List Char × List Char
  | 0, cs => ([], cs)
  | fuel + 1, c :: rest =>
    if c.isDigit then
      let (ds, rest) := digits flags fuel (skip flags rest)
      (c :: ds, rest)
    else ([], c :: rest)
  | _, [] => ([], [])

/-- A decimal number with blanks around it, below 2^32. -/
def bound? (flags : Flags) (cs : List Char) : Option (Nat × List Char) :=
  let cs := cs.dropWhile Text.isBlank
  let (ds, rest) := digits flags cs.length cs
  let n := ds.foldl (fun n c => n * 10 + (c.toNat - '0'.toNat)) 0
  if ds.isEmpty || Nat.pow 2 32 ≤ n then none
  else some (n, skip flags (rest.dropWhile Text.isBlank))

/-- The bounds of a repetition, after its opening brace. -/
def bounds? (flags : Flags) (cs : List Char) : Option (Nat × Option Nat × List Char) := do
  let (low, rest) ← bound? flags (skip flags cs)
  match rest with
  | '\x7d' :: rest => some (low, some low, rest)
  | ',' :: rest =>
    match skip flags rest with
    | '\x7d' :: rest => some (low, none, rest)
    | rest => do
      let (high, rest) ← bound? flags rest
      match rest with
      | '\x7d' :: rest => if high < low then none else some (low, some high, rest)
      | _ => none
  | _ => none

/-- Whether a question mark makes a repetition lazy, and the rest. -/
def lazyMark (cs : List Char) : Bool × List Char :=
  match cs with
  | '?' :: rest => (true, rest)
  | _ => (false, cs)

/-- Flags after `(?`, up to `)` or `:`: the flags, whether a group follows, and the rest. -/
def flagList? : Nat → Flags → Bool → List Char → List Char → Option (Flags × Bool × List Char)
  | 0, _, _, _, _ => none
  | fuel + 1, flags, on, seen, cs =>
    match cs with
    | ')' :: rest => finish flags on seen false rest
    | ':' :: rest => finish flags on seen true rest
    | '-' :: rest =>
      if on then flagList? fuel flags false ('-' :: seen) rest else none
    | c :: rest =>
      if seen.contains c then none
      else do
        let flags ← match c with
          | 'i' => some { flags with ignoreCase := on }
          | 'm' => some { flags with multiLine := on }
          | 's' => some { flags with dotAll := on }
          | 'U' => some { flags with swapGreed := on }
          | 'u' => some { flags with unicode := on }
          | 'R' => some { flags with returns := on }
          | 'x' => some { flags with verbose := on }
          | _ => none
        flagList? fuel flags on (c :: seen) rest
    | [] => none
where
  finish (flags : Flags) (on : Bool) (seen : List Char) (group : Bool) (rest : List Char) :
      Option (Flags × Bool × List Char) :=
    if (!on && seen.head? == some '-') || (seen.isEmpty && !group) then none
    else some (flags, group, rest)

/-- The name of a group up to `>`. -/
def groupName? (cs : List Char) : Option (String × List Char) :=
  let name := cs.takeWhile (· != '>')
  match name, cs.drop name.length with
  | first :: more, '>' :: rest =>
    let starts := first == '_' || Unicode.isAlphabetic first
    let goesOn (c : Char) : Bool :=
      c == '_' || c == '.' || c == '[' || c == ']' || Unicode.isAlphanumeric c
    if starts && more.all goesOn then some (String.ofList name, rest) else none
  | _, _ => none

/-- A piece of a sequence: a pattern, how deep it is nested, and whether it may be repeated. -/
structure Piece where
  pattern : Pattern
  depth : Nat
  repeatable : Bool

/-- Several pieces as one, by a function on their patterns. A piece alone is as it is. -/
def Piece.join (f : List Pattern → Pattern) (pieces : List Piece) : Piece :=
  match pieces with
  | [p] => p
  | _ =>
    let deepest := pieces.foldl (fun n p => max n p.depth) 0
    ⟨f (pieces.map Piece.pattern), if pieces.isEmpty then 0 else deepest + 1, true⟩

/-- Everything but a line end. -/
def dot (flags : Flags) : Pattern :=
  .oneOf
    (if flags.dotAll then Unicode.everything
    else Unicode.complement ([⟨10, 10⟩] ++ if flags.returns then [⟨13, 13⟩] else []))

/-- Reads the alternatives of a group. `inside` says whether a group is open, `names` are the group
names used so far, `done` are the alternatives before and `pieces` is the sequence read so far, the
last one first in both. -/
def group? : Nat → Flags → Bool → List String → List Piece → List Piece → List Char →
    Option (Piece × List String × List Char)
  | 0, _, _, _, _, _, _ => none
  | fuel + 1, flags, inside, names, done, pieces, cs =>
    let sequence (_ : Unit) : Piece := Piece.join Pattern.concat pieces.reverse
    let finished (_ : Unit) : Piece := Piece.join Pattern.anyOf (sequence () :: done).reverse
    let more (p : Piece) (rest : List Char) :=
      group? fuel flags inside names done (p :: pieces) rest
    let leaf (p : Pattern) (rest : List Char) := more ⟨p, 0, true⟩ rest
    let repeated (low : Nat) (high : Option Nat) (rest : List Char) :=
      match pieces with
      | ⟨p, depth, true⟩ :: before =>
        let (isLazy, rest) := lazyMark rest
        let q := Pattern.repeated p low high (isLazy == flags.swapGreed)
        group? fuel flags inside names done (⟨q, depth + 1, true⟩ :: before) rest
      | _ => none
    let inner (flags' : Flags) (wrap : Pattern → Pattern) (names : List String)
        (rest : List Char) := do
      let (p, names, rest) ← group? fuel flags' true names [] [] rest
      let piece : Piece := ⟨wrap p.pattern, p.depth + 1, true⟩
      group? fuel flags inside names done (piece :: pieces) rest
    match skip flags cs with
    | [] => if inside then none else some (finished (), names, [])
    | ')' :: rest => if inside then some (finished (), names, rest) else none
    | '|' :: rest => group? fuel flags inside names (sequence () :: done) [] rest
    | '*' :: rest => repeated 0 none rest
    | '+' :: rest => repeated 1 none rest
    | '?' :: rest => repeated 0 (some 1) rest
    | '\x7b' :: rest => do
      let (low, high, rest) ← bounds? flags rest
      repeated low high (skip flags rest)
    | '.' :: rest => if flags.unicode then leaf (dot flags) rest else none
    | '^' :: rest =>
      leaf (.look (if flags.multiLine then .lineStart flags.returns else .textStart)) rest
    | '$' :: rest =>
      leaf (.look (if flags.multiLine then .lineEnd flags.returns else .textEnd)) rest
    | '[' :: rest => do
      let (found, rest) ← bracket? flags (2 * rest.length + 2) rest
      more ⟨Pattern.ofSet found.set, found.depth, true⟩ rest
    | '\\' :: rest => do
      match ← escape? flags rest with
      | (.char c, rest) => leaf (literal flags c) rest
      | (.set s, rest) => leaf (Pattern.ofSet s) rest
      | (.look l, rest) => leaf (.look l) rest
    | '(' :: rest =>
      match skip flags rest with
      | '?' :: 'P' :: '<' :: rest | '?' :: '<' :: rest =>
        match rest with
        | '=' :: _ | '!' :: _ => none
        | _ => do
          let (name, rest) ← groupName? rest
          if names.contains name then none else inner flags .capture (name :: names) rest
      | '?' :: rest => do
        let (flags', isGroup, rest) ← flagList? (rest.length + 1) flags true [] rest
        if isGroup then inner flags' id names rest
        else group? fuel flags' inside names done (⟨.empty, 0, false⟩ :: pieces) rest
      | rest => inner flags .capture names rest
    | c :: rest => leaf (literal flags c) rest

/-- Reads a regular expression. -/
def parse? (s : String) : Option Pattern := do
  let cs := s.toList
  let (p, _, _) ← group? (2 * cs.length + 2) {} false [] [] [] cs
  if p.depth ≤ nestingLimit && p.pattern.fits then some p.pattern.unnested else none

end TestFleet.Regex
