import TestFleet.Shell.Glob
/-!
# Basic and extended expressions

The patterns that programs look for in lines. Both kinds are read into one type of expression: they
differ in which signs need a backslash. A match is the longest of those that start first; its groups
are numbered by their opening parentheses. All texts are bytewise, and every octet is a character.
-/
namespace TestFleet.Shell.Program

/-- A pattern for a part of a text. -/
inductive Expression where
  | empty
  | one (p : Char → Bool)
  | start
  | finish
  /-- Between a character of a word and one of none, or not so. -/
  | edge (wanted : Bool)
  | wordStart
  | wordEnd
  | group (number : Nat) (body : Expression)
  /-- What a group has matched, once more. -/
  | again (number : Nat)
  | sequence (first second : Expression)
  | either (first second : Expression)
  | repeated (body : Expression) (least : Nat) (most : Option Nat)

instance : Inhabited Expression := ⟨.empty⟩

namespace Expression

/-- What is wrong with an expression. -/
inductive Fault where
  | unfinished
  | bracket
  | opening
  | closing
  | brace
  | braceContent
  | repetition
  | backslash
  | group
  | rangeEnd
  | className
  deriving DecidableEq, Repr

/-- The fault in words. -/
def Fault.message : Fault → String
  | .unfinished => "Invalid regular expression"
  | .bracket => "Unmatched [, [^, [:, [., or [="
  | .opening => "Unmatched ( or \\("
  | .closing => "Unmatched ) or \\)"
  | .brace => "Unmatched \\\x7b"
  | .braceContent => "Invalid content of \\\x7b\\\x7d"
  | .repetition => "Invalid preceding regular expression"
  | .backslash => "Trailing backslash"
  | .group => "Invalid back reference"
  | .rangeEnd => "Invalid range end"
  | .className => "Invalid character class name"

/-! ## Matching -/

/-- Characters of which words are made. -/
def isWord (c : Char) : Bool := c.isAlphanum || c == '_'

/-- How far a text has been matched, and where the groups lie that have been. -/
structure Reach where
  at_ : Nat
  groups : List (Nat × Nat × Nat)
  deriving DecidableEq, Repr, Inhabited

/-- A text in which something is looked for. -/
structure Subject where
  chars : Array Char
  /-- Whether a letter matches the other case of it too. -/
  folded : Bool
  /-- Whether the text's start and its end are those of a line. -/
  startsLine : Bool

/-- Reaches without those that come again. -/
def distinct (rs : List Reach) : List Reach :=
  rs.foldl (fun kept r => if kept.contains r then kept else kept ++ [r]) []

/-- Whether a word's character stands at an index. -/
def Subject.wordAt (s : Subject) (i : Nat) : Bool :=
  match s.chars[i]? with
  | some c => isWord c
  | none => false

/-- Whether a word's character stands before an index. -/
def Subject.wordBefore (s : Subject) (i : Nat) : Bool := 0 < i && s.wordAt (i - 1)

/-- The reaches after one more step each time, the most steps first. -/
def rounds (step : Reach → List Reach) : Nat → Nat → Option Nat → List Reach → List Reach
  | 0, _, _, rs => rs
  | fuel + 1, least, most, rs =>
    if rs.isEmpty || most == some 0 then (if least == 0 then rs else [])
    else
      let next := distinct (rs.flatMap fun r =>
        (step r).filter fun q => q.at_ != r.at_ || least != 0)
      let more := rounds step fuel (least - 1) (most.map (· - 1)) next
      if least == 0 then distinct (more ++ rs) else more

/-- Whether two characters are the same, but for their case if letters of both cases match. -/
def Subject.same (s : Subject) (a b : Char) : Bool :=
  a == b || s.folded && a.toLower == b.toLower

/-- How far an expression can match from where a reach ends, the preferred ones first. -/
def reaches (s : Subject) : Expression → Reach → List Reach
  | .empty, r => [r]
  | .one p, r =>
    match s.chars[r.at_]? with
    | some c =>
      if p c || s.folded && (p c.toLower || p c.toUpper) then [{ r with at_ := r.at_ + 1 }] else []
    | none => []
  | .start, r => if r.at_ == 0 && s.startsLine then [r] else []
  | .finish, r => if r.at_ == s.chars.size then [r] else []
  | .edge wanted, r =>
    if (s.wordBefore r.at_ != s.wordAt r.at_) == wanted then [r] else []
  | .wordStart, r => if !s.wordBefore r.at_ && s.wordAt r.at_ then [r] else []
  | .wordEnd, r => if s.wordBefore r.at_ && !s.wordAt r.at_ then [r] else []
  | .group n body, r =>
    (reaches s body r).map fun q =>
      { q with groups := (n, r.at_, q.at_) :: q.groups.filter (·.1 != n) }
  | .again n, r =>
    match r.groups.lookup n with
    | some (i, j) =>
      let wanted := (s.chars.extract i j).toList
      let there := (s.chars.extract r.at_ (r.at_ + wanted.length)).toList
      if wanted.length == there.length && (wanted.zip there).all fun (a, b) => s.same a b then
        [{ r with at_ := r.at_ + wanted.length }]
      else []
    | none => []
  | .sequence a b, r => distinct ((reaches s a r).flatMap (reaches s b))
  | .either a b, r => distinct (reaches s a r ++ reaches s b r)
  | .repeated body least most, r =>
    rounds (reaches s body) (s.chars.size + least + 2) least most [r]

/-- Where a match starts, where it ends, and where its groups lie. -/
structure Match where
  start : Nat
  finish : Nat
  groups : List (Nat × Nat × Nat)
  deriving Repr, Inhabited

/-- The longest match that starts at an index. -/
def matchAt? (s : Subject) (e : Expression) (i : Nat) : Option Match :=
  (reaches s e ⟨i, []⟩).foldl (fun best r =>
    match best with
    | some m => if m.finish < r.at_ then some ⟨i, r.at_, r.groups⟩ else best
    | none => some ⟨i, r.at_, r.groups⟩) none

/-- The first match that starts at an index or after it. -/
def find? (s : Subject) (e : Expression) (from_ : Nat) : Option Match :=
  (List.range (s.chars.size + 1 - from_)).findSome? fun k => matchAt? s e (from_ + k)

/-- The matches in a text that hold something, one after the other. -/
def findAll (s : Subject) (e : Expression) : Nat → Nat → List Match
  | 0, _ => []
  | fuel + 1, i =>
    match find? s e i with
    | none => []
    | some m =>
      if m.finish == m.start then
        if m.start < s.chars.size then findAll s e fuel (m.start + 1) else []
      else m :: findAll s e fuel m.finish

/-! ## Reading -/

/-- One character of a bracket expression, which may stand between dots. -/
def elementAt (cs : List Char) : Except Fault (Char × List Char) :=
  match cs with
  | '[' :: '.' :: c :: '.' :: ']' :: rest => .ok (c, rest)
  | c :: rest => .ok (c, rest)
  | [] => .error .bracket

/-- The members of a bracket expression up to its end, and the rest. -/
def membersFrom : Nat → Bool → List Char → Except Fault (List (Char → Bool) × List Char)
  | 0, _, _ => .error .bracket
  | fuel + 1, first, cs =>
    let more (p : Char → Bool) (rest : List Char) :
        Except Fault (List (Char → Bool) × List Char) := do
      let (ms, rest) ← membersFrom fuel false rest
      .ok (p :: ms, rest)
    let one : Except Fault (List (Char → Bool) × List Char) := do
      let (low, rest) ← elementAt cs
      match rest with
      | '-' :: next :: after =>
        if next == ']' then more (· == low) rest
        else do
          let (high, rest) ← elementAt (next :: after)
          if high < low then throw .rangeEnd
          more (fun c => decide (low ≤ c ∧ c ≤ high)) rest
      | _ => more (· == low) rest
    match cs with
    | [] => .error .bracket
    | ']' :: rest => if first then one else .ok ([], rest)
    | '[' :: ':' :: inner =>
      let name := inner.takeWhile (· != ':')
      match inner.drop name.length with
      | ':' :: ']' :: rest =>
        match OctetClass.ofName? (String.ofList name) with
        | some k => more k.holds rest
        | none => .error .className
      | _ => .error .bracket
    | '[' :: '=' :: c :: '=' :: ']' :: rest => more (· == c) rest
    | _ => one

/-- A bracket expression behind its opening bracket, and the rest. -/
def bracketFrom (cs : List Char) : Except Fault (Expression × List Char) := do
  let (negated, inner) : Bool × List Char :=
    match cs with
    | '^' :: rest => (true, rest)
    | _ => (false, cs)
  if inner.isEmpty then throw .unfinished
  let (ms, rest) ← membersFrom (2 * cs.length + 2) true inner
  .ok (.one fun c => (ms.any (· c)) != negated, rest)

/-- What an escaped letter stands for by itself. -/
def escape? (c : Char) : Option Expression :=
  match c with
  | 'w' => some (.one isWord)
  | 'W' => some (.one (!isWord ·))
  | 's' => some (.one OctetClass.space.holds)
  | 'S' => some (.one (!OctetClass.space.holds ·))
  | 'b' => some (.edge true)
  | 'B' => some (.edge false)
  | '<' => some .wordStart
  | '>' => some .wordEnd
  | '\x60' => some .start
  | '\'' => some .finish
  | _ => none

/-- What repeats the part before it: how often at least and at most. -/
abbrev Repetition := Nat × Option Nat

/-- The numbers between braces, the opening one gone, and the rest. -/
def boundsFrom (extended : Bool) (cs : List Char) : Except Fault (Repetition × List Char) :=
  let value (ds : List Char) : Nat := ds.foldl (fun n c => n * 10 + (c.toNat - '0'.toNat)) 0
  let low := cs.takeWhile Char.isDigit
  let rest := cs.drop low.length
  let (comma, high, rest) : Bool × List Char × List Char :=
    match rest with
    | ',' :: more => (true, more.takeWhile Char.isDigit, more.dropWhile Char.isDigit)
    | _ => (false, [], rest)
  let closed : Option (List Char) :=
    match extended, rest with
    | true, '\x7d' :: r => some r
    | false, '\\' :: '\x7d' :: r => some r
    | _, _ => none
  match closed with
  | none => .error (if rest.isEmpty then .brace else .braceContent)
  | some rest =>
    let least := value low
    let most : Option Nat :=
      if !comma then some least else if high.isEmpty then none else some (value high)
    if low.isEmpty && !comma then .error .braceContent
    else if (most.map fun m => decide (m < least)).getD false then .error .braceContent
    else .ok ((least, most), rest)

/-- The repetition that comes next, if one does. -/
def repetition? (extended : Bool) (cs : List Char) : Except Fault (Option Repetition × List Char) :=
  match extended, cs with
  | _, '*' :: rest => .ok (some (0, none), rest)
  | true, '+' :: rest | false, '\\' :: '+' :: rest => .ok (some (1, none), rest)
  | true, '?' :: rest | false, '\\' :: '?' :: rest => .ok (some (0, some 1), rest)
  | false, '\\' :: '\x7b' :: rest => do
    let (r, rest) ← boundsFrom false rest
    .ok (some r, rest)
  | true, '\x7b' :: rest =>
    match boundsFrom true rest with
    | .ok (r, rest) => .ok (some r, rest)
    | .error _ => .ok (none, cs)
  | _, _ => .ok (none, cs)

/-- A part of an expression with the repetitions behind it. -/
def withRepetitions (extended : Bool) :
    Nat → Expression → List Char → Except Fault (Expression × List Char)
  | 0, e, cs => .ok (e, cs)
  | fuel + 1, e, cs => do
    match ← repetition? extended cs with
    | (some (least, most), rest) => withRepetitions extended fuel (.repeated e least most) rest
    | (none, rest) => .ok (e, rest)

/-- Whether a group or a choice ends here, or the expression. -/
def endsBranch (extended : Bool) (depth : Nat) : List Char → Bool
  | [] => true
  | '\\' :: c :: _ => !extended && (c == '|' || c == ')')
  | c :: _ => extended && (c == '|' || c == ')' && 0 < depth)

/-- Whether an anchor at the end stands here: nothing comes, or the end of a branch. -/
def isLast (extended : Bool) (cs : List Char) : Bool := extended || endsBranch false 1 cs

mutual

/-- Branches up to the end of a group; the next group's number goes along. -/
def branches (extended : Bool) :
    Nat → Nat → Nat → List Char → Except Fault (Expression × Nat × List Char)
  | 0, _, n, cs => .ok (.empty, n, cs)
  | fuel + 1, depth, n, cs => do
    let (a, n, rest) ← branch extended fuel depth true n cs
    match extended, rest with
    | true, '|' :: rest | false, '\\' :: '|' :: rest => do
      let (b, n, rest) ← branches extended fuel depth n rest
      .ok (.either a b, n, rest)
    | _, _ => .ok (a, n, rest)

/-- Parts one after the other up to the end of a branch. -/
def branch (extended : Bool) :
    Nat → Nat → Bool → Nat → List Char → Except Fault (Expression × Nat × List Char)
  | 0, _, _, n, cs => .ok (.empty, n, cs)
  | fuel + 1, depth, first, n, cs => do
    if endsBranch extended depth cs then return (.empty, n, cs)
    let (a, n, rest, isAnchor) ← part extended fuel depth first n cs
    let (a, rest) ←
      if isAnchor && !extended then pure (a, rest)
      else withRepetitions extended rest.length a rest
    let (b, n, rest) ← branch extended fuel depth (isAnchor && first) n rest
    .ok (.sequence a b, n, rest)

/-- One part, and whether it is the anchor at the start. -/
def part (extended : Bool) :
    Nat → Nat → Bool → Nat → List Char → Except Fault (Expression × Nat × List Char × Bool)
  | 0, _, _, n, cs => .ok (.empty, n, cs, false)
  | fuel + 1, depth, first, n, cs => do
    let exactly (c : Char) (rest : List Char) :
        Except Fault (Expression × Nat × List Char × Bool) :=
      .ok (.one (· == c), n, rest, false)
    let grouped (rest : List Char) : Except Fault (Expression × Nat × List Char × Bool) := do
      let (e, m, rest) ← branches extended fuel (depth + 1) (n + 1) rest
      match extended, rest with
      | true, ')' :: rest | false, '\\' :: ')' :: rest => .ok (.group n e, m, rest, false)
      | _, _ => .error .opening
    match cs with
    | [] => .ok (.empty, n, [], false)
    | '.' :: rest => .ok (.one fun _ => true, n, rest, false)
    | '[' :: rest => do
      let (e, rest) ← bracketFrom rest
      .ok (e, n, rest, false)
    | '^' :: rest => if extended || first then .ok (.start, n, rest, true) else exactly '^' rest
    | '$' :: rest =>
      if isLast extended rest then .ok (.finish, n, rest, false) else exactly '$' rest
    | '(' :: rest => if extended then grouped rest else exactly '(' rest
    | '*' :: rest =>
      if extended then if first then .ok (.empty, n, rest, true) else .error .repetition
      else exactly '*' rest
    | '+' :: rest => if extended && first then .ok (.empty, n, rest, true) else exactly '+' rest
    | '?' :: rest => if extended && first then .ok (.empty, n, rest, true) else exactly '?' rest
    | '\x7b' :: rest =>
      match (if extended && first then (boundsFrom true rest).toOption else none) with
      | some (_, rest) => .ok (.empty, n, rest, true)
      | none => exactly '\x7b' rest
    | ['\\'] => .error .backslash
    | '\\' :: c :: rest =>
      if c == '(' && !extended then grouped rest
      else if c == '\x7b' && !extended then
        if first then .error .repetition else exactly c rest
      else if c.isDigit && c != '0' then
        let k := c.toNat - '0'.toNat
        if k < n then .ok (.again k, n, rest, false) else .error .group
      else
        match escape? c with
        | some e => .ok (e, n, rest, false)
        | none => exactly c rest
    | c :: rest => exactly c rest

end

/-- The expression that a text writes, and how many groups it has. -/
def ofText (extended : Bool) (cs : List Char) : Except Fault (Expression × Nat) := do
  let (e, n, rest) ← branches extended (3 * cs.length + 4) 0 1 cs
  if rest.isEmpty then .ok (e, n - 1) else .error .closing

/-- What repeats nothing in an extended expression, as it stands at the start of a branch. -/
def idleRepetitions : Nat → Bool → List Char → List String
  | 0, _, _ => []
  | fuel + 1, first, cs =>
    let idle (spelling : String) (rest : List Char) : List String :=
      if first then spelling :: idleRepetitions fuel true rest else idleRepetitions fuel false rest
    match cs with
    | [] => []
    | '\\' :: c :: rest =>
      idleRepetitions fuel (first && ['<', '>', 'b', 'B', '\x60', '\''].contains c) rest
    | '[' :: rest =>
      match bracketFrom rest with
      | .ok (_, rest) => idleRepetitions fuel false rest
      | .error _ => []
    | '(' :: rest | '|' :: rest => idleRepetitions fuel true rest
    | '^' :: rest | '$' :: rest => idleRepetitions fuel first rest
    | '*' :: rest => idle "*" rest
    | '+' :: rest => idle "+" rest
    | '?' :: rest => idle "?" rest
    | '\x7b' :: rest =>
      match boundsFrom true rest with
      | .ok (_, rest) =>
        (if first then ["\x7b...\x7d"] else []) ++ idleRepetitions fuel false rest
      | .error _ => idleRepetitions fuel false rest
    | _ :: rest => idleRepetitions fuel false rest

/-- The expression of a text that stands for itself. -/
def plain (cs : List Char) : Expression :=
  cs.foldr (fun c e => .sequence (.one (· == c)) e) .empty

end Expression

end TestFleet.Shell.Program
