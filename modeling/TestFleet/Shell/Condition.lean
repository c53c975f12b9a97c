import TestFleet.Shell.Arithmetic
import TestFleet.Shell.Session
/-!
# Conditions

What `test` and `[` decide. A condition is a text that is not empty, a question about a file, a
comparison of texts, of whole numbers or of files, or made of conditions with `!`, `-a`, `-o` and
parentheses. A malformed condition is an error with a message.

The reader stands on a word while it decides what the word is: an operator with nothing to work on
is a text like any other. Each reading step gives its verdict together with the words from the last
one it used, so that a fault can name that word.
-/
namespace TestFleet.Shell.Condition

open Files (Tree Node Place)

/-- A whole number of 64 bits with a sign, white space around it allowed. -/
def integer (s : String) : Except String Int :=
  let cs := s.toList.dropWhile Arithmetic.isSpace
  let (negative, ds) : Bool × List Char :=
    match cs with
    | '-' :: r => (true, r)
    | '+' :: r => (false, r)
    | r => (false, r)
  let digits := ds.takeWhile Char.isDigit
  let n : Int := (digits.foldl (fun n c => n * 10 + (c.toNat - '0'.toNat)) 0 : Nat)
  let n := if negative then -n else n
  if digits.isEmpty || !(ds.drop digits.length).all Arithmetic.isSpace
      || Arithmetic.saturated n != n then
    .error ("Illegal number: " ++ s)
  else .ok n

/-- What stands where a path leads to. -/
def found? (tree : Tree) (path : String) : Option (Place × Node) :=
  (tree.find (Text.Bytewise.toText path)).toOption

/-- When what a path leads to was changed. -/
def changed? (tree : Tree) (path : String) : Option Int :=
  (found? tree path).map fun (place, _) => (tree.traitsAt place).changed

/-- What a comparison of two texts, numbers or tree says. -/
def compare? (tree : Tree) (op : String) : Option (String → String → Except String Bool) :=
  let numbers (f : Int → Int → Bool) : Option (String → String → Except String Bool) :=
    some fun a b => do
      let x ← integer a
      let y ← integer b
      pure (f x y)
  let both {α : Type} (f : α → α → Bool) (a b : Option α) : Bool :=
    match a, b with
    | some x, some y => f x y
    | _, _ => false
  match op with
  | "=" => some fun a b => .ok (a == b)
  | "!=" => some fun a b => .ok (a != b)
  | "<" => some fun a b => .ok (decide (a < b))
  | ">" => some fun a b => .ok (decide (b < a))
  | "-eq" => numbers (· == ·)
  | "-ne" => numbers (· != ·)
  | "-lt" => numbers (fun a b => decide (a < b))
  | "-le" => numbers (fun a b => decide (a ≤ b))
  | "-gt" => numbers (fun a b => decide (b < a))
  | "-ge" => numbers (fun a b => decide (b ≤ a))
  | "-nt" =>
    some fun a b => .ok (both (fun x y => decide (y < x)) (changed? tree a) (changed? tree b))
  | "-ot" =>
    some fun a b => .ok (both (fun x y => decide (x < y)) (changed? tree a) (changed? tree b))
  | "-ef" =>
    some fun a b =>
      .ok (both (fun p q => (tree.placesOf p).contains q) ((found? tree a).map (·.1))
        ((found? tree b).map (·.1)))
  | _ => none

/-- Whether a descriptor stands for a terminal: none does. -/
def isTerminal (s : String) : Except String Bool := do
  let _ ← integer s
  pure false

/-- What a question about one text says. -/
def ask? (tree : Tree) (op : String) : Option (String → Except String Bool) :=
  let about (f : Place → Node → Bool) : Option (String → Except String Bool) :=
    some fun p => .ok (match found? tree p with | some (place, n) => f place n | none => false)
  let bit (n : Nat) : Option (String → Except String Bool) :=
    about fun place _ => (tree.traitsAt place).mode &&& n != 0
  match op with
  | "-n" => some fun a => .ok !a.isEmpty
  | "-z" => some fun a => .ok a.isEmpty
  | "-e" | "-O" | "-G" => about fun _ _ => true
  | "-r" => about fun place _ => tree.permits .read place
  | "-w" => about fun place _ => tree.permits .write place
  | "-x" => about fun place _ => tree.permits .search place
  | "-f" => about fun _ n => match n with | .file _ => true | _ => false
  | "-d" => about fun _ n => n == .directory
  | "-s" =>
    about fun _ n =>
      match n with
      | .file content => !content.isEmpty
      | .directory => true
      | _ => false
  | "-c" => about fun _ n => n == .sink
  | "-L" | "-h" =>
    some fun p => .ok (match tree.findHere (Text.Bytewise.toText p) with
      | .ok (_, .link _) => true
      | _ => false)
  | "-u" => bit 0o4000
  | "-g" => bit 0o2000
  | "-k" => bit 0o1000
  | "-p" | "-b" | "-S" => some fun _ => .ok false
  | "-t" => some isTerminal
  | _ => none

/-- What a word is where it stands. -/
inductive Word where
  /-- There is no word. -/
  | missing
  | operand
  | question (op : String)
  | comparison (op : String)
  | not
  | and
  | or
  | opening
  | closing
  deriving DecidableEq, Repr

/-- Whether the word after a question's sign is all there is to ask about, or is compared itself. -/
def isOperandBefore (tree : Tree) : List String → Bool
  | [] => true
  | [_] => false
  | op :: _ :: _ => (compare? tree op).isSome

/-- What the first of some words is. -/
def kindOf (tree : Tree) : List String → Word
  | [] => .missing
  | w :: rest =>
    match w with
    | "!" => .not
    | "-a" => .and
    | "-o" => .or
    | "(" => if rest.isEmpty then .operand else .opening
    | ")" => .closing
    | _ =>
      if (compare? tree w).isSome then .comparison w
      else if (ask? tree w).isSome && !isOperandBefore tree rest then .question w
      else .operand

mutual

/-- Conditions joined by `-o`. -/
def either (tree : Tree) : Nat → Word → List String → Except String (Bool × List String)
  | 0, _, _ => .error "unexpected operator"
  | fuel + 1, kind, at_ => do
    let (a, last) ← both tree fuel kind at_
    match kindOf tree (last.drop 1) with
    | .or => do
      let rest := last.drop 2
      let (b, last) ← either tree fuel (kindOf tree rest) rest
      pure (a || b, last)
    | _ => pure (a, last)

/-- Conditions joined by `-a`. -/
def both (tree : Tree) : Nat → Word → List String → Except String (Bool × List String)
  | 0, _, _ => .error "unexpected operator"
  | fuel + 1, kind, at_ => do
    let (a, last) ← negated tree fuel kind at_
    match kindOf tree (last.drop 1) with
    | .and => do
      let rest := last.drop 2
      let (b, last) ← both tree fuel (kindOf tree rest) rest
      pure (a && b, last)
    | _ => pure (a, last)

/-- A condition that `!` may turn round. -/
def negated (tree : Tree) : Nat → Word → List String → Except String (Bool × List String)
  | 0, _, _ => .error "unexpected operator"
  | fuel + 1, kind, at_ =>
    match kind with
    | .not => do
      let rest := at_.drop 1
      let (a, last) ← negated tree fuel (kindOf tree rest) (if rest.isEmpty then at_ else rest)
      pure (!a, last)
    | _ => single tree fuel kind at_

/-- A question about one text, a comparison, a condition in parentheses, or a text. -/
def single (tree : Tree) : Nat → Word → List String → Except String (Bool × List String)
  | 0, _, _ => .error "unexpected operator"
  | fuel + 1, kind, at_ =>
    match kind, at_ with
    | .missing, _ => .ok (false, at_)
    | _, [] => .ok (false, [])
    | .opening, _ :: rest =>
      match kindOf tree rest with
      | .closing => .ok (false, rest)
      | inner => do
        let (a, last) ← either tree fuel inner rest
        match kindOf tree (last.drop 1) with
        | .closing => pure (a, last.drop 1)
        | _ => throw "closing paren expected"
    | .question op, _ :: rest =>
      match rest, ask? tree op with
      | a :: _, some f => do pure (← f a, rest)
      | _, _ => .error (op ++ ": argument expected")
    | _, a :: rest =>
      match kindOf tree rest, rest with
      | .comparison op, _ :: rest =>
        match rest, compare? tree op with
        | b :: _, some f => do pure (← f a b, rest)
        | _, _ => .error (op ++ ": argument expected")
      | _, _ => .ok (!a.isEmpty, at_)

end

/-- The verdict on some words, the first of which is of a kind. -/
def verdict (tree : Tree) (kind : Word) (args : List String) : Except String Bool :=
  match either tree (4 * args.length + 8) kind args with
  | .ok (_, last :: _ :: _) =>
    .error (if last.isEmpty then "unexpected operator" else last ++ ": unexpected operator")
  | .ok (b, _) => .ok b
  | .error e => .error e

/-- Whether a condition holds. A comparison of three words is one whatever the words are; three or
four words may stand in parentheses or after a negation. -/
def holds (tree : Tree) : List String → Except String Bool
  | [] => .ok false
  | [a, op, b] =>
    if (compare? tree op).isSome then verdict tree .operand [a, op, b]
    else if a == "(" && b == ")" then verdict tree (kindOf tree [op]) [op]
    else if a == "!" then do pure (!(← verdict tree (kindOf tree [op, b]) [op, b]))
    else verdict tree (kindOf tree [a, op, b]) [a, op, b]
  | [a, b, c, d] =>
    if a == "(" && d == ")" then verdict tree (kindOf tree [b, c]) [b, c]
    else if a == "!" then
      if (compare? tree c).isSome then do pure (!(← verdict tree .operand [b, c, d]))
      else do pure (!(← verdict tree (kindOf tree [b, c, d]) [b, c, d]))
    else verdict tree (kindOf tree [a, b, c, d]) [a, b, c, d]
  | args => verdict tree (kindOf tree args) args

end TestFleet.Shell.Condition
