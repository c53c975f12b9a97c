import TestFleet.Text.Blank
/-!
# Arithmetic in scripts

Expressions over signed 64-bit numbers and variables: an unset or empty variable counts as 0, and
a number in an expression that is too great as the greatest one. Operators bind as in C, and
assignments change variables for the rest of the expression and after it. What `&&`, `||` or a
choice leave out is read, but changes nothing and cannot fail.
-/
namespace TestFleet.Shell.Arithmetic

/-- A token of an expression. -/
inductive Token where
  | number (n : Int)
  | name (s : String)
  | op (s : String)
  deriving DecidableEq, Repr, Inhabited

/-- The operators, longer ones first. -/
def operators : List String :=
  ["<<=", ">>=", "<<", ">>", "<=", ">=", "==", "!=", "&&", "||", "+=", "-=", "*=", "/=", "%=",
    "&=", "|=", "^=", "+", "-", "*", "/", "%", "<", ">", "!", "~", "&", "|", "^", "(", ")", "?",
    ":", "="]

/-- What is wrong with an expression. -/
inductive Fault where
  | divisionByZero
  | missingOperand
  | missing (token : String)
  /-- Something follows that does not belong to the expression. -/
  | trailing
  /-- The value of a variable is not a number, or too great. -/
  | notNumber (text : String)
  /-- A variable may not change. -/
  | fixed (name : String)
  /-- A quotient is too great: the machine stops the shell. -/
  | overflow
  deriving DecidableEq, Repr, Inhabited

/-- The fault of an expression as a shell says it. -/
def Fault.message (expression : String) : Fault → String
  | .divisionByZero => inExpression "division by zero"
  | .missingOperand => inExpression "expecting primary"
  | .missing token => inExpression ("expecting '" ++ token ++ "'")
  | .trailing => inExpression "expecting EOF"
  | .notNumber text => "Illegal number: " ++ text
  | .fixed name => name ++ ": is read only"
  | .overflow => ""
where
  /-- What is wrong, with the expression. -/
  inExpression (what : String) : String :=
    "arithmetic expression: " ++ what ++ ": \"" ++ expression ++ "\""

/-- The value of a digit. -/
def digitValue (c : Char) : Nat :=
  if c.isDigit then c.toNat - '0'.toNat
  else if 'a' ≤ c ∧ c ≤ 'f' then c.toNat - 'a'.toNat + 10
  else if 'A' ≤ c ∧ c ≤ 'F' then c.toNat - 'A'.toNat + 10
  else 99

/-- The number that the digits at the front of a text write in a base, and the rest. -/
def digitsIn (base : Nat) (cs : List Char) : Int × List Char :=
  let belongs (c : Char) : Bool := digitValue c < base
  (Int.ofNat ((cs.takeWhile belongs).foldl (fun n c => n * base + digitValue c) 0),
    cs.dropWhile belongs)

/-- A number in decimal, octal or hexadecimal at the front of a text, and the rest. -/
def numberAt (cs : List Char) : Int × List Char :=
  match cs with
  | '0' :: 'x' :: d :: ds =>
    if digitValue d < 16 then digitsIn 16 (d :: ds) else (0, 'x' :: d :: ds)
  | '0' :: 'X' :: d :: ds =>
    if digitValue d < 16 then digitsIn 16 (d :: ds) else (0, 'X' :: d :: ds)
  | '0' :: ds => digitsIn 8 ('0' :: ds)
  | ds => digitsIn 10 ds

/-- The greatest number. -/
def greatest : Int := Nat.pow 2 63 - 1

/-- A number, or the nearest one of 64 bits with a sign. -/
def saturated (n : Int) : Int := max (-greatest - 1) (min n greatest)

/-- White space in front of a number. -/
def isSpace (c : Char) : Bool := c == ' ' || 9 ≤ c.toNat && c.toNat ≤ 13

/-- A text that is a number, with blanks around it or not; one without anything else is 0. The
number has to fit into 64 bits with a sign. -/
def number? (text : List Char) : Option Int :=
  let cs := text.dropWhile isSpace
  let (negative, ds) : Bool × List Char :=
    match cs with
    | '-' :: ds => (true, ds)
    | '+' :: ds => (false, ds)
    | ds => (false, ds)
  match ds with
  | d :: _ =>
    if d.isDigit then
      let (n, rest) := numberAt ds
      let n := if negative then -n else n
      if rest.all isSpace && saturated n == n then some n else none
    else none
  | [] => if cs.isEmpty then some 0 else none

/-- The tokens of an expression, up to a character that starts none. -/
def tokens : Nat → List Char → List Token
  | 0, _ => []
  | _ + 1, [] => []
  | fuel + 1, c :: cs =>
    if c == ' ' || c == '\t' || c == '\n' then tokens fuel cs
    else if c.isDigit then
      let (n, rest) := numberAt (c :: cs)
      .number (saturated n) :: tokens fuel rest
    else if c.isAlpha || c == '_' then
      let isName (c : Char) : Bool := c.isAlphanum || c == '_'
      .name (String.ofList ((c :: cs).takeWhile isName)) :: tokens fuel ((c :: cs).dropWhile isName)
    else
      match operators.find? fun o => (Text.dropLeading? o.toList (c :: cs)).isSome with
      | some o => .op o :: tokens fuel ((c :: cs).drop o.length)
      | none => [.op (String.singleton c)]

/-- The operators of two operands by how tightly they bind, the loosest first. -/
def levels : List (List String) :=
  [["||"], ["&&"], ["|"], ["^"], ["&"], ["==", "!="], ["<", "<=", ">", ">="], ["<<", ">>"],
    ["+", "-"], ["*", "/", "%"]]

/-- A truth value as a number. -/
def truth (b : Bool) : Int := if b then 1 else 0

/-- A number of 64 bits with a sign. -/
def wrap (n : Int) : Int := Int.bmod n (Nat.pow 2 64)

/-- The value of an operator; none if it divides by zero. -/
def combined? (o : String) (a b : Int) : Option Int :=
  match o with
  | "||" => some (truth (a != 0 || b != 0))
  | "&&" => some (truth (a != 0 && b != 0))
  | "|" => some (wrap (Int.ofNat ((a % Nat.pow 2 64).toNat ||| (b % Nat.pow 2 64).toNat)))
  | "^" => some (wrap (Int.ofNat ((a % Nat.pow 2 64).toNat ^^^ (b % Nat.pow 2 64).toNat)))
  | "&" => some (wrap (Int.ofNat ((a % Nat.pow 2 64).toNat &&& (b % Nat.pow 2 64).toNat)))
  | "==" => some (truth (a == b))
  | "!=" => some (truth (a != b))
  | "<" => some (truth (a < b))
  | "<=" => some (truth (a ≤ b))
  | ">" => some (truth (a > b))
  | ">=" => some (truth (a ≥ b))
  | "<<" => some (wrap (a * Nat.pow 2 (b % 64).toNat))
  | ">>" => some (Int.fdiv a (Nat.pow 2 (b % 64).toNat))
  | "+" => some (wrap (a + b))
  | "-" => some (wrap (a - b))
  | "*" => some (wrap (a * b))
  | "/" => if b = 0 then none else some (wrap (Int.tdiv a b))
  | "%" => if b = 0 then none else some (Int.tmod a b)
  | _ => none

/-- The variables that an expression can see: their values, and those that may not change. -/
structure Scope where
  values : List (String × String)
  fixed : List String

/-- Reading an expression: the variables change, the tokens are used up. -/
abbrev Reading := StateT Scope (Except Fault)

/-- The value of a variable. -/
def valueOf (name : String) : Reading Int := do
  match (← get).values.lookup name with
  | none => pure 0
  | some v =>
    match number? v.toList with
    | some n => pure n
    | none => throw (.notNumber v)

/-- Gives a variable a value. -/
def assign (name : String) (n : Int) : Reading Unit := do
  if (← get).fixed.contains name then throw (.fixed name)
  modify fun s => { s with
    values := (name, toString n) :: s.values.filter (·.1 != name) }

/-- The value of an operator, which may not divide by zero. -/
def combine (o : String) (a b : Int) : Reading Int :=
  match combined? o a b with
  | some n =>
    if (o == "/" || o == "%") && b == -1 && a == -greatest - 1 then throw .overflow else pure n
  | none => throw .divisionByZero

/-- The operator that an assignment carries out first, if the token is an assignment. -/
def assignment? (o : String) : Option (Option String) :=
  if o == "=" then some none
  else if ["<<=", ">>=", "+=", "-=", "*=", "/=", "%=", "&=", "|=", "^="].contains o then
    some (some (o.dropEnd 1).toString)
  else none

/-- Whether the value on the left of an operator decides what follows it: then that is read, but
neither carried out nor wrong. -/
def settles (o : String) (a : Int) : Bool := o == "&&" && a == 0 || o == "||" && a != 0

mutual

/-- The value of an expression at a level of binding, and the tokens after it. What is not `live`
is only read. -/
def level : Nat → Bool → List (List String) → List Token → Reading (Int × List Token)
  | 0, _, _, _ => throw .missingOperand
  | fuel + 1, live, [], ts => operand fuel live ts
  | fuel + 1, live, ops :: tighter, ts => do
    let (a, rest) ← level fuel live tighter ts
    chain fuel live ops tighter a rest

/-- The value of further operands at one level. -/
def chain : Nat → Bool → List String → List (List String) → Int → List Token →
    Reading (Int × List Token)
  | 0, _, _, _, _, _ => throw .missingOperand
  | fuel + 1, live, ops, tighter, a, ts =>
    match ts with
    | .op o :: rest =>
      if ops.contains o then do
        let (b, rest) ← level fuel (live && !settles o a) tighter rest
        let n ← if live then combine o a b else pure b
        chain fuel live ops tighter n rest
      else pure (a, ts)
    | _ => pure (a, ts)

/-- The value of an operand. -/
def operand : Nat → Bool → List Token → Reading (Int × List Token)
  | 0, _, _ => throw .missingOperand
  | fuel + 1, live, ts =>
    match ts with
    | .number n :: rest => pure (n, rest)
    | .name s :: rest => do pure (← if live then valueOf s else pure 1, rest)
    | .op "(" :: rest => do
      let (a, rest) ← whole fuel live rest
      match rest with
      | .op ")" :: rest => pure (a, rest)
      | _ => throw (.missing ")")
    | .op "-" :: rest => do
      let (a, rest) ← operand fuel live rest
      pure (wrap (-a), rest)
    | .op "+" :: rest => operand fuel live rest
    | .op "!" :: rest => do
      let (a, rest) ← operand fuel live rest
      pure (truth (a == 0), rest)
    | .op "~" :: rest => do
      let (a, rest) ← operand fuel live rest
      pure (-a - 1, rest)
    | _ => throw .missingOperand

/-- The value of an assignment, or of an expression with a choice in it or not. -/
def whole : Nat → Bool → List Token → Reading (Int × List Token)
  | 0, _, _ => throw .missingOperand
  | fuel + 1, live, ts =>
    match ts with
    | .name s :: .op o :: more =>
      match assignment? o with
      | some before => do
        let (b, rest) ← whole fuel live more
        if live then
          let n ← match before with
            | none => pure b
            | some o => do combine o (← valueOf s) b
          assign s n
          pure (n, rest)
        else pure (b, rest)
      | none => choice fuel live ts
    | _ => choice fuel live ts

/-- The value of an expression with a choice in it or not. -/
def choice : Nat → Bool → List Token → Reading (Int × List Token)
  | 0, _, _ => throw .missingOperand
  | fuel + 1, live, ts => do
    let (a, rest) ← level fuel live levels ts
    match rest with
    | .op "?" :: rest =>
      let (b, rest) ← whole fuel (live && a != 0) rest
      match rest with
      | .op ":" :: rest =>
        let (c, rest) ← choice fuel (live && a == 0) rest
        pure (if a = 0 then c else b, rest)
      | _ => throw (.missing ":")
    | _ => pure (a, rest)

end

/-- The value of an expression, and the variables after it. -/
def evaluate (scope : Scope) (text : String) : Except Fault (Int × Scope) :=
  let cs := text.toList
  let ts := tokens (cs.length + 1) cs
  match (whole (16 * ts.length + 64) true ts).run scope with
  | .ok ((n, []), after) => .ok (n, after)
  | .ok _ => .error .trailing
  | .error f => .error f

end TestFleet.Shell.Arithmetic
