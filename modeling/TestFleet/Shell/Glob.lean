import TestFleet.Files.Tree
import TestFleet.Text.Bytewise
/-!
# Patterns for names

`*` stands for any text, `?` for any octet, and `[…]` for one octet of a set. Characters that were
quoted stand for themselves, and so does one behind a backslash. A pattern for a path is matched
part by part against the names that directories hold.
-/
namespace TestFleet.Shell

/-- A character of a word, and whether it was quoted. -/
structure Mark where
  char : Char
  quoted : Bool
  deriving DecidableEq, Repr, Inhabited

/-- Classes of octets that have a name. -/
inductive OctetClass where
  | alnum
  | alpha
  | blank
  | cntrl
  | digit
  | graph
  | lower
  | print
  | punct
  | space
  | upper
  | xdigit
  deriving DecidableEq, Repr

namespace OctetClass

/-- The class of a name. -/
def ofName? (name : String) : Option OctetClass :=
  [("alnum", alnum), ("alpha", alpha), ("blank", blank), ("cntrl", cntrl), ("digit", digit),
    ("graph", graph), ("lower", lower), ("print", print), ("punct", punct), ("space", space),
    ("upper", upper), ("xdigit", xdigit)].lookup name

/-- Whether an octet belongs to the class: only those of ASCII do. -/
def holds (k : OctetClass) (c : Char) : Bool :=
  let n := c.toNat
  let visible : Bool := 32 < n && n < 127
  match k with
  | alnum => c.isAlphanum
  | alpha => c.isAlpha
  | blank => c == ' ' || c == '\t'
  | cntrl => n < 32 || n == 127
  | digit => c.isDigit
  | graph => visible
  | lower => c.isLower
  | print => visible || c == ' '
  | punct => visible && !c.isAlphanum
  | space => c == ' ' || 9 ≤ n && n ≤ 13
  | upper => c.isUpper
  | xdigit => c.isDigit || 'a' ≤ c && c ≤ 'f' || 'A' ≤ c && c ≤ 'F'

end OctetClass

/-- A member of a set of octets. -/
inductive SetMember where
  | range (low high : Char)
  | named (k : OctetClass)
  deriving DecidableEq, Repr

/-- An octet as a number with a sign, as sets order them. -/
def signedOctet (c : Char) : Int := Int.bmod c.toNat 256

/-- Whether a member of a set stands for an octet. -/
def SetMember.holds (c : Char) : SetMember → Bool
  | .range a b => signedOctet a ≤ signedOctet c && signedOctet c ≤ signedOctet b
  | .named k => k.holds c

/-- A part of a pattern. -/
inductive GlobPart where
  | char (c : Char)
  | one
  | many
  | set (negated : Bool) (members : List SetMember)
  deriving Repr, Inhabited

/-- A class between `[:` and `:]` at the front of a set, its first bracket gone. -/
def classAt? (ms : List Mark) : Option (OctetClass × List Mark) :=
  match ms with
  | colon :: rest =>
    let name := rest.takeWhile fun m => m.char.isAlpha && !m.quoted
    match rest.drop name.length with
    | c :: b :: more =>
      if colon == ⟨':', false⟩ && c == ⟨':', false⟩ && b == ⟨']', false⟩ then
        (OctetClass.ofName? (String.ofList (name.map (·.char)))).map (·, more)
      else none
    | _ => none
  | [] => none

/-- The members of a set up to its closing bracket, and the rest. -/
def setMembers : Nat → Bool → List Mark → Option (List SetMember × List Mark)
  | 0, _, _ => none
  | _ + 1, _, [] => none
  | fuel + 1, first, a :: rest =>
    let one : Option (List SetMember × List Mark) :=
      match rest with
      | dash :: b :: more =>
        if dash == ⟨'-', false⟩ && b != ⟨']', false⟩ then
          (setMembers fuel false more).map fun (ms, r) => (.range a.char b.char :: ms, r)
        else (setMembers fuel false rest).map fun (ms, r) => (.range a.char a.char :: ms, r)
      | _ => (setMembers fuel false rest).map fun (ms, r) => (.range a.char a.char :: ms, r)
    if a == ⟨']', false⟩ && !first then some ([], rest)
    else if a == ⟨'[', false⟩ then
      match classAt? rest with
      | some (k, more) => (setMembers fuel false more).map fun (ms, r) => (.named k :: ms, r)
      | none => one
    else one

/-- Characters behind a backslash that is not quoted, quoted themselves. -/
def withoutBackslashes : List Mark → List Mark
  | a :: b :: rest =>
    if a == ⟨'\\', false⟩ then ⟨b.char, true⟩ :: withoutBackslashes rest
    else a :: withoutBackslashes (b :: rest)
  | ms => ms

/-- The pattern that a word without backslashes is; a set that starts with one of some characters
stands for what is not in it. -/
def globParts (negators : List Char) : Nat → List Mark → List GlobPart
  | 0, _ => []
  | _ + 1, [] => []
  | fuel + 1, m :: rest =>
    if m.quoted then .char m.char :: globParts negators fuel rest
    else
      match m.char with
      | '*' => .many :: globParts negators fuel rest
      | '?' => .one :: globParts negators fuel rest
      | '[' =>
        let (negated, inner) : Bool × List Mark :=
          match rest with
          | n :: more =>
            if !n.quoted && negators.contains n.char then (true, more) else (false, rest)
          | [] => (false, rest)
        match setMembers (rest.length + 1) true inner with
        | some (members, more) => .set negated members :: globParts negators fuel more
        | none => .char '[' :: globParts negators fuel rest
      | c => .char c :: globParts negators fuel rest

/-- The pattern that a word of a shell is. -/
def toGlob (ms : List Mark) : List GlobPart :=
  globParts ['!'] (ms.length + 1) (withoutBackslashes ms)

/-- The pattern for names that a program is given. -/
def nameGlob (s : String) : List GlobPart :=
  globParts ['!', '^'] (s.length + 1) (withoutBackslashes (s.toList.map fun c => ⟨c, false⟩))

/-- Whether a part that stands for one character stands for this one. -/
def GlobPart.holds (c : Char) : GlobPart → Bool
  | .char a => a == c
  | .one => true
  | .many => false
  | .set negated members => (members.any (·.holds c)) != negated

/-- Whether a pattern stands for a text. -/
def globMatches : List GlobPart → List Char → Bool
  | [], cs => cs.isEmpty
  | .many :: ps, cs => (Text.tails cs).any (globMatches ps)
  | p :: ps, cs =>
    match cs with
    | c :: rest => p.holds c && globMatches ps rest
    | [] => false

/-- Whether a word has something in it that makes it a pattern. -/
def isGlob (ms : List Mark) : Bool :=
  (toGlob ms).any fun p => match p with | .char _ => false | _ => true

/-- The names in a directory that a pattern stands for. Those that start with a dot count only if
the pattern does. -/
def namesLike (tree : Files.Tree) (place : Files.Place) (part : List Mark) : List String :=
  if !tree.permits .read place then []
  else
    let pattern := toGlob part
    let dotted : Bool := match pattern with | .char '.' :: _ => true | _ => false
    let names := (tree.list place).map Text.Bytewise.ofText
    (if dotted then "." :: ".." :: names else names).filter fun n =>
      (dotted || n.toList.head? != some '.') && globMatches pattern n.toList

/-- The paths that a pattern stands for. `before` leads to where its parts are looked for. -/
def globPaths (tree : Files.Tree) : String → List (List Mark) → List String
  | _, [] => []
  | before, part :: rest =>
    let place? (path : String) : Option Files.Place :=
      (tree.resolve (if path.isEmpty then "." else Text.Bytewise.toText path)).toOption
    let stands (path : String) : Bool := (tree.findHere (Text.Bytewise.toText path)).toBool
    let names : List String :=
      if isGlob part then
        match place? before with
        | some place => if tree.node? place == some .directory then namesLike tree place part
          else []
        | none => []
      else [String.ofList ((withoutBackslashes part).map (·.char))]
    names.flatMap fun n =>
      let path := before ++ n
      match rest with
      | [] => if stands path then [path] else []
      | _ :: _ =>
        match place? (path ++ "/") with
        | some place =>
          if tree.node? place == some .directory then globPaths tree (path ++ "/") rest else []
        | none => []

/-- The paths that a word stands for in ascending order, or the word. -/
def pathsOf (tree : Files.Tree) (field : List Mark) : List String :=
  let word := String.ofList (field.map (·.char))
  if isGlob field then
    let found := globPaths tree "" (Text.pieces (fun m => m.char == '/') field)
    if found.isEmpty then [word] else Ascending.ofList Ascending.textBefore found
  else [word]

end TestFleet.Shell
