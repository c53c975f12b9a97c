import TestFleet.Shell.Glob
/-!
# Cutting expanded words into fields

An expanded word is a list of atoms. What comes from an expansion that is not quoted lies in a
region, in which the characters of `IFS` cut the word: white space there counts once however much
of it there is, and not at all at the start of a field; any other character ends a field each time.
The arguments that `"$@"` stands for lie in a region in which nothing cuts but the places between
them.
-/
namespace TestFleet.Shell

/-- A part of an expanded word. -/
inductive Atom where
  | mark (m : Mark)
  /-- A character in a region, at which the word may be cut. -/
  | loose (c : Char)
  /-- A place in a region where the word is cut as at white space. -/
  | gap
  /-- A place where the word is cut whatever stands around it. -/
  | cut
  /-- The start of a region, or of one that only `cut` cuts. -/
  | region (whole : Bool)
  /-- Something empty that makes a word all the same. -/
  | present
  deriving Inhabited

/-- A text as parts of a word. -/
def atoms (quoted : Bool) (cs : List Char) : List Atom :=
  if quoted then .present :: cs.map fun c => .mark ⟨c, true⟩
  else if cs.isEmpty then []
  else .region false :: cs.map .loose

/-- Parts of a word that stand in the place of a value: what is not quoted in them lies in a
region. -/
def loosened : List Atom → List Atom
  | [] => []
  | .mark ⟨c, false⟩ :: rest => .region false :: .loose c :: go rest
  | a :: rest => a :: loosened rest
where
  /-- The same, inside a region that has been started. -/
  go : List Atom → List Atom
    | [] => []
    | .mark ⟨c, false⟩ :: rest => .loose c :: go rest
    | a :: rest => a :: loosened rest

/-- The characters of an expanded word that is not cut. -/
def marksOf (as_ : List Atom) : List Mark :=
  as_.filterMap fun a =>
    match a with
    | .mark m => some m
    | .loose c => some ⟨c, false⟩
    | .gap | .cut => some ⟨' ', true⟩
    | .region _ | .present => none

/-- The text of an expanded word that is not cut. -/
def textOf (as_ : List Atom) : String := String.ofList ((marksOf as_).map (·.char))

/-- Where the cutting of a word stands. -/
structure Cutting where
  /-- The present field, its last character first, if it has begun. -/
  field : Option (List Mark)
  /-- Whether a field has just been ended by white space. -/
  blank : Bool
  /-- Whether the present region is one that only `cut` cuts, and whether the one before it was. -/
  whole : Bool
  wholeBefore : Bool

/-- The white space that cuts words unless they are told otherwise. -/
def isFieldBlank (c : Char) : Bool := c == ' ' || c == '\t' || c == '\n'

/-- The fields that an expanded word is cut into. -/
def fieldsFrom (ifs : List Char) : Cutting → List Atom → List (List Mark)
  | k, [] =>
    match k.field with
    | some f => [f.reverse]
    | none => if k.whole then [[]] else []
  | k, a :: rest =>
    let adding (m : Mark) : Cutting := { k with field := some (m :: k.field.getD []) }
    let ended : List Mark := (k.field.getD []).reverse
    /- What a character does that cuts, or a gap. -/
    let cutting (white : Bool) : List (List Mark) :=
      if k.blank then fieldsFrom ifs { k with blank := white } rest
      else
        let blank := white && !k.wholeBefore
        if k.field.isNone && blank then fieldsFrom ifs { k with blank := false } rest
        else ended :: fieldsFrom ifs { k with field := none, blank } rest
    match a with
    | .mark m => fieldsFrom ifs (adding m) rest
    | .present => fieldsFrom ifs { k with field := some (k.field.getD []) } rest
    | .region whole =>
      fieldsFrom ifs { k with blank := false, whole, wholeBefore := k.whole } rest
    | .cut => ended :: fieldsFrom ifs { k with field := none } rest
    | .gap => cutting true
    | .loose c =>
      if ifs.contains c then cutting (isFieldBlank c)
      else fieldsFrom ifs { adding ⟨c, false⟩ with blank := false } rest

/-- The fields that an expanded word is cut into. -/
def fieldsOf (ifs : List Char) (as_ : List Atom) : List (List Mark) :=
  fieldsFrom ifs ⟨none, false, false, false⟩ as_

/-- A character of a line that is read, and whether a backslash keeps it from cutting. -/
structure Letter where
  char : Char
  kept : Bool
  deriving DecidableEq, Repr, Inhabited

/-- A line without the white space that cuts at its end. -/
def withoutBlankEnd (ifs : List Char) (line : List Letter) : List Letter :=
  Text.dropWhileEnd (fun l => !l.kept && ifs.contains l.char && isFieldBlank l.char) line

/-- The values that a line gives to so many variables. The last one takes all that is left; one
character that cuts at its end is left out if it is the only one. -/
def lineFields (ifs : List Char) : Nat → List Letter → List (List Letter)
  | 0, _ => []
  | n + 1, line =>
    let cuts (l : Letter) : Bool := !l.kept && ifs.contains l.char
    let white (l : Letter) : Bool := cuts l && isFieldBlank l.char
    let line := line.dropWhile white
    if line.isEmpty then []
    else
      let field := line.takeWhile (!cuts ·)
      let behind := line.drop field.length
      let rest := behind.dropWhile white
      let rest :=
        match rest with
        | l :: more => if cuts l then more.dropWhile white else rest
        | [] => []
      match n with
      | 0 => if rest.isEmpty then [field] else [withoutBlankEnd ifs line]
      | _ => field :: lineFields ifs n rest

end TestFleet.Shell
