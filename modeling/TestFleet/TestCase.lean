import TestFleet.Text.Blank
/-!
# Test cases

A test case describes one test. Two descriptions speak of the same test when their kinds, classes
and methods are equal (`TestCase.key`); everything else is metadata.
-/
namespace TestFleet

/-- A mark on a test, with named values. -/
structure Annotation where
  name : String
  values : List (String × String)
  deriving DecidableEq, Repr, Inhabited

/-- What tells tests apart. -/
structure TestKey where
  kind : String
  className : String
  method : String
  deriving DecidableEq, Repr, Inhabited, Hashable

/-- The description of one test. -/
structure TestCase where
  package : String
  className : String
  method : String
  kind : String
  properties : List (String × String)
  annotations : List Annotation
  deriving DecidableEq, Repr, Inhabited

namespace TestCase

/-- The kind of a test that names none. -/
def defaultKind : String := "instrumentation"

/-- What tells the test apart from others. -/
def key (t : TestCase) : TestKey := ⟨t.kind, t.className, t.method⟩

/-- The class with its package, if it has one. -/
def qualifiedClass (t : TestCase) : String :=
  if t.package.isEmpty then t.className else t.package ++ "." ++ t.className

/-- The test as people read it: `package.Class#method`. -/
def display (t : TestCase) : String := t.qualifiedClass ++ "#" ++ t.method

/-- The characters that a directory name keeps. -/
def isSafe (c : Char) : Bool :=
  c.isAlphanum || c == '.' || c == '-' || c == '_' || c == '#'

/-- A name for the test's directory: other characters than `isSafe` become `_`. -/
def safeName (t : TestCase) : String :=
  String.ofList (t.display.toList.map fun c => if isSafe c then c else '_')

/-- Whether the test carries an annotation of a name. -/
def hasAnnotation (t : TestCase) (name : String) : Bool :=
  t.annotations.any (·.name == name)

end TestCase

end TestFleet
