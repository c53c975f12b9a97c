import TestFleet.TestCase
import TestFleet.Datum.Record
import TestFleet.Order.Ascending
/-!
# Test cases in documents

Class and method are required. Properties and annotation values are maps in ascending order of
their names; the last value of a repeated name wins.
-/
namespace TestFleet

open Datum

/-- Reads a map from names to texts. -/
def textMap? (d : Datum) : Option (List (String × String)) :=
  (table? text? d).map Ascending.mapOfList

/-- Writes a map from names to texts. -/
def textMapDatum (entries : List (String × String)) : Datum :=
  .table (entries.map fun (k, v) => (k, .text v))

/-- Reads an annotation. -/
def Annotation.ofDatum? : Datum → Option Annotation :=
  record .ignored do
    let name ← required "name" text?
    let values ← withDefault "values" [] textMap?
    pure ⟨name, values⟩

/-- Writes an annotation. -/
def Annotation.toDatum (a : Annotation) : Datum :=
  .table [("name", .text a.name), ("values", textMapDatum a.values)]

namespace TestCase

/-- Reads the fields of a test case. -/
def fields : FieldReader TestCase := do
  let package ← withDefault "package" "" text?
  let className ← required "class" text?
  let method ← required "method" text?
  let kind ← withDefault "kind" defaultKind text?
  let properties ← withDefault "properties" [] textMap?
  let annotations ← withDefault "annotations" [] (list? Annotation.ofDatum?)
  pure ⟨package, className, method, kind, properties, annotations⟩

/-- Reads a test case. -/
def ofDatum? : Datum → Option TestCase := record .ignored fields

/-- The entries of a written test case. -/
def entries (t : TestCase) : List (String × Datum) :=
  [("package", .text t.package), ("class", .text t.className), ("method", .text t.method),
    ("kind", .text t.kind), ("properties", textMapDatum t.properties),
    ("annotations", .list (t.annotations.map Annotation.toDatum))]

/-- Writes a test case. -/
def toDatum (t : TestCase) : Datum := .table t.entries

end TestCase

end TestFleet
