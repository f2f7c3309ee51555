import TimeProbe.Case.Basic
import TimeProbe.Case.Summary

/-!
# Registries

A registry is a list of cases with different names, in the order in which they run.
-/

namespace TimeProbe

/-- Cases with different names. -/
structure Registry where
  cases : List TestCase

namespace Registry

/-- The name of a case that occurs a second time, if there is one. -/
def duplicate? : List String → List TestCase → Option String
  | _, [] => none
  | seen, c :: cs => if c.name ∈ seen then some c.name else duplicate? (c.name :: seen) cs

/-- The fault of a name that occurs twice. -/
def duplicateFault (name : String) : Fault :=
  { kind := .configuration
    message := "Duplicate test case " ++ name
    details := [("name", .text name)] }

/-- The registry of a list of cases. -/
def ofList (cases : List TestCase) : Except Fault Registry :=
  match duplicate? [] cases with
  | some name => .error (duplicateFault name)
  | none => .ok ⟨cases⟩

/-- The names of the cases, in order. -/
def names (r : Registry) : List String := r.cases.map (·.name)

/-- The case with a name. -/
def get (r : Registry) (name : String) : Except Fault TestCase :=
  match r.cases.find? (·.name = name) with
  | some c => .ok c
  | none => .error { kind := .key, message := Text.quoted name }

/-- The cases whose names start with one of the prefixes. -/
def select (r : Registry) (starts : List String) : Registry :=
  ⟨r.cases.filter fun c => starts.any (·.toList.isPrefixOf c.name.toList)⟩

/-- The last part of a dotted module name, and a function name behind it. -/
def caseName (module function : String) : String :=
  let last := (module.toList.reverse.takeWhile (· != '.')).reverse
  String.ofList (last ++ '.' :: function.toList)

end Registry

end TimeProbe
