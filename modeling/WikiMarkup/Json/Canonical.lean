-- SUMMARY: JSON values with the members of every object sorted by name, each name once.
import WikiMarkup.Json.Basic

/-!
# Canonical order

Stored values are kept with the members of every object in the order of their names. Of a repeated
name the last member counts.
-/

namespace WikiMarkup.Json

/-- Puts a value under a name in a list that is sorted by name, in place of the one there. -/
def putSorted {α : Type} (name : String) (value : α) : List (String × α) → List (String × α)
  | [] => [(name, value)]
  | (n, v) :: rest =>
    if name = n then (name, value) :: rest
    else if name < n then (name, value) :: (n, v) :: rest
    else (n, v) :: putSorted name value rest

/-- Sorts a list by name. Of a repeated name the last value stays. -/
def sortByName {α : Type} (members : List (String × α)) : List (String × α) :=
  members.foldl (fun sorted member => putSorted member.1 member.2 sorted) []

mutual

/-- A value with the members of every object sorted by name. -/
def canonical : Json → Json
  | .array items => .array (canonicalItems items)
  | .object members => .object (sortByName (canonicalMembers members))
  | v => v

/-- The items of an array, each in canonical order. -/
def canonicalItems : List Json → List Json
  | [] => []
  | v :: items => canonical v :: canonicalItems items

/-- The members of an object, the value of each in canonical order. -/
def canonicalMembers : List (String × Json) → List (String × Json)
  | [] => []
  | (name, v) :: members => (name, canonical v) :: canonicalMembers members

end

end WikiMarkup.Json
