/-!
# Intercept.Keyed -- values under keys

A small dictionary is a list of pairs. Putting a value under a key keeps the place of the pair that
is there, so that the order of a dictionary is the one in which its keys first came.
-/

namespace Intercept.Keyed

variable {κ α : Type} [DecidableEq κ]

/-- Puts a value under a key, in place of the one that is there, or at the end. -/
def put (key : κ) (value : α) : List (κ × α) → List (κ × α)
  | [] => [(key, value)]
  | (k, v) :: rest => if k = key then (k, value) :: rest else (k, v) :: put key value rest

/-- The dictionary of some pairs, of which later ones replace earlier ones. -/
def ofList (pairs : List (κ × α)) : List (κ × α) :=
  pairs.foldl (fun acc p => put p.1 p.2 acc) []

end Intercept.Keyed
