/-!
# Counts by pass

A pass index counts records by the pass to which they belong.  A pass without records is not
listed.  The latest pass comes first, since that is the one that records are mostly added to.
-/

namespace ForwardChaining

/-- How many records belong to each pass. -/
structure PassIndex where
  /-- Passes and their counts, in descending order of pass. -/
  counts : List (Nat × Nat)
  deriving DecidableEq

namespace PassIndex

/-- No records are counted. -/
def empty : PassIndex := ⟨[]⟩

/-- The number of records of a pass. -/
def count (x : PassIndex) (pass : Nat) : Nat :=
  (x.counts.lookup pass).getD 0

/-- The passes with records, ascending. -/
def passes (x : PassIndex) : List Nat :=
  (x.counts.map (·.1)).reverse

/-- Counts one more record of `pass` in a descending list of counts. -/
def addTo (pass : Nat) : List (Nat × Nat) → List (Nat × Nat)
  | [] => [(pass, 1)]
  | (p, n) :: rest =>
    if p < pass then (pass, 1) :: (p, n) :: rest
    else if pass = p then (p, n + 1) :: rest
    else (p, n) :: addTo pass rest

/-- Counts one record of `pass` less. -/
def removeFrom (pass : Nat) : List (Nat × Nat) → List (Nat × Nat)
  | [] => []
  | (p, n) :: rest =>
    if pass = p then
      if n - 1 = 0 then rest else (p, n - 1) :: rest
    else (p, n) :: removeFrom pass rest

/-- The index with one more record of `pass`. -/
def add (x : PassIndex) (pass : Nat) : PassIndex :=
  ⟨addTo pass x.counts⟩

/-- The index with one record of `pass` less. -/
def remove (x : PassIndex) (pass : Nat) : PassIndex :=
  ⟨removeFrom pass x.counts⟩

end PassIndex

end ForwardChaining
