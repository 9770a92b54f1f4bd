import ServerMigration.StableSort
import ServerMigration.Text.Numeral

/-!
# The natural order of names

Device names are compared by their runs of digits and of other characters, so that `sda2` comes
before `sda10`.  Two runs of digits compare as numbers, and then by length; all other pairs of
runs, and numerals too large for sixty-four bits, compare by their characters.

## Main definitions

* `runsOf` : the maximal runs of digits and of other characters.
* `naturalCompare` : the comparison.
* `naturalSort` : a stable sort by it.
-/

namespace ServerMigration.Text

/-- The maximal runs of a text on which `Char.isDigit` is constant. -/
def runsOf : List Char → List (List Char)
  | [] => []
  | c :: rest =>
    match runsOf rest with
    | (d :: run) :: runs =>
      if c.isDigit = d.isDigit then (c :: d :: run) :: runs else [c] :: (d :: run) :: runs
    | runs => [c] :: runs

/-- The order of two texts by their characters' code points, which is also the order of their
UTF-8 bytes. -/
def compareChars (a b : List Char) : Ordering :=
  compareOfLessAndEq a b

/-- The order of two runs. -/
def compareChunk (a b : List Char) : Ordering :=
  match readNat UInt64.size a, readNat UInt64.size b with
  | some m, some n => (compare m n).then (compare a.length b.length)
  | _, _ => compareChars a b

/-- The order of two lists of runs: the first pair that differs decides, and a proper beginning
comes first. -/
def compareChunks : (a b : List (List Char)) → Ordering
  | [], [] => .eq
  | [], _ :: _ => .lt
  | _ :: _, [] => .gt
  | x :: a, y :: b => (compareChunk x y).then (compareChunks a b)

/-- The natural order of two names. -/
def naturalCompare (a b : String) : Ordering :=
  compareChunks (runsOf a.toList) (runsOf b.toList)

/-- Names in natural order; equal names keep their order. -/
def naturalSort (names : List String) : List String :=
  stableSort naturalCompare names

end ServerMigration.Text
