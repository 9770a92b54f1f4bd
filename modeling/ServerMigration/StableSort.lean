/-!
# Stable sorting

## Main definitions

* `stableSort` : sorts a list by a comparison and keeps the order of elements that compare equal.
-/

namespace ServerMigration

variable {α : Type}

/-- Inserts an element behind all elements that it does not precede. -/
def insertSorted (order : α → α → Ordering) (x : α) : List α → List α
  | [] => [x]
  | y :: ys => if order x y = .lt then x :: y :: ys else y :: insertSorted order x ys

/-- Sorts by a comparison; elements that compare equal keep their order.

That fixes the result if the comparison is a total preorder.  For any other one, such as the natural
order of names with numerals of more than 64 bits, nothing specifies the order of a sorted list.
The one that comes out here is then a matter of inserting the elements from the first to the last,
and a different stable sort may leave a different one. -/
def stableSort (order : α → α → Ordering) (xs : List α) : List α :=
  xs.foldl (fun sorted x => insertSorted order x sorted) []

/-- The order of strings by their characters' code points, which is also the order of their UTF-8
bytes. -/
def compareStrings (a b : String) : Ordering :=
  compareOfLessAndEq a b

end ServerMigration
