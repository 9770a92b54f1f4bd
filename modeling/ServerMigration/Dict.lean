/-!
# Dictionaries in key order

A dictionary is a list of keys and values in ascending order of keys.  It stays a plain list so
that a type can hold dictionaries of itself.

## Main definitions

* `Dict` : the type.
* `Dict.insert`, `Dict.get?`, `Dict.ofList` : its operations.
* `Dict.Sorted` : the keys ascend strictly.
-/

namespace ServerMigration

/-- Keys and values in ascending order of keys. -/
abbrev Dict (α : Type) : Type := List (String × α)

namespace Dict

variable {α β : Type}

/-- The keys ascend strictly. -/
def Sorted (dict : Dict α) : Prop :=
  dict.Pairwise fun a b => a.1 < b.1

/-- Puts a value under a key, in the place of the value that is there. -/
def insert (key : String) (value : α) : Dict α → Dict α
  | [] => [(key, value)]
  | (k, v) :: rest =>
    if key < k then (key, value) :: (k, v) :: rest
    else if key = k then (key, value) :: rest
    else (k, v) :: insert key value rest

/-- The value under a key. -/
def get? (dict : Dict α) (key : String) : Option α :=
  dict.lookup key

/-- The dictionary of some pairs; of equal keys the last one counts. -/
def ofList (pairs : List (String × α)) : Dict α :=
  pairs.foldl (fun dict (key, value) => insert key value dict) []

/-- The keys in ascending order. -/
def keys (dict : Dict α) : List String :=
  dict.map (·.1)

/-- The values in the order of their keys. -/
def values (dict : Dict α) : List α :=
  dict.map (·.2)

@[simp] theorem get?_insert (dict : Dict α) (key : String) (value : α) (k : String) :
    (insert key value dict).get? k = if k = key then some value else dict.get? k := by
  induction dict with
  | nil =>
    by_cases h : k = key
    · simp [insert, get?, h]
    · have hk : (k == key) = false := by simpa using h
      simp [insert, get?, List.lookup_cons, h, hk]
  | cons entry rest ih =>
    obtain ⟨k', v⟩ := entry
    by_cases h : k = key
    · subst h
      by_cases h₁ : k < k'
      · simp [insert, get?, h₁]
      · by_cases h₂ : k = k'
        · simp [insert, get?, h₂]
        · have hk : (k == k') = false := by simpa using h₂
          simpa [insert, get?, List.lookup_cons, h₁, h₂, hk] using ih
    · have hk : (k == key) = false := by simpa using h
      by_cases h₁ : key < k'
      · simp [insert, get?, List.lookup_cons, h₁, h, hk]
      · by_cases h₂ : key = k'
        · subst h₂
          simp [insert, get?, List.lookup_cons, h, hk]
        · by_cases h₃ : k = k'
          · subst h₃
            simp [insert, get?, h₁, h₂, h]
          · have hk' : (k == k') = false := by simpa using h₃
            simpa [insert, get?, List.lookup_cons, h₁, h₂, h, hk'] using ih

end Dict

end ServerMigration
