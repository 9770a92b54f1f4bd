import ServerMigration.Json.Basic
import ServerMigration.Mapping.Error
import ServerMigration.Text.Search

/-!
# Answers that do not depend on chance

Identifiers that were made up, and messages in the words of a parser, differ from one run to the
next.  In a stable answer the former are numbered in the order in which they first appear, and the
latter are left out.

## Main definitions

* `hideMessages` : a text without the words of parsers.
* `numberUuids` : a text with numbers in place of made-up identifiers.
* `stable` : a document in which every text is stable.
-/

namespace ServerMigration.Rehearsal

/-- Texts behind which the words of a parser stand, and what stands in their place. -/
def unstableMarks : List (String × String) :=
  [("unreadable lsblk output: ", "<json error>"), ("parse ip addr: ", "<json error>"),
    ("migration task aborted: ", "<join error>")]

/-- A text without the words of parsers; they end with a failure of a report. -/
def hideMessages (text : String) : String :=
  let hide (part : String) : String := unstableMarks.foldl (fun part (mark, label) =>
    match part.splitOn mark with
    | before :: _ :: _ => before ++ mark ++ label
    | _ => part) part
  reportSeparator.intercalate ((text.splitOn reportSeparator).map hide)

/-- The lengths of the groups of digits in an identifier. -/
def uuidGroups : List Nat := [8, 4, 4, 4, 12]

/-- Whether a character is a hexadecimal digit. -/
def isHexDigit (c : Char) : Bool :=
  c.isDigit || ('a' ≤ c && c ≤ 'f') || ('A' ≤ c && c ≤ 'F')

/-- The groups of digits that a text starts with, without the hyphens between them. -/
def groupsAt? : (groups : List Nat) → List Char → Option (List Char)
  | [], _ => some []
  | group :: groups, text =>
    let digits := text.take group
    if digits.length = group ∧ digits.all isHexDigit then
      match groups, text.drop group with
      | [], _ => some digits
      | groups, '-' :: rest => (groupsAt? groups rest).map (digits ++ ·)
      | _, _ => none
    else none

/-- The characters by which identifiers are compared. -/
def comparable (text : List Char) : List Char :=
  (text.filter (· ≠ '-')).map Char.toLower

/-- A text with numbers in place of made-up identifiers.  The state holds those seen so far;
`skip` characters belong to one that has just been replaced. -/
def numberUuids (isGiven : List Char → Bool) :
    (skip : Nat) → List Char → StateM (List (List Char)) (List Char)
  | _, [] => return []
  | skip + 1, _ :: text => numberUuids isGiven skip text
  | 0, c :: text => do
    match (groupsAt? uuidGroups (c :: text)).map comparable with
    | none => return c :: (← numberUuids isGiven 0 text)
    | some digits =>
      if isGiven digits then return c :: (← numberUuids isGiven 0 text)
      let seen ← get
      let index := seen.idxOf digits
      if index = seen.length then set (seen ++ [digits])
      return s!"<uuid:{index + 1}>".toList ++ (← numberUuids isGiven 35 text)

/-- A stable text. -/
def stableText (isGiven : List Char → Bool) (text : String) :
    StateM (List (List Char)) String := do
  return .ofList (← numberUuids isGiven 0 (hideMessages text).toList)

mutual

/-- A document in which every text is stable. -/
def stableJson (isGiven : List Char → Bool) : Json → StateM (List (List Char)) Json
  | .string text => return .string (← stableText isGiven text)
  | .array items => return .array (← stableItems isGiven items)
  | .object fields => return .object (← stableFields isGiven fields)
  | .null => return .null
  | .bool b => return .bool b
  | .number n => return .number n

/-- The items of an array. -/
def stableItems (isGiven : List Char → Bool) : List Json → StateM (List (List Char)) (List Json)
  | [] => return []
  | item :: items => return (← stableJson isGiven item) :: (← stableItems isGiven items)

/-- The fields of an object. -/
def stableFields (isGiven : List Char → Bool) :
    List (String × Json) → StateM (List (List Char)) (List (String × Json))
  | [] => return []
  | (key, value) :: fields =>
    return (← stableText isGiven key, ← stableJson isGiven value)
      :: (← stableFields isGiven fields)

end

/-- The stable form of the answer to a question; what the question names was not made up. -/
def stable (question : String) (answer : Json) : Json :=
  let given := comparable question.toList
  ((stableJson (Text.occursIn · given) answer.normalize).run []).1

end ServerMigration.Rehearsal
