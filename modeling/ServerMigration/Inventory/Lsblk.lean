import ServerMigration.Device.BlockDevice
import ServerMigration.Json.Reader
import ServerMigration.Text.Blank

/-!
# The report of `lsblk`

`lsblk --json --bytes` reports the forest of block devices as nested lists.  Sizes are numbers or
decimal texts, empty texts mean that nothing is known, and only roots that are disks are kept.
The report is read field by field in the order of the text, so that the first fault in that order
is the one that is told.

## Main definitions

* `isBootFlag` : whether partition flags make a partition bootable.
* `Devices.ofLsblk` : the devices of a report.
-/

namespace ServerMigration

namespace Lsblk

/-- The boot flag of a partition: the active flag of an MBR (`0x80`) or the legacy boot attribute
of a GPT (bit 2), in hexadecimal flags with any number of `0x` in front. -/
def isBootFlag (flags : String) : Bool :=
  match Text.readHex UInt64.size (withoutMarks 0 (Text.trim flags.toList)) with
  | some n => n.toUInt64 &&& 0x84 ≠ 0
  | none => false
where
  /-- Drops every `0x` at the beginning; `skip` characters belong to the latest of them. -/
  withoutMarks : Nat → List Char → List Char
    | skip + 1, _ :: rest => withoutMarks skip rest
    | 0, '0' :: 'x' :: rest => withoutMarks 1 ('x' :: rest)
    | _, rest => rest

/-- The size of a device in bytes: a number, or a decimal text. -/
def decodeSize : Json → Decoded UInt64
  | .number (.whole n) =>
    if 0 ≤ n ∧ n < UInt64.size then .ok n.toNat.toUInt64
    else .error (.deviceSize "Device size must be a positive integer")
  | .number (.double _) => .error (.deviceSize "Device size must be a positive integer")
  | .string s =>
    match Text.readNat UInt64.size (Text.trim s.toList) with
    | some n => .ok n.toUInt64
    | none => .error (.deviceSize s!"Device size is not a byte count: {s}")
  | _ => .error (.deviceSize "Device size must be a number or a string")

/-- A device of a report, with the type that the report gives it. -/
structure Listed where
  /-- The device. -/
  device : BlockDevice
  /-- Its type, such as `disk` or `part`. -/
  kind : Option String
  deriving Inhabited

/-- A device of which some fields have been read. -/
structure Draft where
  /-- The field `name`. -/
  name : Option String := none
  /-- The field `size`. -/
  size : Option UInt64 := none
  /-- The optional texts that have been read. -/
  texts : List (String × Option String) := []
  /-- The field `children`. -/
  children : Option (List Listed) := none

/-- The optional texts of a device, in their order. -/
def textFields : List String :=
  ["type", "fstype", "uuid", "label", "mountpoint", "partflags"]

/-- All fields of a device, in their order. -/
def fieldNames : List String :=
  "name" :: "size" :: textFields ++ ["children"]

/-- The value of an optional text. -/
def Draft.text (draft : Draft) (field : String) : Option String :=
  (draft.texts.lookup field).bind id

/-- The value of an optional text that is not empty. -/
def Draft.nonEmpty (draft : Draft) (field : String) : Option String :=
  (draft.text field).filter (· ≠ "")

/-- The device of a draft, which needs at least a name and a size. -/
def Draft.finish (draft : Draft) : Decoded Listed := do
  let name ← Json.expect draft.name
  let size ← Json.expect draft.size
  let children := (draft.children.getD []).map fun child => (child.device.name, child.device)
  return {
    device := {
      name, size
      fs := draft.nonEmpty "fstype"
      uuid := draft.nonEmpty "uuid"
      label := draft.nonEmpty "label"
      mountpoint := draft.nonEmpty "mountpoint"
      bootable := (draft.text "partflags").any isBootFlag
      children := Dict.ofList children }
    kind := draft.text "type" }

mutual

/-- Reads a device. -/
def decodeListed : Json → Decoded Listed
  | .object fields => do (← readFields {} fields).finish
  | .array items => do
    let draft ← readItems {} fieldNames items
    if items.length ≤ fieldNames.length then draft.finish else .error .mismatch
  | _ => .error .mismatch

/-- Reads the fields of an object in the order of the text. -/
def readFields (draft : Draft) : List (String × Json) → Decoded Draft
  | [] => .ok draft
  | (key, value) :: fields => do readFields (← readField draft key value) fields

/-- Reads the items of an array as the fields in their order. -/
def readItems (draft : Draft) : List String → List Json → Decoded Draft
  | name :: names, item :: items => do readItems (← readField draft name item) names items
  | _, _ => .ok draft

/-- Reads one field, which must not have been read before. -/
def readField (draft : Draft) (key : String) (value : Json) : Decoded Draft :=
  if key = "name" then
    if draft.name.isSome then .error .mismatch
    else return { draft with name := some (← decode value) }
  else if key = "size" then
    if draft.size.isSome then .error .mismatch
    else return { draft with size := some (← decodeSize value) }
  else if key ∈ textFields then
    if (draft.texts.lookup key).isSome then .error .mismatch
    else return { draft with texts := (key, ← decode value) :: draft.texts }
  else if key = "children" then
    if draft.children.isSome then .error .mismatch
    else return { draft with children := some (← decodeList value) }
  else .ok draft

/-- Reads a list of devices. -/
def decodeList : Json → Decoded (List Listed)
  | .array items => decodeAll items
  | _ => .error .mismatch

/-- Reads every item of a list of devices. -/
def decodeAll : List Json → Decoded (List Listed)
  | [] => .ok []
  | item :: items => return (← decodeListed item) :: (← decodeAll items)

end

/-- Reads a whole report. -/
def decodeReport : Json → Decoded (List Listed)
  | .object fields => do
    match fields.filter fun (key, _) => key = "blockdevices" with
    | [(_, value)] => decodeList value
    | (_, value) :: _ => let _ ← decodeList value; .error .mismatch
    | [] => .error .mismatch
  | .array [value] => decodeList value
  | _ => .error .mismatch

/-- Why a text that is no JSON is no report: the complaint about a size that stands before the
fault in the text, if there is one. -/
def faultOf (text : String) : DecodeError :=
  match (Json.beginning? ["size"] text).map decodeReport with
  | some (.error (.deviceSize complaint)) => .deviceSize complaint
  | _ => .mismatch

end Lsblk

/-- The disks of a report, by name. -/
def Devices.ofLsblk (text : String) : Decoded Devices := do
  let some report := Json.parse? text | throw (Lsblk.faultOf text)
  let listed ← Lsblk.decodeReport report
  let disks := listed.filter fun entry => entry.kind.all (· = "disk")
  return Dict.ofList (disks.map fun entry => (entry.device.name, entry.device))

end ServerMigration
