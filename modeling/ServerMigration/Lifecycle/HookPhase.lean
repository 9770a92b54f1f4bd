import ServerMigration.Json.Codec

/-!
# Hook phases

## Main definitions

* `HookPhase` : before or after the command of a status.
* `HookPhase.eventName` : the event of a phase at a status.
-/

namespace ServerMigration

/-- When a hook runs relative to the command of a status. -/
inductive HookPhase
  | before
  | after
  deriving DecidableEq, Repr, Inhabited

namespace HookPhase

/-- The name of a phase. -/
def name : HookPhase → String
  | before => "before"
  | after => "after"

/-- The event of a phase at a status, such as `before_sync`. -/
def eventName (phase : HookPhase) (status : String) : String :=
  s!"{phase.name}_{status}"

instance : JsonCodec HookPhase where
  encode phase := .string phase.name
  decode := decodeConstant [before, after] name

end HookPhase

end ServerMigration
