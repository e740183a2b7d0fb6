import RaceLink.Domain.Flags

/-! Scene actions as they are stored (`services/scenes_service.py`): one
constructor for each kind, one field for each key of the persisted dict, and the
dict itself (`toJson`), which is what is written to the file and what
`_canonical_actions` is given again.

Nothing here is validated: rewriting passes build actions that are not canonical
before the validator sees them. -/
namespace RaceLink.Scenes
open Python Domain

/-- The unified target. -/
inductive Target where
  | broadcast
  | groups (value : List Int)
  | device (value : String)
deriving DecidableEq, Repr

def Target.toJson : Target → Json
  | .broadcast => dict [("kind", .str "broadcast")]
  | .groups value => dict [("kind", .str "groups"), ("value", .arr (value.map .int))]
  | .device value => dict [("kind", .str "device"), ("value", .str value)]

/-- One row of an explicit offset table. -/
structure OffsetEntry where
  id : Int
  offsetMs : Int
deriving DecidableEq, Repr

def OffsetEntry.toJson (e : OffsetEntry) : Json :=
  dict [("id", .int e.id), ("offset_ms", .int e.offsetMs)]

/-- The `offset` block of a container. -/
inductive OffsetBlock where
  | none
  | explicit (values : List OffsetEntry)
  | linear (baseMs stepMs : Int)
  | vshape (baseMs stepMs center : Int)
  | modulo (baseMs stepMs cycle : Int)
deriving DecidableEq, Repr

/-- The `mode` string of a block. -/
def OffsetBlock.mode : OffsetBlock → String
  | .none => "none"
  | .explicit _ => "explicit"
  | .linear .. => "linear"
  | .vshape .. => "vshape"
  | .modulo .. => "modulo"

def OffsetBlock.toJson : OffsetBlock → Json
  | .none => dict [("mode", .str "none")]
  | .explicit values => dict [("mode", .str "explicit"), ("values", .arr (values.map OffsetEntry.toJson))]
  | .linear base step =>
    dict [("mode", .str "linear"), ("base_ms", .int base), ("step_ms", .int step)]
  | .vshape base step center =>
    dict [("mode", .str "vshape"), ("base_ms", .int base), ("step_ms", .int step),
      ("center", .int center)]
  | .modulo base step cycle =>
    dict [("mode", .str "modulo"), ("base_ms", .int base), ("step_ms", .int step),
      ("cycle", .int cycle)]

/-- The kinds that dispatch an effect and carry flags; a container's children are of these. -/
inductive EffectKind where
  | rlPreset
  | rlEffect
  | wledPreset
deriving DecidableEq, Repr

def EffectKind.name : EffectKind → String
  | .rlPreset => "rl_preset"
  | .rlEffect => "rl_effect"
  | .wledPreset => "wled_preset"

/-- `flags_override`: for each user flag whether the action sets it, and to what. -/
structure FlagsOverride where
  armOnSync : Option Bool := .none
  forceTt0 : Option Bool := .none
  forceReapply : Option Bool := .none
  offsetMode : Option Bool := .none
deriving DecidableEq, Repr

def FlagsOverride.get (o : FlagsOverride) : UserFlag → Option Bool
  | .armOnSync => o.armOnSync
  | .forceTt0 => o.forceTt0
  | .forceReapply => o.forceReapply
  | .offsetMode => o.offsetMode

def flagField (flag : UserFlag) : Option Bool → List (String × Json)
  | some value => [(flag.key, .bool value)]
  | .none => []

def FlagsOverride.toJson (o : FlagsOverride) : Json :=
  dict (flagField .armOnSync o.armOnSync ++ flagField .forceTt0 o.forceTt0 ++
    flagField .forceReapply o.forceReapply ++ flagField .offsetMode o.offsetMode)

/-- An effect, at the top level of a scene or inside a container. -/
structure Effect where
  kind : EffectKind
  target : Target
  params : Dict
  flagsOverride : FlagsOverride
deriving DecidableEq, Repr

def Effect.toJson (e : Effect) : Json :=
  dict [("kind", .str e.kind.name), ("target", e.target.toJson), ("params", .obj e.params),
    ("flags_override", e.flagsOverride.toJson)]

inductive Action where
  | effect (e : Effect)
  | startblock (target : Target) (params : Dict)
  | sync
  | delay (durationMs : Int)
  | offsetGroup (target : Target) (offset : OffsetBlock) (actions : List Effect)
deriving DecidableEq, Repr

def Action.toJson : Action → Json
  | .effect e => e.toJson
  | .startblock target params =>
    dict [("kind", .str "startblock"), ("target", target.toJson), ("params", .obj params)]
  | .sync => dict [("kind", .str "sync")]
  | .delay durationMs => dict [("kind", .str "delay"), ("duration_ms", .int durationMs)]
  | .offsetGroup target offset actions =>
    dict [("kind", .str "offset_group"), ("target", target.toJson), ("offset", offset.toJson),
      ("actions", .arr (actions.map Effect.toJson))]

/-- A stored action list as `_canonical_actions` is given it. -/
def actionsJson (actions : List Action) : Json := .arr (actions.map Action.toJson)

end RaceLink.Scenes
