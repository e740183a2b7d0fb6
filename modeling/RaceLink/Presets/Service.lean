import Mathlib.Data.List.Infix
import RaceLink.Domain.Flags
import RaceLink.Scenes.Bulk

/-! The preset store (`RLPresetsService`): the parameters of a preset, and the calls on
the file, the list read from it and the counter of preset ids.

The store is built like the scene store. It differs in what a load does: a file of an
older schema is written back at once, and nothing is caught when params are refused. -/
namespace RaceLink.Presets
open Python Library
open Scenes (File Env loadId loadNextId maxId uniqueKey slugChars importEntries importLabel)

def SCHEMA_VERSION : Int := 2

/-! ### Params -/

structure Color where
  red : BitVec 8
  green : BitVec 8
  blue : BitVec 8
deriving DecidableEq, Repr

/-- `int(x) & 0xFF`. -/
def toByte (x : Json) : Except PyError (BitVec 8) := do
  let n ← x.toInt
  .ok (BitVec.ofInt 8 n)

/-- `_canonical_color` of a value that is not `None`. -/
def canonicalColor : Json → Except PyError Color
  | .arr [r, g, b] => do
    let red ← toByte r
    let green ← toByte g
    let blue ← toByte b
    .ok {red, green, blue}
  | value => .error (.valueError "invalid color value %r" [value])

/-- `raw[key]`, or `None` when `key not in raw`. Params need not be a dict: a list or a
string may lack the key, but cannot be indexed by it. -/
def paramOf (raw : Json) (key : String) : Except PyError Json :=
  match raw with
  | .obj fields => .ok (Dict.get fields key)
  | .arr items => if .str key ∈ items then .error .typeError else .ok .null
  | .str s => if key.toList <:+: s.toList then .error .typeError else .ok .null
  | _ => .error .typeError

/-- One param, read by `convert` unless it is `None`. -/
def readParam {α : Type} (convert : Json → Except PyError α) (raw : Json) (key : String) :
    Except PyError (Option α) := do
  match ← paramOf raw key with
  | .null => .ok none
  | value => do
    let x ← convert value
    .ok (some x)

def byteParam : Json → String → Except PyError (Option (BitVec 8)) := readParam toByte

def checkParam : Json → String → Except PyError (Option Bool) := readParam fun x => .ok x.truthy

def colorParam : Json → String → Except PyError (Option Color) := readParam canonicalColor

/-- The params of a preset; `none` is `None`. -/
structure Params where
  mode : Option (BitVec 8)
  speed : Option (BitVec 8)
  intensity : Option (BitVec 8)
  custom1 : Option (BitVec 8)
  custom2 : Option (BitVec 8)
  custom3 : Option (BitVec 8)
  check1 : Option Bool
  check2 : Option Bool
  check3 : Option Bool
  palette : Option (BitVec 8)
  color1 : Option Color
  color2 : Option Color
  color3 : Option Color
  brightness : Option (BitVec 8)
deriving DecidableEq, Repr

def byteJson : Option (BitVec 8) → Json
  | none => .null
  | some b => .int b.toNat

def checkJson : Option Bool → Json
  | none => .null
  | some b => .bool b

def colorJson : Option Color → Json
  | none => .null
  | some c => .arr [.int c.red.toNat, .int c.green.toNat, .int c.blue.toNat]

/-- The params in the order of `_PARAM_KEYS`. -/
def Params.toJson (p : Params) : Json :=
  dict [("mode", byteJson p.mode), ("speed", byteJson p.speed), ("intensity", byteJson p.intensity),
    ("custom1", byteJson p.custom1), ("custom2", byteJson p.custom2), ("custom3", byteJson p.custom3),
    ("check1", checkJson p.check1), ("check2", checkJson p.check2), ("check3", checkJson p.check3),
    ("palette", byteJson p.palette), ("color1", colorJson p.color1), ("color2", colorJson p.color2),
    ("color3", colorJson p.color3), ("brightness", byteJson p.brightness)]

/-- `_canonical_params` of params that are not falsy. -/
def readParams (raw : Json) : Except PyError Params := do
  let mode ← byteParam raw "mode"
  let speed ← byteParam raw "speed"
  let intensity ← byteParam raw "intensity"
  let custom1 ← byteParam raw "custom1"
  let custom2 ← byteParam raw "custom2"
  let custom3 ← byteParam raw "custom3"
  let check1 ← checkParam raw "check1"
  let check2 ← checkParam raw "check2"
  let check3 ← checkParam raw "check3"
  let palette ← byteParam raw "palette"
  let color1 ← colorParam raw "color1"
  let color2 ← colorParam raw "color2"
  let color3 ← colorParam raw "color3"
  let brightness ← byteParam raw "brightness"
  .ok ⟨mode, speed, intensity, custom1, custom2, custom3, check1, check2, check3, palette, color1,
    color2, color3, brightness⟩

/-- `_canonical_params`. -/
def canonicalParams (raw : Json) : Except PyError Params := readParams (raw.orElse (.obj []))

/-- `_canonical_flags`: flags are no longer kept on a preset. -/
def canonicalFlags (_ : Json) : Json :=
  dict ([Domain.UserFlag.armOnSync, .forceTt0, .forceReapply, .offsetMode].map fun f =>
    (f.key, .bool false))

/-! ### The file -/

structure Preset where
  id : Int
  key : String
  label : String
  created : Json
  updated : Json
  params : Params
  flags : Json
deriving DecidableEq, Repr

def Preset.toJson (p : Preset) : Json :=
  dict [("id", .int p.id), ("key", .str p.key), ("label", .str p.label), ("created", p.created),
    ("updated", p.updated), ("params", p.params.toJson), ("flags", p.flags)]

/-- The service object: `_path` (what is there), `_cache`, `_next_id`. -/
structure Service where
  file : File
  cache : Option (List Preset)
  nextId : Option Int

/-- A service that was just made over a file. -/
def Service.fresh (file : File) : Service := ⟨file, none, none⟩

/-- `_slugify`. -/
def slugify (text : String) : String :=
  let chars := slugChars false (lower (strip text)).toList
  let base := ((chars.dropWhile (· == '_')).reverse.dropWhile (· == '_')).reverse
  if base = [] then "preset" else String.ofList base

/-- The loop of `_load`. Entries that are no dict, or lack a key or a label, are skipped. -/
def loadPresets (now : String) : Nat → List Int → List Json → Except PyError (List Preset × List Int)
  | _, used, [] => .ok ([], used)
  | index, used, .obj entry :: rest =>
    match Dict.get entry "key", Dict.get entry "label" with
    | .str key, .str label => do
      let id ← loadId index used (Dict.get entry "id")
      let params ← canonicalParams (Dict.get entry "params")
      let (presets, used) ← loadPresets now (index + 1) (id :: used) rest
      .ok ({ id, key, label
             created := (Dict.get entry "created").orElse (.str now)
             updated := (Dict.get entry "updated").orElse
               ((Dict.get entry "created").orElse (.str now))
             params
             flags := canonicalFlags (Dict.get entry "flags") } :: presets, used)
    | _, _ => loadPresets now (index + 1) used rest
  | index, used, _ :: rest => loadPresets now (index + 1) used rest

/-- `_load` up to the migration: the presets, the next id, and whether the file has an
older schema and is written back. -/
def load (now : String) (file : File) : Except PyError (List Preset × Int × Bool) :=
  match file with
  | .missing | .unreadable => .ok ([], 0, false)
  | .undecodable => .error (.valueError "invalid UTF-8" [])
  | .doc (.obj data) => do
    let schema ← ((Dict.getD data "schema_version" (.int 0)).orElse (.int 0)).toInt
    match Dict.get data "presets" with
    | .arr rawPresets => do
      let (presets, used) ← loadPresets now 0 [] rawPresets
      .ok (presets, loadNextId (Dict.get data "next_id") used, schema < SCHEMA_VERSION)
    | _ => .ok ([], 0, false)
  | .doc _ => .ok ([], 0, false)

section Service
variable (keyText : Key → String)

/-- The document `_write_atomic` writes. -/
def payload (nextId : Option Int) (presets : List Preset) : Json :=
  dict [("schema_version", .int SCHEMA_VERSION),
    ("next_id", .int (nextId.getD (maxId (presets.map (·.id)) + 1))),
    ("presets", .arr (presets.map Preset.toJson))]

/-- `_write_atomic`: the file is replaced as a whole or not at all. -/
def writeAtomic (env : Env) (s : Service) (presets : List Preset) : Except PyError Unit × Service :=
  if env.writable then (.ok (), {s with file := .doc ((payload s.nextId presets).dump keyText)})
  else (.error .osError, s)

/-- `_write_atomic`, and `_invalidate` after it. -/
def writeItems (env : Env) (s : Service) (presets : List Preset) : Except PyError Unit × Service :=
  andThen (writeAtomic keyText env s presets) fun _ s => (.ok (), {s with cache := none})

/-- `_items`; the next id is seeded before the migrated file is written. -/
def items (env : Env) (s : Service) : Except PyError (List Preset) × Service :=
  match s.cache with
  | some presets => (.ok presets, s)
  | none =>
    andThen (load env.now s.file, s) fun (presets, nextId, migrate) s =>
    let s := {s with nextId := some nextId}
    andThen (if migrate then writeAtomic keyText env s presets else (.ok (), s)) fun _ s =>
    (.ok presets, {s with cache := some presets})

/-- `get`. -/
def get (env : Env) (s : Service) (key : String) : Except PyError (Option Preset) × Service :=
  andThen (items keyText env s) fun presets s => (.ok (presets.find? (·.key == key)), s)

/-! ### Writing calls -/

/-- The arguments of `create`; `None` is `.null`. -/
structure CreateArgs where
  label : String
  params : Json := .null
  flags : Json := .null
  key : Option String := none

/-- `items.append(preset)` and the write: the preset joins the cached list first. -/
def appendPreset (env : Env) (s : Service) (presets : List Preset) (preset : Preset) :
    Except PyError Preset × Service :=
  let s := {s with cache := some (presets ++ [preset])}
  andThen (writeItems keyText env s (presets ++ [preset])) fun _ s => (.ok preset, s)

/-- `create`. The id is claimed before the params are checked. -/
def create (env : Env) (s : Service) (args : CreateArgs) : Except PyError Preset × Service :=
  let label := strip args.label
  if label = "" then (.error (.valueError "label is required" []), s)
  else
    andThen (items keyText env s) fun presets s =>
    let desired := slugify (if args.key.getD "" = "" then label else args.key.getD "")
    andThen (uniqueKey desired (presets.map (·.key)), s) fun key s =>
    let id := s.nextId.getD 0
    andThen (canonicalParams args.params, {s with nextId := some (id + 1)}) fun params s =>
    appendPreset keyText env s presets
      { id, key, label, created := .str env.now, updated := .str env.now, params
        flags := canonicalFlags args.flags }

/-- The arguments of `update`; `None` is `.null`. -/
structure UpdateArgs where
  label : Option String := none
  params : Json := .null
  flags : Json := .null

/-- The entry `update` puts in place of a preset. -/
def updatedPreset (env : Env) (args : UpdateArgs) (preset : Preset) : Except PyError Preset := do
  let label ← Scenes.updatedLabel preset.label args.label
  let params ← if args.params = .null then .ok preset.params else canonicalParams args.params
  .ok {preset with
    label
    params
    flags := if args.flags = .null then preset.flags else canonicalFlags args.flags
    updated := .str env.now}

/-- `update`; `none` when no preset has the key. -/
def update (env : Env) (s : Service) (key : String) (args : UpdateArgs) :
    Except PyError (Option Preset) × Service :=
  andThen (items keyText env s) fun presets s =>
  andThen (replaceFirst (·.key = key) (updatedPreset env args) presets, s) fun found s =>
  match found with
  | none => (.ok none, s)
  | some (updated, presets) =>
    andThen (writeItems keyText env s presets) fun _ s => (.ok (some updated), s)

/-- `delete`; false when no preset has the key. -/
def delete (env : Env) (s : Service) (key : String) : Except PyError Bool × Service :=
  andThen (items keyText env s) fun presets s =>
  let kept := presets.filter (·.key != key)
  if kept.length = presets.length then (.ok false, s)
  else andThen (writeItems keyText env s kept) fun _ s => (.ok true, s)

/-- The arguments `duplicate` gives to `create`. -/
def duplicateArgs (src : Preset) (newLabel : Option String) : CreateArgs where
  label := strip (if newLabel.getD "" = "" then src.label ++ " copy" else newLabel.getD "")
  params := src.params.toJson
  flags := src.flags

/-- `duplicate`: a `create` with what the preset holds; `none` when no preset has the key. -/
def duplicate (env : Env) (s : Service) (key : String) (newLabel : Option String) :
    Except PyError (Option Preset) × Service :=
  andThen (get keyText env s key) fun found s =>
  match found with
  | none => (.ok none, s)
  | some src =>
    andThen (create keyText env s (duplicateArgs src newLabel)) fun preset s => (.ok (some preset), s)

def importPreset (now : String) (id : Int) (key : String) (entry : Json) : Except PyError Preset := do
  let label ← importLabel key entry
  let created := (← entry.attrGet "created").orElse (.str now)
  let updated := (← entry.attrGet "updated").orElse (.str now)
  let params ← canonicalParams (← entry.attrGet "params")
  let flags := canonicalFlags (← entry.attrGet "flags")
  .ok {id, key, label, created, updated, params, flags}

/-- `replace_all`. -/
def replaceAll (env : Env) (s : Service) (entries : List Json) : Except PyError Unit × Service :=
  andThen (items keyText env s) fun _ s =>
  let (answer, nextId) := importEntries slugify (importPreset env.now) [] s.nextId entries
  andThen (answer, {s with nextId}) fun presets s => writeItems keyText env s presets

end Service

end RaceLink.Presets
