import RaceLink.Scenes.Collapse

/-! The scene store (`SceneService`): a JSON file, the list read from it, and the
counter of scene ids.

A call answers with a result or an exception and leaves a new state either way:
an exception does not undo what the call did to the cache before. -/
namespace RaceLink.Scenes
open Python Library

def SCHEMA_VERSION : Int := 1

/-- The `network_scope` of a scene. -/
inductive NetworkScope where
  | auto
  | explicit (networkIds : List String)
deriving DecidableEq, Repr

def NetworkScope.toJson : NetworkScope → Json
  | .auto => dict [("mode", .str "auto")]
  | .explicit networkIds =>
    dict [("mode", .str "explicit"), ("network_ids", .arr (networkIds.map .str))]

structure Scene where
  id : Int
  key : String
  label : String
  created : Json
  updated : Json
  actions : List Action
  stopOnError : Bool
  networkScope : NetworkScope
deriving DecidableEq, Repr

def Scene.toJson (s : Scene) : Json :=
  dict [("id", .int s.id), ("key", .str s.key), ("label", .str s.label), ("created", s.created),
    ("updated", s.updated), ("actions", actionsJson s.actions), ("stop_on_error", .bool s.stopOnError),
    ("network_scope", s.networkScope.toJson)]

/-- The file: absent, not to be opened or no JSON, no UTF-8, or a document. -/
inductive File where
  | missing
  | unreadable
  | undecodable
  | doc (data : Json)

/-- The service object: `_path` (what is there), `_cache`, `_next_id`. -/
structure Service where
  file : File
  cache : Option (List Scene)
  nextId : Option Int

/-- A service that was just made over a file. -/
def Service.fresh (file : File) : Service := ⟨file, none, none⟩

/-- What a call sees of the world: the clock, whether the file can be written, and
what `known_group_ids_getter` returns (`none` when there is none, or it raises). -/
structure Env where
  now : String
  writable : Bool
  known : Option (List Int)

/-! ### Fields -/

/-- `_coerce_bool`. -/
def coerceBool (raw : Json) (default : Bool) : Bool :=
  match raw with
  | .bool b => b
  | .int n => n != 0
  | .str s =>
    if lower (strip s) ∈ ["true", "1", "yes", "on"] then true
    else if lower (strip s) ∈ ["false", "0", "no", "off"] then false
    else default
  | _ => default

/-- The loop of `_canonical_network_scope` over the entries; `out` holds what `seen` does. -/
def collectNetworkIds (out : List String) : List Json → Except PyError (List String)
  | [] => .ok out
  | .str entry :: rest =>
    if strip entry = "" ∨ strip entry ∈ out then collectNetworkIds out rest
    else collectNetworkIds (out ++ [strip entry]) rest
  | _ :: _ => .error (.valueError "network_scope.network_ids entries must be strings" [])

/-- `_canonical_network_scope`. -/
def canonicalNetworkScope (raw : Json) : Except PyError NetworkScope :=
  match raw with
  | .null => .ok .auto
  | .obj scope =>
    match Dict.get scope "mode" with
    | .str "auto" => .ok .auto
    | .str "explicit" =>
      match Dict.get scope "network_ids" with
      | .arr rawIds => do
        let out ← collectNetworkIds [] rawIds
        if out = [] then .error (.valueError
          "network_scope.network_ids must be non-empty when mode='explicit'" [])
        else .ok (.explicit out)
      | _ => .error (.valueError
          "network_scope.network_ids must be a list when mode='explicit'" [])
    | mode => .error (.valueError "network_scope.mode must be 'auto' or 'explicit', got %r" [mode])
  | _ => .error (.valueError "network_scope must be an object" [])

def isSlugChar (c : Char) : Bool := ('a' ≤ c && c ≤ 'z') || ('0' ≤ c && c ≤ '9')

/-- `_SLUG_RE.sub("_", ...)`: each run of other characters becomes one underscore. -/
def slugChars (inRun : Bool) : List Char → List Char
  | [] => []
  | c :: rest =>
    if isSlugChar c then c :: slugChars false rest
    else if inRun then slugChars true rest
    else '_' :: slugChars true rest

/-- `_slugify`. -/
def slugify (text : String) : String :=
  let chars := slugChars false (lower (strip text)).toList
  let base := ((chars.dropWhile (· == '_')).reverse.dropWhile (· == '_')).reverse
  if base = [] then "scene" else String.ofList base

/-- `_unique_key`. -/
def uniqueKey (desired : String) (taken : List String) : Except PyError String :=
  if desired ∉ taken then .ok desired
  else
    match ((List.range' 2 998).map fun idx => s!"{desired}_{idx}").find? (· ∉ taken) with
    | some candidate => .ok candidate
    | none => .error (.runtimeError "could not derive a unique key from %r" [.str desired])

/-! ### The file -/

/-- `max(ids)`, and −1 when there are none. -/
def maxId : List Int → Int
  | [] => -1
  | id :: rest => rest.foldl max id

/-- `while scene_id in used_ids: scene_id += 1`, which ends after `used.length` rounds. -/
def freeId (used : List Int) : Nat → Int → Int
  | 0, id => id
  | rounds + 1, id => if id ∈ used then freeId used rounds (id + 1) else id

/-- The id a loaded scene gets: its own if that is an integer, its place in the file otherwise. -/
def loadId (index : Nat) (used : List Int) (raw : Json) : Except PyError Int := do
  let id ← match raw with
    | .null => .ok (index : Int)
    | raw =>
      match raw.toInt with
      | .ok n => .ok n
      | .error .overflowError => .error .overflowError
      | .error _ => .ok (index : Int)
  .ok (freeId used used.length id)

/-- The actions of a loaded scene: a `ValueError` drops all of them. -/
def loadActions (raw : Json) : Except PyError (List Action) :=
  match canonicalActions raw with
  | .error (.valueError _ _) => .ok []
  | answer => answer

/-- The loop of `_load`. Entries that are no dict, or lack a key or a label, are skipped. -/
def loadScenes (now : String) : Nat → List Int → List Json → Except PyError (List Scene × List Int)
  | _, used, [] => .ok ([], used)
  | index, used, .obj entry :: rest =>
    match Dict.get entry "key", Dict.get entry "label" with
    | .str key, .str label => do
      let id ← loadId index used (Dict.get entry "id")
      let actions ← loadActions (Dict.get entry "actions")
      let networkScope ← canonicalNetworkScope (Dict.get entry "network_scope")
      let (scenes, used) ← loadScenes now (index + 1) (id :: used) rest
      .ok ({ id, key, label
             created := (Dict.get entry "created").orElse (.str now)
             updated := (Dict.get entry "updated").orElse
               ((Dict.get entry "created").orElse (.str now))
             actions
             stopOnError := coerceBool (Dict.get entry "stop_on_error") true
             networkScope } :: scenes, used)
    | _, _ => loadScenes now (index + 1) used rest
  | index, used, _ :: rest => loadScenes now (index + 1) used rest

/-- The `_next_id` of a loaded file; a bool counts as an int. -/
def loadNextId (raw : Json) (used : List Int) : Int :=
  match raw with
  | .int n => if n > maxId used then n else maxId used + 1
  | .bool b => if (if b then 1 else 0) > maxId used then (if b then 1 else 0) else maxId used + 1
  | _ => maxId used + 1

/-- `_load`: the scenes and the next id. -/
def load (now : String) (file : File) : Except PyError (List Scene × Int) :=
  match file with
  | .missing | .unreadable => .ok ([], 0)
  | .undecodable => .error (.valueError "invalid UTF-8" [])
  | .doc (.obj data) => do
    let _ ← ((Dict.getD data "schema_version" (.int 0)).orElse (.int 0)).toInt
    match Dict.get data "scenes" with
    | .arr rawScenes => do
      let (scenes, used) ← loadScenes now 0 [] rawScenes
      .ok (scenes, loadNextId (Dict.get data "next_id") used)
    | _ => .ok ([], 0)
  | .doc _ => .ok ([], 0)

section Service
variable (keyText : Key → String)

/-- `_items`. -/
def items (now : String) (s : Service) : Except PyError (List Scene) × Service :=
  match s.cache with
  | some scenes => (.ok scenes, s)
  | none =>
    match load now s.file with
    | .ok (scenes, nextId) => (.ok scenes, {s with cache := some scenes, nextId := some nextId})
    | .error e => (.error e, s)

/-- The document `_write_atomic` writes. -/
def payload (nextId : Option Int) (scenes : List Scene) : Json :=
  dict [("schema_version", .int SCHEMA_VERSION),
    ("next_id", .int (nextId.getD (maxId (scenes.map (·.id)) + 1))),
    ("scenes", .arr (scenes.map Scene.toJson))]

/-- `_write_atomic`, and `_invalidate` after it: the file is replaced as a whole or not at all. -/
def writeItems (env : Env) (s : Service) (scenes : List Scene) : Except PyError Unit × Service :=
  if env.writable then
    (.ok (), {s with file := .doc ((payload s.nextId scenes).dump keyText), cache := none})
  else (.error .osError, s)

/-- `get`. -/
def get (now : String) (s : Service) (key : String) : Except PyError (Option Scene) × Service :=
  andThen (items now s) fun scenes s => (.ok (scenes.find? (·.key == key)), s)

/-! ### Writing calls -/

/-- `_apply_broadcast_collapse`. -/
def applyBroadcastCollapse (known : Option (List Int)) (actions : List Action) : List Action :=
  match known with
  | none => actions
  | some known => collapseActionsToBroadcast known actions

/-- The arguments of `create`; `None` is `.null`. -/
structure CreateArgs where
  label : String
  actions : Json
  key : Option String := none
  stopOnError : Json := .null
  networkScope : Json := .null

/-- What `create` settles before it takes the lock; the id and the key are still open. -/
def draftScene (env : Env) (args : CreateArgs) : Except PyError Scene :=
  if strip args.label = "" then .error (.valueError "label is required" [])
  else do
    let actions ← canonicalActions args.actions
    let networkScope ← canonicalNetworkScope args.networkScope
    .ok { id := 0, key := "", label := strip args.label
          created := .str env.now, updated := .str env.now
          actions := applyBroadcastCollapse env.known actions
          stopOnError := if args.stopOnError = .null then true else coerceBool args.stopOnError true
          networkScope }

/-- The scene id and the key are given late. -/
def Scene.named (scene : Scene) (id : Int) (key : String) : Scene := {scene with id, key}

/-- `items.append(scene)` and the write: the scene joins the cached list first. -/
def appendScene (env : Env) (s : Service) (scenes : List Scene) (draft : Scene) (key : String) :
    Except PyError Scene × Service :=
  let id := s.nextId.getD 0
  let scenes := scenes ++ [draft.named id key]
  let s := {s with cache := some scenes, nextId := some (id + 1)}
  andThen (writeItems keyText env s scenes) fun _ s => (.ok (draft.named id key), s)

/-- `create`. -/
def create (env : Env) (s : Service) (args : CreateArgs) : Except PyError Scene × Service :=
  andThen (draftScene env args, s) fun draft s =>
  andThen (items env.now s) fun scenes s =>
  let desired := slugify (if args.key.getD "" = "" then draft.label else args.key.getD "")
  andThen (uniqueKey desired (scenes.map (·.key)), s) fun key s =>
  appendScene keyText env s scenes draft key

/-- The arguments of `update`; `None` is `.null`. -/
structure UpdateArgs where
  label : Option String := none
  actions : Json := .null
  stopOnError : Json := .null
  networkScope : Json := .null

/-- The label of an updated scene. -/
def updatedLabel (old : String) : Option String → Except PyError String
  | none => .ok old
  | some label =>
    if strip label = "" then .error (.valueError "label must not be empty" []) else .ok (strip label)

/-- The entry `update` puts in place of a scene. -/
def updatedScene (env : Env) (args : UpdateArgs) (actions : Option (List Action))
    (networkScope : Option NetworkScope) (scene : Scene) : Except PyError Scene := do
  let label ← updatedLabel scene.label args.label
  .ok {scene with
    label
    actions := actions.getD scene.actions
    stopOnError :=
      if args.stopOnError = .null then scene.stopOnError else coerceBool args.stopOnError true
    networkScope := networkScope.getD scene.networkScope
    updated := .str env.now}

/-- The first scene with the key is replaced, the rest of the list stays. -/
def replaceFirst (key : String) (f : Scene → Except PyError Scene) :
    List Scene → Except PyError (Option (Scene × List Scene))
  | [] => .ok none
  | scene :: rest =>
    if scene.key = key then do
      let updated ← f scene
      .ok (some (updated, updated :: rest))
    else do
      match ← replaceFirst key f rest with
      | none => .ok none
      | some (updated, rest) => .ok (some (updated, scene :: rest))

/-- The actions `update` stores, if it was given any. -/
def givenActions (env : Env) (raw : Json) : Except PyError (Option (List Action)) :=
  if raw = .null then .ok none
  else do
    let actions ← canonicalActions raw
    .ok (some (applyBroadcastCollapse env.known actions))

def givenScope (raw : Json) : Except PyError (Option NetworkScope) :=
  if raw = .null then .ok none
  else do
    let scope ← canonicalNetworkScope raw
    .ok (some scope)

/-- What `update` settles before it takes the lock. -/
def checkUpdate (env : Env) (args : UpdateArgs) :
    Except PyError (Option (List Action) × Option NetworkScope) := do
  let actions ← givenActions env args.actions
  let networkScope ← givenScope args.networkScope
  .ok (actions, networkScope)

/-- `update`; `none` when no scene has the key. -/
def update (env : Env) (s : Service) (key : String) (args : UpdateArgs) :
    Except PyError (Option Scene) × Service :=
  andThen (checkUpdate env args, s) fun given s =>
  andThen (items env.now s) fun scenes s =>
  andThen (replaceFirst key (updatedScene env args given.1 given.2) scenes, s) fun found s =>
  match found with
  | none => (.ok none, s)
  | some (updated, scenes) =>
    andThen (writeItems keyText env s scenes) fun _ s => (.ok (some updated), s)

/-- `delete`; false when no scene has the key. -/
def delete (env : Env) (s : Service) (key : String) : Except PyError Bool × Service :=
  andThen (items env.now s) fun scenes s =>
  let kept := scenes.filter (·.key != key)
  if kept.length = scenes.length then (.ok false, s)
  else andThen (writeItems keyText env s kept) fun _ s => (.ok true, s)

/-- The arguments `duplicate` gives to `create`. -/
def duplicateArgs (src : Scene) (newLabel : Option String) : CreateArgs where
  label := strip (if newLabel.getD "" = "" then src.label ++ " copy" else newLabel.getD "")
  actions := actionsJson src.actions
  stopOnError := .bool src.stopOnError
  networkScope := src.networkScope.toJson

/-- `duplicate`: a `create` with what the scene holds; `none` when no scene has the key. -/
def duplicate (env : Env) (s : Service) (key : String) (newLabel : Option String) :
    Except PyError (Option Scene) × Service :=
  andThen (get env.now s key) fun found s =>
  match found with
  | none => (.ok none, s)
  | some src =>
    andThen (create keyText env s (duplicateArgs src newLabel)) fun scene s => (.ok (some scene), s)

end Service

end RaceLink.Scenes
