import RaceLink.Scenes.Service

/-! Bulk replacement of a store (`replace_all`), the same loop in both stores: every
entry gets a new id and a key that no entry before it in the list has. An entry that
is refused ends the call; the ids claimed until then stay claimed. -/
namespace RaceLink.Scenes
open Python Library

/-- The key of an imported entry, from its key or else its label. -/
def importKey (slugify : String → String) (seen : List String) (entry : Json) :
    Except PyError String := do
  let key ← entry.attrGet "key"
  let label ← entry.attrGet "label"
  match key.orElse (label.orElse (.str "")) with
  | .str text => uniqueKey (slugify text) seen
  | _ => .error .attributeError

/-- `(entry.get("label") or key).strip()`. -/
def importLabel (key : String) (entry : Json) : Except PyError String := do
  match (← entry.attrGet "label").orElse (.str key) with
  | .str text => .ok (strip text)
  | _ => .error .attributeError

/-- The loop of `replace_all`: the entries in their new form, and the counter. -/
def importEntries {E : Type} (slugify : String → String)
    (body : Int → String → Json → Except PyError E) :
    List String → Option Int → List Json → Except PyError (List E) × Option Int
  | _, nextId, [] => (.ok [], nextId)
  | seen, nextId, entry :: rest =>
    andThen (importKey slugify seen entry, nextId) fun key nextId =>
    let id := nextId.getD 0
    andThen (body id key entry, some (id + 1)) fun e nextId =>
    andThen (importEntries slugify body (key :: seen) nextId rest) fun es nextId =>
    (.ok (e :: es), nextId)

/-! ### Scenes -/

/-- What `replace_all` writes of a scene; a load fills in the rest. -/
structure ImportedScene where
  id : Int
  key : String
  label : String
  created : Json
  updated : Json
  actions : List Action
deriving DecidableEq, Repr

def ImportedScene.toJson (s : ImportedScene) : Json :=
  dict [("id", .int s.id), ("key", .str s.key), ("label", .str s.label), ("created", s.created),
    ("updated", s.updated), ("actions", actionsJson s.actions)]

def importScene (now : String) (id : Int) (key : String) (entry : Json) :
    Except PyError ImportedScene := do
  let label ← importLabel key entry
  let created := (← entry.attrGet "created").orElse (.str now)
  let updated := (← entry.attrGet "updated").orElse (.str now)
  let actions ← canonicalActions (← entry.attrGet "actions")
  .ok {id, key, label, created, updated, actions}

/-- The document `replace_all` writes. -/
def importPayload (nextId : Option Int) (imported : List ImportedScene) : Json :=
  dict [("schema_version", .int SCHEMA_VERSION),
    ("next_id", .int (nextId.getD (maxId (imported.map (·.id)) + 1))),
    ("scenes", .arr (imported.map ImportedScene.toJson))]

/-- `_write_atomic` on imported entries, and `_invalidate` after it. -/
def writeImported (keyText : Key → String) (env : Env) (s : Service) (imported : List ImportedScene) :
    Except PyError Unit × Service :=
  if env.writable then
    (.ok (), {s with file := .doc ((importPayload s.nextId imported).dump keyText), cache := none})
  else (.error .osError, s)

/-- `replace_all`. -/
def replaceAll (keyText : Key → String) (env : Env) (s : Service) (entries : List Json) :
    Except PyError Unit × Service :=
  andThen (items env.now s) fun _ s =>
  let (answer, nextId) := importEntries slugify (importScene env.now) [] s.nextId entries
  andThen (answer, {s with nextId}) fun imported s => writeImported keyText env s imported

end RaceLink.Scenes
