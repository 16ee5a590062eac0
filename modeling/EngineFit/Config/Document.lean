import EngineFit.Hardware.Basic

/-!
# The configuration document

The selector's configuration is a JSON object. Besides what a user stores in it, it has seven
sections, each with a default:

* `schema_version`, the version of the layout (1);
* `created_at` and `updated_at`, the times the configuration was made and last saved (null
  until a store sets them);
* `cache`, with `active-engine`, the engine in use (null);
* `paths`, with `engines`, the engines directory (`engines`);
* `hardware`, with `storage-path`, the directory whose disk space is measured
  (`/var/lib/snapd`);
* `layers`, with the three layers of engine settings `package`, `engine` and `user`, each an
  object of dotted keys (`server.port`) to values.

Values are reached by dotted keys: `cache.active-engine` is `active-engine` in `cache`. Setting
a dotted key makes objects along the way, replacing anything that is not an object.

`repair` makes a document usable: a missing section is added, a section whose default is an
object but which is none is reset, and missing entries of a section are added. A
`schema_version` that cannot be compared with a number makes the document unusable.
-/

namespace EngineFit
namespace Config

/-- The default engines directory. -/
def defaultEnginesDir : String := "engines"

/-- The default sections of a configuration, in order. -/
def defaultSections : List (String × Value) :=
  [("schema_version", .int 1),
   ("created_at", .null),
   ("updated_at", .null),
   ("cache", Value.obj [("active-engine", .null)]),
   ("paths", Value.obj [("engines", .str defaultEnginesDir)]),
   ("hardware", Value.obj [("storage-path", .str defaultStoragePath)]),
   ("layers", Value.obj [("package", .dict []), ("engine", .dict []), ("user", .dict [])])]

/-- The default configuration. -/
def defaultDocument : List (Value × Value) :=
  defaultSections.map fun (k, v) => (.str k, v)

/-- The configuration made at time `t`: the default one, with both time stamps `t`. -/
def madeAt (t : String) : List (Value × Value) :=
  Value.insertEntry (Value.insertEntry defaultDocument (.str "created_at") (.str t))
    (.str "updated_at") (.str t)

/-- The parts of a dotted key: the texts between its dots. -/
def keyParts (key : String) : List String := (key.toList.splitOn '.').map String.ofList

/-- The value at a path of keys, through objects. -/
def valueAt (v : Value) : List String → Option Value
  | [] => some v
  | p :: ps =>
    match v with
    | .dict kvs => (Value.lookup kvs (.str p)).bind fun w => valueAt w ps
    | _ => none

/-- Sets the value at a path of keys, making or replacing objects along the way. -/
def setAt (kvs : List (Value × Value)) : List String → Value → List (Value × Value)
  | [], _ => kvs
  | [p], v => Value.insertEntry kvs (.str p) v
  | p :: ps, v =>
    let inner := match Value.lookup kvs (.str p) with
      | some (.dict c) => c
      | _ => []
    Value.insertEntry kvs (.str p) (.dict (setAt inner ps v))

/-- The outermost position a dotted assignment puts a new value at, below the position `done`:
the first place on the way that holds no object, or else the key's own position. -/
def replacedAt (v : Value) (done : List String) : List String → List String
  | [] => done
  | [p] => done ++ [p]
  | p :: ps =>
    match v with
    | .dict kvs =>
      match Value.lookup kvs (.str p) with
      | some w@(.dict _) => replacedAt w (done ++ [p]) ps
      | _ => done ++ [p]
    | _ => done

/-- Why a configuration cannot be repaired: its schema version is of a kind that cannot be
compared with a number, named. -/
structure SchemaError where
  kind : String
deriving DecidableEq, Repr

/-- The wording of a schema error. -/
def SchemaError.message (e : SchemaError) : String :=
  "'>' not supported between instances of '" ++ e.kind ++ "' and 'int'"

/-- Adds the missing entries of a default section to a section. -/
def fillSection (kvs defaults : List (Value × Value)) : List (Value × Value) :=
  defaults.foldl (fun acc (k, v) => if (Value.lookup acc k).isSome then acc else acc ++ [(k, v)]) kvs

/-- Repairs one section against its default. -/
def repairSection (doc : List (Value × Value)) (key : String) (default : Value) :
    List (Value × Value) :=
  match Value.lookup doc (.str key), default with
  | none, _ => doc ++ [(.str key, default)]
  | some (.dict kvs), .dict defaults => Value.insertEntry doc (.str key) (.dict (fillSection kvs defaults))
  | some _, .dict _ => Value.insertEntry doc (.str key) default
  | some _, _ => doc

/-- A usable configuration from a document. -/
def repair (doc : List (Value × Value)) : Except SchemaError (List (Value × Value)) :=
  match Value.lookup doc (.str "schema_version") with
  | some v@(.str _) | some v@.null | some v@(.list _) | some v@(.dict _) | some v@(.date _)
  | some v@(.stamp _) => .error ⟨v.kindName⟩
  | _ => .ok (defaultSections.foldl (fun d (k, v) => repairSection d k v) doc)

end Config
end EngineFit
