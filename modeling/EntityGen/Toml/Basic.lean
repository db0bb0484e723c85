/-!
TOML documents as trees, and how they grow. A table can be written down in pieces: under its header, by
headers of tables below it, or by dotted keys. Where it came from (`Origin`) settles which of these may
still add to it. -/
namespace EntityGen

namespace Toml

/-- How a table came about. -/
inductive Origin where
  /-- By its own header. -/
  | declared
  /-- By the header of a table below it. -/
  | implied
  /-- By a dotted key. -/
  | dotted
  /-- Between braces, where it is whole. -/
  | sealed
  deriving DecidableEq, Repr

end Toml

inductive Toml where
  | text (s : String)
  | flag (b : Bool)
  | integer (n : Int)
  | float
  | datetime
  | array (items : List Toml)
  | table (origin : Toml.Origin) (entries : List (String × Toml))
  /-- Tables under headers of the same name. -/
  | tables (items : List Toml)
  deriving Repr

namespace Toml

/-- A table that nothing has been put into. -/
def new (origin : Origin) : Toml := .table origin []

/-- The entries with the value of one replaced, or added at the end. -/
def setEntry (key : String) (value : Toml) : List (String × Toml) → List (String × Toml)
  | [] => [(key, value)]
  | (k, v) :: rest => if k == key then (key, value) :: rest else (k, v) :: setEntry key value rest

/-- Changes the table at the end of a path, which is made if it is not there. A path of dotted keys may
not go through a table with a header of its own; of tables of the same name, a path goes through the
last. -/
def change {α : Type} (dotted : Bool) (f : Toml → Option (Toml × α)) :
    List String → Toml → Option (Toml × α)
  | [], t => f t
  | key :: path, .table origin entries =>
    let child : Option (Toml × α) :=
      match entries.lookup key with
      | none => change dotted f path (new (if dotted then .dotted else .implied))
      | some (.table o es) =>
        if o == .sealed || (dotted && o == .declared) then none
        else change dotted f path (.table o es)
      | some (.tables items) =>
        match items.reverse with
        | [] => none
        | last :: before =>
          (change dotted f path last).map fun (last, a) => (.tables (before.reverse ++ [last]), a)
      | some _ => none
    child.map fun (child, a) => (.table origin (setEntry key child entries), a)
  | _ :: _, _ => none

/-- Puts a value under a key that may have dots: `path` is what stands before the last. -/
def put (path : List String) (key : String) (value : Toml) (t : Toml) : Option Toml :=
  let add : Toml → Option (Toml × Unit)
    | .table origin entries =>
      if (origin == .dotted) == path.isEmpty || (entries.lookup key).isSome then none
      else some (.table origin (entries ++ [(key, value)]), ())
    | _ => none
  (change true add path t).map (·.1)

/-! ### Documents -/

/-- A document under way: what is complete, and the table that is being written. -/
structure Draft where
  root : Toml
  current : Toml
  /-- The header of the table being written: what stands before the last name, the last name, and
  whether it is one of several. -/
  header : Option (List String × String × Bool)

namespace Draft

def start : Draft := ⟨new .declared, new .declared, none⟩

/-- The document with the current table in its place. -/
def finish? (d : Draft) : Option Toml :=
  match d.header with
  | none => some d.current
  | some (path, key, several) =>
    let add : Toml → Option (Toml × Unit)
      | .table origin entries =>
        if several then
          match entries.lookup key with
          | some (.tables items) =>
            some (.table origin (setEntry key (.tables (items ++ [d.current])) entries), ())
          | _ => none
        else some (.table origin (setEntry key d.current entries), ())
      | _ => none
    (change false add path d.root).map (·.1)

/-- A header starts a table. One that is there already may only have been implied. -/
def openTable? (d : Draft) (path : List String) (key : String) : Option Draft := do
  let root ← d.finish?
  let take : Toml → Option (Toml × Toml)
    | .table origin entries =>
      match entries.lookup key with
      | none => some (.table origin entries, new .declared)
      | some (.table .implied es) =>
        some (.table origin (entries.filter (·.1 != key)), .table .declared es)
      | some _ => none
    | _ => none
  let (root, current) ← change false take path root
  return ⟨root, current, some (path, key, false)⟩

/-- A header in double brackets starts one more of several tables. -/
def openOneOf? (d : Draft) (path : List String) (key : String) : Option Draft := do
  let root ← d.finish?
  let take : Toml → Option (Toml × Unit)
    | .table origin entries =>
      match entries.lookup key with
      | none => some (.table origin (setEntry key (.tables []) entries), ())
      | some (.tables _) => some (.table origin entries, ())
      | some _ => none
    | _ => none
  let (root, _) ← change false take path root
  return ⟨root, new .declared, some (path, key, true)⟩

def put? (d : Draft) (path : List String) (key : String) (value : Toml) : Option Draft :=
  (Toml.put path key value d.current).map fun current => { d with current }

end Draft

end Toml

end EntityGen
