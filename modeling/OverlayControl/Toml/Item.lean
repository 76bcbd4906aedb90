import OverlayControl.Data

/-!
# TOML tables under construction

While a TOML document is read, each table remembers what brought it into being, since that decides
how it may be extended: `Origin` tells a header from a longer header's path and from a dotted key.

* `putHeader`, `putElement` — a `[table]` and a `[[table]]` header;
* `putPair` — a pair of a dotted key and a value, in the table that a header opened;
* `Item.toData` — the finished tree.

A key is defined once. A dotted key may add to tables that dotted keys made, and not to those that
headers made; a header may turn the path of another header into a table, once.
-/

namespace OverlayControl.Toml

/-- What brought a table into being. -/
inductive Origin
  /-- Its own header. -/
  | header
  /-- The path of a longer header. -/
  | path
  /-- A dotted key. -/
  | dotted
  deriving DecidableEq

/-- The contents of a key. -/
inductive Item
  /-- A finished value. -/
  | value (d : Data)
  /-- A table that may still grow. -/
  | table (origin : Origin) (entries : List (String × Item))
  /-- The tables that `[[table]]` headers have opened, the last one last. -/
  | elements (tables : List (List (String × Item)))

/-- The entries of a table, in order. -/
abbrev Entries := List (String × Item)

/-- The contents of a key, if it is there. -/
def find? (key : String) (es : Entries) : Option Item :=
  (es.find? fun (k, _) => k == key).map Prod.snd

/-- Gives a key that is there new contents, and puts it last when it is not. -/
def put (key : String) (item : Item) : Entries → Entries
  | [] => [(key, item)]
  | (k, i) :: es => if k = key then (k, item) :: es else (k, i) :: put key item es

/-- Changes the last of several tables. -/
def changeLast (change : Entries → Option Entries) : List Entries → Option (List Entries)
  | [] => none
  | [es] => (change es).map fun es => [es]
  | es :: rest => (changeLast change rest).map (es :: ·)

/-- Changes the table at a header's path, making the tables on the way. -/
def within (change : Entries → Option Entries) : List String → Entries → Option Entries
  | [], es => change es
  | k :: ks, es =>
    match find? k es with
    | none => (within change ks []).map fun t => put k (.table .path t) es
    | some (.value _) => none
    | some (.table o t) => (within change ks t).map fun t => put k (.table o t) es
    | some (.elements ts) =>
      (changeLast (within change ks) ts).map fun ts => put k (.elements ts) es

/-- Changes the table at a dotted key's path, making the tables on the way. The table itself has to
come from a dotted key, unless the path is empty. -/
def withinDotted (change : Entries → Option Entries) : List String → Entries → Option Entries
  | [], es => change es
  | k :: ks, es =>
    match find? k es with
    | none => (withinDotted change ks []).map fun t => put k (.table .dotted t) es
    | some (.value _) => none
    | some (.table .header _) => none
    | some (.table .path t) =>
      if ks.isEmpty then none
      else (withinDotted change ks t).map fun t => put k (.table .path t) es
    | some (.table .dotted t) => (withinDotted change ks t).map fun t => put k (.table .dotted t) es
    | some (.elements ts) =>
      if ks.isEmpty then none
      else (changeLast (withinDotted change ks) ts).map fun ts => put k (.elements ts) es

/-- Adds a key that is not there yet. -/
def define (key : String) (item : Item) (es : Entries) : Option Entries :=
  match find? key es with
  | none => some (put key item es)
  | some _ => none

/-- Opens the table of a header in its parent. -/
def openTable (key : String) (es : Entries) : Option Entries :=
  match find? key es with
  | none => some (put key (.table .header []) es)
  | some (.table .path t) => some (put key (.table .header t) es)
  | some _ => none

/-- Opens one more table of a `[[table]]` header in its parent. -/
def openElement (key : String) (es : Entries) : Option Entries :=
  match find? key es with
  | none => some (put key (.elements [[]]) es)
  | some (.elements ts) => some (put key (.elements (ts ++ [[]])) es)
  | some _ => none

/-- Adds the pair of a dotted key and a value to a table. -/
def putPair (key : List String) (d : Data) (es : Entries) : Option Entries :=
  match key.getLast? with
  | none => none
  | some last => withinDotted (define last (.value d)) key.dropLast es

/-- Opens the table that a header names. -/
def putHeader (key : List String) (es : Entries) : Option Entries :=
  match key.getLast? with
  | none => none
  | some last => within (openTable last) key.dropLast es

/-- Opens one more of the tables that a `[[table]]` header names. -/
def putElement (key : List String) (es : Entries) : Option Entries :=
  match key.getLast? with
  | none => none
  | some last => within (openElement last) key.dropLast es

mutual

/-- The finished contents of a key. -/
def Item.toData : Item → Data
  | .value d => d
  | .table _ es => .table (entriesToData es)
  | .elements ts => .list (elementsToData ts)

/-- The finished entries of a table. -/
def entriesToData : List (String × Item) → List (String × Data)
  | [] => []
  | (k, i) :: es => (k, i.toData) :: entriesToData es

/-- The finished tables of a list. -/
def elementsToData : List (List (String × Item)) → List Data
  | [] => []
  | es :: ts => .table (entriesToData es) :: elementsToData ts

end

end OverlayControl.Toml
