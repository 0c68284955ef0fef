import MixedScript.Value

/-!
Tables of TOML while they are being filled: the values so far, and which keys are closed. A table is declared at
most once; tables that dotted keys have opened are closed with the next header; what stands in an inline table
or an array is closed for good.
-/

namespace MixedScript.Toml

/-- A key: its parts from the outermost table on. -/
abbrev Key := List String

/-- The mapping with what stands behind a key changed. Tables on the way are opened; where arrays of tables may be
entered, the way leads through their last ones. -/
def updateAt? (entersArrays : Bool) (change : Mapping → Option Mapping) : Key → Mapping → Option Mapping
  | [], m => change m
  | part :: key, m =>
    match m.at? part with
    | none => (updateAt? entersArrays change key []).map (fun inner => m.insert (.str part) (.map inner))
    | some (.map inner) =>
      (updateAt? entersArrays change key inner).map (fun inner => m.insert (.str part) (.map inner))
    | some (.list items) =>
      match entersArrays, items.getLast? with
      | true, some (.map inner) =>
        (updateAt? entersArrays change key inner).map
          (fun inner => m.insert (.str part) (.list (items.dropLast ++ [.map inner])))
      | _, _ => none
    | some (.scalar _) | some (.set _) => none

/-- The mapping with a new value under the last part of a key. -/
def addAt? (entersArrays : Bool) (key : Key) (value : Value) (m : Mapping) : Option Mapping :=
  match key.getLast? with
  | none => none
  | some last =>
    let add (inner : Mapping) : Option Mapping :=
      if (inner.at? last).isSome then none else some (inner.insert (.str last) value)
    updateAt? entersArrays add key.dropLast m

/-- The mapping with one more table in the array behind a key. -/
def appendTable? (key : Key) (m : Mapping) : Option Mapping :=
  match key.getLast? with
  | none => none
  | some last =>
    let append (inner : Mapping) : Option Mapping :=
      match inner.at? last with
      | none => some (inner.insert (.str last) (.list [.map []]))
      | some (.list items) => some (inner.insert (.str last) (.list (items ++ [.map []])))
      | some _ => none
    updateAt? true append key.dropLast m

/-- Whether a value is a table or an array. -/
def isCollection : Value → Bool
  | .map _ | .list _ => true
  | .scalar _ | .set _ => false

/-- A document while it is being read. -/
structure Draft where
  /-- The values so far. -/
  values : Mapping := []
  /-- Tables that cannot be declared. -/
  declared : List Key := []
  /-- Tables that cannot be declared from the next header on. -/
  opened : List Key := []
  /-- Keys behind which nothing can be added. -/
  closed : List Key := []
  /-- The table that lines belong to. -/
  header : Key := []

namespace Draft

/-- Whether nothing can be added behind a key. -/
def isClosed (d : Draft) (key : Key) : Bool :=
  d.closed.any (fun start => start.isPrefixOf key)

/-- The document at the start of a header: tables opened by dotted keys count as declared. -/
def atHeader (d : Draft) : Draft :=
  { d with declared := d.opened ++ d.declared, opened := [] }

/-- The document with a table declared, to which the next lines belong. -/
def declare? (d : Draft) (key : Key) : Option Draft :=
  if d.declared.contains key || d.isClosed key then none
  else (updateAt? true some key d.values).map
    (fun values => { d with values := values, declared := key :: d.declared, header := key })

/-- The document with one more table in an array, to which the next lines belong. Tables in the tables before it
may be declared again. -/
def declareInArray? (d : Draft) (key : Key) : Option Draft :=
  if d.isClosed key then none
  else
    let outside (k : Key) : Bool := !key.isPrefixOf k
    (appendTable? key d.values).map
      (fun values =>
        { d with
          values := values
          declared := key :: d.declared.filter outside
          closed := d.closed.filter outside
          header := key })

/-- The document with a value under a key of the current table. -/
def add? (d : Draft) (key : Key) (value : Value) : Option Draft :=
  let place := d.header ++ key
  let between := (List.range (key.length - 1)).map (fun n => d.header ++ key.take (n + 1))
  if between.any d.declared.contains || d.isClosed (d.header ++ key.dropLast) then none
  else (addAt? true place value d.values).map
    (fun values =>
      { d with
        values := values
        opened := between ++ d.opened
        closed := if isCollection value then place :: d.closed else d.closed })

end Draft

end MixedScript.Toml
