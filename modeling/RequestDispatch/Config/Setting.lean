import RequestDispatch.Fields
import RequestDispatch.Number.Decimal

/-!
# Settings

The value of a configuration source before it is given a meaning: a tree of tables, lists and single
values. Sources lie above each other in layers; merging unites tables key by key, and of anything
else the upper layer counts.
-/

namespace RequestDispatch

/-- A configuration value. -/
inductive Setting where
  /-- A value that is there and says nothing. -/
  | absent
  | flag (value : Bool)
  | whole (value : Int)
  | real (value : FloatReading)
  | text (text : String)
  | list (items : List Setting)
  | table (entries : List (String × Setting))
  deriving Inhabited

namespace Setting

/-- The table with the given entries in any order; of a repeated key the last value counts. -/
def tableOf (entries : List (String × Setting)) : Setting := .table (Entries.ofList entries)

mutual

/-- A layer with an upper layer over it. -/
def merge : Setting → Setting → Setting
  | .table lower, .table upper => .table (mergeEntries lower upper)
  | _, upper => upper

/-- A table with the entries of an upper one over it. -/
def mergeEntries : List (String × Setting) → List (String × Setting) → List (String × Setting)
  | lower, [] => lower
  | lower, (key, value) :: upper =>
    mergeEntries
      (Entries.set key
        (match Entries.get? lower key with
        | some old => merge old value
        | none => value)
        lower)
      upper

end

/-- A value at the end of a way of keys. -/
def nest (keys : List String) (value : Setting) : Setting :=
  keys.foldr (fun key inner => .table [(key, inner)]) value

/-- The value at the end of a way of keys. -/
def at? (keys : List String) (setting : Setting) : Option Setting :=
  keys.foldlM
    (fun setting key =>
      match setting with
      | .table entries => Entries.get? entries key
      | _ => none)
    setting

end Setting

end RequestDispatch
