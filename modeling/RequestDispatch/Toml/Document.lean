import RequestDispatch.Toml.Value

/-!
# TOML documents

A document is a sequence of lines: headers, which say in which table the following lines stand, and
pairs of keys and a value. A table is defined once: neither a header nor dotted keys may come back
to one that is already defined, though a header may define a table that longer headers only passed
through.
-/

namespace RequestDispatch

namespace Toml

/-- How a table came about. -/
inductive Origin where
  /-- A longer header passed through it. -/
  | passed
  /-- Dotted keys opened it. -/
  | dotted
  /-- A header defined it. -/
  | header
  deriving DecidableEq, Repr

/-- What is at a key of a document under construction. -/
inductive Node where
  | value (setting : Setting)
  | table (origin : Origin) (entries : List (String × Node))
  /-- Tables that headers in double brackets defined, the last one first. -/
  | tables (last : List (String × Node)) (earlier : List (List (String × Node)))

/-- The entries of a table under construction. -/
abbrev Entries := List (String × Node)

/-- Changes the table at the end of a way, making tables of the given origin where there are none.
The tables that the way passes through must admit it. -/
def changeAt (made : Origin) (admits : Origin → Bool) (change : Entries → Option Entries) :
    List String → Entries → Option Entries
  | [], entries => change entries
  | key :: keys, entries =>
    let put := fun (node : Node) => Entries.set key node entries
    match Entries.get? entries key with
    | none =>
      (changeAt made admits change keys []).map fun inner => put (.table made inner)
    | some (.table origin inner) =>
      if admits origin then
        (changeAt made admits change keys inner).map fun inner => put (.table origin inner)
      else none
    | some (.tables last earlier) =>
      (changeAt made admits change keys last).map fun last => put (.tables last earlier)
    | some (.value _) => none

/-- Defines the table at a key. -/
def defineTable (key : String) (entries : Entries) : Option Entries :=
  match Entries.get? entries key with
  | none => some (Entries.set key (.table .header []) entries)
  | some (.table .passed inner) => some (Entries.set key (.table .header inner) entries)
  | some _ => none

/-- Adds a table to those at a key. -/
def addTable (key : String) (entries : Entries) : Option Entries :=
  match Entries.get? entries key with
  | none => some (Entries.set key (.tables [] []) entries)
  | some (.tables last earlier) => some (Entries.set key (.tables [] (last :: earlier)) entries)
  | some _ => none

/-- Puts a value at a key that is still free. -/
def defineValue (key : String) (value : Setting) (entries : Entries) : Option Entries :=
  match Entries.get? entries key with
  | none => some (Entries.set key (.value value) entries)
  | some _ => none

/-- Carries a header out. -/
def enterHeader (double : Bool) (keys : List String) (root : Entries) : Option Entries :=
  match keys.getLast? with
  | none => none
  | some key =>
    let define := if double then addTable key else defineTable key
    changeAt .passed (fun _ => true) define keys.dropLast root

/-- Puts a value at the end of dotted keys in the table at the end of a way. Dotted keys lead
through tables of their own kind only. -/
def enterValue (place keys : List String) (value : Setting) (root : Entries) : Option Entries :=
  match keys.getLast? with
  | none => none
  | some key =>
    let inside := changeAt .dotted (fun origin => origin == .dotted) (defineValue key value)
    changeAt .passed (fun _ => true) (inside keys.dropLast) place root

/-- The document read so far and the table that the following lines stand in. -/
structure Progress where
  root : Entries
  place : List String

/-- Reads a header after its opening bracket, up to what follows its closing one. -/
def readHeader (cs : List Char) (p : Progress) : Reading Progress :=
  match cs with
  | '[' :: rest =>
    match readKeys rest with
    | some (keys, ']' :: ']' :: rest) =>
      (enterHeader true keys p.root).map fun root => (⟨root, keys⟩, rest)
    | _ => none
  | cs =>
    match readKeys cs with
    | some (keys, ']' :: rest) =>
      (enterHeader false keys p.root).map fun root => (⟨root, keys⟩, rest)
    | _ => none

/-- Reads keys and their value. -/
def readPair (cs : List Char) (p : Progress) : Reading Progress :=
  match readKeys cs with
  | some (keys, '=' :: rest) =>
    match readValue maxDepth (skipSpaces rest) with
    | some (value, rest) =>
      (enterValue p.place keys value p.root).map fun root => ({ p with root }, rest)
    | none => none
  | _ => none

/-- Reads lines, at most `limit` of them. -/
def readLines : Nat → List Char → Progress → Option Entries
  | 0, _, _ => none
  | limit + 1, cs, p =>
    match skipLines cs with
    | [] => some p.root
    | c :: rest =>
      match if c = '[' then readHeader rest p else readPair (c :: rest) p with
      | none => none
      | some (p, rest) =>
        match skipComment (skipSpaces rest) with
        | [] => some p.root
        | rest =>
          match lineEnd? rest with
          | some rest => readLines limit rest p
          | none => none

mutual

/-- The finished value of a node. -/
def Node.setting : Node → Setting
  | .value setting => setting
  | .table _ entries => .table (Node.settings entries)
  | .tables last earlier => .list ((.table (Node.settings last) :: Node.lists earlier).reverse)

/-- The finished values of entries. -/
def Node.settings : List (String × Node) → List (String × Setting)
  | [] => []
  | (key, node) :: rest => (key, node.setting) :: Node.settings rest

/-- The finished tables of a list. -/
def Node.lists : List (List (String × Node)) → List Setting
  | [] => []
  | entries :: rest => .table (Node.settings entries) :: Node.lists rest

end

/-- The characters without a byte order mark at their head. -/
def dropMark : List Char → List Char
  | c :: rest => if c.toNat = 0xFEFF then rest else c :: rest
  | [] => []

/-- Reads a document as a table. -/
def parse (text : String) : Option Setting :=
  let cs := dropMark text.toList
  (readLines (cs.length + 1) cs ⟨[], []⟩).map fun entries => .table (Node.settings entries)

end Toml

end RequestDispatch
