import Delegation.Settings.Value

/-!
# Tables under construction

While a TOML document is read, a table is known by the way in which it was defined: by a
header of its own, by the header of a table inside it, or by dotted names. That decides
whether it may still grow.
-/

namespace Delegation
namespace Toml

/-- How a table was defined. -/
inductive TableKind
  /-- By its own header. -/
  | header
  /-- By the header of a table inside it. -/
  | parent
  /-- By dotted names. -/
  | dotted
  deriving DecidableEq

/-- A part of a document under construction. -/
inductive Node
  | value (value : Settings.Value)
  | table (kind : TableKind) (entries : List (String × Node))
  /-- A list of tables, the last one first; it may still grow. -/
  | tables (last : List (String × Node)) (earlier : List (List (String × Node)))
  deriving Inhabited

/-- The entries of a table. -/
abbrev Entries := List (String × Node)

namespace Entries

/-- The part with a name. -/
def find? (entries : Entries) (key : String) : Option Node :=
  (List.find? (·.1 == key) entries).map (·.2)

/-- Put a part in the place of the one with its name, or at the end. -/
def set (key : String) (node : Node) : Entries → Entries
  | [] => [(key, node)]
  | entry :: entries =>
      if entry.1 = key then (key, node) :: entries else entry :: set key node entries

/-- Define a name in the table that dotted names lead to; these tables grow only by dotted
names. -/
def define? (value : Settings.Value) (last : String) : List String → Entries → Option Entries
  | [], entries =>
      if (entries.find? last).isSome then none else some (entries.set last (.value value))
  | key :: path, entries =>
      match entries.find? key with
      | none =>
          (define? value last path []).map fun inner => entries.set key (.table .dotted inner)
      | some (.table kind inner) =>
          if kind = .header ∨ (kind = .parent ∧ path.isEmpty = true) then none
          else (define? value last path inner).map fun inner => entries.set key (.table kind inner)
      | some _ => none

/-- Change the entries that a path of headers leads to; missing tables come into being. -/
def within? (edit : Entries → Option Entries) : List String → Entries → Option Entries
  | [], entries => edit entries
  | key :: path, entries =>
      match entries.find? key with
      | none => (within? edit path []).map fun inner => entries.set key (.table .parent inner)
      | some (.table kind inner) =>
          (within? edit path inner).map fun inner => entries.set key (.table kind inner)
      | some (.tables last earlier) =>
          (within? edit path last).map fun last => entries.set key (.tables last earlier)
      | some (.value _) => none

/-- Begin a table with its own header. -/
def openTable? (key : String) (entries : Entries) : Option Entries :=
  match entries.find? key with
  | none => some (entries.set key (.table .header []))
  | some (.table .parent inner) => some (entries.set key (.table .header inner))
  | some _ => none

/-- Begin a further table of a list. -/
def openItem? (key : String) (entries : Entries) : Option Entries :=
  match entries.find? key with
  | none => some (entries.set key (.tables [] []))
  | some (.tables last earlier) => some (entries.set key (.tables [] (last :: earlier)))
  | some _ => none

end Entries

mutual

/-- The value of a part. -/
def Node.toValue : Node → Settings.Value
  | .value value => value
  | .table _ entries => .table (entriesToValues entries)
  | .tables last earlier => .list (tablesToValues [.table (entriesToValues last)] earlier)

/-- The values of the entries of a table. -/
def entriesToValues : List (String × Node) → List (String × Settings.Value)
  | [] => []
  | (key, node) :: entries => (key, node.toValue) :: entriesToValues entries

/-- The values of tables, the last one first, in front of other values. -/
def tablesToValues (after : List Settings.Value) :
    List (List (String × Node)) → List Settings.Value
  | [] => after
  | entries :: earlier => tablesToValues (.table (entriesToValues entries) :: after) earlier

end

end Toml
end Delegation
