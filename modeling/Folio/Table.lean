/-! Tables with text keys, kept in the order of their keys. -/

namespace Folio

/-- Entries by strictly increasing key. -/
abbrev Table (α : Type) := List (String × α)

namespace Table

variable {α : Type}

def find? (t : Table α) (key : String) : Option α :=
  t.lookup key

def contains (t : Table α) (key : String) : Bool :=
  t.any (·.1 == key)

def keys (t : Table α) : List String :=
  t.map (·.1)

/-- Puts `value` under `key`, in place of the value that was there. -/
def insert (t : Table α) (key : String) (value : α) : Table α :=
  match t with
  | [] => [(key, value)]
  | (k, v) :: rest =>
    if key = k then (key, value) :: rest
    else if key < k then (key, value) :: (k, v) :: rest
    else (k, v) :: insert rest key value

/-- The table of a list of entries; of two entries with one key the later one counts. -/
def ofEntries (entries : List (String × α)) : Table α :=
  entries.foldl (fun t e => t.insert e.1 e.2) []

end Table

end Folio
