import ProjectorControl.Status

/-!
# Response maps

The answers of a query are short payloads that stand for names.  A response map is built
from a list of entries and read in both directions.  Towards names, a later entry of the
same payload replaces an earlier one; towards payloads, the first entry of a name stays.
The entries are listed in the order of their payloads.
-/

namespace ProjectorControl

/-- A table of payloads and the names they stand for. -/
structure ResponseMap where
  /-- The name of each payload, in ascending order of the payloads. -/
  entries : List (Bytes × String) := []
  /-- The first payload of each name. -/
  payloads : List (String × Bytes) := []
  deriving DecidableEq, Repr

namespace ResponseMap

/-- Puts an entry at its place among ascending payloads, over one of the same payload. -/
def putEntry (payload : Bytes) (name : String) : List (Bytes × String) → List (Bytes × String)
  | [] => [(payload, name)]
  | (p, n) :: later =>
    if payload < p then (payload, name) :: (p, n) :: later
    else if payload = p then (payload, name) :: later
    else (p, n) :: putEntry payload name later

/-- Remembers the payload of a name that has none yet. -/
def putPayload (payload : Bytes) (name : String) (payloads : List (String × Bytes)) :
    List (String × Bytes) :=
  if payloads.any fun known => known.1 = name then payloads else payloads ++ [(name, payload)]

/-- Adds an entry. -/
def insert (map : ResponseMap) (payload : Bytes) (name : String) : ResponseMap where
  entries := putEntry payload name map.entries
  payloads := putPayload payload name map.payloads

/-- The map of a list of entries, added in order. -/
def ofEntries (entries : List (Bytes × String)) : ResponseMap :=
  entries.foldl (fun map entry => map.insert entry.1 entry.2) {}

/-- The name of a payload. -/
def get? (map : ResponseMap) (payload : Bytes) : Option String :=
  (map.entries.find? fun entry => entry.1 = payload).map Prod.snd

/-- The first payload that was entered for a name. -/
def payloadFor? (map : ResponseMap) (name : String) : Option Bytes :=
  (map.payloads.find? fun known => known.1 = name).map Prod.snd

/-- The entry with the least payload. -/
def first? (map : ResponseMap) : Option (Bytes × String) := map.entries.head?

/-- The number of payloads. -/
def size (map : ResponseMap) : Nat := map.entries.length

/-- Whether there is no entry. -/
def isEmpty (map : ResponseMap) : Bool := map.entries.isEmpty

end ResponseMap

/-- The answers to the query for a status field. -/
def StatusField.responses (field : StatusField) : ResponseMap := .ofEntries field.values

end ProjectorControl
