import EnsembleDesk.Json.Reader
/-!
# Records in JSON

A record is written as an object with a member for each field, or as an array of its fields in
order. `Json.record?` and `WrittenJson.record?` find the fields, and `Record` reads them one by one:
a field may be required, have a default, or be nullable.

Members that name no field are ignored; a field given twice, and an array that is too long, are
refused. In a record as it is written a member that is ignored is not even asked for its value.
-/

namespace EnsembleDesk

/-- The fields found in a value that stands for a record. -/
structure Record (α : Type) where
  /-- Whether the fields were given by name; otherwise they were given in order. -/
  keyed : Bool
  /-- The fields that are present. -/
  fields : List (String × α)

namespace Record

variable {α β : Type}

/-- The record with the given field names whose fields are members of an object. -/
def ofMembers? (names : List String) (members : List (String × α)) : Option (Record α) :=
  let named := members.filter fun member => names.contains member.1
  if (named.map Prod.fst).Nodup then some ⟨true, named⟩ else none

/-- The record with the given field names whose fields are items of an array. -/
def ofItems? (names : List String) (items : List α) : Option (Record α) :=
  if items.length ≤ names.length then some ⟨false, names.zip items⟩ else none

/-- The field of a name, if it is present. -/
def field? (record : Record α) (name : String) : Option α :=
  record.fields.lookup name

/-- Reads a field that must be present. -/
def required? (record : Record α) (name : String) (read? : α → Option β) : Option β :=
  (record.field? name).bind read?

/-- Reads a field that has a default. -/
def defaulted? (record : Record α) (name : String) (default : β) (read? : α → Option β) :
    Option β :=
  match record.field? name with
  | none => some default
  | some value => read? value

/-- Reads a field that may be none; given by name, it may also be absent. -/
def nullable? (record : Record α) (name : String) (read? : α → Option (Option β)) :
    Option (Option β) :=
  match record.field? name with
  | none => if record.keyed then some none else none
  | some value => read? value

end Record

namespace Json

/-- Finds the fields of a record with the given field names. -/
def record? (names : List String) : Json → Option (Record Json)
  | object members => Record.ofMembers? names members
  | array items => Record.ofItems? names items
  | _ => none

/-- Reads the name of one of several constant values: a string, or an object whose only member
has the name as its key and null as its value. -/
def variantName? : Json → Option String
  | string name => some name
  | object [(name, null)] => some name
  | _ => none

end Json

namespace WrittenJson

/-- Finds the fields of a record with the given field names. -/
def record? (names : List String) : WrittenJson → Option (Record WrittenJson)
  | object members => do
    let named ← members.mapM fun (key, value) =>
      (WrittenChar.text? key).map fun name => (name, value)
    Record.ofMembers? names named
  | array items => Record.ofItems? names items
  | _ => none

end WrittenJson

end EnsembleDesk
