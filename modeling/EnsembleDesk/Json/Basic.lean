import EnsembleDesk.Json.Number
/-!
# JSON values

A JSON value keeps the members of an object in the order in which they are written, repeated keys
included. `Json.settled` is the value a reader holds that keeps one member a key: the last one
written counts, and the keys are in increasing order.
-/

namespace EnsembleDesk

/-- A JSON value. -/
inductive Json where
  | null
  | bool (value : Bool)
  | number (value : JsonNumber)
  | string (value : String)
  | array (items : List Json)
  | object (members : List (String × Json))
deriving Inhabited

namespace Json

/-- A natural number as JSON. -/
def ofNat (n : Nat) : Json := number (.integer n)

/-- A binary64 number as JSON; what is not finite is null. -/
def ofBinary64 (x : Binary64) : Json := if x.isFinite then number (.float x) else null

/-- The value or null. -/
def ofOption (value : Option Json) : Json := value.getD null

/-- The members of an object. -/
def members? : Json → Option (List (String × Json))
  | object members => some members
  | _ => none

/-- The member of an object under a key; the first one if the key is repeated. -/
def get? (key : String) : Json → Option Json
  | object members => members.lookup key
  | _ => none

/-- The items of an array. -/
def items? : Json → Option (List Json)
  | array items => some items
  | _ => none

/-- The text of a string. -/
def string? : Json → Option String
  | string s => some s
  | _ => none

/-- The value of a boolean. -/
def bool? : Json → Option Bool
  | bool b => some b
  | _ => none

/-- A number, integers included, as a binary64 number. -/
def binary64? : Json → Option Binary64
  | number n => some n.toBinary64
  | _ => none

/-- An integer; a number with a fraction or an exponent is none. -/
def integer? : Json → Option Int
  | number n => n.integer?
  | _ => none

/-- An index or count: an integer that fits 32 bits without a sign. -/
def word? : Json → Option (Fin 4294967296)
  | number n => n.word?
  | _ => none

/-- A count: an integer that fits 64 bits without a sign. -/
def count? (value : Json) : Option Nat :=
  value.integer?.bind fun n => if 0 ≤ n then some n.toNat else none

/-- Null, or a value that is read. -/
def orNull? {α : Type} (read? : Json → Option α) : Json → Option (Option α)
  | null => some none
  | value => (read? value).map some

end Json

/-! ### Members in order -/

/-- Puts a member into a list of members ordered by key, in place of one with its key. -/
def insertMember {α : Type} (key : String) (value : α) : List (String × α) → List (String × α)
  | [] => [(key, value)]
  | (k, v) :: rest =>
    if key < k then (key, value) :: (k, v) :: rest
    else if key = k then (key, value) :: rest
    else (k, v) :: insertMember key value rest

/-- The members in increasing order of their keys; of members with one key the last counts. -/
def settleMembers {α : Type} (members : List (String × α)) : List (String × α) :=
  members.foldl (fun settled member => insertMember member.1 member.2 settled) []

namespace Json

mutual

/-- The value with one member a key in every object, the last one written, in the order of the
keys. -/
def settled : Json → Json
  | array items => array (settledItems items)
  | object members => object (settleMembers (settledMembers members))
  | null => null
  | bool b => bool b
  | number n => number n
  | string s => string s

/-- Settles every item of an array. -/
def settledItems : List Json → List Json
  | [] => []
  | item :: rest => settled item :: settledItems rest

/-- Settles the value of every member. -/
def settledMembers : List (String × Json) → List (String × Json)
  | [] => []
  | (key, value) :: rest => (key, settled value) :: settledMembers rest

end

end Json

end EnsembleDesk
