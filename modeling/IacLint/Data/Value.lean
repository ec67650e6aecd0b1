import IacLint.Data.Calendar
import IacLint.Number.Decimal

/-!
# Data values

The values that data documents (JSON, YAML, HCL) are read into: nothing, truth
values, integers of any size, doubles, text, lists, mappings, dates, points in time,
byte strings, sets and tuples. A mapping keeps its entries in the order their keys first
appeared.

Keys are compared as numbers across kinds (`1`, `1.0` and `true` are one key), as
text, bytes, dates and points in time otherwise; lists, mappings and sets are no keys.

## Main definitions

* `Value` — a data value
* `Value.kindName` — the name of a value's kind, as messages write it
* `Value.sameKey` — whether two values are one mapping key
* `Entries.insert` — adds an entry, replacing the value of an equal key in place
-/

namespace IacLint.Data

/-- A data value. -/
inductive Value where
  /-- The absent value. -/
  | null
  /-- A truth value. -/
  | bool (b : Bool)
  /-- An integer of any size. -/
  | int (n : Int)
  /-- A double. -/
  | float (x : Float)
  /-- Text. -/
  | str (s : String)
  /-- A list. -/
  | list (xs : List Value)
  /-- A mapping, its entries in the order their keys first appeared. -/
  | map (kvs : List (Value × Value))
  /-- A calendar date. -/
  | date (d : Date)
  /-- A point in time. -/
  | time (t : DateTime)
  /-- A byte string. -/
  | bytes (bs : List UInt8)
  /-- A set, its elements in the order they were added. -/
  | set (xs : List Value)
  /-- A fixed sequence, such as a key and value pair of an ordered mapping. -/
  | tuple (xs : List Value)
  deriving Inhabited

/-- The entries of a mapping. -/
abbrev Entries := List (Value × Value)

namespace Value

theorem sizeOf_key_lt {kvs : List (Value × Value)} {kv : Value × Value} (h : kv ∈ kvs) :
    sizeOf kv.1 < 1 + sizeOf kvs := by
  have := List.sizeOf_lt_of_mem h
  cases kv; simp at this ⊢; omega

theorem sizeOf_val_lt {kvs : List (Value × Value)} {kv : Value × Value} (h : kv ∈ kvs) :
    sizeOf kv.2 < 1 + sizeOf kvs := by
  have := List.sizeOf_lt_of_mem h
  cases kv; simp at this ⊢; omega

/-- The name of the kind of a value, as shape complaints write it. -/
def kindName : Value → String
  | .null => "NoneType"
  | .bool _ => "bool"
  | .int _ => "int"
  | .float _ => "float"
  | .str _ => "str"
  | .list _ => "list"
  | .map _ => "dict"
  | .date _ => "date"
  | .time _ => "datetime"
  | .bytes _ => "bytes"
  | .set _ => "set"
  | .tuple _ => "tuple"

/-- Whether a value can be a mapping key. -/
def isKey : Value → Bool
  | .list _ | .map _ | .set _ => false
  | _ => true

/-- A number as an exact fraction `num / 2^k`, with `none` for a double that is not
finite. Truth values count as 0 and 1. -/
def exactNumber? : Value → Option (Option (Int × Nat))
  | .bool b => some (some (if b then 1 else 0, 0))
  | .int n => some (some (n, 0))
  | .float x =>
    match Number.classify x with
    | .finite b =>
      let m : Int := if b.neg then -(b.m : Int) else b.m
      if b.q ≥ 0 then some (some (m * Int.pow 2 b.q.toNat, 0)) else some (some (m, (-b.q).toNat))
    | _ => some none
  | _ => none

/-- Whether two values are one mapping key: numbers by value across kinds (a double
that is not a number equals nothing), text, bytes and dates by content, points in time
as `DateTime.same` says. -/
def sameKey (a b : Value) : Bool :=
  match a.exactNumber?, b.exactNumber? with
  | some (some (n, k)), some (some (n', k')) => n * Int.pow 2 k' == n' * Int.pow 2 k
  | some none, some none =>
    match a, b with
    | .float x, .float y => x == y
    | _, _ => false
  | some _, some _ => false
  | _, _ =>
    match a, b with
    | .null, .null => true
    | .str s, .str t => s == t
    | .bytes s, .bytes t => s == t
    | .date d, .date e => d == e
    | .time s, .time t => s.same t
    | _, _ => false

end Value

namespace Entries

/-- The value of the first entry whose key equals `k`. -/
def lookup (kvs : Entries) (k : Value) : Option Value :=
  (List.find? (fun kv => kv.1.sameKey k) kvs).map Prod.snd

/-- Whether some entry has a key equal to `k`. -/
def hasKey (kvs : Entries) (k : Value) : Bool := List.any kvs fun kv => kv.1.sameKey k

/-- Adds the entry `(k, v)`: an entry with an equal key keeps its place and key and
takes the new value; otherwise the entry goes last. -/
def insert (kvs : Entries) (k v : Value) : Entries :=
  if hasKey kvs k then List.map (fun kv => if kv.1.sameKey k then (kv.1, v) else kv) kvs
  else kvs ++ [(k, v)]

/-- The mapping built by inserting the given entries in order. -/
def ofList (kvs : List (Value × Value)) : Entries :=
  List.foldl (fun acc kv => insert acc kv.1 kv.2) [] kvs

/-- The value under the text key `k`. -/
def get? (kvs : Entries) (k : String) : Option Value := lookup kvs (.str k)

end Entries

end IacLint.Data
