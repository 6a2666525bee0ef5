import ServiceClient.Data.SortedMap
import ServiceClient.Wire.Scalar

/-! Values of the declared types. -/

namespace ServiceClient.Codec
open ServiceClient.Wire

inductive Value where
  | scalar (v : Scalar)
  | list (items : List Value)
  /-- In the order of the keys. -/
  | map (entries : List (Scalar × Value))
  /-- Every declared field in turn; an optional one may be absent. -/
  | struct (fields : List (String × Option Value))

namespace Value

def text (s : String) : Value :=
  scalar (.text s)

def ofEntries (entries : List (Scalar × Value)) : Value :=
  map (SortedMap.ofFirst Scalar.lt entries)

/-- Folds a collection that was met again into what was met before: lists grow, and maps keep the
value first seen under a key. -/
def merge : Value → Value → Value
  | list xs, list ys => list (xs ++ ys)
  | map m, map n => map (SortedMap.merge Scalar.lt m n)
  | v, _ => v

/-- Stores `v` in an empty slot or folds it into what is there. -/
def mergeInto (slot : Option Value) (v : Value) : Option Value :=
  match slot with
  | some met => some (met.merge v)
  | none => some v

end Value
end ServiceClient.Codec
