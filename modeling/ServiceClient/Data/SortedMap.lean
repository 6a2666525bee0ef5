/-! Finite maps as lists of pairs with ascending keys. The first value stored under a key stays, or
the last one replaces it, as the operation says. -/

namespace ServiceClient.SortedMap
variable {α β : Type}

/-- Stores `v` under `k` unless the key is there already. -/
def insertNew (lt : α → α → Bool) (k : α) (v : β) : List (α × β) → List (α × β)
  | [] => [(k, v)]
  | (k', v') :: m =>
    if lt k k' then (k, v) :: (k', v') :: m
    else if lt k' k then (k', v') :: insertNew lt k v m
    else (k', v') :: m

/-- Stores `v` under `k` in place of any value there. -/
def insert (lt : α → α → Bool) (k : α) (v : β) : List (α × β) → List (α × β)
  | [] => [(k, v)]
  | (k', v') :: m =>
    if lt k k' then (k, v) :: (k', v') :: m
    else if lt k' k then (k', v') :: insert lt k v m
    else (k, v) :: m

/-- The map that keeps the first entry for each key. -/
def ofFirst (lt : α → α → Bool) (entries : List (α × β)) : List (α × β) :=
  entries.foldl (fun m e => insertNew lt e.1 e.2 m) []

/-- The map that keeps the last entry for each key. -/
def ofLast (lt : α → α → Bool) (entries : List (α × β)) : List (α × β) :=
  entries.foldl (fun m e => insert lt e.1 e.2 m) []

/-- Adds the entries of `other` whose keys `m` lacks. -/
def merge (lt : α → α → Bool) (m other : List (α × β)) : List (α × β) :=
  other.foldl (fun m e => insertNew lt e.1 e.2 m) m

/-- Names in the order of their code points. -/
def nameLt (a b : String) : Bool :=
  a < b

/-- The distinct names among `names` in order. -/
def nameSet (names : List String) : List String :=
  (ofFirst nameLt (names.map (·, ()))).map (·.1)

example : ofFirst nameLt [("b", 1), ("a", 2), ("b", 3)] = [("a", 2), ("b", 1)] := by decide +kernel

example : ofLast nameLt [("b", 1), ("a", 2), ("b", 3)] = [("a", 2), ("b", 3)] := by decide +kernel

end ServiceClient.SortedMap
