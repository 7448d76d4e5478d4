/-! # Ascending lists of texts

Sets of texts, and tables with texts for keys, kept in ascending order without repetitions.
-/

namespace RowFactory.Ascending

def insert (text : String) : List String → List String
  | [] => [text]
  | t :: rest =>
    if text < t then text :: t :: rest
    else if text = t then t :: rest
    else t :: insert text rest

/-- Puts a value under its key, in place of an older one. -/
def put {α : Type} (key : String) (value : α) : List (String × α) → List (String × α)
  | [] => [(key, value)]
  | (k, v) :: rest =>
    if key < k then (key, value) :: (k, v) :: rest
    else if key = k then (key, value) :: rest
    else (k, v) :: put key value rest

end RowFactory.Ascending
