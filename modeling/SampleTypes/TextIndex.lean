/-!
# Text indexes

Values filed under texts.  An index lists its entries in ascending order of their texts by code point, each
text once; filing a second value under a text replaces the first.  Beside it stands the removal of repeated
values that keeps the first of each.
-/

namespace SampleTypes

namespace TextIndex

/-- Files a value under a text. -/
def insert {α : Type} (text : String) (value : α) : List (String × α) → List (String × α)
  | [] => [(text, value)]
  | entry :: entries =>
      if text < entry.1 then (text, value) :: entry :: entries
      else if text = entry.1 then (text, value) :: entries
      else entry :: insert text value entries

/-- The index of a list of entries, of which later ones replace earlier ones of the same text. -/
def ofList {α : Type} (entries : List (String × α)) : List (String × α) :=
  entries.foldl (fun index entry => insert entry.1 entry.2 index) []

def texts (items : List String) : List String :=
  (ofList (items.map fun text => (text, ()))).map (·.1)

end TextIndex

/-- The list without the values that are the same as an earlier one. -/
def keepFirst {α : Type} (same : α → α → Bool) : List α → List α
  | [] => []
  | item :: items => item :: (keepFirst same items).filter fun later => !same item later

example : TextIndex.ofList [("b", 1), ("a", 2), ("b", 3)] = [("a", 2), ("b", 3)] := by
  decide +kernel
example : keepFirst (· == ·) [2, 1, 2, 3, 1] = [2, 1, 3] := by decide

end SampleTypes
