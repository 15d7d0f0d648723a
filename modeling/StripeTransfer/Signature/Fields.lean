/-
StripeTransfer/Signature/Fields.lean

Named texts in ascending order of their names, each name once.
-/

namespace StripeTransfer

/-- Names and texts; kept in ascending order of the names. -/
abbrev Fields : Type := List (String × String)

namespace Fields

/-- Sets the text of a name, in place of an earlier one. -/
def set (name value : String) : Fields → Fields
  | [] => [(name, value)]
  | (n, v) :: rest =>
    if name < n then (name, value) :: (n, v) :: rest
    else if name = n then (name, value) :: rest
    else (n, v) :: set name value rest

/-- The fields of a list, of which the last of each name counts. -/
def ofList (fields : List (String × String)) : Fields :=
  fields.foldl (fun fs (n, v) => set n v fs) []

/-- The names, in ascending order. -/
def names (fs : Fields) : List String := fs.map Prod.fst

end Fields

end StripeTransfer
