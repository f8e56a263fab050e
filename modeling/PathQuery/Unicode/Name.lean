/-!
Names. Each thing may have several, in small letters without separators.
-/
namespace PathQuery.Unicode

def findNamed? {α : Type} (name : String) (entries : List (List String × α)) : Option α :=
  (entries.find? fun entry => entry.1.contains name).map (·.2)

end PathQuery.Unicode
