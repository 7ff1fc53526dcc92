/-!
Catalogs: texts filed under names, in the order of the names. Each name is filed once.
-/
namespace MsgBindings

/-- Texts under names in increasing order. -/
abbrev Catalog := List (String × String)

namespace Catalog

def find? (c : Catalog) (name : String) : Option String := c.lookup name

/-- Files a text under a name, in place of one that is there. -/
def put (name text : String) : Catalog → Catalog
  | [] => [(name, text)]
  | (name', text') :: rest =>
    if name < name' then (name, text) :: (name', text') :: rest
    else if name = name' then (name, text) :: rest
    else (name', text') :: put name text rest

/-- Files a text under a name, unless one is there. -/
def putNew (c : Catalog) (name text : String) : Catalog :=
  if (c.find? name).isSome then c else put name text c

end Catalog

end MsgBindings
