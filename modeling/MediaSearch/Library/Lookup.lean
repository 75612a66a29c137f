/-
MediaSearch/Library/Lookup.lean

Small queries on the tables of a library that conditions refer to: the ids
of setters with a given name, and of the item with a given hash.
-/
import MediaSearch.Sql.Query

namespace MediaSearch.Library

open Sql

/-- The ids of the rows of a table that meet a condition. -/
def idsWhere (table : String) (condition : Condition) : Query :=
  .select
    { columns := [⟨.ref (.bare "id"), none⟩]
      source := .named table none
      conditions := [condition] }

/-- The ids of the setters with one of the names. -/
def settersNamed (names : List String) : Query :=
  idsWhere "setters" (.oneOf (.bare "name") (names.map .text))

/-- The id of the setter with the name. -/
def setterNamed (name : String) : Query :=
  idsWhere "setters" (.compare (.ref (.bare "name")) .eq (.param (.text name)))

/-- The id of the item with the hash. -/
def itemHashed (sha256 : String) : Query :=
  idsWhere "items" (.compare (.ref (.bare "sha256")) .eq (.param (.text sha256)))

/-- The condition that a column holds the id of a setter with one of the
names; nothing if there are no names. -/
def setBy (r : Ref) (names : List String) : List Condition :=
  if names.isEmpty then [] else [.inQuery r (settersNamed names)]

/-- The condition that a column holds one of the texts; nothing if there are
none. -/
def oneOfTexts (r : Ref) (texts : List String) : List Condition :=
  if texts.isEmpty then [] else [.oneOf r (texts.map .text)]

/-- The condition that a column starts with one of the texts; nothing if
there are none. -/
def startsWithOneOf (r : Ref) (starts : List String) : List Condition :=
  if starts.isEmpty then [] else [.startsWithAny r starts]

/-- The condition that a column is at least a bound; nothing without one. -/
def atLeast (r : Ref) (bound : Option Value) : List Condition :=
  bound.toList.map fun v => .compare (.ref r) .ge (.param v)

/-- The condition that a column is at most a bound; nothing without one. -/
def atMost (r : Ref) (bound : Option Value) : List Condition :=
  bound.toList.map fun v => .compare (.ref r) .le (.param v)

end MediaSearch.Library
