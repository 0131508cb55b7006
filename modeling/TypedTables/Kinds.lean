/-!
# Kinds of components

The components of a row have types of their own, and a row's factory takes them back one by one. A type of kinds
names the types in use, so that a component can be kept together with its kind and be taken only as what it is. -/

namespace TypedTables

/-- A type of names for types. -/
class Kinds (κ : Type) where
  decEq : DecidableEq κ
  /-- The type that a kind names. -/
  carrier : κ → Type
  /-- How a kind is named in messages. -/
  name : κ → String

instance (priority := low) {κ : Type} [kinds : Kinds κ] : DecidableEq κ := kinds.decEq

/-- A value together with its kind. -/
structure Item (κ : Type) [Kinds κ] where
  kind : κ
  value : Kinds.carrier kind

/-- The value, if it is of the given kind. -/
def Item.as? {κ : Type} [Kinds κ] (item : Item κ) (kind : κ) : Option (Kinds.carrier kind) :=
  if h : item.kind = kind then some (h ▸ item.value) else none

end TypedTables
