import Turnstile.Value

/-!
What every mapping inherits: the names below, which stand for nothing that a document could hold.
-/
namespace Turnstile.Value

def ancestorKey : String := "__proto__"

def inheritedNames : List String :=
  ["constructor", "toString", "toLocaleString", "valueOf", "hasOwnProperty", "isPrototypeOf",
    "propertyIsEnumerable", "__defineGetter__", "__defineSetter__", "__lookupGetter__",
    "__lookupSetter__", ancestorKey]

def isInheritedName (name : String) : Bool := inheritedNames.contains name

end Turnstile.Value
