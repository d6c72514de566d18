import DartModels.Registry
import DartModels.Resolution.Translations

namespace DartModels.Mapping

/-- No rule fits a catalog type. -/
def noMatchingType (type : CatalogType) : Diagnostic :=
  { code := "no_matching_type"
    message := "Could not find matching type for: " ++ type.name.display ++ " (id " ++
      type.id.display ++ ")"
    subject := type.name }

/-- The type of an attribute is not in the registry. -/
def unresolvedAttribute (type : CatalogType) (part : Attribute) : Diagnostic :=
  { code := "unresolved_attribute"
    message := "Attribute " ++ part.name.display ++ " of " ++ type.name.display ++
      " references unknown type id " ++ part.typeId.display
    subject := type.name
    context := [("attribute", part.name)] }

/-- The target of an attribute. An attribute of the type that it belongs to refers
    to that type by name. -/
def attributeTarget (type : CatalogType) (base : String) (registry : Registry)
    (part : Attribute) : Traced Diagnostic Fault DartType :=
  if part.typeId.equals type.id then pure (.reference (.text base))
  else do
    match ← .lift (registry.find? part.typeId) with
    | some target => return target
    | none => do
      .tell (unresolvedAttribute type part)
      return .dynamic

/-- The record of a composite type. -/
def composite (type : CatalogType) (base : String) (registry : Registry) :
    Traced Diagnostic Fault DartType := do
  let fields ← type.attributes.mapM fun part => do
    return (part.name, ← attributeTarget type base registry part)
  return .composite (.text base) fields

/-- The enumeration of an enum. -/
def enumeration [Text.HalfBlock] (type : CatalogType) (base : String) (locales : List String) :
    Traced Diagnostic Fault DartType := do
  let translations ← Translations.ofComment type locales
  return .enum (.text base) type.enums translations

/-- The target, or a list of it for an array type. -/
def wrapped (isArray : Bool) (target : DartType) : DartType :=
  if isArray then .list target else target

/-- The target of a catalog type. An array of a type that is known already is a
    list of that type's target; otherwise the rules are tried on the base name: types
    that are built in, enums, composite types. What no rule fits is dynamic. -/
def target [Text.HalfBlock] (locales : List String) (registry : Registry) (type : CatalogType) :
    Traced Diagnostic Fault DartType := do
  let name ← .lift (Catalog.markedName type.name)
  let isArray := Catalog.isArrayName name
  let base := Catalog.baseName name
  let element := if isArray then registry.findNamed? base else none
  match element with
  | some element => return .list element
  | none =>
    match DartType.builtin? base with
    | some builtin => return wrapped isArray builtin
    | none =>
      if !type.enums.isEmpty then
        return wrapped isArray (← enumeration type base locales)
      else if !type.attributes.isEmpty then
        return wrapped isArray (← composite type base registry)
      else do
        .tell (noMatchingType type)
        return .dynamic

end DartModels.Mapping
