import DartModels.Catalog.Requirement
import DartModels.Problem
import DartModels.Proofs.Text.Lines
import DartModels.Report.Basic
import DartModels.Resolution.Mapping
import DartModels.Resolution.SchemaRecords

namespace DartModels

/-- What a diagnostic says, but for its wording. -/
structure Diagnostic.Says (diagnostic : Diagnostic) (level : Level) (code : String)
    (subject : Json) (context : Json.Members) : Prop where
  level_eq : diagnostic.level = level
  code_eq : diagnostic.code = code
  subject_eq : diagnostic.subject = subject
  context_eq : diagnostic.context = context

theorem Catalog.says_typeNotFound (column : Column) :
    (typeNotFound column).Says .warning "type_not_found" column.name
      [("table", column.table), ("format", column.format)] :=
  ⟨rfl, rfl, rfl, rfl⟩

theorem Mapping.says_noMatchingType (type : CatalogType) :
    (noMatchingType type).Says .warning "no_matching_type" type.name [] :=
  ⟨rfl, rfl, rfl, rfl⟩

theorem Mapping.says_unresolvedAttribute (type : CatalogType) (part : Attribute) :
    (unresolvedAttribute type part).Says .warning "unresolved_attribute" type.name
      [("attribute", part.name)] :=
  ⟨rfl, rfl, rfl, rfl⟩

theorem SchemaRecord.says_conflict (kept record : SchemaRecord) :
    (conflict kept record).Says .warning "json_schema_conflict" record.name [] :=
  ⟨rfl, rfl, rfl, rfl⟩

namespace Problem

/-- What a problem with a type says. A name that is empty is left out of its context. -/
structure NamesType (problem : Problem) (code message : String) (typeName : Json) : Prop where
  code_eq : problem.code = code
  message_eq : problem.message = message
  context_eq : problem.context = if typeName.isTruthy then [("type", typeName)] else []

theorem namesType_circularDependency (typeName : Json) :
    (circularDependency typeName .null []).NamesType "CIRCULAR_DEPENDENCY"
      ("Circular dependency detected involving type " ++ typeName.display) typeName :=
  ⟨rfl, rfl, rfl⟩

theorem namesType_alreadyRegistered (typeName : Json) :
    (alreadyRegistered typeName).NamesType "SCHEMA_ERROR"
      ("Type " ++ typeName.display ++ " is already registered") typeName :=
  ⟨rfl, rfl, rfl⟩

end Problem

namespace Report

/-- A report lists the diagnostics in their order: each on a line of its own for people, and with
    all that it has for programs. -/
inductive Lists (diagnostics : List Diagnostic) : Format → String → Prop where
  | console (above : List String) : Lists diagnostics .console
      ("\n".intercalate (above ++ diagnostics.map fun diagnostic =>
        "  [" ++ diagnostic.level.name ++ "] " ++ diagnostic.code ++
          (if diagnostic.subject.isTruthy then " (" ++ diagnostic.subject.display ++ ")" else "") ++
          ": " ++ diagnostic.message))
  | json (members : Json.Members) (hmembers : members.lookup "diagnostics" =
      some (.array (diagnostics.map fun diagnostic => .object [
        ("code", .text diagnostic.code), ("level", .text diagnostic.level.name),
        ("subject", diagnostic.subject), ("message", .text diagnostic.message),
        ("context", .object diagnostic.context)]))) :
      Lists diagnostics .json ((Json.object members).print (.indented 2))

theorem lists_write {diagnostics : List Diagnostic} (hsome : diagnostics ≠ []) (format : Format) :
    Lists diagnostics format (write format diagnostics) := by
  cases format with
  | console =>
    have hempty : diagnostics.isEmpty = false := by simpa using hsome
    simp only [write, console, hempty, Bool.false_eq_true, if_false, if_true,
      Text.lines_eq_intercalate, ← List.append_assoc]
    exact .console _
  | json => exact .json _ rfl

end Report
end DartModels
