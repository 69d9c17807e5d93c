import Retrieval.Value.Basic

/-!
# Settings of conversions

How long a page is, and whether filters are confined to selectable fields.
-/

namespace Retrieval

/-- The settings of conversions. -/
structure Settings where
  defaultPerPage : UInt64
  maxPerPage : UInt64
  strictFilters : Bool
deriving DecidableEq

namespace Settings

/-- The settings of a project that gives none. -/
def standard : Settings := ⟨15, 100, false⟩

instance : Inhabited Settings := ⟨standard⟩

/-- The settings with another default page size, at least one. -/
def withDefaultPerPage (settings : Settings) (size : UInt64) : Settings :=
  { settings with defaultPerPage := max size 1 }

/-- The settings with another largest page size, at least one. -/
def withMaxPerPage (settings : Settings) (size : UInt64) : Settings :=
  { settings with maxPerPage := max size 1 }

/-- The settings with filters confined to selectable fields. -/
def confined (settings : Settings) : Settings := { settings with strictFilters := true }

/-- The declared order of the fields. -/
def fieldNames : List String := ["default_per_page", "max_per_page", "strict_filters"]

/-- Reads settings; what is missing is standard. Page sizes are taken as they are. -/
def ofValue? (form : Value.Form) (value : Value) : Option Settings := do
  let record ← value.fields? form fieldNames
  return {
    defaultPerPage := ←
      Value.optional? standard.defaultPerPage Value.asCount? "default_per_page" record
    maxPerPage := ← Value.optional? standard.maxPerPage Value.asCount? "max_per_page" record
    strictFilters := ←
      Value.optional? standard.strictFilters Value.asBool? "strict_filters" record }

/-- The record of settings. -/
def toValue (settings : Settings) : Value :=
  .record [("default_per_page", .ofCount settings.defaultPerPage),
    ("max_per_page", .ofCount settings.maxPerPage),
    ("strict_filters", .bool settings.strictFilters)]

end Settings

end Retrieval
