import Retrieval.Command.Outcome

/-!
# Checking projects

A description may be valid and still not fit: a relation may lead to a type that is not registered,
and a field to sort by or an alternate key may not be selectable. Checking a project finds all of
these in its registry: dangling relations first, then the rest by resource.
-/

namespace Retrieval

/-- What does not fit in a registry. -/
inductive Registry.Issue where
  | dangling (relation : Registry.Dangling)
  | hiddenSortField (resourceType field : String)
  | hiddenKey (resourceType key : String)
deriving DecidableEq

/-- The wording of an issue. -/
def Registry.Issue.message : Registry.Issue → String
  | dangling relation => relation.message
  | hiddenSortField resourceType field =>
    s!"{resourceType}: sortable field '{field}' is not selectable"
  | hiddenKey resourceType key => s!"{resourceType}: alternate key '{key}' is not selectable"

/-- The fields and keys of a description that may not be selected, though they should. -/
def Metadata.hidden (metadata : Metadata) (resourceType : String) : List Registry.Issue :=
  (metadata.sortable.filter (!metadata.canSelect ·)).map (.hiddenSortField resourceType)
    ++ (metadata.alternateKey.toList.filter (!metadata.canSelect ·)).map (.hiddenKey resourceType)

/-- Everything that does not fit in a registry. -/
def Registry.issues (registry : Registry) : List Registry.Issue :=
  registry.dangling.map .dangling
    ++ registry.resources.entries.flatMap fun (resourceType, metadata) =>
      metadata.hidden resourceType

/-- A resource on one line. -/
def Metadata.summary (metadata : Metadata) (resourceType : String) : String :=
  s!"{resourceType}: table {metadata.table} ({metadata.selectable.length} selectable, "
    ++ s!"{metadata.sortable.length} sortable, {metadata.relations.size} relations)"

namespace Command

/-- The outcome of the check of a registry. -/
def checkRegistry (registry : Registry) (options : CheckOptions) : Outcome :=
  let summaries := registry.resources.entries.map fun (resourceType, metadata) =>
    metadata.summary resourceType
  let issues := registry.issues
  let verdict := if issues.isEmpty then [s!"ok: {registry.size} resources"] else []
  { output := textOfLines ((if options.verbose then summaries else []) ++ verdict)
    messages := textOfLines (issues.map fun issue => s!"error: {issue.message}")
    failure := if issues.isEmpty then none else some (.issues issues.length options.config) }

/-- Checks the project of a host. -/
def checkProject (host : Host) (options : CheckOptions) : Outcome :=
  .ofExcept do
    let project ← host.project options.config
    return checkRegistry (← project.registry.mapError .project) options

end Command

end Retrieval
