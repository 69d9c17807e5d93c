/-!
# Problems of a request

Parameters that cannot be honoured are dropped and reported; a request is never refused for them.
-/

namespace Retrieval

/-- The parameters of paging. -/
inductive PageParam where
  | page
  | perPage
deriving DecidableEq

/-- The name under which a client sends a parameter of paging. -/
def PageParam.name : PageParam → String
  | page => "page"
  | perPage => "per_page"

/-- Why a part of a request was dropped. -/
inductive Problem where
  | unknownSortField (field : String)
  | unknownField (resource field : String)
  | unknownResource (resource : String)
  | unknownRelation (resource relation : String)
  | unknownLimit (relation : String)
  | limitOnMain (resource : String)
  | invalidLimit (relation value : String)
  | invalidPaging (param : PageParam) (value : String)
  | unknownFilterField (resource field : String)
deriving DecidableEq

/-- The wording of a problem. -/
def Problem.message : Problem → String
  | unknownSortField field => s!"cannot sort by '{field}'"
  | unknownField resource field => s!"field '{field}' is not selectable on '{resource}'"
  | unknownResource resource => s!"unknown resource '{resource}' in field selection"
  | unknownRelation resource relation => s!"'{relation}' is not a relation of '{resource}'"
  | unknownLimit relation => s!"limit given for '{relation}', which is not selected"
  | limitOnMain resource => s!"limit is only supported on relations, not on '{resource}'"
  | invalidLimit relation value => s!"invalid limit '{value}' for '{relation}'"
  | invalidPaging param value => s!"invalid {param.name} '{value}'"
  | unknownFilterField resource field => s!"cannot filter '{resource}' by '{field}'"

end Retrieval
