import Retrieval.Command.Basic

/-!
# Help

The texts that explain the command line.
-/

namespace Retrieval.Command

/-- Lines as a text. -/
def textOfLines (lines : List String) : String := String.join (lines.map (· ++ "\n"))

/-- The help on a command, or on all of them. -/
def helpText : Option Kind → String
  | none => textOfLines [
      "reqplan - turn list/show query parameters into Postgres queries",
      "",
      "USAGE:",
      "  reqplan <COMMAND> [OPTIONS]",
      "",
      "COMMANDS:",
      "  explain       Convert a query string and print the request and SQL",
      "  run           Convert a query string and execute it",
      "  check         Validate the resources declared in the config file",
      "",
      "Run `reqplan <command> --help` for more."]
  | some .explain => textOfLines [
      "USAGE:",
      "  reqplan explain --resource <TYPE> [OPTIONS] [QUERY]",
      "",
      "OPTIONS:",
      "  --config <FILE>       Config file path (default: reqplan.toml)",
      "  --resource <TYPE>     Resource type to convert for",
      "  --show <ID>           Convert for a single entity instead of a list",
      "  -v, --verbose         Log each conversion step",
      "",
      "EXAMPLE:",
      "  reqplan explain --resource Post 'fields[post]=title&fields[author]=name&sorting=-title'"]
  | some .run => textOfLines [
      "USAGE:",
      "  reqplan run --resource <TYPE> [OPTIONS] [QUERY]",
      "",
      "OPTIONS:",
      "  --config <FILE>       Config file path (default: reqplan.toml)",
      "  --database <URL>      Override database.url from config",
      "  --resource <TYPE>     Resource type to convert for",
      "  --show <ID>           Fetch a single entity instead of a page",
      "  -v, --verbose         Log each conversion step and the executed SQL"]
  | some .check => textOfLines [
      "USAGE:",
      "  reqplan check [OPTIONS]",
      "",
      "OPTIONS:",
      "  --config <FILE>       Config file path (default: reqplan.toml)",
      "  -v, --verbose         Print every registered resource"]

end Retrieval.Command
