/-
This file answers the command line: from the arguments and the contents of files to what is printed
and the exit status.

The settings are read before the catalog, and the catalog before the search. One line is printed for
every row. A row that has no JSON text breaks the output off in its middle.
-/

import RecordQuery.Catalog.Reader
import RecordQuery.CommandLine.Arguments
import RecordQuery.Settings.Reader
import RecordQuery.Value.Json

namespace RecordQuery.CommandLine

open Catalog Json

/-- The name and the version of the program. -/
def versionText : String := "quarry-catalog 0.1.0"

/-- How the program is used. -/
def usageText : String :=
  "Usage: quarry-catalog [OPTIONS] --config <FILE> --catalog <FILE>\n\n" ++
  "Options:\n" ++
  "  -c, --config <FILE>        Settings\n" ++
  "      --catalog <FILE>       Catalog\n" ++
  "  -q, --query <QUERY>        Words to look for\n" ++
  "      --vector <F32,...>     Vector to compare with\n" ++
  "      --category <CATEGORY>  Name of a category or of its parent\n" ++
  "      --min-price <PRICE>    Lowest price\n" ++
  "      --max-price <PRICE>    Highest price\n" ++
  "      --live                 Drop inactive and archived products\n" ++
  "      --top-k <N>            Number of products shown [default: 10]\n" ++
  "      --fields <FIELDS>      Fields shown [default: Sku,Name,Price,Category.Name]\n" ++
  "      --group-by <PATH>      Sum up groups in place of a search\n" ++
  "      --deadline-ms <MS>     Time allowed for a search\n" ++
  "  -h, --help                 Print help\n" ++
  "  -V, --version              Print version"

/-- Why a command is not carried out. -/
inductive Failure where
  | arguments (error : ArgumentError)
  | settings (file : String) (error : SettingsFileError)
  | unreadableCatalog (file : String)
  | invalidCatalog (file : String)
  | query (error : QueryError)
  /-- A row has no JSON text. -/
  | output

/-- A fault of arguments in words. -/
def ArgumentError.message : ArgumentError → String
  | unknownArgument => "unexpected argument"
  | unexpectedValue => "unexpected value for an option"
  | missingValue => "a value is required for an option"
  | repeatedOption => "an option cannot be used multiple times"
  | unreadableValue => "invalid value for an option"
  | missingFile => "the following options are required: --config, --catalog"
  | helpRequested => usageText
  | versionRequested => versionText

def Failure.message : Failure → String
  | arguments error => error.message
  | settings file error => error.message file
  | unreadableCatalog file => "Cannot read catalog " ++ file ++ "."
  | invalidCatalog file => "Catalog " ++ file ++ " is not valid JSON."
  | query error => error.message
  | output => "A row cannot be written."

/-- What is printed, the exit status, and the complaint about a failure. -/
structure Response where
  status : UInt8
  output : String := ""
  complaint : Option String := none
deriving DecidableEq

/-- The response to a failure. Help and version are asked for and do not count as failures. -/
def Failure.toResponse (failure : Failure) : Response :=
  match failure with
  | .arguments .helpRequested => { status := 0, output := usageText ++ "\n" }
  | .arguments .versionRequested => { status := 0, output := versionText ++ "\n" }
  | .arguments error => { status := 2, complaint := some error.message }
  | _ => { status := 1, complaint := some failure.message }

/-- The rows that a command shows: summaries of groups if it names a path to group by, and the
products found otherwise. A summary is not cancelled. -/
def Arguments.rows (arguments : Arguments) (settings : Settings) (products : List Product)
    (cancellation : Cancellation) : Except QueryError (List Value) :=
  match arguments.groupBy with
  | some path =>
    (arguments.search.summarize settings products path).map fun summaries =>
      summaries.map GroupSummary.toValue
  | none =>
    (arguments.search.run settings products cancellation).map fun rows =>
      rows.map Projection.toValue

/-- Rows as lines of JSON text, as far as they can be written. -/
def writeRows : List Value → Draft
  | [] => .done ""
  | row :: rows => (row.toDraft.followedBy (.done "\n")).followedBy (writeRows rows)

/-- The response that shows some rows. -/
def showRows (rows : List Value) : Response :=
  let written := writeRows rows
  if written.whole then { status := 0, output := written.text }
  else { status := 1, output := written.text, complaint := some Failure.output.message }

/-- Carries out a command on files with the given contents. -/
def Arguments.carryOut (arguments : Arguments) (contents : String → Option String) :
    Except Failure (List Value) := do
  let settings ← (Settings.load (contents arguments.config)).mapError
    (Failure.settings arguments.config)
  match contents arguments.catalog with
  | none => throw (.unreadableCatalog arguments.catalog)
  | some text =>
    match readProducts? text with
    | none => throw (.invalidCatalog arguments.catalog)
    | some products => (arguments.rows settings products .never).mapError Failure.query

/-- The response to a command line, where files have the given contents. -/
def respond (contents : String → Option String) (commandLine : List String) : Response :=
  match readArguments commandLine with
  | .error error => (Failure.arguments error).toResponse
  | .ok arguments =>
    match arguments.carryOut contents with
    | .error failure => failure.toResponse
    | .ok rows => showRows rows

end RecordQuery.CommandLine
