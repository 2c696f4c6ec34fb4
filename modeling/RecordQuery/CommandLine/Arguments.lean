/-
This file reads the arguments of the command line.

An option that takes a value may have it attached, or takes the next argument for it, unless that
one begins with a dash. A value that stands on its own is held back until the next known option, or
the end, and only then looked at; so the faults of a later unknown argument come first.
-/

import RecordQuery.Catalog.Search
import RecordQuery.Embedding

namespace RecordQuery.CommandLine

open Number Catalog

/-- The options that take a value. -/
inductive Parameter where
  | config
  | catalog
  | query
  | vector
  | category
  | minPrice
  | maxPrice
  | topK
  | fields
  | groupBy
  | deadline
deriving DecidableEq

/-- The options that take none. -/
inductive Switch where
  | live
  | help
  | version
deriving DecidableEq

/-- Why arguments are not carried out. Two reasons are wishes and not faults. -/
inductive ArgumentError where
  | unknownArgument
  /-- A value is attached to an option that takes none. -/
  | unexpectedValue
  /-- A value is missing or empty. -/
  | missingValue
  /-- An option that may stand once stands twice. -/
  | repeatedOption
  /-- A value cannot be read. -/
  | unreadableValue
  /-- A file that is needed is not named. -/
  | missingFile
  /-- Help is asked for. -/
  | helpRequested
  /-- The version is asked for. -/
  | versionRequested
deriving DecidableEq

/-- The arguments of the program. -/
structure Arguments where
  config : String
  catalog : String
  search : Search
  groupBy : Option String
  deadline : Option Nat

/-- An option by its long name. -/
def optionNamed? (name : String) : Option (Parameter ⊕ Switch) :=
  match name with
  | "config" => some (.inl .config)
  | "catalog" => some (.inl .catalog)
  | "query" => some (.inl .query)
  | "vector" => some (.inl .vector)
  | "category" => some (.inl .category)
  | "min-price" => some (.inl .minPrice)
  | "max-price" => some (.inl .maxPrice)
  | "top-k" => some (.inl .topK)
  | "fields" => some (.inl .fields)
  | "group-by" => some (.inl .groupBy)
  | "deadline-ms" => some (.inl .deadline)
  | "live" => some (.inr .live)
  | "help" => some (.inr .help)
  | "version" => some (.inr .version)
  | _ => none

/-- An option by its letter. -/
def optionLettered? (letter : Char) : Option (Parameter ⊕ Switch) :=
  match letter with
  | 'c' => some (.inl .config)
  | 'q' => some (.inl .query)
  | 'h' => some (.inr .help)
  | 'V' => some (.inr .version)
  | _ => none

/-- What has been given so far. -/
structure Given where
  config : Option String := none
  catalog : Option String := none
  query : Option String := none
  vector : Option (List Single) := none
  category : Option String := none
  minPrice : Option Double := none
  maxPrice : Option Double := none
  live : Bool := false
  topK : Option Nat := none
  fields : Option (List String) := none
  groupBy : Option String := none
  deadline : Option Nat := none

/-! ### Values -/

/-- Reads the name of a file, which must not be empty. -/
def readFileName (text : String) : Except ArgumentError String :=
  if text.isEmpty then .error .missingValue else .ok text

/-- Reads a vector. -/
def readVector (text : String) : Except ArgumentError (List Single) :=
  (Embedding.ofText text).mapError fun _ => .unreadableValue

/-- Reads a price. -/
def readPrice (text : String) : Except ArgumentError Double :=
  match Numeral.binary? .double text.toList with
  | some price => .ok price
  | none => .error .unreadableValue

/-- Reads a natural number of 64 bits, which may have a plus in front. -/
def readNatural (text : String) : Except ArgumentError Nat :=
  let digits := match text.toList with
    | '+' :: rest => rest
    | characters => characters
  let value := Numeral.digitsValue digits
  if digits.isEmpty || !digits.all Char.isDigit || 18446744073709551616 ≤ value then
    .error .unreadableValue
  else .ok value

/-- Puts a value where none has been given yet. -/
def once {Item : Type} (given : Option Item) (read : String → Except ArgumentError Item)
    (text : String) : Except ArgumentError (Option Item) :=
  if given.isSome then .error .repeatedOption else (read text).map some

namespace Given

/-- Takes the value of an option. -/
def store (given : Given) (text : String) : Parameter → Except ArgumentError Given
  | .config => do return { given with config := ← once given.config readFileName text }
  | .catalog => do return { given with catalog := ← once given.catalog readFileName text }
  | .query => do return { given with query := ← once given.query .ok text }
  | .vector => do return { given with vector := ← once given.vector readVector text }
  | .category => do return { given with category := ← once given.category .ok text }
  | .minPrice => do return { given with minPrice := ← once given.minPrice readPrice text }
  | .maxPrice => do return { given with maxPrice := ← once given.maxPrice readPrice text }
  | .topK => do return { given with topK := ← once given.topK readNatural text }
  | .fields =>
    let parts := (Text.splitAt ',' text.toList).map String.ofList
    .ok { given with fields := some (given.fields.getD [] ++ parts) }
  | .groupBy => do return { given with groupBy := ← once given.groupBy .ok text }
  | .deadline => do return { given with deadline := ← once given.deadline readNatural text }

/-- Takes an option without a value. -/
def switchOn (given : Given) : Switch → Except ArgumentError Given
  | .live => if given.live then .error .repeatedOption else .ok { given with live := true }
  | .help => .error .helpRequested
  | .version => .error .versionRequested

/-- The arguments, if the files are named. -/
def finish (given : Given) : Except ArgumentError Arguments :=
  match given.config, given.catalog with
  | some config, some catalog =>
    let standard := Search.everything
    let search : Search :=
      { query := given.query
        vector := given.vector
        category := given.category
        minPrice := given.minPrice
        maxPrice := given.maxPrice
        live := given.live
        topK := given.topK.getD standard.topK
        fields := given.fields.getD standard.fields }
    .ok ⟨config, catalog, search, given.groupBy, given.deadline⟩
  | _, _ => .error .missingFile

end Given

/-! ### Options -/

/-- What has been given, and an option whose value has not been looked at: it is held back, or yet
to come. -/
structure Reading where
  given : Given := {}
  pending : Option (Parameter × Option String) := none

namespace Reading

/-- Looks at the value that was held back. -/
def settle (reading : Reading) : Except ArgumentError Given :=
  match reading.pending with
  | none => .ok reading.given
  | some (_, none) => .error .missingValue
  | some (parameter, some text) => reading.given.store text parameter

/-- Reads an option with the value attached to it, if there is one. -/
def readOption (reading : Reading) (attached : Option String) :
    Parameter ⊕ Switch → Except ArgumentError Reading
  | .inl parameter => do
    let given ← reading.settle
    match attached with
    | some text => return { given := ← given.store text parameter }
    | none => return { given, pending := some (parameter, none) }
  | .inr switch =>
    match attached with
    | some _ => .error .unexpectedValue
    | none => do
      let given ← reading.settle
      return { given := ← given.switchOn switch }

/-- Reads an argument after two dashes: a name, and a value behind an equals sign. -/
def readLong (reading : Reading) (text : List Char) : Except ArgumentError Reading :=
  let name := String.ofList (text.takeWhile (· ≠ '='))
  let attached := match text.dropWhile (· ≠ '=') with
    | _ :: value => some (String.ofList value)
    | [] => none
  match optionNamed? name with
  | some option => reading.readOption attached option
  | none => .error .unknownArgument

/-- The value behind a letter: the rest of the argument, without an equals sign in front. -/
def attachedTo : List Char → Option String
  | [] => none
  | '=' :: value => some (String.ofList value)
  | value => some (String.ofList value)

/-- Reads an argument after one dash: letters, of which one that takes a value is the last. -/
def readShort (reading : Reading) : List Char → Except ArgumentError Reading
  | [] => .ok reading
  | letter :: rest =>
    match optionLettered? letter with
    | some (.inl parameter) => reading.readOption (attachedTo rest) (.inl parameter)
    | some (.inr switch) => do
      let reading ← reading.readOption none (.inr switch)
      readShort reading rest
    | none => .error .unknownArgument

/-- Reads an argument that is not an option: the value that is yet to come. -/
def readPlain (reading : Reading) (text : String) : Except ArgumentError Reading :=
  match reading.pending with
  | some (parameter, none) => .ok { reading with pending := some (parameter, some text) }
  | _ => .error .unknownArgument

/-- Reads arguments to their end. Two dashes alone end the options, and nothing may follow. -/
def readAll (reading : Reading) : List String → Except ArgumentError Given
  | [] => reading.settle
  | argument :: rest =>
    match argument.toList with
    | ['-', '-'] => if rest.isEmpty then reading.settle else .error .unknownArgument
    | '-' :: '-' :: text => do readAll (← reading.readLong text) rest
    | '-' :: letter :: text => do readAll (← reading.readShort (letter :: text)) rest
    | _ => do readAll (← reading.readPlain argument) rest

end Reading

/-- Reads the arguments of the program. -/
def readArguments (arguments : List String) : Except ArgumentError Arguments := do
  let given ← Reading.readAll {} arguments
  given.finish

end RecordQuery.CommandLine
