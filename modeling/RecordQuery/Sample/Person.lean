/-
This file holds sample people, made to try queries on: every record on the way to a country is
missing for one of them.
-/

import RecordQuery.Category
import RecordQuery.Query.Source

namespace RecordQuery.Sample

open Number Calendar

/-- The first of January 2024, from which samples count their days and hours. -/
def epoch : DateTime :=
  .midnight ⟨2024, 1, 1, by decide⟩

/-- A date-time so many seconds after the epoch, or the epoch if that is beyond the calendar. -/
def sinceEpoch (seconds : Nat) : DateTime :=
  (epoch.addSeconds? seconds).getD epoch

/-- The binary number of a decimal with some places. -/
def decimal {format : BinaryFormat} (coefficient : Int) (places : Nat) : Binary format :=
  .ofDecimal (decide (coefficient < 0)) ⟨coefficient.natAbs, -(places : Int)⟩

structure City where
  name : String
  country : Option String

structure Address where
  street : String
  city : Option City

structure Person where
  id : Uuid
  name : String
  age : Int32
  email : Option String
  balance : Double
  address : Option Address
  tags : List String
  embedding : Option (List Single)
  joinedAt : DateTime
  isActive : Bool
  isArchived : Bool

namespace Person

/-- An active person who is not archived and has nothing else. -/
def new (number : Nat) (name : String) (age : Int32) : Person where
  id := .ofNat number
  name := name
  age := age
  email := none
  balance := 0
  address := none
  tags := []
  embedding := none
  joinedAt := sinceEpoch (number * 86400)
  isActive := true
  isArchived := false

/-- The shapes of people, addresses and cities. -/
def schema : Schema where
  shapes :=
    [⟨"Person",
        [⟨"Id", false, .scalar .uuid⟩,
          ⟨"Name", false, .scalar .text⟩,
          ⟨"Age", false, .scalar .int⟩,
          ⟨"Email", true, .scalar .text⟩,
          ⟨"Balance", false, .scalar .float⟩,
          ⟨"Address", true, .record 1⟩,
          ⟨"Tags", false, .scalar (.list .text)⟩,
          ⟨"Embedding", true, .scalar .vector⟩,
          ⟨"JoinedAt", false, .scalar .dateTime⟩,
          ⟨"IsActive", false, .scalar .bool⟩,
          ⟨"IsArchived", false, .scalar .bool⟩]⟩,
      ⟨"Address", [⟨"Street", false, .scalar .text⟩, ⟨"City", true, .record 2⟩]⟩,
      ⟨"City", [⟨"Name", false, .scalar .text⟩, ⟨"Country", true, .scalar .text⟩]⟩]

end Person

def City.toCell (city : City) : Cell :=
  .record [.value (.text city.name), .optional .text city.country]

def Address.toCell (address : Address) : Cell :=
  .record
    [.value (.text address.street),
      match address.city with
      | some city => city.toCell
      | none => .absent]

/-- A person as a record. -/
def Person.toRecord (person : Person) : Record :=
  [.value (.uuid person.id),
    .value (.text person.name),
    .value (.int (Int64.ofInt person.age.toInt)),
    .optional .text person.email,
    .value (.float person.balance),
    match person.address with
    | some address => address.toCell
    | none => .absent,
    .texts person.tags,
    .optional .vector person.embedding,
    .value (.dateTime person.joinedAt),
    .value (.bool person.isActive),
    .value (.bool person.isArchived)]

/-- Some people as a dataset, labelled by their names. -/
def Person.dataset (people : List Person) : Dataset String :=
  ⟨schema, people.map fun person => ⟨person.name, person.toRecord⟩⟩

/-- Six people. -/
def people : List Person :=
  [{ Person.new 1 "Ada" 36 with
      email := some "ada@example.com"
      balance := decimal 1205 1
      address := some ⟨"1 Analytical Way", some ⟨"London", some "UK"⟩⟩
      tags := ["math", "engines"]
      embedding := some [1, 0, 0] },
    { Person.new 2 "Brian" 17 with
      balance := decimal (-40) 0
      address := some ⟨"9 Unix Rd", some ⟨"Toronto", none⟩⟩
      tags := ["c"] },
    { Person.new 3 "Chen" 18 with
      email := some "chen@example.com"
      balance := decimal 1525 2
      address := some ⟨"3 Harbor St", none⟩
      embedding := some [0, 1, 0] },
    { Person.new 4 "Dana" 30 with
      tags := ["ops", "math"]
      isArchived := true },
    { Person.new 5 "Eli" 31 with
      email := some "eli@example.com"
      balance := 8
      address := some ⟨"5 Fjord Ln", some ⟨"Oslo", some "NO"⟩⟩
      embedding := some [decimal 7 1, decimal 7 1, 0]
      isActive := false },
    { Person.new 6 "Fay" 18 with
      balance := decimal 25 1
      address := some ⟨"6 Bay Ave", some ⟨"London", some "UK"⟩⟩
      embedding := some [1, 0] }]

end RecordQuery.Sample
