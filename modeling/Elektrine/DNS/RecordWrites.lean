import Elektrine.Library.KeyedRows
import Elektrine.DNS.Zone

/-!
# Writing the records of a zone

`create_record`, `update_record`, `delete_record` and the application of a managed
service, over the rows of one zone.  The validations of `Record.changeset` that do
not look at other rows are a parameter, and so are the zone's own restrictions.
-/

namespace Elektrine.DNS

open Library

namespace Record

def normalizeName (name : String) : String :=
  match downcase (trimTrailingDots (trim name)) with
  | "" => "@"
  | "\\@" => "@"
  | normalized => normalized

/-- `normalize_record_type`, and `Record.normalize_type`. -/
def normalizeType (type : String) : String :=
  upcase (trim type)

structure Canonical where
  name : String
  type : String
  content : String
  ttl : Option Int
  priority : Option Int
  weight : Option Int
  port : Option Int
  tag : Option String
  flags : Option Int
  protocol : Option Int
  algorithm : Option Int
  keyTag : Option Int
  digestType : Option Int
  usage : Option Int
  selector : Option Int
  matchingType : Option Int
  deriving DecidableEq

def canonicalRecord (record : Record) : Canonical where
  name := record.name
  type := record.type
  content := record.content
  ttl := record.ttl
  priority := record.priority
  weight := record.weight
  port := record.port
  tag := record.tag
  flags := record.flags
  protocol := record.protocol
  algorithm := record.algorithm
  keyTag := record.keyTag
  digestType := record.digestType
  usage := record.usage
  selector := record.selector
  matchingType := record.matchingType

end Record

namespace RecordWrites

structure Attrs where
  name : Option String := none
  type : Option String := none
  content : Option String := none
  others : Record → Record := id

structure Policy where
  storedContent : String → String → String := fun _ content => trim content
  valid : Option Record → Record → Bool := fun _ _ => true
  allowed : String → Option String → Bool := fun _ _ => true
  /-- `protected_builtin_zone_record?`, negated. -/
  deletable : Record → Bool := fun _ => true
  servicesEnabled : Bool := true

abbrev Table := KeyedRows Record Record.id

inductive Refusal where
  | cname | other
  deriving DecidableEq, Repr

structure Outcome where
  table : Table
  refusal : Option Refusal := none

section Names

/-- `String.trim_trailing(name, suffix)`, for the suffix of a zone. -/
def trimTrailingSuffix (suffix : List Char) : Nat → List Char → List Char
  | 0, name => name
  | fuel + 1, name =>
      if suffix.isSuffixOf name then
        trimTrailingSuffix suffix fuel (name.take (name.length - suffix.length))
      else name

def normalizeRecordName (zone : Zone) (name : String) : String :=
  let normalizedName :=
    match downcase (trimTrailingDots (trim name)) with
    | "\\@" => "@"
    | value => value
  let normalizedZone := downcase (trimTrailingDots (trim zone.domain))
  if normalizedName = "" ∨ normalizedName = "@" then "@"
  else if normalizedName = normalizedZone then "@"
  else if endsWith normalizedName ("." ++ normalizedZone) then
    match String.ofList (trimTrailingSuffix ("." ++ normalizedZone).toList
        normalizedName.length normalizedName.toList) with
    | "" => "@"
    | relative => relative
  else normalizedName

example : normalizeRecordName { domain := "a.io", records := [] } "Www.A.io." = "www" := by
  decide

end Names

section Writes

variable (policy : Policy) (zone : Zone)

def storedRecord (record : Record) (attrs : Attrs) : Record :=
  let changed := attrs.others record
  let type := (attrs.type.map Record.normalizeType).getD record.type
  { changed with
    id := record.id
    name := (attrs.name.map Record.normalizeName).getD record.name
    type := type
    content := (attrs.content.map (policy.storedContent type)).getD record.content }

def unique (table : Table) (row : Record) : Bool :=
  table.rows.all fun other =>
    other.id == row.id ||
      !(other.name == row.name && other.type == row.type &&
          other.content == row.content) &&
        !(row.managedKey.isSome && other.managedKey == row.managedKey)

/-- `Repo.insert` or `Repo.update` of a changeset. -/
def writeRow (table : Table) (previous : Option Record) (row : Record) : Option Table :=
  if policy.valid previous row && unique table row then some (table.put row) else none

def validateCnameExclusivity (table : Table) (name : String) (type : Option String) :
    Bool :=
  let records := table.rows.filter fun record => record.name == name
  if type = some "CNAME" ∧ records.any fun record => record.type != "CNAME" then false
  else if type ≠ some "CNAME" ∧ records.any fun record => record.type == "CNAME" then
    false
  else true

def validatedWrite (table : Table) (name : String) (type : Option String)
    (previous : Option Record) (row : Option Record) : Outcome :=
  if validateCnameExclusivity table name type then
    if policy.allowed name type then
      match row.bind (writeRow policy table previous) with
      | some table => { table := table }
      | none => { table := table, refusal := some .other }
    else { table := table, refusal := some .other }
  else { table := table, refusal := some .cname }

def newRecord (id : Nat) : Record where
  id := id
  name := ""
  type := ""
  content := ""

def createdName (attrs : Attrs) : String :=
  normalizeRecordName zone ((attrs.name.map (normalizeRecordName zone)).getD "@")

def createdRecord (table : Table) (attrs : Attrs) : Option Record :=
  if attrs.name.isSome && attrs.type.isSome && attrs.content.isSome then
    some (storedRecord policy (newRecord table.next)
      { attrs with
        name := attrs.name.map fun name =>
          normalizeRecordName zone (normalizeRecordName zone name) })
  else none

def createRecord (table : Table) (attrs : Attrs) : Outcome :=
  validatedWrite policy table (createdName zone attrs)
    (attrs.type.map Record.normalizeType) none (createdRecord policy zone table attrs)

def relativeAttrs (attrs : Attrs) : Attrs :=
  { attrs with name := attrs.name.map (normalizeRecordName zone) }

def updatedName (record : Record) (attrs : Attrs) : String :=
  normalizeRecordName zone ((relativeAttrs zone attrs).name.getD record.name)

def updatedType (record : Record) (attrs : Attrs) : String :=
  Record.normalizeType (attrs.type.getD record.type)

def updatedRecord (record : Record) (attrs : Attrs) : Record :=
  storedRecord policy record (relativeAttrs zone attrs)

def updateRecord (table : Table) (record : Record) (attrs : Attrs) : Outcome :=
  validatedWrite policy table (updatedName zone record attrs)
    (some (updatedType record attrs)) (some record)
    (some (updatedRecord policy zone record attrs))

def deleteRecord (table : Table) (record : Record) : Outcome :=
  if policy.deletable record then
    { table := table.retain fun other => other.id != record.id }
  else { table := table, refusal := some .other }

end Writes

section Services

variable (policy : Policy)

def managedRecord (target : Record) (attrs : Record) : Record where
  id := target.id
  name := Record.normalizeName attrs.name
  type := Record.normalizeType attrs.type
  ttl := attrs.ttl.or target.ttl
  content := policy.storedContent (Record.normalizeType attrs.type) attrs.content
  source := attrs.source
  service := attrs.service
  managed := attrs.managed
  managedKey := attrs.managedKey
  required := attrs.required
  metadata := attrs.metadata
  priority := attrs.priority.or target.priority
  weight := attrs.weight.or target.weight
  port := attrs.port.or target.port
  flags := attrs.flags.or target.flags
  tag := attrs.tag.or target.tag
  protocol := attrs.protocol.or target.protocol
  algorithm := attrs.algorithm.or target.algorithm
  keyTag := attrs.keyTag.or target.keyTag
  digestType := attrs.digestType.or target.digestType
  usage := attrs.usage.or target.usage
  selector := attrs.selector.or target.selector
  matchingType := attrs.matchingType.or target.matchingType

/-- `conflicts_for`: some record set of the service differs from the one that the
user keeps at its name and type. -/
def conflicts (table : Table) (desired : List Record) : Bool :=
  desired.any fun attrs =>
    let existing := table.rows.filter fun record =>
      record.name == attrs.name && record.type == attrs.type && !record.managed
    let rrset := desired.filter fun other =>
      other.name == attrs.name && other.type == attrs.type
    !existing.isEmpty &&
      !(existing.map Record.canonicalRecord).isPerm (rrset.map Record.canonicalRecord)

/-- `list_managed_records`. -/
def managedBy (service : String) (record : Record) : Bool :=
  record.service == some service && record.managed

def adoptableRecord (table : Table) (attrs : Record) (adoptedIds : List Nat) :
    Option Record :=
  table.rows.find? fun record =>
    !record.managed && record.name == attrs.name && record.type == attrs.type &&
      !adoptedIds.contains record.id &&
      record.canonicalRecord == attrs.canonicalRecord

def takenOver (table : Table) (attrs : Record) (adoptedIds : List Nat) : Option Record :=
  (table.rows.find? fun record =>
    attrs.managedKey.isSome && record.managedKey == attrs.managedKey).or
      (adoptableRecord table attrs adoptedIds)

def writeDesired : List Record → Table → List Nat → Option Table
  | [], table, _ => some table
  | attrs :: desired, table, adoptedIds =>
      let target := takenOver table attrs adoptedIds
      let row := managedRecord policy (target.getD (newRecord table.next)) attrs
      match writeRow policy table target row with
      | none => none
      | some written =>
          writeDesired desired written
            (if target.isSome then row.id :: adoptedIds else adoptedIds)

def stale (service : String) (desired : List Record) (record : Record) : Bool :=
  managedBy service record &&
    !(desired.map Record.managedKey).contains record.managedKey

def keepCurrent (service : String) (desired : List Record) (table : Table) : Table :=
  table.retain fun record => !stale service desired record

/-- `apply_service`; `managed` when the service is enabled in the managed mode. -/
def applyService (table : Table) (service : String) (managed : Bool)
    (desired : List Record) : Outcome :=
  if policy.servicesEnabled then
    if managed then
      if conflicts table desired then { table := table }
      else
        match writeDesired policy desired (keepCurrent service desired table) [] with
        | some table => { table := table }
        | none => { table := table, refusal := some .other }
    else { table := table.retain fun record => !managedBy service record }
  else { table := table, refusal := some .other }

end Services

inductive Operation where
  | create (attrs : Attrs)
  | update (id : Nat) (attrs : Attrs)
  | delete (id : Nat)
  | applyService (service : String) (managed : Bool) (desired : List Record)

def find (table : Table) (id : Nat) : Option Record :=
  table.rows.find? fun record => record.id == id

def perform (policy : Policy) (zone : Zone) (table : Table) : Operation → Outcome
  | .create attrs => createRecord policy zone table attrs
  | .update id attrs =>
      match find table id with
      | some record => updateRecord policy zone table record attrs
      | none => { table := table, refusal := some .other }
  | .delete id =>
      match find table id with
      | some record => deleteRecord policy table record
      | none => { table := table, refusal := some .other }
  | .applyService service managed desired =>
      RecordWrites.applyService policy table service managed desired

def step (policy : Policy) (zone : Zone) (table : Table) (operation : Operation) : Table :=
  (perform policy zone table operation).table

def changed (policy : Policy) (zone : Zone) (table : Table) : Operation → Option Table
  | .create attrs => (createdRecord policy zone table attrs).map table.put
  | .update id attrs =>
      (find table id).map fun record => table.put (updatedRecord policy zone record attrs)
  | _ => none

end RecordWrites

end Elektrine.DNS

/-!
## Names of zones and records

The formats that a zone and a record are stored with, and the name under which the edge
proxy looks a record up.
-/

namespace Elektrine.DNS

def lowerAlphanumeric (character : Char) : Bool :=
  ('a' ≤ character && character ≤ 'z') || ('0' ≤ character && character ≤ '9')

/-- `[a-z0-9-]` -/
def hostCharacter (character : Char) : Bool :=
  lowerAlphanumeric character || character == '-'

/-- The text in front of `$`, which also stands before a last newline. -/
def beforeNewline (characters : List Char) : List Char :=
  if characters.getLast? = some '\n' then characters.dropLast else characters

namespace Zone

/-- `^(?:[a-z0-9-]+\.)+[a-z]{2,}$`, for a domain that is trimmed. -/
def validDomain (domain : String) : Bool :=
  let labels := domain.toList.splitOn '.'
  2 ≤ labels.length &&
    labels.dropLast.all (fun label => !label.isEmpty && label.all hostCharacter) &&
    labels.getLast?.any fun label =>
      2 ≤ label.length && label.all fun character => 'a' ≤ character && character ≤ 'z'

end Zone

namespace Record

/-- `valid_service_label?`, of what follows the underscore. -/
def validServiceLabel (rest : List Char) : Bool :=
  (String.ofList rest).utf8ByteSize ≤ 62 &&
    (beforeNewline rest).all fun character => hostCharacter character || character == '_'

def validLabel : List Char → Bool
  | '_' :: rest => validServiceLabel rest
  | label =>
      let size := (String.ofList label).utf8ByteSize
      1 ≤ size && size ≤ 63 &&
        (beforeNewline label).head?.any lowerAlphanumeric &&
        (beforeNewline label).getLast?.any lowerAlphanumeric &&
        (beforeNewline label).all hostCharacter

def wildcardName (name : String) : Bool :=
  match name.toList with
  | ['*'] => true
  | '*' :: '.' :: rest => !rest.isEmpty && !rest.contains '*'
  | _ => false

def nonWildcardLabels (name : String) : List (List Char) :=
  match name.toList.splitOn '.' with
  | ['*'] :: rest => rest
  | labels => labels

/-- `validate_record_name` -/
def validName (name : String) : Bool :=
  if name = "" then false
  else if name = "@" then true
  else if name.length > 253 then false
  else if name.toList.tails.any fun tail => ['.', '.'].isPrefixOf tail then false
  else if name.toList.contains '*' && !wildcardName name then false
  else (nonWildcardLabels name).all validLabel

end Record

/-! ## The edge proxy -/

def normalizeProxyHost (host : String) : String :=
  String.ofList ((downcase (trimTrailingDots (trim host))).toList.takeWhile (· != ':'))

def recordFqdn (zone : Zone) (record : Record) : String :=
  let zoneDomain := normalizeProxyHost zone.domain
  let normalizedName := normalizeProxyHost record.name
  if normalizedName = "" ∨ normalizedName = "@" then zoneDomain
  else if normalizedName = zoneDomain then zoneDomain
  else if endsWith normalizedName ("." ++ zoneDomain) then normalizedName
  else normalizedName ++ "." ++ zoneDomain

example : recordFqdn { domain := "a.io", records := [] }
    { name := "www", type := "A", content := "" } = "www.a.io" := by
  decide

end Elektrine.DNS
