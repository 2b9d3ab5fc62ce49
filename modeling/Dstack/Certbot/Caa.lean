/-
Publishing CAA records (`certbot/src/acme_client.rs`, `set_caa_records`,
and the provider calls of `certbot/src/dns01_client.rs`).

The zone is at the DNS provider, and every look at it and every change is
a call. A call can be refused, can be carried out with its answer lost
(the process dying before the answer is the same thing), or can be
answered; after anything but an answer the run is over. `Dns.moments`
keeps every zone there has been.

The provider lists all records of a name, in whatever order, gives a new
record an identifier that no other record has, and may refuse to hold one
record twice.
-/
import Dstack.Lib.BTreeMap
import Dstack.Lib.Caa
import Dstack.Lib.Stateful

namespace Dstack.Certbot

open Lib

-- == provider

/-- What a record says; of the types other than CAA only its text matters. -/
inductive RecordData where
  | caa (property : Caa.Property)
  | other (type content : String) (notCaa : type ≠ "CAA")
  deriving DecidableEq

/-- A record as the provider holds it. -/
structure Stored where
  id : String
  name : String
  data : RecordData
  deriving DecidableEq

abbrev Zone := List Stored

/-- A record as the provider shows it. -/
structure Record where
  id : String
  name : String
  content : String
  type : String
  deriving DecidableEq

/-- How a provider lists, names and shows records. The value of a guard is
shown in quotes or bare, and no value without its letters. -/
structure Provider where
  order : Nat → List Stored → List Stored
  order_perm : ∀ call rs, (order call rs).Perm rs
  newId : Nat → Zone → String
  newId_fresh : ∀ call (z : Zone), newId call z ∉ z.map Stored.id
  rejectsDuplicates : Bool
  quote : String → String
  quote_semicolon : quote ";" = "\";\"" ∨ quote ";" = ";"
  quote_letters : ∀ v c, c ∈ v.toList → c.isAlpha = true → c ∈ (quote v).toList

/-- What becomes of a call. -/
inductive Answer where
  | answered
  | refused (error : String)
  | lost (error : String)
  deriving DecidableEq

/-- The zone, the calls so far, and every zone there has been. -/
structure Dns where
  zone : Zone
  calls : Nat
  moments : List Zone

namespace Dns

/-- A call with an effect on the zone. -/
def call {α : Type} (fate : Nat → Answer) (effect : Nat → Zone → Result (α × Zone)) :
    Stateful Dns α := fun s =>
  match fate s.calls, effect s.calls s.zone with
  | .refused error, _ => (.error error, { s with calls := s.calls + 1 })
  | _, .error error => (.error error, { s with calls := s.calls + 1 })
  | .lost error, .ok (_, zone) => (.error error, ⟨zone, s.calls + 1, zone :: s.moments⟩)
  | .answered, .ok (a, zone) => (.ok a, ⟨zone, s.calls + 1, zone :: s.moments⟩)

end Dns

section Calls

variable (provider : Provider) (fate : Nat → Answer)

def isAt (name : String) (r : Stored) : Bool := Caa.labels r.name = Caa.labels name

def renderCaa (p : Caa.Property) : String :=
  toString p.flags ++ " " ++ p.tag.text ++ " " ++ provider.quote p.value

def render (r : Stored) : Record :=
  match r.data with
  | .caa p => ⟨r.id, r.name, renderCaa provider p, "CAA"⟩
  | .other type content _ => ⟨r.id, r.name, content, type⟩

def getRecords (domain : String) : Stateful Dns (List Record) :=
  Dns.call fate fun call zone =>
    .ok ((provider.order call (zone.filter (isAt domain))).map (render provider), zone)

def isDuplicate (domain : String) (p : Caa.Property) (r : Stored) : Bool :=
  isAt domain r ∧ r.data = .caa p

def addCaaRecord (domain : String) (flags : Nat) (tag : Caa.Tag) (value : String) :
    Stateful Dns String :=
  Dns.call fate fun call zone =>
    let property : Caa.Property := ⟨flags, tag, value⟩
    if provider.rejectsDuplicates ∧ zone.any (isDuplicate domain property) then
      .error "failed to add record"
    else
      let id := provider.newId call zone
      .ok (id, zone ++ [⟨id, domain, .caa property⟩])

def removeRecord (recordId : String) : Stateful Dns Unit :=
  Dns.call fate fun _ zone =>
    if zone.any (·.id = recordId) then .ok ((), zone.filter (·.id ≠ recordId))
    else .error "failed to remove acme challenge"

end Calls

-- == client

inductive ChallengeKind where
  | dns01
  | dnsPersist01
  deriving DecidableEq

def dnsPersist01 : String := "dns-persist-01"

def caaContent (challenge : ChallengeKind) (issuerDomainName accountUri : String) : String :=
  let method :=
    match challenge with
    | .dns01 => "dns-01"
    | .dnsPersist01 => dnsPersist01
  issuerDomainName ++ ";validationmethods=" ++ method ++ ";accounturi=" ++ accountUri

/-- An account and how it proves control; only `dns-01` has a provider. -/
structure AcmeClient where
  validation : ChallengeKind
  issuerDomainName : String
  accountId : String

namespace AcmeClient

def content (client : AcmeClient) : String :=
  caaContent client.validation client.issuerDomainName client.accountId

end AcmeClient

/-- `name` without a leading `*.`. -/
def stripWildcard (name : String) : String :=
  match name.toList with
  | '*' :: '.' :: base => String.ofList base
  | _ => name

def baseNames (domains : List String) : List String :=
  BTreeSet.toList
    (domains.foldl (fun names name => BTreeSet.add names (stripWildcard name)) BTreeMap.empty)

def caaTag (content : String) : Option (List Char) := (splitWhitespace content)[1]?

def trimQuotes (cs : List Char) : List Char :=
  ((cs.dropWhile (· = '"')).reverse.dropWhile (· = '"')).reverse

def isIssuerTag (tag : List Char) : Bool :=
  tag = "issue".toList ∨ tag = "issuewild".toList

def isCaaGuard (content : String) : Bool :=
  match splitWhitespace content with
  | [_, tag, value] => isIssuerTag tag && trimQuotes value = ";".toList
  | _ => false

/-- The guards an earlier run left, one for each tag. -/
structure Adopted where
  issue : Option String := none
  issuewild : Option String := none

def adopt (adopted : Adopted) (record : Record) : Adopted :=
  if record.type ≠ "CAA" ∨ isCaaGuard record.content = false then adopted
  else if caaTag record.content = some "issue".toList then
    { adopted with issue := adopted.issue.or (some record.id) }
  else if caaTag record.content = some "issuewild".toList then
    { adopted with issuewild := adopted.issuewild.or (some record.id) }
  else adopted

section SetCaaRecords

variable (provider : Provider) (fate : Nat → Answer)

def setGuard (baseName : String) (tag : Caa.Tag) : Option String → Stateful Dns String
  | some id => pure id
  | none => addCaaRecord provider fate baseName 0 tag ";"

def isIssuerRecord (record : Record) : Bool :=
  record.type = "CAA" && (caaTag record.content).any isIssuerTag

def removeConstraint (guard0 guard1 : String) (record : Record) : Stateful Dns Unit :=
  if record.id = guard0 ∨ record.id = guard1 then pure ()
  else if isIssuerRecord record then removeRecord fate record.id
  else pure ()

def setGuards (baseName : String) : Stateful Dns (String × String) := do
  let adopted := (← getRecords provider fate baseName).foldl adopt {}
  let guard0 ← setGuard provider fate baseName .issue adopted.issue
  let guard1 ← setGuard provider fate baseName .issuewild adopted.issuewild
  pure (guard0, guard1)

def replaceGuards (content baseName guard0 guard1 : String) : Stateful Dns Unit := do
  let _ ← addCaaRecord provider fate baseName 0 .issue content
  let _ ← addCaaRecord provider fate baseName 0 .issuewild content
  removeRecord fate guard0
  removeRecord fate guard1

def setCaaRecord (content baseName : String) : Stateful Dns Unit := do
  let (guard0, guard1) ← setGuards provider fate baseName
  Stateful.each (removeConstraint fate guard0 guard1) (← getRecords provider fate baseName)
  replaceGuards provider fate content baseName guard0 guard1

def setCaaRecords (client : AcmeClient) (domains : List String) : Stateful Dns Unit := do
  Stateful.lift (Result.ensure (client.validation = .dns01)
    ("cannot set CAA records without DNS write access; publish the records printed by "
      ++ "`certbot dns-records` instead"))
  Stateful.each (setCaaRecord provider fate client.content) (baseNames domains)

/-- Runs one after the other, however they end. -/
def runs (client : AcmeClient) (s : Dns) (domainLists : List (List String)) : Dns :=
  domainLists.foldl (fun s domains => (setCaaRecords provider fate client domains s).2) s

end SetCaaRecords

/-- A zone to which no call was made yet. -/
def Dns.start (zone : Zone) : Dns := ⟨zone, 0, [zone]⟩

end Dstack.Certbot
