import TableDdl.Database.Error
import TableDdl.Database.Url
import TableDdl.Numeral

/-!
# Lists of hosts

A query can list several hosts with their ports, in one of two forms: `host=a:1&host=b:2`, where
every host has its own port, or `host=a,b&port=1,2`. `HostList.ofQuery` reads both. A list of
several hosts can be used only if every host has a name and a port other than zero
(`HostList.check`).
-/

namespace TableDdl

structure HostList where
  /-- Nothing where the query names no host. -/
  hosts : Option (List String)
  ports : List (Option Int)
  deriving DecidableEq, Repr

namespace HostList

/-- Hosts and the texts of their ports. -/
abbrev Paired := List (String × Option String)

def parts (value : String) : List String :=
  (Url.splitAll ':' value.toList).map String.ofList

/-- A host and its port; what comes after a second colon counts for nothing. -/
def pair (value : String) : String × Option String :=
  match parts value with
  | host :: port :: _ => (host, some port)
  | _ => (value, none)

/-- Hosts with ports of their own, of which one at least has no second colon. -/
def paired (values : List String) : Except HostFault Paired :=
  if values.all fun v => 2 < (parts v).length then .error .severalColons
  else .ok (values.map pair)

/-- A single host in ASCII letters, digits, hyphens and points, with a port of digits after a colon.
A line may end after it. -/
def single? (value : String) : Option (String × Option String) :=
  let inName (c : Char) : Bool := c.isAlphanum || c == '-' || c == '.'
  match value.toList.dropWhile inName with
  | ':' :: rest =>
    let port := rest.takeWhile fun c => (Unicode.digit? c).isSome
    let after := rest.drop port.length
    if after.isEmpty || after == ['\n'] then
      some (String.ofList (value.toList.takeWhile inName), some (String.ofList port))
    else none
  | _ => none

def commaSeparated (value : String) : List String :=
  (Url.splitAll ',' value.toList).map String.ofList

/-- Hosts and ports as texts, not yet of equal number. -/
def texts (query : List (String × List String)) :
    Except HostFault (Option (List String) × List (Option String)) := do
  let port := query.lookup "port"
  let listed := match port with
    | none => []
    | some [value] => (commaSeparated value).map some
    | some values => values.map some
  let split (ps : Paired) := (some (ps.map Prod.fst), ps.map Prod.snd)
  match query.lookup "host" with
  | none => return (none, listed)
  | some [value] =>
    match port, single? value with
    | none, some p => return split [p]
    | _, _ => return (some (commaSeparated value), listed)
  | some values =>
    let ps ← paired values
    if port.isSome then throw .portsTwice
    return split ps

/-- A port; a text without characters is none. -/
def port? : Option String → Except HostFault (Option Int)
  | none => .ok none
  | some text =>
    if text = "" then .ok none
    else match Numeral.integer? text with
      | some n => .ok (some n)
      | none => .error .invalidPort

def ofQuery (query : List (String × List String)) : Except HostFault HostList := do
  let (hosts, ports) ← texts query
  let ports ← ports.mapM port?
  let wanted := (hosts.map List.length).getD 1
  if ports.isEmpty then return ⟨hosts, List.replicate wanted none⟩
  if ports.length ≠ wanted then throw .unequalNumbers
  return ⟨hosts, ports⟩

/-- Several hosts need names and ports; a single one needs neither. -/
def check (l : HostList) : Except HostFault Unit :=
  match l.hosts with
  | none | some [_] => .ok ()
  | some hosts =>
    if hosts.contains "" then .error .missingHost
    else if l.ports.any fun p => p.getD 0 == 0 then .error .missingPort
    else .ok ()

end HostList

end TableDdl
