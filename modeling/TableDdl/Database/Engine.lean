import TableDdl.Database.Argument
import TableDdl.Database.Driver

/-!
# Engines

Model of what `create_async_engine` makes of a URL.

An engine is made from a URL. The scheme names a database and, after a plus sign, a driver, and an
engine needs a driver that is installed and does not block. A query can ask for plugins, but none
are known. `Engine.ofUrl` says what engine a URL stands for, or why there is none.
-/

namespace TableDdl

structure Engine where
  /-- The name of its database. -/
  dialectName : String
  echo : Bool
  /-- Its URL, in which the password is kept. -/
  url : Url
  deriving DecidableEq, Repr

namespace Engine

/-- The database and the driver that a scheme names. -/
def schemeParts (scheme : String) : Except EngineError (String × String) :=
  match Url.splitAll '+' scheme.toList with
  | [database] => .ok (String.ofList database, defaultDriver)
  | [database, driver] => .ok (String.ofList database, String.ofList driver)
  | _ => .error .severalDrivers

def asksForPlugin (u : Url) : Bool := u.query.any (·.1 == "plugin")

/-- The URL without what an engine would take out of its query. -/
def withoutPlugins (u : Url) : Url := { u with query := u.query.filter (·.1 != "plugins") }

def ofUrl (text : String) (echo : Bool) : Except EngineError Engine := do
  let u ← Url.parse text
  if asksForPlugin u then throw .unknownPlugin
  let u := withoutPlugins u
  let (database, driver) ← schemeParts u.scheme
  let kind ← driverKind database driver
  if kind = .notInstalled then throw .driverNotInstalled
  u.checkConnection database
  if kind = .blocking then throw .synchronousDriver
  return ⟨database, echo, u⟩

end Engine

end TableDdl
