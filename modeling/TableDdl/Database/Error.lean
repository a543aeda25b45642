/-!
# Why there is no engine

The causes for which no engine can be made from a text. Hosts and arguments in the query of a URL
have causes of their own.
-/

namespace TableDdl

/-- What is wrong with the hosts and ports that a query lists. -/
inductive HostFault where
  /-- Every host has more than a name and a port. -/
  | severalColons
  /-- Hosts come with ports of their own, and ports are listed as well. -/
  | portsTwice
  | invalidPort
  /-- Hosts and ports are not equally many. -/
  | unequalNumbers
  | missingHost
  | missingPort
  deriving DecidableEq, Repr

/-- What is wrong with the value of an argument. -/
inductive ArgumentFault where
  | unreadable
  /-- A number is given more than once. -/
  | repeated
  deriving DecidableEq, Repr

inductive EngineError where
  /-- There is no scheme before `://`. -/
  | unreadableUrl
  | invalidPort
  | unknownPlugin
  /-- A scheme can name one driver only. -/
  | severalDrivers
  | unknownDriver
  /-- The name of a driver is that of something else. -/
  | notADriver
  | driverNotInstalled
  /-- A file database has neither user nor host. -/
  | strayServer
  | argument (name : String) (fault : ArgumentFault)
  | hosts (fault : HostFault)
  /-- There are options for a file, but no file. -/
  | optionsWithoutFile
  | synchronousDriver
  deriving DecidableEq, Repr

end TableDdl
