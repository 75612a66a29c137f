/-
MediaSearch/Settings.lean

Settings of searches.

Whatever a settings file says, what is used after `sanitized` has page sizes
that work: at least one row a page, and a stand-in for "everything" that the
store can take as a limit.
-/
import MediaSearch.Number.Binary

namespace MediaSearch

/-- Where log output goes. -/
structure LoggingSettings where
  level : String := "info"
  /-- Whether to write log files as well. -/
  toFile : Bool := false
  directory : String := "logs"
  deriving DecidableEq

/-- The largest limit the store takes. -/
def maxLimit : UInt64 := 9223372036854775807

/-- What searches do where requests do not say. -/
structure Settings where
  /-- Rows a page if a request does not say. -/
  defaultPageSize : UInt64 := 10
  /-- Rows a page if a request wants everything in one. -/
  unboundedPageSize : UInt64 := maxLimit
  /-- The least confidence of tags if a request does not say. -/
  minTagConfidence : Option Binary64 := none
  /-- Whether results must exist on disk if a request does not say. -/
  checkPath : Bool := false
  logging : LoggingSettings := {}
  deriving DecidableEq

namespace Settings

/-- The page size a request gets: zero asks for everything. -/
def pageSize (settings : Settings) : Option UInt64 → UInt64
  | none => settings.defaultPageSize
  | some n => if n = 0 then settings.unboundedPageSize else n

/-- Replaces page sizes that cannot be used. -/
def sanitized (settings : Settings) : Settings :=
  let unbounded := if settings.unboundedPageSize = 0 ∨ maxLimit < settings.unboundedPageSize
    then maxLimit else settings.unboundedPageSize
  { settings with
    unboundedPageSize := unbounded
    defaultPageSize := if settings.defaultPageSize = 0 then unbounded
      else settings.defaultPageSize }

end Settings

end MediaSearch
