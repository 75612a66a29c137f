/-
MediaSearch/Failure.lean

What can go wrong in a search, and how it is worded.
-/
import MediaSearch.FileTree
import MediaSearch.Json.Fault
import MediaSearch.Sql.Fragment

namespace MediaSearch

/-- What a store answers instead of rows. -/
inductive StoreError where
  | custom (text : String)
  | query (text : String)
  /-- A cell that should have a value of a type has none. -/
  | nullValue (column : String)
  deriving DecidableEq

/-- The wording of what a store answers. -/
def StoreError.message : StoreError → String
  | custom text => "Custom Error: " ++ text
  | query text => "Query Error: " ++ text
  | nullValue column =>
    "Type Error: A null value was encountered while decoding \"" ++ column ++ "\""

/-- Why a search, or the loading of its settings, gives no result. -/
inductive Failure where
  /-- The store refused a statement, or its answer. -/
  | query (statement : String) (cause : StoreError)
  /-- A statement and its parameters do not belong together. -/
  | compile (mismatch : Sql.ArityMismatch)
  /-- A row has no usable value in a column. -/
  | decode (column reason : String)
  /-- A settings file has wrong contents. -/
  | settings (fault : Json.Fault)
  /-- A file or directory cannot be used. -/
  | io (path : String) (cause : FileError)
  deriving DecidableEq

/-- The wording of a failure.  Text that is not JSON has no wording of its
own. -/
def Failure.message : Failure → String
  | query statement cause =>
    "database error: " ++ cause.message ++ " <sql='" ++ statement ++ "'>"
  | compile mismatch => "query compilation failed: " ++ mismatch.message
  | decode column reason => "failed to decode column '" ++ column ++ "': " ++ reason
  | settings (.data issue) => "invalid configuration: " ++ issue.message
  | settings .malformed => "invalid configuration"
  | io path cause => "io error at <path='" ++ path ++ "'>: " ++ cause.message

end MediaSearch
