import RowStore.Json.Writer
import RowStore.Query.Error

/-!
# Failures of a service

Every failure is of one of four kinds. A faulty query is a bad request; what a storage reports is passed on as
it is.
-/

namespace RowStore

set_option autoImplicit false

inductive ErrorKind where
  | config | notFound | badRequest | storage
deriving DecidableEq, Repr

inductive ServiceError where
  | config (text : String)
  | notFound (text : String)
  | badRequest (text : String)
  | query (fault : QueryError)
  | storage (report : String)
deriving DecidableEq, Repr

namespace ServiceError

def kind : ServiceError → ErrorKind
  | config _ => .config
  | notFound _ => .notFound
  | badRequest _ | query _ => .badRequest
  | storage _ => .storage

def message : ServiceError → String
  | config text | notFound text | badRequest text | storage text => text
  | query fault => fault.message

def noOptions : ServiceError := config "Options have to be provided"

def noStorage : ServiceError := config "You must provide a Model"

/-- None, or more than one, of the rows has a key that was asked for. -/
def noRecord (id : Value) : ServiceError :=
  notFound ("No record found for id '" ++ id.text ++ "'")

def bulkReplacement : ServiceError :=
  badRequest "You can not replace multiple instances. Did you mean 'patch'?"

def noKey (key : String) : ServiceError :=
  storage ("row has no value for primary key '" ++ key ++ "'")

end ServiceError

end RowStore
