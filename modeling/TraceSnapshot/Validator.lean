import TraceSnapshot.Report
import TraceSnapshot.Schema

/-!
# Validators

Every file of a snapshot is shown to a validator before the snapshot is built. A validator
sees the kind, the text and the name of the file and either is content or says what is wrong.
-/

namespace TraceSnapshot

abbrev Validator := Role → (text source : Text) → Option Report

namespace Validator

def rejection (role : Role) (source : Text) (v : Schema.Violation) : Report where
  code := .validation
  message := role.name ++ " file rejected at ".toList ++ v.message
  source := source

/-- The validator that holds a file against the schema of its kind. -/
def schema : Validator := fun role text source =>
  (Schema.check role text).map (rejection role source)

/-- The validator that is content with every file. -/
def acceptAll : Validator := fun _ _ _ => none

/-- The validators that can be asked for by name. -/
inductive Kind where
  | schema
  | acceptAll
  deriving DecidableEq, Repr

namespace Kind

def all : List Kind := [schema, acceptAll]

def key : Kind → Text
  | schema => "schema".toList
  | acceptAll => "accept_all".toList

def title : Kind → Text
  | schema => "json-schema".toList
  | acceptAll => "accept-all".toList

def validator : Kind → Validator
  | schema => Validator.schema
  | acceptAll => Validator.acceptAll

def ofKey? (t : Text) : Option Kind := all.find? fun kind => kind.key == t

/-- The validator of a run for which none was chosen. -/
def standard : Kind := schema

end Kind

end Validator

end TraceSnapshot
