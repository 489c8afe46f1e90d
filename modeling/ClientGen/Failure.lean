import ClientGen.Document.Operation

/-!
# Failures of a run

What stops a run, with the wording, the code and the advice shown for it.
-/

namespace ClientGen

inductive Failure
  | emptyOperationId (method : HttpMethod) (path : String)
  | reservedOperationId (id : String) (method : HttpMethod) (path : String)
  | unknownProfile (name : String) (available : List String)
  | notBuilt (phase : String)
  | configText
  | invalidOption (pair : String)
  | templateLoad (path : String)
  | render (template : String)
  | write (path : String)
deriving DecidableEq, Repr

namespace Failure

def message : Failure → String
  | .emptyOperationId method path =>
    "operation " ++ method.name ++ " " ++ path ++ " has no operation id"
  | .reservedOperationId id _ _ => "'" ++ id ++ "' cannot be used as a method name"
  | .unknownProfile name _ => "unknown profile '" ++ name ++ "'"
  | .notBuilt phase => "phase '" ++ phase ++ "' ran before the IR was built"
  | .configText => "failed to parse configuration"
  | .invalidOption pair => "invalid option '" ++ pair ++ "'"
  | .templateLoad path => "failed to load templates from '" ++ path ++ "'"
  | .render template => "failed to render template '" ++ template ++ "'"
  | .write path => "failed to write '" ++ path ++ "'"

def code : Failure → String
  | .emptyOperationId .. => "quill::empty_operation_id"
  | .reservedOperationId .. => "quill::reserved_operation_id"
  | .unknownProfile .. => "quill::unknown_profile"
  | .notBuilt _ => "quill::ir_not_built"
  | .configText | .invalidOption _ => "quill::config"
  | .templateLoad _ => "quill::template_load"
  | .render _ => "quill::render"
  | .write _ => "quill::io"

def help : Failure → Option String
  | .emptyOperationId .. => some "give every operation a non-empty operationId"
  | .reservedOperationId id method path =>
    some ("'" ++ id ++ "' (" ++ method.name ++ " " ++ path ++
      ") is a reserved word of the target; rename the operationId")
  | .unknownProfile _ available =>
    some ("available profiles: " ++ ", ".intercalate available)
  | .configText => some "options belong in an [options] table"
  | .invalidOption _ => some "options are written as key=value"
  | _ => none

end Failure

end ClientGen
