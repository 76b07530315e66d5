import StatementWalk.Text.Utf8
import StatementWalk.Value.Basic

/-!
# Class names of values

Every value has a class with a module and a name. A fault names a class in the form that its
implementation has: with the module for classes that are built in, without it for the others.
-/

namespace StatementWalk.Value

open Text

def moduleName : Value → String
  | .decimal _ => "decimal"
  | .timestamp _ | .date _ | .time _ | .span _ => "datetime"
  | .uuid _ => "uuid"
  | .textStream _ | .byteStream _ => "_io"
  | .sealed module .. | .object module .. => module
  | _ => "builtins"

def className : Value → String
  | .null => "NoneType"
  | .bool _ => "bool"
  | .int _ => "int"
  | .float _ => "float"
  | .decimal _ => "Decimal"
  | .text _ => "str"
  | .bytes _ => "bytes"
  | .buffer .growable _ => "bytearray"
  | .buffer .view _ => "memoryview"
  | .timestamp _ => "datetime"
  | .date _ => "date"
  | .time _ => "time"
  | .span _ => "timedelta"
  | .uuid _ => "UUID"
  | .list _ => "list"
  | .tuple _ => "tuple"
  | .dict _ => "dict"
  | .typeRef .. => "type"
  | .textStream _ => "StringIO"
  | .byteStream _ => "BytesIO"
  | .sealed _ name _ | .object _ name .. => name

def qualifiedName (v : Value) : String := v.moduleName ++ "." ++ v.className

/-- The name of a class in the form that its implementation has. -/
def implementedName (module name : String) : String :=
  if ["decimal", "datetime", "_io"].contains module then module ++ "." ++ name else name

/-- The class name in the form that its implementation has. -/
def fullFaultName (v : Value) : String :=
  match v with
  | .object _ name .. => name
  | .sealed module name _ => if module == "builtins" then name else module ++ "." ++ name
  | v => implementedName v.moduleName v.className

/-- The class name that faults use, of which they show no more than a number of bytes. -/
def faultName (room : Nat) (v : Value) : String := clip room v.fullFaultName

end StatementWalk.Value
