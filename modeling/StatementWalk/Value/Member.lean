import StatementWalk.Value.Display

/-!
# Members of driver objects

Looking up an attribute or method, and calling it without arguments. A class that stands as an
attribute can be called too and gives its empty value.
-/

namespace StatementWalk

namespace Value

/-- The reading method of a class of streams, which lacks the stream to read. -/
def readWithoutStream (className : String) : Fault :=
  .badType ("unbound method " ++ className ++ ".read() needs an argument")

/-- The named member of a value. Only driver objects have members of their own; a class of streams
has the method of its streams. -/
def member? (v : Value) (name : String) : Option (Member Value) :=
  match v with
  | .object _ _ _ _ members => members.lookup name
  | .typeRef "_io" className =>
    if name == "read" then some (.method (.error (readWithoutStream className))) else none
  | _ => none

def emptyOf? (module name : String) : Option Value :=
  match module, name with
  | "builtins", "int" => some (.int 0)
  | "builtins", "bool" => some (.bool false)
  | "builtins", "float" => some (.float (.finite false 0))
  | "builtins", "str" => some (.text "")
  | "builtins", "bytes" => some (.bytes [])
  | "builtins", "bytearray" => some (.buffer .growable [])
  | "builtins", "list" => some (.list [])
  | "builtins", "tuple" => some (.tuple [])
  | "builtins", "dict" => some (.dict [])
  | "builtins", "NoneType" => some .null
  | "decimal", "Decimal" => some (.decimal (.finite false 0 0))
  | "datetime", "timedelta" => some (.span ⟨0⟩)
  | "datetime", "time" => some (.time default)
  | "_io", "StringIO" => some (.textStream "")
  | "_io", "BytesIO" => some (.byteStream [])
  | _, _ => none

/-- What a class says when it is called without the arguments that it needs. -/
def missingArgument (module name : String) : Fault :=
  match module, name with
  | "datetime", "date" | "datetime", "datetime" =>
    .badType "function missing required argument 'year' (pos 1)"
  | "uuid", "UUID" =>
    .badType "one of the hex, bytes, bytes_le, fields, or int arguments must be given"
  | "builtins", "memoryview" => .badType "memoryview() missing required argument 'object' (pos 1)"
  | _, _ => .badType (name ++ "() missing required argument")

def callClass (module name : String) : Except Fault Value :=
  match emptyOf? module name with
  | some v => .ok v
  | none => .error (missingArgument module name)

end Value

/-- The outcome of calling a member, where it can be called. -/
def Member.call? : Member Value → Option (Except Fault Value)
  | .method outcome => some outcome
  | .attribute (.typeRef module name) => some (Value.callClass module name)
  | .attribute _ => none

namespace Value

/-- The outcome of calling the named member, where there is one that can be called. -/
def call? (v : Value) (name : String) : Option (Except Fault Value) :=
  (v.member? name).bind Member.call?

def missingMember (v : Value) (name : String) : Fault :=
  let owner := match v with
    | .typeRef module className =>
        "type object '" ++ Text.clip 50 (implementedName module className) ++ "'"
    | v => "'" ++ v.faultName 50 ++ "' object"
  ⟨.missingAttribute, owner ++ " has no attribute '" ++ name ++ "'", none⟩

def call (v : Value) (name : String) : Except Fault Value :=
  match v.member? name with
  | none => .error (missingMember v name)
  | some (.attribute a) =>
    match Member.call? (.attribute a) with
    | some outcome => outcome
    | none => .error (.badType ("'" ++ a.faultName 200 ++ "' object is not callable"))
  | some (.method outcome) => outcome

/-- A method that is handed around as a value. Its text names the object that has it. -/
def methodValue (v : Value) : Value :=
  .sealed "builtins" "method" ("<bound method of " ++ v.classShown ++ ">")

/-- The value of a named member, whether it is an attribute or a method. -/
def attribute? (v : Value) (name : String) : Option Value :=
  match v.member? name with
  | some (.attribute a) => some a
  | some (.method _) => some v.methodValue
  | none => none

/-- The class name by which a bridge or a module knows the implementation of a value. An object
that has a class of another runtime reports the name of that one. -/
def implementationName (v : Value) : Except Fault String :=
  match v.call? "getClass" with
  | some outcome => do
    let cls ← outcome
    let name ← cls.call "getName"
    name.display
  | none => .ok v.qualifiedName

end Value

end StatementWalk
