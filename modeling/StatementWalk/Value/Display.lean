import StatementWalk.Value.Kind

/-!
# Texts of values

A value has a plain text, and a quoted form that is used inside collections and messages. Both fail
on an integer with too many digits to be written.
-/

namespace StatementWalk.Value

open Text Number Calendar

/-- An identifier in groups of eight, four, four, four and twelve digits. -/
def uuidText (n : Nat) : String :=
  let ds := hexDigits 32 n
  let part (i k : Nat) := String.ofList ((ds.drop i).take k)
  "-".intercalate [part 0 8, part 8 4, part 12 4, part 16 4, part 20 12]

def typeShown (module name : String) : String :=
  "<class '" ++ (if module == "builtins" then name else module ++ "." ++ name) ++ "'>"

/-- A form that names the class only, for values without a text of their own. -/
def classShown (v : Value) : String := "<" ++ v.qualifiedName ++ " object>"

/-- A tuple of one has a comma after its member. -/
def tupleShown : List String → String
  | [s] => "(" ++ s ++ ",)"
  | ss => "(" ++ ", ".intercalate ss ++ ")"

mutual

/-- How many collections lie inside one another. -/
def nesting : Value → Nat
  | .list items | .tuple items => nestingOfItems items + 1
  | .dict entries => nestingOfEntries entries + 1
  | _ => 0

def nestingOfItems : List Value → Nat
  | [] => 0
  | v :: rest => max (nesting v) (nestingOfItems rest)

def nestingOfEntries : List (Value × Value) → Nat
  | [] => 0
  | (k, v) :: rest => max (max (nesting k) (nesting v)) (nestingOfEntries rest)

end

/-- Collections that lie deeper are not shown. -/
def nestingLimit : Nat := 985

mutual

def quotedForm : Value → Except Fault String
  | .null => .ok "None"
  | .bool b => .ok (if b then "True" else "False")
  | .int n => intText n
  | .float x => .ok (Binary64.plain.write x)
  | .decimal x => .ok ("Decimal('" ++ x.text ++ "')")
  | .text s => .ok (quoted s)
  | .bytes bs => .ok (quotedBytes bs)
  | .buffer .growable bs => .ok ("bytearray(" ++ quotedBuffer bs ++ ")")
  | .buffer .view _ => .ok "<memory>"
  | .timestamp t => .ok t.shown
  | .date d => .ok d.shown
  | .time t => .ok t.shown
  | .span s => .ok s.shown
  | .uuid n => .ok ("UUID('" ++ uuidText n ++ "')")
  | .list items => do return "[" ++ ", ".intercalate (← quotedItems items) ++ "]"
  | .tuple items => do return tupleShown (← quotedItems items)
  | .dict entries => do return "\x7b" ++ ", ".intercalate (← quotedEntries entries) ++ "\x7d"
  | .typeRef module name => .ok (typeShown module name)
  | .textStream unread => .ok (classShown (.textStream unread))
  | .byteStream unread => .ok (classShown (.byteStream unread))
  | .sealed _ _ own => .ok own
  | .object module name own bound members =>
      .ok (classShown (.object module name own bound members))

def quotedItems : List Value → Except Fault (List String)
  | [] => .ok []
  | v :: rest => do return (← quotedForm v) :: (← quotedItems rest)

def quotedEntries : List (Value × Value) → Except Fault (List String)
  | [] => .ok []
  | (k, v) :: rest => do
      return ((← quotedForm k) ++ ": " ++ (← quotedForm v)) :: (← quotedEntries rest)

end

def shown (v : Value) : Except Fault String :=
  if nestingLimit < v.nesting then
    .error ⟨.nesting, "maximum recursion depth exceeded while getting the repr of an object", none⟩
  else v.quotedForm

def display : Value → Except Fault String
  | .text s => .ok s
  | .decimal x => .ok x.text
  | .timestamp t => .ok t.text
  | .date d => .ok d.text
  | .time t => .ok t.text
  | .span s => .ok s.text
  | .uuid n => .ok (uuidText n)
  | .object _ _ own _ _ => .ok own
  | v => shown v

end StatementWalk.Value
