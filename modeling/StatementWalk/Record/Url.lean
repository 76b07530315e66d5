import StatementWalk.Number.IntText
import StatementWalk.Text.Alphanumeric

/-!
# Connection addresses

The address of a database begins with the name of a dialect, perhaps joined by plus signs to the
name of a driver, then has credentials, a host with a port, and more that is not looked at. Only
the port is checked.
-/

namespace StatementWalk

open Text Number

structure Url where
  names : List String
  port : Option Int
deriving DecidableEq, Repr

namespace Url

def dropStart? : List Char → List Char → Option (List Char)
  | [], cs => some cs
  | p :: ps, c :: cs => if p == c then dropStart? ps cs else none
  | _ :: _, [] => none

/-- What follows the last occurrence of a character, if there is one. -/
def afterLast? (mark : Char) (cs : List Char) : Option (List Char) :=
  if cs.contains mark then some (cs.reverse.takeWhile (· != mark)).reverse else none

/-- Drops a user name, with or without a password, up to its at sign. -/
def dropCredentials (cs : List Char) : List Char :=
  let inUser (c : Char) := c != ':' && c != '/'
  let user := cs.takeWhile inUser
  let rest := cs.dropWhile inUser
  let withPassword : Option (List Char) :=
    match rest with
    | ':' :: more =>
      match more.dropWhile (· != '@') with
      | '@' :: after => some after
      | _ => none
    | _ => none
  match withPassword with
  | some after => after
  | none =>
    match afterLast? '@' user with
    | some after => after ++ rest
    | none => cs

/-- Drops a host: a name, or an address in brackets. -/
def dropHost (cs : List Char) : List Char :=
  let inHost (c : Char) := c != '/' && c != '?'
  let plain := cs.dropWhile fun c => inHost c && c != ':'
  match cs with
  | '[' :: rest =>
    let inside := rest.takeWhile inHost
    match afterLast? ']' inside with
    | some after =>
        if after.length + 1 < inside.length then after ++ rest.dropWhile inHost else plain
    | none => plain
  | _ => plain

/-- The text of the port, which may be empty, if there is one. -/
def portText? (cs : List Char) : Option String :=
  match dropHost (dropCredentials cs) with
  | ':' :: rest => some (String.ofList (rest.takeWhile fun c => c != '/' && c != '?'))
  | _ => none

def isNameChar (c : Char) : Bool := isWordChar c || c == '+'

def splitAt (mark : Char) : List Char → List (List Char)
  | [] => [[]]
  | c :: rest =>
    if c == mark then [] :: splitAt mark rest
    else match splitAt mark rest with
      | part :: parts => (c :: part) :: parts
      | [] => [[c]]

def notAnAddress : Fault :=
  ⟨.general, "Could not parse SQLAlchemy URL from given URL string", none⟩

def parse (s : String) : Except Fault Url := do
  let cs := s.toList
  let name := cs.takeWhile isNameChar
  match name, dropStart? "://".toList (cs.dropWhile isNameChar) with
  | _ :: _, some rest =>
    let port ← match portText? rest with
      | some t => some <$> intOfText t
      | none => pure none
    return ⟨(splitAt '+' name).map String.ofList, port⟩
  | _, _ => .error notAnAddress

def dialectName (u : Url) : String := u.names.headD ""

/-- The name of the driver, empty if the address has none. -/
def driverName (u : Url) : String := (u.names.drop 1).headD ""

end Url

end StatementWalk
