import StatementWalk.Text.CaseTable

/-!
# Letter case

Upper case, lower case and the folding that ignores case, over every script. All three may lengthen
a text. Only lower case looks at the neighbours of a character: a capital sigma that ends a word
has a form of its own.
-/

namespace StatementWalk.Text

def upperChar (c : Char) : List Char :=
  if c.toNat < 0x80 then [if 'a' ≤ c ∧ c ≤ 'z' then Char.ofNat (c.toNat - 32) else c]
  else upperTable.map c

def lowerChar (c : Char) : List Char :=
  if c.toNat < 0x80 then [if 'A' ≤ c ∧ c ≤ 'Z' then Char.ofNat (c.toNat + 32) else c]
  else lowerTable.map c

def foldChar (c : Char) : List Char :=
  if c.toNat < 0x80 then lowerChar c else foldTable.map c

/-- Characters that a sigma looks through when it asks whether it ends a word. -/
def isCaseIgnorable (c : Char) : Bool := inRanges caseIgnorableRanges c.toNat

def isCased (c : Char) : Bool := inRanges casedRanges c.toNat

/-- Whether the first character that is not looked through has a case. -/
def startsCased (cs : List Char) : Bool :=
  match cs.find? (!isCaseIgnorable ·) with
  | some c => isCased c
  | none => false

/-- Lower case after a part that ends in a cased character or does not. -/
def lowerAfter (cased : Bool) : List Char → List Char
  | [] => []
  | c :: rest =>
    let here :=
      if c == 'Σ' then [if cased && !startsCased rest then 'ς' else 'σ'] else lowerChar c
    here ++ lowerAfter (if isCaseIgnorable c then cased else isCased c) rest

def upperChars (cs : List Char) : List Char := cs.flatMap upperChar

def lowerChars (cs : List Char) : List Char := lowerAfter false cs

def foldChars (cs : List Char) : List Char := cs.flatMap foldChar

/-- The text by which names are compared without regard to case. -/
def foldCase (s : String) : String := String.ofList (foldChars s.toList)

end StatementWalk.Text
