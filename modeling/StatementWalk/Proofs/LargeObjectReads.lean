import StatementWalk.Proofs.CellFaults
import StatementWalk.Proofs.CellText
import StatementWalk.Proofs.NoticeCodes
import StatementWalk.Proofs.Recording
import StatementWalk.Proofs.Utf8Text

/-!
# Reading large objects once

A large object is classified, and then its content is read: a buffer is copied, and every other one
that says what it holds is asked by a call of its reading method. Recording these calls shows that
normalizing a cell makes exactly one, so nothing is lost where a second call would find the object
used up. The content comes out as bytes or, for an object of characters, as text.
-/

namespace StatementWalk

open Text Dialect

namespace Value

variable {v : Value} {declared : String} {said : Except Fault String} {answer : Except Fault Value}

/-- What tells the kind of a large object: the text of its type, which the type may fail to give, if
it has a type that counts as true, else its class name. -/
inductive SaysType (v : Value) : Except Fault String → Prop where
  | type {t : Value} {said : Except Fault String} (htype : v.attribute? "type" = some t)
      (htruthy : t.isTruthy = true) (htext : t.display = said) : SaysType v said
  | className (htype : ∀ t, v.attribute? "type" = some t → t.isTruthy = false) :
      SaysType v (.ok v.className)

/-- The object holds characters: it is a stream of text, or says so in any case of letters. -/
def IsCharacterObject (v : Value) (declared : String) : Prop :=
  (∃ unread, v = .textStream unread) ∨ "CLOB".toList <:+: upperChars declared.toList

/-- What a call of the reading method answers, if there is one. Streams give what is still
unread. -/
def readAnswer? : Value → Option (Except Fault Value)
  | .buffer .. => none
  | .textStream unread => some (.ok (.text unread))
  | .byteStream unread => some (.ok (.bytes unread))
  | v => v.call? "read"

theorem hasInfix_iff {pattern cs : List Char} : hasInfix pattern cs = true ↔ pattern <:+: cs := by
  induction cs with
  | nil => simp [hasInfix]
  | cons c rest ih =>
      rw [hasInfix, Bool.or_eq_true, List.isPrefixOf_iff_prefix, ih, List.infix_cons_iff]

theorem isCharacterObject_iff (hstream : ∀ unread, v ≠ .textStream unread) :
    v.IsCharacterObject declared ↔ namesCharacters declared = true := by
  constructor
  · rintro (⟨unread, hv⟩ | hnames)
    · exact absurd hv (hstream unread)
    · exact hasInfix_iff.mpr hnames
  · intro hnames
    exact .inr (hasInfix_iff.mp hnames)

inductive IsLargeObject (v : Value) : Prop where
  | buffer {kind : BufferKind} {bs : Bytes} (hv : v = .buffer kind bs)
  | readable {answer : Except Fault Value} (hread : v.readAnswer? = some answer)

theorem largeObjectType_of_saysType (h : v.SaysType said) : v.largeObjectType = said := by
  unfold largeObjectType
  cases h with
  | type htype htruthy htext =>
      rw [htype]
      simp only [htruthy, if_true, htext]
  | className htype =>
      cases hattribute : v.attribute? "type" with
      | none => rfl
      | some t => simp only [htype t hattribute, Bool.false_eq_true, if_false]

theorem call_of_call? {name : String} (h : v.call? name = some answer) : v.call name = answer := by
  unfold call? at h
  unfold call
  cases hmember : v.member? name with
  | none =>
      rw [hmember] at h
      cases h
  | some m =>
      rw [hmember] at h
      rcases m with a | outcome
      · have hcall : Member.call? (.attribute a) = some answer := h
        simp only [hcall]
      · exact Option.some.inj h

theorem readLargeObject_of_readAnswer (h : v.readAnswer? = some answer) :
    v.readLargeObject = answer := by
  cases v with
  | buffer kind bs => cases h
  | textStream unread => exact Option.some.inj h
  | byteStream unread => exact Option.some.inj h
  | _ => exact call_of_call? h

theorem largeObjectKind_of_call? (hread : v.call? "read" = some answer)
    (hdeclared : v.SaysType (.ok declared)) (hstream : ∀ unread, v ≠ .textStream unread) :
    ∃ kind, v.largeObjectKind = .ok (some kind) ∧
      (kind = .character ↔ v.IsCharacterObject declared) := by
  refine ⟨if namesCharacters declared then .character else .binary, ?_, ?_⟩
  · rw [largeObjectKind_of_call hread, largeObjectType_of_saysType hdeclared]
    rfl
  · rw [isCharacterObject_iff hstream]
    cases namesCharacters declared <;> decide

theorem largeObjectKind_of_readAnswer (hread : v.readAnswer? = some answer)
    (hdeclared : v.SaysType (.ok declared)) :
    ∃ kind, v.largeObjectKind = .ok (some kind) ∧
      (kind = .character ↔ v.IsCharacterObject declared) := by
  cases v with
  | buffer kind bs => cases hread
  | textStream unread => exact ⟨.character, rfl, by simp [IsCharacterObject]⟩
  | byteStream unread =>
      refine ⟨.binary, rfl, ?_⟩
      have hclass : declared = "BytesIO" := by
        cases hdeclared with
        | type htype => cases htype
        | className => rfl
      rw [isCharacterObject_iff (by simp), hclass]
      decide
  | _ => exact largeObjectKind_of_call? hread hdeclared (by simp)

theorem largeObjectKind_of_untold {f : Fault} (hread : v.readAnswer? = some answer)
    (hsaid : v.SaysType (.error f)) : v.largeObjectKind = .error f := by
  cases v with
  | buffer kind bs => cases hread
  | textStream unread =>
      cases hsaid with
      | type htype => cases htype
  | byteStream unread =>
      cases hsaid with
      | type htype => cases htype
  | _ => exact largeObjectKind_eq_error.mpr ⟨⟨_, hread⟩, largeObjectType_of_saysType hsaid⟩

section Recorded

variable {σ α : Type}

/-- Reads a large object, with a record of the call of its reading method. -/
def readRecorded (v : Value) : Action (Recorded σ (Except Fault Value)) Value :=
  match v with
  | .buffer .. => Action.ofExcept v.readLargeObject
  | v => recording id (Action.ofExcept v.readLargeObject)

def materializedRecorded (v : Value) : Action (Recorded σ (Except Fault Value)) Value := do
  match ← Action.ofExcept v.largeObjectKind with
  | some _ => v.readRecorded
  | none => return v

def contentRecorded (content : Value → Except Fault α) (v : Value) :
    Action (Recorded σ (Except Fault Value)) α := do
  Action.ofExcept (content (← v.materializedRecorded))

def toTextRecorded : Value → Action (Recorded σ (Except Fault Value)) (Option String)
  | .null => return none
  | .text s => return some s
  | v => some <$> v.contentRecorded textOfContent

def toBytesRecorded : Value → Action (Recorded σ (Except Fault Value)) (Option Bytes)
  | .null => return none
  | .bytes bs => return some bs
  | v => some <$> v.contentRecorded bytesOfContent

theorem same_readRecorded (v : Value) :
    Same Unrecorded (v.readRecorded (σ := σ)) (Action.ofExcept v.readLargeObject) := by
  cases v with
  | buffer kind bs =>
      rintro s t rfl
      exact ⟨_, s, s.driver, rfl, rfl, rfl⟩
  | _ => exact same_recording id _

theorem same_materializedRecorded (v : Value) :
    Same Unrecorded (v.materializedRecorded (σ := σ)) (Action.ofExcept v.materialized) := by
  unfold materializedRecorded materialized
  rw [Action.ofExcept_bind]
  apply (Same.ofExcept v.largeObjectKind).bind
  intro kind
  cases kind with
  | none => exact .pure v
  | some kind => exact same_readRecorded v

theorem same_contentRecorded (content : Value → Except Fault α) (v : Value) :
    Same Unrecorded (v.contentRecorded (σ := σ) content)
      (Action.ofExcept (v.materialized >>= content)) := by
  rw [Action.ofExcept_bind]
  exact (same_materializedRecorded v).bind fun w => .ofExcept (content w)

theorem toText_eq (hnull : v ≠ .null) (htext : ∀ s, v ≠ .text s) :
    v.toText = some <$> (v.materialized >>= textOfContent) := by
  cases v with
  | null => exact absurd rfl hnull
  | text s => exact absurd rfl (htext s)
  | _ => simp only [toText, map_bind, bind_pure_comp]

theorem toBytes_eq (hnull : v ≠ .null) (hbytes : ∀ bs, v ≠ .bytes bs) :
    v.toBytes = some <$> (v.materialized >>= bytesOfContent) := by
  cases v with
  | null => exact absurd rfl hnull
  | bytes bs => exact absurd rfl (hbytes bs)
  | _ => simp only [toBytes, map_bind, bind_pure_comp]

theorem same_toTextRecorded (v : Value) :
    Same Unrecorded (v.toTextRecorded (σ := σ)) (Action.ofExcept v.toText) := by
  cases v with
  | null => exact .pure none
  | text s => exact .pure (some s)
  | _ =>
      rw [toText_eq (by simp) (by simp), Action.ofExcept_map]
      exact (same_contentRecorded textOfContent _).map some

theorem same_toBytesRecorded (v : Value) :
    Same Unrecorded (v.toBytesRecorded (σ := σ)) (Action.ofExcept v.toBytes) := by
  cases v with
  | null => exact .pure none
  | bytes bs => exact .pure (some bs)
  | _ =>
      rw [toBytes_eq (by simp) (by simp), Action.ofExcept_map]
      exact (same_contentRecorded bytesOfContent _).map some

/-- Reading an object that can be read makes one call. -/
theorem run_readRecorded (hread : v.readAnswer? = some answer)
    (s : Recorded σ (Except Fault Value)) :
    v.readRecorded.run s = (answer, ⟨s.driver, s.calls ++ [answer]⟩) := by
  have hanswer := readLargeObject_of_readAnswer hread
  cases v with
  | buffer kind bs => cases hread
  | _ => exact run_recording_eq (by rw [hanswer, Action.run_ofExcept])

theorem run_contentRecorded {kind : LargeObjectKind} (hkind : v.largeObjectKind = .ok (some kind))
    {s t : Recorded σ (Except Fault Value)} (hread : v.readRecorded.run s = (answer, t))
    (content : Value → Except Fault α) :
    (v.contentRecorded content).run s = (answer >>= content, t) := by
  have hmaterialized : v.materializedRecorded.run s = (answer, t) := by
    rw [materializedRecorded, hkind, Action.run_bind_ok (Action.run_ofExcept _ s)]
    exact hread
  cases answer with
  | error f => exact Action.run_bind_error hmaterialized
  | ok w => exact Action.run_bind_ok hmaterialized

end Recorded

end Value

/-- The conversion with a record of the calls of reading methods. Timestamps and dates are not asked
of the content of a large object. -/
def Reading.convertRecorded {σ : Type} :
    Reading → Value → Action (Recorded σ (Except Fault Value)) Value
  | .text, v => Value.ofText? <$> v.toTextRecorded
  | .bytes, v => Value.ofBytes? <$> v.toBytesRecorded
  | .timestamp, v => Action.ofExcept (Reading.timestamp.convert v)
  | .date, v => Action.ofExcept (Reading.date.convert v)

theorem Reading.same_convertRecorded {σ : Type} (reading : Reading) (v : Value) :
    Same Unrecorded (reading.convertRecorded (σ := σ) v) (Action.ofExcept (reading.convert v)) := by
  cases reading with
  | text =>
      rw [convert, Action.ofExcept_map]
      exact v.same_toTextRecorded.map Value.ofText?
  | bytes =>
      rw [convert, Action.ofExcept_map]
      exact v.same_toBytesRecorded.map Value.ofBytes?
  | timestamp =>
      rintro s t rfl
      exact ⟨_, s, s.driver, rfl, rfl, rfl⟩
  | date =>
      rintro s t rfl
      exact ⟨_, s, s.driver, rfl, rfl, rfl⟩

def LargeObjectKind.content : LargeObjectKind → Value → Except Fault Value
  | .binary, w => .bytes <$> w.bytesOfContent
  | .character, w => .text <$> w.textOfContent

theorem convertRecorded_of_kind {σ : Type} {kind : LargeObjectKind} {v : Value}
    (hkind : v.largeObjectKind = .ok (some kind)) :
    (readingOfKind kind).convertRecorded (σ := σ) v = v.contentRecorded kind.content := by
  have hcontent {α β : Type} (f : α → β) (content : Value → Except Fault α) :
      f <$> v.contentRecorded (σ := σ) content = v.contentRecorded fun w => f <$> content w := by
    simp only [Value.contentRecorded, map_bind, Action.ofExcept_map]
  cases kind with
  | binary =>
      have hbytes : v.toBytesRecorded (σ := σ) =
          some <$> v.contentRecorded Value.bytesOfContent := by
        cases v with
        | null => cases hkind
        | bytes bs => cases hkind
        | _ => rfl
      rw [readingOfKind, Reading.convertRecorded, hbytes, Functor.map_map]
      exact hcontent Value.bytes Value.bytesOfContent
  | character =>
      have htext : v.toTextRecorded (σ := σ) = some <$> v.contentRecorded Value.textOfContent := by
        cases v with
        | null => cases hkind
        | text s => cases hkind
        | _ => rfl
      rw [readingOfKind, Reading.convertRecorded, htext, Functor.map_map]
      exact hcontent Value.text Value.textOfContent

def besideRecord {σ γ α : Type} (x : Action σ α) : Action (Recorded σ γ) α :=
  x.within Recorded.driver fun t s => { s with driver := t }

theorem same_besideRecord {σ γ α : Type} (x : Action σ α) :
    Same (Unrecorded (σ := σ) (γ := γ)) (besideRecord x) x := by
  rintro s t rfl
  exact ⟨_, _, _, rfl, rfl, rfl⟩

theorem run_besideRecord {σ γ α : Type} {x : Action σ α} {s : Recorded σ γ}
    {r : Except Fault α} {t : σ}
    (h : x.run s.driver = (r, t)) : (besideRecord x).run s = (r, ⟨t, s.calls⟩) := by
  show ((x.run s.driver).1, Recorded.mk (x.run s.driver).2 s.calls) = _
  rw [h]

namespace Session

variable {κ : Type} {b : Backend} {c : Cursor κ} {i : Nat} {index : Int} {columns : List Column}
  {column : Column} {raw : Value} {s : Session κ}

def readCellRecorded (c : Cursor κ) (i : Nat) (reading : Reading) (index : Int) :
    Action (Recorded (Session κ) (Except Fault Value)) Value := do
  let v ← Action.ofExcept (cell c i index (← Action.state).driver)
  besideRecord (Action.modify (afterRead i reading index))
  reading.convertRecorded v

/-- The result set with a record of the calls that it makes of reading methods. -/
def resultSetRecorded (b : Backend) (c : Cursor κ) (i : Nat) (columns : List Column) :
    ResultSet (Recorded (Session κ) (Except Fault Value)) where
  className := (resultSet b c i columns).className
  columns := columns
  nextRow := besideRecord (nextRow c i)
  getObject index := besideRecord (readObject b c i index)
  get := readCellRecorded c i
  close := besideRecord (closeHandle i)
  reach s := c.rowsLeft s.driver.cursor

theorem readCell_eq (c : Cursor κ) (i : Nat) (reading : Reading) (index : Int) :
    readCell c i reading index = (do
      let v ← Action.ofExcept (cell c i index (← Action.state))
      Action.modify (afterRead i reading index)
      Action.ofExcept (reading.convert v)) := by
  cases reading <;> rfl

theorem same_readCellRecorded (c : Cursor κ) (i : Nat) (reading : Reading) (index : Int) :
    Same Unrecorded (readCellRecorded c i reading index) (readCell c i reading index) := by
  rw [readCell_eq]
  apply Same.state
  rintro s t rfl
  apply (Same.ofExcept (cell c i index s.driver)).bind
  intro v
  apply (same_besideRecord _).bind
  intro _
  exact reading.same_convertRecorded v

theorem matches_resultSetRecorded (b : Backend) (c : Cursor κ) (i : Nat) (columns : List Column) :
    (resultSetRecorded b c i columns).Matches Unrecorded (resultSet b c i columns) where
  className_eq := rfl
  columns_eq := rfl
  nextRow := same_besideRecord _
  getObject _ := same_besideRecord _
  get reading index := same_readCellRecorded c i reading index
  close := same_besideRecord _
  reach h := congrArg (fun t : Session κ => c.rowsLeft t.cursor) h

theorem run_readCellRecorded_ok {s : Recorded (Session κ) (Except Fault Value)}
    (h : cell c i index s.driver = .ok raw) (reading : Reading) :
    (readCellRecorded c i reading index).run s =
      (reading.convertRecorded raw).run ⟨afterRead i reading index s.driver, s.calls⟩ := by
  have hafter : (besideRecord (Action.modify (afterRead i reading index))).run s =
      (.ok (), ⟨afterRead i reading index s.driver, s.calls⟩) :=
    run_besideRecord (Action.run_modify _ _)
  rw [readCellRecorded, Action.run_bind_ok (Action.run_state s), h,
    Action.run_bind_ok (Action.run_ofExcept (.ok raw) s), Action.run_bind_ok hafter]

theorem atPosition?_recorded (h : HoldsCell c i columns column raw s) (b : Backend) :
    atPosition? (resultSetRecorded b c i columns).columns (column.position - 1) = some column :=
  (h.reads b).column_eq

/-- In an unconverted column the generic read gives the raw value. -/
theorem run_getObject_recorded (h : HoldsCell c i columns column raw s)
    (htarget : b.dialect.conversionTarget? column = none) :
    ((resultSetRecorded b c i columns).getObject column.position).run ⟨s, []⟩ =
      (.ok raw, ⟨s, []⟩) := by
  have hplain := (h.reads b).object
  rw [except_ok_bind, readObject_unconverted htarget] at hplain
  exact run_besideRecord hplain

/-- What a cell with a large object becomes, and what is left, by what reading the object gives. -/
theorem run_normalize_large (h : HoldsCell c i columns column raw s)
    (htarget : b.dialect.conversionTarget? column = none) {kind : LargeObjectKind}
    (hkind : raw.largeObjectKind = .ok (some kind)) {answer : Except Fault Value}
    {t : Recorded (Session κ) (Except Fault Value)}
    (hread : raw.readRecorded.run ⟨afterRead i (readingOfKind kind) column.position s, []⟩ =
      (answer, t)) (j : Journal) :
    (normalize b.dialect (resultSetRecorded b c i columns) column.position).run ⟨⟨s, []⟩, j⟩ =
      ((answer >>= kind.content).mapError (cellFault · column.position), ⟨t, j⟩) := by
  have hraw : raw ≠ .null := by
    rintro rfl
    cases hkind
  obtain ⟨q, hq, hreading⟩ := exists_correctionOf_of_kind hkind b.dialect column
  have hget : ((resultSetRecorded b c i columns).get (q.reading column) column.position).run
      ⟨s, []⟩ = (answer >>= kind.content, t) := by
    rw [hreading]
    refine (run_readCellRecorded_ok h.cell_eq (readingOfKind kind)).trans ?_
    rw [convertRecorded_of_kind hkind]
    exact Value.run_contentRecorded hkind hread kind.content
  exact run_normalize_reread (atPosition?_recorded h b)
    (run_getObject_recorded h htarget) hraw hq hget j

theorem run_normalize_untold (h : HoldsCell c i columns column raw s)
    (htarget : b.dialect.conversionTarget? column = none) {f : Fault}
    (hkind : raw.largeObjectKind = .error f) (j : Journal) :
    (normalize b.dialect (resultSetRecorded b c i columns) column.position).run ⟨⟨s, []⟩, j⟩ =
      (.error f, ⟨⟨s, []⟩, j⟩) := by
  have hraw : raw ≠ .null := by
    rintro rfl
    cases hkind
  exact run_normalize_unclassified (atPosition?_recorded h b)
    (run_getObject_recorded h htarget) hraw
    (correctionOf_eq_error_iff.mpr (.inl hkind)) j

end Session

/-- What a large object in the column at a position becomes by what it says of itself, with the
calls of its reading method. Of an answer that is neither text nor bytes no more is said than that
the method was called once. -/
inductive Materializes (position : Int) (v : Value) :
    Except Fault String → Except Fault Value → List (Except Fault Value) → Prop where
  | copied {said : Except Fault String} {kind : BufferKind} {bs : Bytes}
      (hv : v = .buffer kind bs) :
      Materializes position v said (.ok (.bytes bs)) []
  | bytes {declared : String} {bs : Bytes} (hread : v.readAnswer? = some (.ok (.bytes bs)))
      (hkind : ¬v.IsCharacterObject declared) :
      Materializes position v (.ok declared) (.ok (.bytes bs)) [.ok (.bytes bs)]
  | encoded {declared t : String} (hread : v.readAnswer? = some (.ok (.text t)))
      (hkind : ¬v.IsCharacterObject declared) :
      Materializes position v (.ok declared) (.ok (.bytes (encodeUtf8 t))) [.ok (.text t)]
  | text {declared t : String} (hread : v.readAnswer? = some (.ok (.text t)))
      (hkind : v.IsCharacterObject declared) :
      Materializes position v (.ok declared) (.ok (.text t)) [.ok (.text t)]
  | decoded {declared : String} {bs : Bytes} {t : String}
      (hread : v.readAnswer? = some (.ok (.bytes bs))) (hkind : v.IsCharacterObject declared)
      (ht : encodeUtf8 t = bs) :
      Materializes position v (.ok declared) (.ok (.text t)) [.ok (.bytes bs)]
  | undecodable {declared : String} {bs : Bytes} {g : Fault}
      (hread : v.readAnswer? = some (.ok (.bytes bs))) (hkind : v.IsCharacterObject declared)
      (ht : ∀ t, encodeUtf8 t ≠ bs) (hg : g.kind = .valueRead (some position)) :
      Materializes position v (.ok declared) (.error g) [.ok (.bytes bs)]
  | failed {declared : String} {f g : Fault} (hread : v.readAnswer? = some (.error f))
      (hg : g.kind.column? = some (f.kind.column?.getD position)) :
      Materializes position v (.ok declared) (.error g) [.error f]
  | other {declared : String} {w : Value} {r : Except Fault Value}
      (hread : v.readAnswer? = some (.ok w)) (htext : ∀ t, w ≠ .text t)
      (hbytes : ∀ bs, w ≠ .bytes bs) :
      Materializes position v (.ok declared) r [.ok w]
  | untold {answer : Except Fault Value} {f g : Fault} (hread : v.readAnswer? = some answer) :
      Materializes position v (.error f) (.error g) []

section Materializes

variable {position : Int} {v : Value} {declared : String}

/-- An object of characters that gives bytes becomes the text that they write, if they write one. -/
theorem materializes_decoded {bs : Bytes} (hread : v.readAnswer? = some (.ok (.bytes bs)))
    (hkind : v.IsCharacterObject declared) :
    Materializes position v (.ok declared)
      ((LargeObjectKind.character.content (.bytes bs)).mapError (cellFault · position))
      [.ok (.bytes bs)] := by
  have hcontent : LargeObjectKind.character.content (.bytes bs) =
      Value.text <$> (decodeUtf8 bs).mapError Fault.ofRefusal := rfl
  rw [hcontent]
  cases hdecode : decodeUtf8 bs with
  | ok t => exact .decoded hread hkind (decodeUtf8_eq_ok.mp hdecode)
  | error refusal =>
      have hnone : ∀ t, encodeUtf8 t ≠ bs := by
        intro t ht
        cases hdecode.symm.trans (decodeUtf8_eq_ok.mpr ht)
      exact .undecodable hread hkind hnone rfl

theorem materializes_of_answer {answer : Except Fault Value} {kind : LargeObjectKind}
    (hread : v.readAnswer? = some answer)
    (hkind : kind = .character ↔ v.IsCharacterObject declared) :
    Materializes position v (.ok declared)
      ((answer >>= kind.content).mapError (cellFault · position)) [answer] := by
  cases answer with
  | error f => exact .failed hread (column?_cellFault f position)
  | ok w =>
      rw [except_ok_bind]
      cases kind with
      | binary =>
          have hbinary : ¬v.IsCharacterObject declared := by
            rw [← hkind]
            decide
          cases w with
          | text t => exact .encoded hread hbinary
          | bytes bs => exact .bytes hread hbinary
          | _ => exact .other hread (by simp) (by simp)
      | character =>
          have hcharacter := hkind.mp rfl
          cases w with
          | text t => exact .text hread hcharacter
          | bytes bs => exact materializes_decoded hread hcharacter
          | _ => exact .other hread (by simp) (by simp)

end Materializes

namespace Session

/-- A large object in an unconverted column is read completely by a single call of its reading
method, a buffer is copied without one, and an object whose type has no text is not read. -/
theorem large_object_read_once {κ : Type} {b : Backend} {c : Cursor κ} {i : Nat} {s : Session κ}
    {columns : List Column} {column : Column} {raw : Value} {said : Except Fault String}
    (h : HoldsCell c i columns column raw s) (htarget : b.dialect.conversionTarget? column = none)
    (hlarge : raw.IsLargeObject) (hsaid : raw.SaysType said) (j : Journal) :
    let out := (normalize b.dialect (resultSetRecorded b c i columns) column.position).run
      ⟨⟨s, []⟩, j⟩
    out.1 = ((normalize b.dialect (resultSet b c i columns) column.position).run ⟨s, j⟩).1 ∧
      Materializes column.position raw said out.1 out.2.driver.calls := by
  constructor
  -- The record goes beside the run: both result sets answer every call alike.
  · obtain ⟨r, w, v, hrecorded, hplain, -⟩ :=
      (matches_resultSetRecorded b c i columns).agree_normalize (d := b.dialect) column.position
        ⟨⟨s, []⟩, j⟩ ⟨s, j⟩ ⟨rfl, rfl⟩
    rw [hrecorded, hplain]
  · cases hlarge with
    | buffer hv =>
        subst hv
        rw [run_normalize_large h htarget rfl rfl]
        exact .copied rfl
    | readable hread =>
        cases said with
        | error f =>
            -- The generic read asks nothing of the object, and no second read follows it.
            rw [run_normalize_untold h htarget (Value.largeObjectKind_of_untold hread hsaid)]
            exact .untold hread
        | ok declared =>
            obtain ⟨kind, hkind, hcharacter⟩ := Value.largeObjectKind_of_readAnswer hread hsaid
            rw [run_normalize_large h htarget hkind (Value.run_readRecorded hread _)]
            exact materializes_of_answer hread hcharacter

def objectColumn : Column where
  position := 1
  label := "c"

def lob (type : Value) (answer : Except Fault Value) : Value :=
  .object "oracledb" "LOB" "<LOB>" false [("type", .attribute type), ("read", .method answer)]

/-- An object of characters whose content comes as bytes. -/
def encodedLob : Value := lob (.text "DB_TYPE_CLOB") (.ok (.bytes [0xC3, 0xA9]))

theorem encoded_lob_read_once :
    Materializes 1 encodedLob (.ok "DB_TYPE_CLOB")
      ((normalize .oracle
        (resultSetRecorded (.ofDialect .oracle) ScriptedCursor.cursor 0 [objectColumn]) 1).run
          ⟨⟨atCell .oracle [.text "c"] encodedLob, []⟩, {}⟩).1
      ((normalize .oracle
        (resultSetRecorded (.ofDialect .oracle) ScriptedCursor.cursor 0 [objectColumn]) 1).run
          ⟨⟨atCell .oracle [.text "c"] encodedLob, []⟩, {}⟩).2.driver.calls := by
  have hholds : HoldsCell ScriptedCursor.cursor 0 [objectColumn] objectColumn encodedLob
      (atCell .oracle [.text "c"] encodedLob) := ⟨rfl, rfl, rfl⟩
  have hlarge : encodedLob.IsLargeObject := .readable rfl
  have hsaid : encodedLob.SaysType (.ok "DB_TYPE_CLOB") := .type rfl rfl rfl
  exact (large_object_read_once (b := .ofDialect .oracle) hholds rfl hlarge hsaid {}).2

def strayLob : Value := lob (.text "DB_TYPE_BLOB") (.error ⟨.valueRead (some 7), "gone", none⟩)

def untoldLob : Value := lob (.int Number.digitBound) (.ok (.bytes []))

theorem saysType_untoldLob :
    untoldLob.SaysType (.error (.badValue (Number.limitMessage ++ Number.limitAdvice))) := by
  have hlong : ¬((Number.digitBound : Nat) : Int).natAbs < Number.digitBound := by
    rw [Int.natAbs_natCast]
    exact Nat.lt_irrefl _
  have htruthy : (Value.int Number.digitBound).isTruthy = true := by
    have hpos := Number.zero_lt_digitBound
    rw [Value.isTruthy, bne_iff_ne]
    omega
  exact .type rfl htruthy ((Value.display_int _).trans (Number.intText_eq_error hlong))

/-- A failed read that names a column keeps it, whichever column the object is in; and an object
whose type has no text is not read. -/
theorem failed_read_keeps_its_column_and_untold_is_unread :
    oracle.conversionTarget? objectColumn = none ∧
      (HoldsCell ScriptedCursor.cursor 0 [objectColumn] objectColumn strayLob
          (atCell .oracle [.text "c"] strayLob) ∧
        (∃ f, strayLob.readAnswer? = some (.error f)) ∧
        ¬∃ g, ((normalize .oracle
            (resultSet (.ofDialect .oracle) ScriptedCursor.cursor 0 [objectColumn]) 1).run
              ⟨atCell .oracle [.text "c"] strayLob, {}⟩).1 = .error g ∧
          g.kind.column? = some objectColumn.position) ∧
      HoldsCell ScriptedCursor.cursor 0 [objectColumn] objectColumn untoldLob
          (atCell .oracle [.text "c"] untoldLob) ∧
        untoldLob.readAnswer? = some (.ok (.bytes [])) ∧
        ∃ f, (normalize .oracle
            (resultSetRecorded (.ofDialect .oracle) ScriptedCursor.cursor 0 [objectColumn]) 1).run
              ⟨⟨atCell .oracle [.text "c"] untoldLob, []⟩, {}⟩ =
          (.error f, ⟨⟨atCell .oracle [.text "c"] untoldLob, []⟩, {}⟩) := by
  have huntold : HoldsCell ScriptedCursor.cursor 0 [objectColumn] objectColumn untoldLob
      (atCell .oracle [.text "c"] untoldLob) := ⟨rfl, rfl, rfl⟩
  have hkind := Value.largeObjectKind_of_untold rfl saysType_untoldLob
  refine ⟨rfl, ⟨⟨rfl, rfl, rfl⟩, ⟨_, rfl⟩, ?_⟩, huntold, rfl, _,
    run_normalize_untold (b := .ofDialect .oracle) huntold rfl hkind {}⟩
  rintro ⟨g, hg, hcolumn⟩
  obtain rfl := Except.error.inj hg
  revert hcolumn
  decide

end Session

end StatementWalk
