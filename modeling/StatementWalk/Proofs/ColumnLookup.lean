import StatementWalk.Proofs.CaseFolding
import StatementWalk.Proofs.CellReading
import StatementWalk.Proofs.Recording
import StatementWalk.Proofs.StrippedText
import StatementWalk.Script.Cursor
import StatementWalk.Walk.Resolve

/-!
# Looking columns up by name

A name finds the first column whose label folds as the stored form of the name does. A label in
quotes is stored as it stands, so it always finds the first column that has it. A bare label goes
through the folding of its dialect: it finds its own column in every dialect, but for a label with a
dotless i where names are stored in upper case. Resolving a name reads the one cell of the column
that was found, or none.
-/

namespace StatementWalk

open Text

/-- A quote and the one that closes it. -/
inductive QuotePair : Char → Char → Prop where
  | double : QuotePair '"' '"'
  | grave : QuotePair '\u0060' '\u0060'
  | bracket : QuotePair '[' ']'

namespace QuotePair

variable {opening closing : Char}

theorem closingQuote?_eq_some_iff :
    Dialect.closingQuote? opening = some closing ↔ QuotePair opening closing := by
  constructor
  · intro h
    unfold Dialect.closingQuote? at h
    split at h <;> cases h
    · exact .double
    · exact .grave
    · exact .bracket
  · rintro (_ | _ | _) <;> rfl

theorem stripped (h : QuotePair opening closing) (inner : List Char) :
    Stripped (opening :: (inner ++ [closing])) := by
  have hblank : isBlank opening = false ∧ isBlank closing = false := by cases h <;> decide
  refine ⟨fun c hc => ?_, fun c hc => ?_⟩
  · obtain rfl := Option.some.inj hc
    exact hblank.1
  · rw [← List.cons_append, List.getLast?_concat] at hc
    obtain rfl := Option.some.inj hc
    exact hblank.2

end QuotePair

/-- A quote stands first, and last the one that closes it. -/
def Enclosed (cs : List Char) : Prop :=
  ∃ opening closing inner, QuotePair opening closing ∧ cs = opening :: (inner ++ [closing])

namespace Dialect

theorem unquoted?_enclosed {opening closing : Char} (h : QuotePair opening closing)
    (inner : List Char) :
    unquoted? (opening :: (inner ++ [closing])) = some inner := by
  rw [unquoted?, List.getLast?_concat, QuotePair.closingQuote?_eq_some_iff.mpr h,
    List.dropLast_concat]
  simp

theorem enclosed_of_unquoted? {cs inner : List Char} (h : unquoted? cs = some inner) :
    Enclosed cs := by
  unfold unquoted? at h
  split at h
  · cases h
  · rename_i c rest
    split at h
    · rename_i last close hlast hclose
      split at h
      · rename_i hsame
        obtain rfl := beq_iff_eq.mp hsame
        refine ⟨c, close, rest.dropLast, QuotePair.closingQuote?_eq_some_iff.mp hclose, ?_⟩
        rw [List.dropLast_append_getLast? close hlast]
      · cases h
    · cases h

theorem storedName_quoted (d : Dialect) {opening closing : Char} (h : QuotePair opening closing)
    {before after : List Char} (hbefore : ∀ c ∈ before, isBlank c = true)
    (hafter : ∀ c ∈ after, isBlank c = true) (inner : List Char) :
    d.storedName (before ++ (opening :: (inner ++ closing :: after))) = inner := by
  have htext : opening :: (inner ++ closing :: after) =
      (opening :: (inner ++ [closing])) ++ after := by
    rw [List.cons_append, List.append_assoc, List.singleton_append]
  rw [storedName, htext, stripChars_surrounded (h.stripped inner) hbefore hafter,
    unquoted?_enclosed h]

/-- A bare name is folded as the dialect says. -/
theorem storedName_bare (d : Dialect) {cs : List Char} (hstripped : Stripped cs)
    (hbare : ¬Enclosed cs) :
    d.storedName cs = d.foldName cs := by
  rw [storedName, stripChars_of_stripped hstripped]
  cases hquoted : unquoted? cs with
  | none => rfl
  | some inner => exact absurd (enclosed_of_unquoted? hquoted) hbare

/-- What is left of a name once it was stored and folded: the dialect shows only where it gives a
dotless i its dot. -/
theorem foldChars_foldName (d : Dialect) (cs : List Char) :
    foldChars (d.foldName cs) = foldChars (if d = oracle then cs.map dotted else cs) := by
  cases d with
  | oracle => exact foldChars_upperChars cs
  | postgresql => exact foldChars_lowerChars cs
  | _ => rfl

end Dialect

theorem foldCase_eq_iff {s t : String} :
    foldCase s = foldCase t ↔ foldChars s.toList = foldChars t.toList := by
  rw [foldCase, foldCase, String.ofList_inj]

/-- The column stands at the position and its label folds as the key does, and no column before it
has such a label. -/
structure FirstNamed (columns : List Column) (key : String) (k : Nat) (c : Column) : Prop where
  at_position : columns[k]? = some c
  label_eq : foldCase c.label = foldCase key
  before : ∀ j < k, ∀ x, columns[j]? = some x → foldCase x.label ≠ foldCase key

variable {columns : List Column} {name : String} {stored : String → String} {x : Column}

theorem findColumn_eq_some_iff :
    findColumn columns name stored = some x ↔ ∃ k, FirstNamed columns (stored name) k x := by
  have htest (y : Column) : (foldChars y.label.toList == foldChars (stored name).toList) = true ↔
      foldCase y.label = foldCase (stored name) := by rw [beq_iff_eq, foldCase_eq_iff]
  rw [findColumn, List.find?_eq_some_iff_getElem]
  constructor
  · rintro ⟨hx, k, hk, hat, hbefore⟩
    refine ⟨k, List.getElem?_eq_some_iff.mpr ⟨hk, hat⟩, (htest x).mp hx, fun j hj y hy hlabel => ?_⟩
    obtain ⟨hlt, rfl⟩ := List.getElem?_eq_some_iff.mp hy
    have hno := hbefore j hj
    rw [(htest _).mpr hlabel] at hno
    cases hno
  · rintro ⟨k, hat, hlabel, hbefore⟩
    obtain ⟨hk, hx⟩ := List.getElem?_eq_some_iff.mp hat
    refine ⟨(htest x).mpr hlabel, k, hk, hx, fun j hj => ?_⟩
    have hno := hbefore j hj columns[j] (List.getElem?_eq_getElem (Nat.lt_trans hj hk))
    rw [Bool.not_eq_true', ← Bool.not_eq_true]
    exact fun htrue => hno ((htest _).mp htrue)

theorem findColumn_eq_none_iff :
    findColumn columns name stored = none ↔
      ∀ y ∈ columns, foldCase y.label ≠ foldCase (stored name) := by
  rw [findColumn, List.find?_eq_none]
  simp only [beq_iff_eq, foldCase_eq_iff, ne_eq]

/-- A label that folds as the stored name does is enough to find a column. -/
theorem exists_findColumn {c : Column} (hc : c ∈ columns)
    (h : foldCase c.label = foldCase (stored name)) :
    ∃ y, findColumn columns name stored = some y ∧ foldCase y.label = foldCase (stored name) := by
  cases hfind : findColumn columns name stored with
  | none => exact absurd h (findColumn_eq_none_iff.mp hfind c hc)
  | some y =>
      obtain ⟨k, hfirst⟩ := findColumn_eq_some_iff.mp hfind
      exact ⟨y, rfl, hfirst.label_eq⟩

theorem foldCase_storeName_bare (d : Dialect) {s : String} (hstripped : Stripped s.toList)
    (hbare : ¬Enclosed s.toList) :
    foldCase (d.storeName s) =
      String.ofList (foldChars (if d = .oracle then s.toList.map dotted else s.toList)) := by
  rw [foldCase, Dialect.storeName, String.toList_ofList, d.storedName_bare hstripped hbare,
    d.foldChars_foldName]

theorem foldChars_map_dotted_ne {cs : List Char} (h : 'ı' ∈ cs) :
    foldChars (cs.map dotted) ≠ foldChars cs := by
  intro hsame
  have hfolded : 'ı' ∈ foldChars cs := List.mem_flatMap.mpr ⟨'ı', h, mem_foldChar_dotless.mpr rfl⟩
  rw [← hsame] at hfolded
  obtain ⟨c, hc, hdotless⟩ := List.mem_flatMap.mp hfolded
  obtain ⟨x, -, hx⟩ := List.mem_map.mp hc
  rw [mem_foldChar_dotless.mp hdotless, dotted] at hx
  split at hx
  · exact absurd hx (by decide)
  · rename_i hne
    exact hne hx

/-- A column is found by its own bare label if and only if the label has no dotless i, or the
dialect does not store names in upper case: then a column is found whose label folds alike. -/
theorem bare_label_found_iff (d : Dialect) (columns : List Column) (c : Column) (hc : c ∈ columns)
    (hstripped : Stripped c.label.toList) (hbare : ¬Enclosed c.label.toList) :
    (∃ x, findColumn columns c.label d.storeName = some x ∧ foldCase x.label = foldCase c.label) ↔
      ¬(d = .oracle ∧ 'ı' ∈ c.label.toList) := by
  have hstored := foldCase_storeName_bare d hstripped hbare
  constructor
  · rintro ⟨x, hfind, hlabel⟩ ⟨hd, hdotless⟩
    obtain ⟨k, hfirst⟩ := findColumn_eq_some_iff.mp hfind
    rw [if_pos hd] at hstored
    have hsame := hlabel.symm.trans (hfirst.label_eq.trans hstored)
    rw [foldCase, String.ofList_inj] at hsame
    exact foldChars_map_dotted_ne hdotless hsame.symm
  · intro h
    have hown : foldCase c.label = foldCase (d.storeName c.label) := by
      rw [hstored, foldCase]
      split
      · rename_i hd
        rw [map_dotted_of_not_mem fun hdotless => h ⟨hd, hdotless⟩]
      · rfl
    obtain ⟨x, hfind, hlabel⟩ := exists_findColumn hc hown
    exact ⟨x, hfind, hlabel.trans hown.symm⟩

def soleColumn (label : String) : List Column := [{ position := 1, label }]

/-- A label that gets longer in capital letters is found where names are stored in upper case. -/
theorem sharp_s_found :
    Stripped "straße".toList ∧ ¬Enclosed "straße".toList ∧
      ∃ x, findColumn (soleColumn "straße") "straße" Dialect.oracle.storeName = some x ∧
        foldCase x.label = foldCase "straße" := by
  have hstripped : Stripped "straße".toList :=
    ⟨fun c hc => by obtain rfl := Option.some.inj hc; decide,
      fun c hc => by obtain rfl := Option.some.inj hc; decide⟩
  have hbare : ¬Enclosed "straße".toList := by
    rintro ⟨opening, closing, inner, hpair, htext⟩
    obtain rfl := (List.cons.inj htext).1
    cases hpair
  exact ⟨hstripped, hbare, (bare_label_found_iff .oracle (soleColumn "straße") _
    (List.mem_singleton.mpr rfl) hstripped hbare).mpr fun h => absurd h.2 (by decide)⟩

/-- In upper case a dotless i is told from the dotted one no more, so its label is not found. -/
theorem dotless_i_not_found :
    stripChars "ı".toList = "ı".toList ∧ Dialect.unquoted? "ı".toList = none ∧
      (findColumn (soleColumn "ı") "ı" Dialect.oracle.storeName).isNone = true := by
  decide +kernel

section

variable {σ : Type} {rs : ResultSet σ}

theorem run_resolve_none (h : findColumn rs.columns name stored = none) (s : σ) :
    (resolve rs name stored).run s = (.ok .null, s) := by
  rw [resolve, h]
  rfl

theorem run_resolve_some (h : findColumn rs.columns name stored = some x) (s : σ) :
    (resolve rs name stored).run s = (rs.get .text x.position).run s := by
  rw [resolve, h]

end

namespace Session

variable {κ : Type} {b : Backend} {c : Cursor κ} {i : Nat} {s : Session κ} {row : List Value}

/-- The row of a handle with its cells as they are now: bound ones have expired once the cursor
moved. -/
def rowNow (c : Cursor κ) (i : Nat) (s : Session κ) : Option (List Value) :=
  (handle i s).row.map fun row =>
    if c.stamp s.cursor = (handle i s).stamp then row else row.map Value.expired

theorem cell_of_rowNow {k : Nat} {v : Value} (h : rowNow c i s = some row) (hv : row[k]? = some v) :
    cell c i (k + 1) s = .ok v := by
  obtain ⟨fetched, hfetched, rfl⟩ := Option.map_eq_some_iff.mp h
  rw [cell_of_row hfetched]
  split at hv
  · rw [cellOf_of_getElem? hv]
    rename_i hstamp
    rw [Except.map, if_pos hstamp]
  · rename_i hstamp
    rw [List.getElem?_map] at hv
    obtain ⟨raw, hraw, rfl⟩ := Option.map_eq_some_iff.mp hv
    rw [cellOf_of_getElem? hraw, Except.map, if_neg hstamp]

/-- The run gives the text of the cell `v` at the position, and asks the result set for this cell
alone. -/
def ReadsText (number i k : Nat) (v : Value) (s : Recorded (Session κ) Call)
    (x : Action (Recorded (Session κ) Call) Value) : Prop :=
  x.run s = (Reading.text.convert v, ⟨spendCell i (k + 1) s.driver,
    s.calls ++ [.ofRows number (.typed .text (k + 1) (Reading.text.convert v))]⟩)

theorem readsText_of_firstNamed {number k : Nat} {calls : List Call} (hnumbered : Numbered columns)
    (hrow : rowNow c i s = some row) (hlength : row.length = columns.length)
    (h : FirstNamed columns (stored name) k x) :
    ∃ v, row[k]? = some v ∧ ReadsText number i k v ⟨s, calls⟩
      (resolve ((resultSet b c i columns).recorded number) name stored) := by
  have hk : k < row.length := by
    rw [hlength]
    exact (List.getElem?_eq_some_iff.mp h.at_position).1
  have hv : row[k]? = some row[k] := List.getElem?_eq_getElem hk
  have hcell : cell c i x.position s = .ok row[k] := by
    rw [hnumbered k x h.at_position]
    exact cell_of_rowNow hrow hv
  have hread : ((resultSet b c i columns).get .text x.position).run s =
      (Reading.text.convert row[k], spendCell i x.position s) := run_readCell_ok hcell .text
  have hfind : findColumn ((resultSet b c i columns).recorded number).columns name stored =
      some x :=
    findColumn_eq_some_iff.mpr ⟨k, h⟩
  refine ⟨row[k], hv, ?_⟩
  rw [ReadsText, run_resolve_some hfind, ← hnumbered k x h.at_position]
  exact run_recording_eq hread

/-- On a row as long as the list of columns, a name is resolved to the text of the cell of the first
column whose label folds as the stored name does, and to null, without a single read, where there is
none. A label in quotes of any kind, with any blanks around it, is resolved to the cell of the first
column whose label folds alike, in every dialect. -/
theorem resolve_reads_first_match (b : Backend) (c : Cursor κ) (i number : Nat)
    (entries : List Entry) (columns : List Column) (row : List Value) (s : Session κ)
    (calls : List Call) (hcolumns : b.dialect.describeAll 1 entries = .ok columns)
    (hrow : rowNow c i s = some row) (hlength : row.length = columns.length) :
    (∀ name,
      (∀ k x, FirstNamed columns (b.dialect.storeName name) k x →
        ∃ v, row[k]? = some v ∧ ReadsText number i k v ⟨s, calls⟩
          (resolve ((resultSet b c i columns).recorded number) name b.dialect.storeName)) ∧
      ((∀ x ∈ columns, foldCase x.label ≠ foldCase (b.dialect.storeName name)) →
        (resolve ((resultSet b c i columns).recorded number) name b.dialect.storeName).run
          ⟨s, calls⟩ = (.ok .null, ⟨s, calls⟩))) ∧
    ∀ x ∈ columns, ∀ (opening closing : Char) (before after : List Char),
      QuotePair opening closing →
      (∀ c ∈ before, isBlank c = true) → (∀ c ∈ after, isBlank c = true) →
      ∃ k y v, FirstNamed columns x.label k y ∧ row[k]? = some v ∧
        ReadsText number i k v ⟨s, calls⟩
          (resolve ((resultSet b c i columns).recorded number)
            (String.ofList (before ++ (opening :: (x.label.toList ++ closing :: after))))
            b.dialect.storeName) := by
  have hnumbered := Dialect.describeAll_numbered hcolumns
  refine ⟨fun name => ⟨fun k x hfirst => ?_, fun hnone => ?_⟩,
    fun x hx opening closing before after hpair hbefore hafter => ?_⟩
  · exact readsText_of_firstNamed hnumbered hrow hlength hfirst
  · have hfind : findColumn ((resultSet b c i columns).recorded number).columns name
        b.dialect.storeName = none := findColumn_eq_none_iff.mpr hnone
    exact run_resolve_none hfind _
  · generalize hname : String.ofList (before ++ (opening :: (x.label.toList ++ closing :: after))) =
      name
    have hstored : b.dialect.storeName name = x.label := by
      rw [Dialect.storeName, ← hname, String.toList_ofList,
        b.dialect.storedName_quoted hpair hbefore hafter, String.ofList_toList]
    have hown : foldCase x.label = foldCase (b.dialect.storeName name) := by rw [hstored]
    obtain ⟨y, hfind, -⟩ := exists_findColumn hx hown
    obtain ⟨k, hfirst⟩ := findColumn_eq_some_iff.mp hfind
    obtain ⟨v, hv, hreads⟩ := readsText_of_firstNamed hnumbered hrow hlength hfirst
    rw [hstored] at hfirst
    exact ⟨k, y, v, hfirst, hv, hreads⟩

def likeLabels : List Column :=
  [{ position := 1, label := "a b" }, { position := 2, label := "A B" }]

/-- A session with one result set, which stands on a row. -/
def onTwoCells : Session ScriptedCursor :=
  { fresh (.ofScript {} .null) with
    handles := [{ columns := likeLabels, row := some [.text "x", .text "y"] }] }

/-- The label of the second column in brackets, with a blank before them, reads the first one. -/
theorem bracketed_label_reads_first :
    Dialect.oracle.describeAll 1 [[.text "a b"], [.text "A B"]] = .ok likeLabels ∧
      rowNow ScriptedCursor.cursor 0 onTwoCells = some [.text "x", .text "y"] ∧
      ReadsText 0 0 0 (.text "x") ⟨onTwoCells, []⟩
        (resolve ((resultSet (.ofDialect .oracle) ScriptedCursor.cursor 0 likeLabels).recorded 0)
          " [A B]" Dialect.oracle.storeName) := by
  have hcolumns : Dialect.oracle.describeAll 1 [[.text "a b"], [.text "A B"]] =
      .ok likeLabels := rfl
  have hrow : rowNow ScriptedCursor.cursor 0 onTwoCells = some [.text "x", .text "y"] := rfl
  have hmatch := (resolve_reads_first_match (.ofDialect .oracle) ScriptedCursor.cursor 0 0
    [[.text "a b"], [.text "A B"]] likeLabels _ onTwoCells [] hcolumns hrow rfl).2
  obtain ⟨k, y, v, hfirst, hv, hreads⟩ := hmatch { position := 2, label := "A B" }
    (List.mem_cons_of_mem _ (List.mem_singleton.mpr rfl)) '[' ']' [' '] [] .bracket
    (List.forall_mem_singleton.mpr rfl) nofun
  have hk : k = 0 := by
    by_contra hne
    exact hfirst.before 0 (Nat.pos_of_ne_zero hne)
      { position := 1, label := "a b" } rfl (by decide +kernel)
  subst hk
  obtain rfl := Option.some.inj hv
  exact ⟨hcolumns, hrow, hreads⟩

end Session

end StatementWalk
