import StatementWalk.Proofs.CellFaults
import StatementWalk.Proofs.DeclaredTypes

/-!
# Dates and timestamps of cells

A date in a column of timestamps becomes the midnight of its day, and nothing else in such a column
becomes a bare date. In other columns a date stays a date, and so does what the driver wraps as one.
-/

namespace StatementWalk

open Dialect

theorem Value.toTimestamp_text (s : String) :
    (text s).toTimestamp = some <$> Calendar.parseTimestamp s := by
  simp only [toTimestamp, plainTimestamp, display]
  rfl

namespace Dialect

variable {d : Dialect} {c : Column} {raw : Value} {r : Except Fault Value} {date : Date}

theorem convert_ne_date {reading : Reading} (hreading : reading ≠ .date) (v : Value) (date : Date) :
    reading.convert v ≠ .ok (.date date) := by
  intro h
  cases reading with
  | text => rcases convert_text_eq_ok h with hdate | ⟨t, hdate⟩ <;> cases hdate
  | bytes =>
      obtain ⟨bs, -, hdate⟩ := except_map_eq_ok.mp h
      cases bs <;> cases hdate
  | timestamp =>
      obtain ⟨t, -, hdate⟩ := except_map_eq_ok.mp h
      cases t <;> cases hdate
  | date => exact hreading rfl

theorem readingOf_ne_date {reading : Reading} (hreading : reading ≠ .date) (raw : Value)
    (date : Date) :
    readingOf c reading (.ok raw) ≠ .ok (.date date) := by
  intro h
  have hconvert := except_mapError_eq_ok.mp h
  exact convert_ne_date hreading raw date hconvert

/-- No cell of a column of timestamps is read once more as a date. -/
theorem Rereads.ne_date {reading : Reading} (h : Rereads d raw c (some reading))
    (hc : d.isTimestampColumn c = true) : reading ≠ .date := by
  generalize hr : some reading = r at h
  rintro rfl
  cases h with
  | wrappedDate =>
      rw [hc] at hr
      cases hr
  | _ => cases hr

theorem Normalizes.ne_date (h : Normalizes d c raw r) (hc : d.isTimestampColumn c = true)
    (date : Date) : r ≠ .ok (.date date) := by
  cases h with
  | unconverted _ h =>
      cases h with
      | null => nofun
      | unclassified => nofun
      | settled _ h =>
          cases h with
          | settled hv hdate =>
              intro heq
              obtain rfl : raw = .date date := Except.ok.inj heq
              cases hc.symm.trans (hdate rfl)
      | reread _ h => exact readingOf_ne_date (h.ne_date hc) raw date
  | null => nofun
  | integer => nofun
  | retried => exact readingOf_ne_date (by decide) raw date
  | refused => nofun

theorem readingOf_timestamp_date (c : Column) (date : Date) :
    readingOf c .timestamp (.ok (.date date)) = .ok (.timestamp ⟨date, .midnight, none⟩) := by
  have hconvert : Reading.timestamp.convert (.date date) =
      .ok (.timestamp ⟨date, .midnight, none⟩) := by
    rw [Reading.convert, Value.toTimestamp, Value.plainTimestamp]
    · rfl
    · nofun
  rw [readingOf, except_ok_bind, hconvert]
  rfl

structure TimestampCell (raw : Value) (r : Except Fault Value) : Prop where
  no_date (date : Date) : r ≠ .ok (.date date)
  midnight (date : Date) (hraw : raw = .date date) : r = .ok (.timestamp ⟨date, .midnight, none⟩)

theorem Normalizes.timestampCell (h : Normalizes d c raw r) (hc : d.isTimestampColumn c = true)
    (htarget : d.conversionTarget? c = none) : TimestampCell raw r where
  no_date := h.ne_date hc
  midnight date hraw := by
    subst hraw
    have hcorrects := h.corrects htarget
    rw [hcorrects.eq_of_isCanonical rfl, ← readingOf_timestamp_date c date]
    simp [isBareDate, hc]

/-- A date, nothing, or a failed read that names its column. -/
inductive YieldsDate : Except Fault Value → Prop where
  | date (date : Date) : YieldsDate (.ok (.date date))
  | null : YieldsDate (.ok .null)
  | failed {f : Fault} (h : f.NamesColumn) : YieldsDate (.error f)

theorem yieldsDate_readingOf (c : Column) (raw : Value) :
    YieldsDate (readingOf c .date (.ok raw)) := by
  unfold readingOf
  rw [except_ok_bind, Reading.convert]
  cases raw.toDate with
  | error f => exact .failed (namesColumn_cellFault f c.position)
  | ok date? =>
      cases date? with
      | none => exact .null
      | some date => exact .date date

theorem not_wraps_timestamp (h : Wraps "oracle.sql.DATE" raw) :
    ¬Wraps "oracle.sql.TIMESTAMP" raw := by
  obtain ⟨name, hname, hdate⟩ := h
  rintro ⟨name', hname', htimestamp⟩
  obtain rfl : name = name' := Except.ok.inj (hname.symm.trans hname')
  -- Of two beginnings of one name, one begins the other.
  rcases List.prefix_or_prefix_of_prefix hdate htimestamp with hstarts | hstarts
  · revert hstarts
    decide
  · revert hstarts
    decide

/-- Outside columns of timestamps the driver's wrapped dates are read once more as dates. -/
theorem Rereads.eq_date {reading? : Option Reading} (h : Rereads oracle raw c reading?)
    (hkind : raw.largeObjectKind = .ok none) (hclass : Wraps "oracle.sql.DATE" raw)
    (hc : oracle.isTimestampColumn c = false) : reading? = some .date := by
  cases h with
  | binary hother => cases hkind.symm.trans hother
  | character hother => cases hkind.symm.trans hother
  | wrappedTimestamp _ _ hother => exact absurd hother (not_wraps_timestamp hclass)
  | wrappedDate => simp [hc]
  | bareDate _ hother => cases hc.symm.trans hother
  | uncanonical _ hother => exact absurd hclass (hother rfl)
  | settled hv => exact absurd hclass (not_wraps_of_isCanonical hv (by simp))

theorem Corrects.yieldsDate {r : Except Fault Value} (h : Corrects oracle c (.ok raw) raw r)
    (hkind : raw.largeObjectKind = .ok none) (hclass : Wraps "oracle.sql.DATE" raw)
    (hc : oracle.isTimestampColumn c = false) : YieldsDate r := by
  cases h with
  | null => exact .null
  | unclassified _ hf =>
      obtain ⟨name, hname, -⟩ := hclass
      rcases correctionOf_eq_error_iff.mp hf with hother | ⟨-, -, hother⟩
      · cases hkind.symm.trans hother
      · cases hname.symm.trans hother
  | settled _ h => cases h.eq_date hkind hclass hc
  | reread _ h =>
      obtain rfl := Option.some.inj (h.eq_date hkind hclass hc)
      exact yieldsDate_readingOf c raw

/-- What an unconverted column that holds no timestamps makes of a cell. -/
structure PlainDateCell (d : Dialect) (raw : Value) (r : Except Fault Value) : Prop where
  kept (date : Date) (hraw : raw = .date date) : r = .ok (.date date)
  wrapped (hd : d = oracle) (hkind : raw.largeObjectKind = .ok none)
    (hclass : Wraps "oracle.sql.DATE" raw) : YieldsDate r

theorem Normalizes.plainDateCell (h : Normalizes d c raw r) (hc : d.isTimestampColumn c = false)
    (htarget : d.conversionTarget? c = none) : PlainDateCell d raw r where
  kept date hraw := by
    subst hraw
    rw [(h.corrects htarget).eq_of_isCanonical rfl]
    simp [isBareDate, hc]
  wrapped hd hkind hclass := by
    subst hd
    exact (h.corrects htarget).yieldsDate hkind hclass hc

end Dialect

namespace Session

/-- A column of timestamps never yields a bare date; other unconverted columns keep dates as
dates. -/
theorem dates_follow_their_column {κ : Type} {b : Backend} {c : Cursor κ} {i : Nat} {s : Session κ}
    {columns : List Column} {column : Column} {entry : Entry} {raw : Value}
    (hdescribed : b.dialect.describe column.position entry = .ok column)
    (h : HoldsCell c i columns column raw s) (j : Journal) :
    let result := ((normalize b.dialect (resultSet b c i columns) column.position).run ⟨s, j⟩).1
    (b.dialect.isTimestampColumn column = true → TimestampCell raw result) ∧
      (b.dialect.isTimestampColumn column = false → b.dialect.conversionTarget? column = none →
        PlainDateCell b.dialect raw result) := by
  have hcases := h.normalizes b j
  constructor
  · intro hc
    exact hcases.timestampCell hc (conversionTarget?_of_isTimestampColumn hdescribed hc)
  · intro hc htarget
    exact hcases.plainDateCell hc htarget

def momentEntry : Entry := [.text "at", .int 1114]

def momentColumn : Column where
  position := 1
  label := "at"
  className := some "datetime.datetime"
  typeCode := .int 1114

def wrappedDate (date : Date) : Value :=
  .object "bridge" "DATE" "<DATE>" false
    [("getClass", .method (.ok (.object "bridge" "Class" "<Class>" false
      [("getName", .method (.ok (.text "oracle.sql.DATE")))]))),
      ("dateValue", .method (.ok (.date date)))]

def plainColumn : Column where
  position := 1
  label := "d"

theorem date_becomes_midnight_and_wrapped_date_a_date :
    let moments := resultSet (.ofDialect .postgresql) ScriptedCursor.cursor 0 [momentColumn]
    let plain := resultSet (.ofDialect .oracle) ScriptedCursor.cursor 0 [plainColumn]
    TimestampCell (.date default)
        ((normalize .postgresql moments 1).run
          ⟨atCell .postgresql momentEntry (.date default), {}⟩).1 ∧
      YieldsDate
        ((normalize .oracle plain 1).run
          ⟨atCell .oracle [.text "d"] (wrappedDate default), {}⟩).1 := by
  constructor
  · have hdescribed : postgresql.describe momentColumn.position momentEntry =
        .ok momentColumn := rfl
    have hholds : HoldsCell ScriptedCursor.cursor 0 [momentColumn] momentColumn (.date default)
        (atCell .postgresql momentEntry (.date default)) := ⟨rfl, rfl, rfl⟩
    exact (dates_follow_their_column (b := .ofDialect .postgresql) hdescribed hholds {}).1 rfl
  · have hdescribed : oracle.describe plainColumn.position [.text "d"] = .ok plainColumn := rfl
    have hholds : HoldsCell ScriptedCursor.cursor 0 [plainColumn] plainColumn (wrappedDate default)
        (atCell .oracle [.text "d"] (wrappedDate default)) := ⟨rfl, rfl, rfl⟩
    have hclass : Wraps "oracle.sql.DATE" (wrappedDate default) := ⟨_, rfl, List.prefix_rfl⟩
    have hplain :=
      (dates_follow_their_column (b := .ofDialect .oracle) hdescribed hholds {}).2 rfl rfl
    exact hplain.wrapped rfl rfl hclass

end Session

end StatementWalk
