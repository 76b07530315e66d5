import StatementWalk.Proofs.TemporalCells
import StatementWalk.Proofs.WrittenTimestamps

/-!
# Timestamps that a driver wraps

What a driver wraps as a timestamp is classified by the name of its class and is read once more as a
timestamp: it is asked for its value, and a text that it gives is read like any other.
-/

namespace StatementWalk

open Dialect Calendar

namespace Value

theorem timestampVia_text {accessor s : String} {members : List (String × Member Value)}
    (h : (members.lookup accessor).bind Member.call? = some (.ok (.text s))) :
    timestampVia accessor members = some (some <$> parseTimestamp s) := by
  induction members with
  | nil => cases h
  | cons entry rest ih =>
      obtain ⟨key, m⟩ := entry
      rw [List.lookup_cons] at h
      rw [timestampVia.eq_def]
      dsimp only
      cases hkey : accessor == key with
      | false =>
          rw [hkey] at h
          exact ih h
      | true =>
          rw [hkey, Option.bind_some] at h
          unfold Member.call? at h
          split at h
          · cases h
            rw [← toTimestamp_text]
            rfl
          · rename_i module name
            have hcall : callClass module name = .ok (.text s) := Option.some.inj h
            rw [if_pos rfl]
            dsimp only
            rw [hcall]
            rfl
          · cases h

/-- An object that gives a text when it is asked for its timestamp is read as this text. -/
theorem toTimestamp_of_call {raw : Value} {s : String}
    (h : raw.call? "timestampValue" = some (.ok (.text s))) :
    raw.toTimestamp = some <$> parseTimestamp s := by
  unfold call? member? at h
  split at h
  · rw [toTimestamp, timestampVia_text h]
  · cases h
  · cases h

end Value

namespace Dialect

variable {c : Column} {raw : Value}

theorem correctionOf_wrapped (hkind : raw.largeObjectKind = .ok none)
    (hclass : Wraps "oracle.sql.TIMESTAMP" raw) :
    ∃ q, oracle.correctionOf raw c = .ok (some q) ∧ q.reading c = .timestamp := by
  obtain ⟨name, hname, hstarts⟩ := hclass
  have happlies : isOfClass "oracle.sql.TIMESTAMP" raw = .ok true := by
    rw [isOfClass_of_name hname, List.isPrefixOf_iff_prefix.mpr hstarts]
  refine ⟨⟨"oracle-timestamp", fun v _ => isOfClass "oracle.sql.TIMESTAMP" v, fun _ => .timestamp⟩,
    ?_, rfl⟩
  rw [correctionOf, corrections, List.append_assoc, List.cons_append, List.cons_append,
    List.nil_append, firstApplying_cons_eq_ok]
  refine .inr ⟨isKind_of_kind hkind _,
    firstApplying_cons_eq_ok.mpr (.inr ⟨isKind_of_kind hkind _, ?_⟩)⟩
  rw [vendorCorrections, List.cons_append, firstApplying_cons_eq_ok]
  exact .inl ⟨happlies, rfl⟩

/-- Where a correction applies to a cell that is not converted, its reading is the normal form. -/
theorem normalForm_of_correctionOf {d : Dialect} {q : Correction}
    (htarget : d.conversionTarget? c = none) (hraw : raw.isNull = false)
    (hq : d.correctionOf raw c = .ok (some q)) :
    (d.normalForm c (.ok raw)).result = readingOf c (q.reading c) (.ok raw) := by
  rw [normalForm, except_ok_bind, readObject_unconverted htarget, Noted.result_ofExcept,
    corrected, hraw, hq]
  rfl

/-- What the driver wraps as a timestamp becomes the moment that the text tells which it gives. -/
theorem normalForm_wrapped {s : String} {t : Timestamp} (hkind : raw.largeObjectKind = .ok none)
    (hclass : Wraps "oracle.sql.TIMESTAMP" raw)
    (hcall : raw.call? "timestampValue" = some (.ok (.text s))) (hread : parseTimestamp s = .ok t) :
    (oracle.normalForm c (.ok raw)).result = .ok (.timestamp t) := by
  obtain ⟨q, hq, hreading⟩ := correctionOf_wrapped (c := c) hkind hclass
  have hraw : raw.isNull = false := by
    cases raw with
    | null => cases hcall
    | _ => rfl
  have hconvert : Reading.timestamp.convert raw = .ok (.timestamp t) := by
    rw [Reading.convert, Value.toTimestamp_of_call hcall, hread]
    rfl
  rw [normalForm_of_correctionOf rfl hraw hq, hreading, readingOf, except_ok_bind, hconvert]
  rfl

end Dialect

namespace Session

/-- A driver's text is read as the moment that it writes, every moment is shown as a text that is
read as this moment, and what the driver wraps as a timestamp becomes the moment that its text
tells. A wrapper has no reading method, which is to say that it is a large object of no kind. -/
theorem written_timestamps_read_back :
    (∀ w : WrittenTimestamp, parseTimestamp w.text = .ok w.moment) ∧
      (∀ t : Timestamp, (∀ o ∈ t.zone, Coarse o) →
        ∃ text, (Value.timestamp t).cellText = .ok text ∧ parseTimestamp text = .ok t) ∧
      ∀ {κ : Type} {b : Backend} {c : Cursor κ} {i : Nat} {s : Session κ} {columns : List Column}
        {column : Column} {raw : Value} (w : WrittenTimestamp), b.dialect = .oracle →
        HoldsCell c i columns column raw s → raw.largeObjectKind = .ok none →
        Wraps "oracle.sql.TIMESTAMP" raw → raw.call? "timestampValue" = some (.ok (.text w.text)) →
        ∀ j : Journal, ((normalize b.dialect (resultSet b c i columns) column.position).run
          ⟨s, j⟩).1 = .ok (.timestamp w.moment) := by
  refine ⟨WrittenTimestamp.parseTimestamp_text, fun t h =>
    ⟨t.text, rfl, t.parseTimestamp_text h⟩, ?_⟩
  intro κ b c i s columns column raw w hd hholds hkind hclass hcall j
  rw [hholds.run_normalize b j, hd]
  exact normalForm_wrapped hkind hclass hcall w.parseTimestamp_text

def nanosecondText : WrittenTimestamp where
  before := [' ']
  date := ⟨2024, 2, 29, by decide⟩
  separator := 'T'
  hour := 23
  minute := 59
  second := 58
  fraction := "123456789".toList
  gap := [' ']
  zone := .offset ⟨true, 5, 30, .none, by decide⟩
  after := ['\n']
  separates := by decide
  digits := List.all_eq_true.mp rfl
  blank_before := List.all_eq_true.mp rfl
  blank_gap := List.all_eq_true.mp rfl
  blank_after := List.all_eq_true.mp rfl

def wrappedTimestamp (text : String) : Value :=
  .object "bridge" "TIMESTAMP" "<TIMESTAMP>" false
    [("getClass", .method (.ok (.object "bridge" "Class" "<Class>" false
      [("getName", .method (.ok (.text "oracle.sql.TIMESTAMP")))]))),
      ("timestampValue", .method (.ok (.text text)))]

theorem nanoseconds_cut_off :
    let raw := wrappedTimestamp nanosecondText.text
    let rs := resultSet (.ofDialect .oracle) ScriptedCursor.cursor 0 [plainColumn]
    parseTimestamp nanosecondText.text = .ok nanosecondText.moment ∧
      (∃ text, (Value.timestamp nanosecondText.moment).cellText = .ok text ∧
        parseTimestamp text = .ok nanosecondText.moment) ∧
      ((normalize .oracle rs 1).run ⟨atCell .oracle [.text "d"] raw, {}⟩).1 =
        .ok (.timestamp nanosecondText.moment) ∧
      nanosecondText.moment.clock.micro = 123456 := by
  obtain ⟨hread, hshown, hwrapped⟩ := written_timestamps_read_back
  have hcoarse : ∀ o ∈ nanosecondText.moment.zone, Coarse o := by
    intro o ho
    obtain rfl := Option.some.inj ho
    exact .inr (by decide)
  have hholds : HoldsCell ScriptedCursor.cursor 0 [plainColumn] plainColumn
      (wrappedTimestamp nanosecondText.text)
      (atCell .oracle [.text "d"] (wrappedTimestamp nanosecondText.text)) := ⟨rfl, rfl, rfl⟩
  exact ⟨hread nanosecondText, hshown nanosecondText.moment hcoarse,
    hwrapped (b := .ofDialect .oracle) nanosecondText rfl hholds rfl
      ⟨_, rfl, List.prefix_rfl⟩ rfl {}, by decide⟩

end Session

end StatementWalk
