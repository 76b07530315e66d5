import StatementWalk.Proofs.DayNumbers
import StatementWalk.Proofs.TemporalCells
import StatementWalk.Proofs.TimestampParts

/-!
# Dates and timestamps from one raw value

A raw value that can be read as a timestamp can mostly be read as a date too, and then as the date
of that timestamp. A text of more than ten characters is read as a timestamp in both cases; a
shorter one has no room for a clock, unless its date is a week without hyphens. Bytes are read as a
timestamp only.
-/

namespace StatementWalk

open Text Calendar

namespace Calendar

theorem Groups.length_eq {width : Nat} {separator : Char} {cs : List Char}
    (h : Groups width separator cs) : cs.length = width + 6 := by
  obtain ⟨hx, hy, hz⟩ := h
  simp [hx.length_eq, hy.length_eq, hz.length_eq]

theorem ofChars?_of_short {cs : List Char} (h : cs.length ≤ 10) :
    TimestampParts.ofChars? cs = none := by
  cases hparts : TimestampParts.ofChars? cs with
  | none => rfl
  | some p =>
      obtain ⟨separator, tail, hday, -, -, rfl, -⟩ := groups_of_ofChars? hparts
      rw [List.length_append, hday.length_eq, List.length_cons] at h
      omega

theorem exists_hour_of_timeFields? {cs : List Char} {r : ClockFields × Option Span}
    (h : timeFields? (bytesOf cs) = some r) :
    ∃ hour hs more, cs = hs ++ more ∧ Numeral 2 hour hs := by
  rw [timeFields?, isZoneByte_alike.takeWhile] at h
  obtain ⟨found, hread, -⟩ := Option.bind_eq_some_iff.mp h
  obtain ⟨hour, hs, more, heq, hh⟩ := clockFieldsFrom?_eq_some hread
  refine ⟨hour, hs, more ++ cs.dropWhile (!isZoneChar ·), ?_, hh⟩
  rw [← List.append_assoc, ← heq, List.takeWhile_append_dropWhile]

theorem getElem?_behind {ys : List Char} (hy : ys.length = 4) (c : Char) (more : List Char) :
    (ys ++ c :: more)[4]? = some c := by
  rw [List.getElem?_append_right hy.le, hy]
  rfl

/-- A date has ten characters and a hyphen behind its year, or eight characters, or it is a week
without hyphens. -/
theorem DateText.forms {separated : Bool} {front : List Char} {date : Nat × Nat × Nat}
    (h : DateText separated front date) :
    (front.length = 10 ∧ front[4]? = some '-') ∨ front.length = 8 ∨
      ∃ year week ys ws, front = ys ++ 'W' :: ws ∧ Numeral 4 year ys ∧ Numeral 2 week ws ∧
        ofWeek? year week 1 = some date := by
  cases h with
  | day hy hm hd =>
      cases separated with
      | true =>
          refine .inl ⟨?_, getElem?_behind hy.length_eq '-' _⟩
          simp [hyphen, hy.length_eq, hm.length_eq, hd.length_eq]
      | false => exact .inr (.inl (by simp [hyphen, hy.length_eq, hm.length_eq, hd.length_eq]))
  | week hy hw hdate =>
      cases separated with
      | true => exact .inr (.inl (by simp [hyphen, hy.length_eq, hw.length_eq]))
      | false => exact .inr (.inr ⟨_, _, _, _, rfl, hy, hw, hdate⟩)
  | weekDay hy hw hd hdate =>
      cases separated with
      | true =>
          refine .inl ⟨?_, getElem?_behind hy.length_eq '-' _⟩
          simp [hyphen, hy.length_eq, hw.length_eq, hd.length_eq]
      | false => exact .inr (.inl (by simp [hyphen, hy.length_eq, hw.length_eq, hd.length_eq]))

/-- A week without hyphens, and behind one character an hour. The day that such a text stands for is
the Monday of the week. -/
inductive WeekHour (separator : Char) : List Char → Nat × Nat × Nat → Prop where
  | intro {year week hour : Nat} {ys ws hs : List Char} {date : Nat × Nat × Nat}
      (hyear : Numeral 4 year ys) (hweek : Numeral 2 week ws) (hhour : Numeral 2 hour hs)
      (hdate : ofWeek? year week 1 = some date) :
      WeekHour separator (ys ++ 'W' :: (ws ++ separator :: hs)) date

/-- A text of at most ten characters that is a timestamp is a date, or a week with an hour. -/
theorem date_or_weekHour {cs : List Char} {date : Nat × Nat × Nat} {f : ClockFields}
    {z : Option Span} (hshort : cs.length ≤ 10)
    (h : timestampFields? (bytesOf cs) = some (date, f, z)) :
    (∃ separated, DateText separated cs date ∧ dateFields? cs.length (bytesOf cs) = some date) ∨
      ∃ separator, WeekHour separator cs date := by
  obtain ⟨separated, front, rest, rfl, hfront, hread, hrest⟩ := timestampFields?_eq_some h
  rcases hrest with ⟨rfl, -⟩ | ⟨c, more, rfl, htime⟩
  · rw [List.append_nil] at hread ⊢
    exact .inl ⟨separated, hfront, hread⟩
  · obtain ⟨hour, hs, spare, rfl, hhour⟩ := exists_hour_of_timeFields? htime
    simp only [List.length_append, List.length_cons, hhour.length_eq] at hshort
    -- Behind eight or ten characters there is no room for a separator and the digits of an hour.
    rcases hfront.forms with ⟨hten, -⟩ | height | ⟨year, week, ys, ws, rfl, hyear, hweek, hdate⟩
    · omega
    · omega
    · simp only [List.length_append, List.length_cons, hyear.length_eq, hweek.length_eq] at hshort
      obtain rfl : spare = [] := List.length_eq_zero_iff.mp (by omega)
      rw [List.append_nil, List.append_assoc, List.cons_append]
      exact .inr ⟨c, .intro hyear hweek hhour hdate⟩

theorem dateOfIso_eq_ok {cs : List Char} {d : Date} :
    dateOfIso (String.ofList cs) = .ok d ↔ (bytesOf cs).length ∈ [7, 8, 10] ∧
      dateFields? (bytesOf cs).length (bytesOf cs) = some (d.year, d.month, d.day) := by
  unfold dateOfIso
  rw [encodeUtf8_ofList]
  dsimp only
  split
  · rename_i hlength
    simp only [List.mem_cons, List.not_mem_nil, or_false, hlength, true_and]
    cases hread : dateFields? (bytesOf cs).length (bytesOf cs) with
    | none => simp [notIso]
    | some date =>
        obtain ⟨year, month, day⟩ := date
        rw [Option.some.injEq]
        exact Date.ofFields_eq_ok
  · rename_i hlength
    simp [hlength]

theorem dateOfIso_of_dateText {separated : Bool} {cs : List Char} {d : Date}
    (h : DateText separated cs (d.year, d.month, d.day))
    (hread : dateFields? cs.length (bytesOf cs) = some (d.year, d.month, d.day)) :
    dateOfIso (String.ofList cs) = .ok d := by
  rw [dateOfIso_eq_ok, h.length_bytesOf]
  refine ⟨?_, hread⟩
  rcases h.forms with ⟨hten, -⟩ | height | ⟨year, week, ys, ws, rfl, hyear, hweek, -⟩
  · simp [hten]
  · simp [height]
  · simp [hyear.length_eq, hweek.length_eq]

/-- The weeks of the year zero have no day of the calendar. -/
theorem one_le_year_of_ofWeek? {year week day : Nat} {d : Date}
    (h : ofWeek? year week day = some (d.year, d.month, d.day)) : 1 ≤ year := by
  rw [Nat.one_le_iff_ne_zero]
  rintro rfl
  have hvalid := d.valid
  simp only [isDate, Bool.and_eq_true, decide_eq_true_eq] at hvalid
  unfold ofWeek? at h
  repeat' split at h
  · cases h
  · cases h
  · simp only [Option.some.injEq, Prod.mk.injEq] at h
    omega
  · rename_i hyear
    exact absurd rfl hyear

theorem numeral_one : Numeral 1 1 ['1'] := ⟨rfl, by simp [isAsciiDigit], rfl⟩

/-- The character in front of the hour is taken for the day of the week, and must be that of
Monday. -/
theorem WeekHour.dateOfIso_iff {separator : Char} {cs : List Char} {d : Date}
    (h : WeekHour separator cs (d.year, d.month, d.day)) :
    dateOfIso (String.ofList cs) = .ok d ↔ separator = '1' := by
  generalize hfields : (d.year, d.month, d.day) = date at h
  obtain ⟨hyear, hweek, hhour, hdate⟩ := h
  subst hfields
  rename_i year week hour ys ws hs
  have hlength : (bytesOf (ys ++ 'W' :: (ws ++ separator :: hs))).length =
      9 + (encodeChar separator).length := by
    have hmark : (encodeChar 'W').length = 1 := rfl
    simp only [bytesOf_append, bytesOf_cons, List.length_append, hmark, hyear.length_bytesOf,
      hweek.length_bytesOf, hhour.length_bytesOf]
    omega
  rw [dateOfIso_eq_ok, dateFields?_compactWeek hyear hweek (by omega)]
  constructor
  · rintro ⟨-, hread⟩
    obtain ⟨⟨day, rest⟩, hnumber, hday⟩ := Option.bind_eq_some_iff.mp hread
    obtain ⟨ds, more, heq, hd, -⟩ := takeNumber_eq_some.mp hnumber
    obtain ⟨x, rfl⟩ := List.length_eq_one_iff.mp hd.length_eq
    obtain ⟨rfl, -⟩ := List.cons.inj heq
    -- No other day of the week falls on the date of its Monday.
    obtain rfl := ofWeek?_day_inj (one_le_year_of_ofWeek? hdate) hday hdate
    exact (List.cons.inj (hd.unique numeral_one)).1
  · rintro rfl
    have hone : (encodeChar '1').length = 1 := rfl
    rw [hlength, hone]
    refine ⟨by decide, ?_⟩
    rw [show '1' :: hs = ['1'] ++ hs from rfl, takeNumber_numeral numeral_one]
    exact hdate

/-- A week with an hour has ten characters, a mark behind its year and its separator behind the
week. -/
theorem WeekHour.positions {separator : Char} {cs : List Char} {date : Nat × Nat × Nat}
    (h : WeekHour separator cs date) :
    cs.length = 10 ∧ cs[4]? = some 'W' ∧ cs[7]? = some separator := by
  obtain ⟨hyear, hweek, hhour, -⟩ := h
  rename_i year week hour ys ws hs
  have hbefore : (ys ++ 'W' :: ws).length = 7 := by simp [hyear.length_eq, hweek.length_eq]
  refine ⟨?_, getElem?_behind hyear.length_eq 'W' _, ?_⟩
  · simp [hyear.length_eq, hweek.length_eq, hhour.length_eq]
  · rw [← List.cons_append, ← List.append_assoc, List.getElem?_append_right hbefore.le, hbefore]
    rfl

section NoDigit

variable {c : Char} {cs : List Char}

theorem ofChars?_of_noDigit (hc : isDigit c = false) :
    TimestampParts.ofChars? (c :: cs) = none := by
  cases hparts : TimestampParts.ofChars? (c :: cs) with
  | none => rfl
  | some p =>
      obtain ⟨separator, tail, hday, -, -, hbody, -⟩ := groups_of_ofChars? hparts
      obtain ⟨d, more, hdigits, hd⟩ := hday.exists_cons
      rw [hdigits, List.cons_append] at hbody
      rw [(List.cons.inj hbody).1, hd] at hc
      cases hc

theorem dateFields?_of_noDigit (hc : isDigit c = false) (width : Nat) :
    dateFields? width (bytesOf (c :: cs)) = none := by
  cases hread : dateFields? width (bytesOf (c :: cs)) with
  | none => rfl
  | some date =>
      obtain ⟨d, more, hdigits, hd⟩ := exists_digit_of_dateFields? hread
      rw [(List.cons.inj hdigits).1, isDigit_of_isAsciiDigit hd] at hc
      cases hc

theorem dateOfIso_of_noDigit (hc : isDigit c = false) (d : Date) :
    dateOfIso (String.ofList (c :: cs)) ≠ .ok d := by
  rw [Ne, dateOfIso_eq_ok, dateFields?_of_noDigit hc]
  simp

theorem timestampOfIso_of_noDigit (hc : isDigit c = false) (t : Timestamp) :
    timestampOfIso (String.ofList (c :: cs)) ≠ .ok t := by
  intro h
  rw [timestampOfIso_eq_ok, encodeUtf8_ofList] at h
  obtain ⟨separated, front, rest, -, -, hread, -⟩ := timestampFields?_eq_some h
  rw [dateFields?_of_noDigit hc] at hread
  cases hread

end NoDigit

end Calendar

namespace Value

theorem parseTimestamp_stripped (s : String) :
    parseTimestamp (String.ofList (stripChars s.toList)) = parseTimestamp s := by
  have hagain : stripChars (String.ofList (stripChars s.toList)).toList = stripChars s.toList := by
    rw [String.toList_ofList]
    exact stripChars_of_stripped (stripped_stripChars s.toList)
  rw [parseTimestamp, hagain, ← parseTimestamp]

theorem dateOfText_of_noDigit {s : String} {c : Char} {cs : List Char}
    (h : stripChars s.toList = c :: cs) (hc : isDigit c = false) (d : Date) :
    dateOfText s ≠ .ok d := by
  rw [dateOfText, h]
  split
  · rw [← h, parseTimestamp_stripped, parseTimestamp_of_none (h ▸ ofChars?_of_noDigit hc), h]
    intro hread
    obtain ⟨t, ht, -⟩ := except_bind_eq_ok.mp hread
    exact timestampOfIso_of_noDigit hc t ht
  · exact dateOfIso_of_noDigit hc d

theorem display_bytes (bs : Bytes) : (bytes bs).display = .ok (quotedBytes bs) := by
  simp [display, shown, nesting, nestingLimit, quotedForm]

theorem toDate_text (s : String) : (text s).toDate = some <$> dateOfText s := by
  simp only [toDate, plainDate, display]
  rfl

theorem toDate_bytes_shown (bs : Bytes) :
    (bytes bs).toDate = some <$> dateOfText (quotedBytes bs) := by
  simp only [toDate, plainDate, display_bytes]
  generalize quotedBytes bs = s
  rfl

/-- Bytes are shown between quotes behind a `b`, and no date begins so. -/
theorem toDate_bytes (bs : Bytes) (d : Option Date) : toDate (.bytes bs) ≠ .ok d := by
  generalize hquote : chooseQuote (bs.contains 0x27) (bs.contains 0x22) = q
  have hshown : quotedBytes bs = String.ofList ('b' :: q :: bs.flatMap (escapeByte q) ++ [q]) := by
    rw [quotedBytes, quotedBytesWith, hquote]
  have hq : isBlank q = false := by
    rw [← hquote, chooseQuote]
    split <;> decide
  have hb : isBlank 'b' = false ∧ isDigit 'b' = false := by decide
  have hstripped : Stripped ('b' :: q :: bs.flatMap (escapeByte q) ++ [q]) := by
    constructor
    · simpa using hb.1
    · rw [List.getLast?_concat]
      simpa using hq
  have hbody : stripChars (quotedBytes bs).toList =
      'b' :: (q :: bs.flatMap (escapeByte q) ++ [q]) := by
    rw [hshown, String.toList_ofList]
    exact stripChars_of_stripped hstripped
  intro h
  rw [toDate_bytes_shown, except_map_eq_ok] at h
  obtain ⟨d', hd', -⟩ := h
  exact dateOfText_of_noDigit hbody hb.2 d' hd'

/-- A text of ten characters with the mark of a week behind its year, where the character in front
of the hour is not the digit of Monday. -/
structure ShortWeek (cs : List Char) : Prop where
  length_eq : cs.length = 10
  mark : cs[4]? = some 'W'
  separator : cs[7]? ≠ some '1'

/-- The date of a text is the date of the timestamp it is read as, with one exception: the date of a
short text is all of it, where its timestamp may have an hour behind a week. -/
theorem dateOfText_iff {s : String} {t : Timestamp} (h : parseTimestamp s = .ok t) :
    dateOfText s = .ok t.date ↔ ¬ShortWeek (stripChars s.toList) := by
  rw [dateOfText]
  split
  · rename_i hlong
    rw [parseTimestamp_stripped, h]
    exact iff_of_true rfl fun hweek => by rw [hweek.length_eq] at hlong; omega
  · rename_i hshort
    rw [parseTimestamp_of_none (ofChars?_of_short (Nat.le_of_not_lt hshort)), timestampOfIso_eq_ok,
      encodeUtf8_ofList] at h
    rcases date_or_weekHour (Nat.le_of_not_lt hshort) h with
      ⟨separated, hdate, hread⟩ | ⟨separator, hweek⟩
    · refine iff_of_true (dateOfIso_of_dateText hdate hread) fun hapart => ?_
      rcases hdate.forms with ⟨-, hhyphen⟩ | height | ⟨year, week, ys, ws, hbody, hyear, hweek, -⟩
      · cases hapart.mark.symm.trans hhyphen
      · cases hapart.length_eq.symm.trans height
      · have hlength := hapart.length_eq
        simp [hbody, hyear.length_eq, hweek.length_eq] at hlength
    · obtain ⟨hlength, hmark, hseparator⟩ := hweek.positions
      rw [hweek.dateOfIso_iff]
      constructor
      · rintro rfl hapart
        exact hapart.separator hseparator
      · intro hnot
        by_contra hone
        exact hnot ⟨hlength, hmark, by simpa [hseparator] using hone⟩

/-- A value that stands for a moment itself: none at all, a timestamp, a date, a text or bytes. -/
inductive Temporal : Value → Prop where
  | null : Temporal .null
  | timestamp (t : Timestamp) : Temporal (.timestamp t)
  | date (d : Date) : Temporal (.date d)
  | text (s : String) : Temporal (.text s)
  | bytes (bs : Bytes) : Temporal (.bytes bs)

/-- A value whose date, if it has one, is not the date of its timestamp: bytes, and the text of a
week with an hour. -/
inductive DateApart : Value → Prop where
  | text {s : String} (h : ShortWeek (stripChars s.toList)) : DateApart (.text s)
  | bytes (bs : Bytes) : DateApart (.bytes bs)

/-- What is read as a timestamp is read as the date of this timestamp, unless it is one of the
values whose date lies apart. -/
theorem toDate_eq_date_iff {raw : Value} {t : Option Timestamp} (hraw : Temporal raw)
    (h : raw.toTimestamp = .ok t) : raw.toDate = .ok (t.map (·.date)) ↔ ¬DateApart raw := by
  cases hraw with
  | null =>
      cases h
      exact iff_of_true rfl nofun
  | timestamp t =>
      cases h
      exact iff_of_true rfl nofun
  | date d =>
      cases h
      exact iff_of_true rfl nofun
  | text s =>
      rw [toTimestamp_text, except_map_eq_ok] at h
      obtain ⟨t, ht, rfl⟩ := h
      rw [toDate_text, Option.map_some, except_map_eq_ok]
      constructor
      · rintro ⟨d, hd, hsame⟩ ⟨hapart⟩
        obtain rfl : d = t.date := Option.some.inj hsame
        exact (dateOfText_iff ht).mp hd hapart
      · intro hagree
        exact ⟨t.date, (dateOfText_iff ht).mpr fun hapart => hagree (.text hapart), rfl⟩
  | bytes bs => exact iff_of_false (toDate_bytes bs _) fun hagree => hagree (.bytes bs)

def tenOnMonday : Timestamp := ⟨⟨2024, 1, 8, by decide⟩, ⟨10, 0, 0, 0, by decide⟩, none⟩

theorem long_text_read_alike :
    Temporal (.text "2024-01-08 10:00:00") ∧
      (text "2024-01-08 10:00:00").toTimestamp = .ok (some tenOnMonday) ∧
      (text "2024-01-08 10:00:00").toDate = .ok (some tenOnMonday.date) := by
  have hread : (text "2024-01-08 10:00:00").toTimestamp = .ok (some tenOnMonday) := rfl
  have hlong : (stripChars "2024-01-08 10:00:00".toList).length = 19 := rfl
  refine ⟨.text _, hread, (toDate_eq_date_iff (.text _) hread).mpr ?_⟩
  rintro ⟨hapart⟩
  cases hapart.length_eq.symm.trans hlong

/-- The bytes of a timestamp are no date, and neither is a week with an hour; where the separator of
the hour is a digit, the date is another day of the week. -/
theorem bytes_and_week_dated_apart :
    (bytes (encodeUtf8 "2024-01-08 10:00:00")).toTimestamp = .ok (some tenOnMonday) ∧
      (∃ f, (bytes (encodeUtf8 "2024-01-08 10:00:00")).toDate = .error f) ∧
      (text "2024W02T10").toTimestamp = .ok (some tenOnMonday) ∧
      (∃ f, (text "2024W02T10").toDate = .error f) ∧
      (text "2024W02210").toTimestamp = .ok (some tenOnMonday) ∧
      (text "2024W02210").toDate = .ok (some ⟨2024, 1, 9, by decide⟩) :=
  ⟨rfl, ⟨_, rfl⟩, rfl, ⟨_, rfl⟩, rfl, rfl⟩

end Value

end StatementWalk
