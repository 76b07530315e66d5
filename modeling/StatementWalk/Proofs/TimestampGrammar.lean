import StatementWalk.Proofs.DateGrammar
import StatementWalk.Proofs.TimeGrammar

/-!
# The grammar of standard timestamps

A timestamp is a date and, after one character of any kind, a time. What is read as one begins with
the text of a date; where the date is written by month and day, and the time down to its seconds,
the texts that are read are told apart exactly.
-/

namespace StatementWalk

open Text Calendar

def Timestamp.fields (t : Timestamp) : (Nat × Nat × Nat) × ClockFields × Option Span :=
  ((t.date.year, t.date.month, t.date.day),
    ⟨t.clock.hour, t.clock.minute, t.clock.second, t.clock.micro⟩, t.zone.map fun o => ⟨o.micros⟩)

theorem Date.ofFields_eq_ok {year month day : Nat} {d : Date} :
    Date.ofFields year month day = .ok d ↔ (year, month, day) = (d.year, d.month, d.day) := by
  constructor
  · intro h
    unfold Date.ofFields at h
    split at h
    · cases h
      rfl
    · repeat' split at h
      all_goals cases h
  · rintro ⟨rfl, rfl, rfl⟩
    exact dif_pos d.valid

theorem Clock.ofFields_eq_ok {hour minute second micro : Nat} {c : Clock} :
    Clock.ofFields hour minute second micro = .ok c ↔
      (hour, minute, second, micro) = (c.hour, c.minute, c.second, c.micro) := by
  constructor
  · intro h
    unfold Clock.ofFields at h
    split at h
    · cases h
      rfl
    · repeat' split at h
      all_goals cases h
  · rintro ⟨rfl, rfl, rfl, rfl⟩
    exact dif_pos c.valid

theorem Offset.ofSpan_eq_ok {s : Span} {o : Offset} : Offset.ofSpan s = .ok o ↔ s = ⟨o.micros⟩ := by
  constructor
  · intro h
    unfold Offset.ofSpan at h
    split at h
    · cases h
      rfl
    · cases h
  · rintro rfl
    exact dif_pos o.inDay

namespace Calendar

/-- The offset that a text gives, once its range is checked. -/
def zoneOf? : Option Span → Except Fault (Option Offset)
  | none => .ok none
  | some span => some <$> Offset.ofSpan span

theorem zoneOf?_eq_ok {z : Option Span} {zone : Option Offset} :
    zoneOf? z = .ok zone ↔ z = zone.map fun o => ⟨o.micros⟩ := by
  cases z with
  | none => cases zone <;> simp [zoneOf?]
  | some span =>
      rw [zoneOf?, except_map_eq_ok]
      cases zone with
      | none => simp
      | some o => simp [Offset.ofSpan_eq_ok]

theorem timestampOfIso_eq {s : String} {year month day : Nat} {f : ClockFields} {z : Option Span}
    (h : timestampFields? (encodeUtf8 s) = some ((year, month, day), f, z)) :
    timestampOfIso s = do
      let zone ← zoneOf? z
      let date ← Date.ofFields year month day
      let clock ← Clock.ofFields f.hour f.minute f.second f.micro
      return ⟨date, clock, zone⟩ := by
  rw [timestampOfIso, h]
  cases z <;> rfl

/-- A text is read as a timestamp if and only if its fields are those of the timestamp. -/
theorem timestampOfIso_eq_ok {s : String} {t : Timestamp} :
    timestampOfIso s = .ok t ↔ timestampFields? (encodeUtf8 s) = some t.fields := by
  constructor
  · intro h
    cases hfields : timestampFields? (encodeUtf8 s) with
    | none =>
        rw [timestampOfIso, hfields] at h
        cases h
    | some found =>
        obtain ⟨⟨year, month, day⟩, f, z⟩ := found
        rw [timestampOfIso_eq hfields] at h
        obtain ⟨zone, hzone, h⟩ := except_bind_eq_ok.mp h
        obtain ⟨date, hdate, h⟩ := except_bind_eq_ok.mp h
        obtain ⟨clock, hclock, h⟩ := except_bind_eq_ok.mp h
        cases h
        have hparts := Clock.ofFields_eq_ok.mp hclock
        simp only [Prod.mk.injEq] at hparts
        obtain ⟨hhour, hminute, hsecond, hmicro⟩ := hparts
        rw [Timestamp.fields, Date.ofFields_eq_ok.mp hdate,
          zoneOf?_eq_ok.mp hzone, ← hhour, ← hminute, ← hsecond, ← hmicro]
  · intro h
    have hzone : zoneOf? (t.zone.map fun o => ⟨o.micros⟩) = .ok t.zone := zoneOf?_eq_ok.mpr rfl
    have hdate : Date.ofFields t.date.year t.date.month t.date.day = .ok t.date :=
      Date.ofFields_eq_ok.mpr rfl
    have hclock : Clock.ofFields t.clock.hour t.clock.minute t.clock.second t.clock.micro =
        .ok t.clock :=
      Clock.ofFields_eq_ok.mpr rfl
    rw [timestampOfIso_eq h, hzone, hdate, hclock]
    rfl

/-- A separator is dropped whole, however many bytes it has. -/
theorem dropCharacter_cons (c : Char) (cs : List Char) :
    dropCharacter (bytesOf (c :: cs)) = bytesOf cs := by
  have hvalid : c.toNat < 0xD800 ∨ 0xDFFF < c.toNat ∧ c.toNat < 0x110000 := c.valid
  rw [bytesOf_cons]
  rcases Nat.lt_or_ge c.toNat 0x80 with hone | hone
  · rw [encodeChar_one hone, List.singleton_append, dropCharacter, toNat_ofNat_byte (by omega),
      if_pos hone]
  rcases Nat.lt_or_ge c.toNat 0x800 with htwo | htwo
  · rw [encodeChar_two hone htwo, List.cons_append, dropCharacter, toNat_ofNat_byte (by omega),
      if_neg (by omega), if_neg (by omega), if_neg (by omega)]
    rfl
  rcases Nat.lt_or_ge c.toNat 0x10000 with hthree | hthree
  · rw [encodeChar_three htwo hthree, List.cons_append, dropCharacter, toNat_ofNat_byte (by omega),
      if_neg (by omega), if_pos (by omega)]
    rfl
  · rw [encodeChar_four hthree, List.cons_append, dropCharacter, toNat_ofNat_byte (by omega),
      if_neg (by omega), if_neg (by omega), if_pos (by omega)]
    rfl

/-- What is read as a timestamp begins with the text of a date, and a time follows it after one
character. -/
theorem timestampFields?_eq_some {cs : List Char} {date : Nat × Nat × Nat} {f : ClockFields}
    {z : Option Span} (h : timestampFields? (bytesOf cs) = some (date, f, z)) :
    ∃ separated front rest, cs = front ++ rest ∧ DateText separated front date ∧
      dateFields? front.length (bytesOf cs) = some date ∧
      (rest = [] ∧ f = {} ∧ z = none ∨
        ∃ c more, rest = c :: more ∧ timeFields? (bytesOf more) = some (f, z)) := by
  unfold timestampFields? at h
  split at h
  · cases h
  · obtain ⟨pos, hpos, h⟩ := Option.bind_eq_some_iff.mp h
    obtain ⟨found, hdate, h⟩ := Option.bind_eq_some_iff.mp h
    obtain ⟨separated, front, rest, rfl, hfront, rfl⟩ := dateText_of_dateFields? hdate hpos
    have hbytes := hfront.length_bytesOf
    have hbehind : (bytesOf (front ++ rest)).drop front.length = bytesOf rest := by
      rw [bytesOf_append, List.drop_append_of_le_length hbytes.ge, List.drop_of_length_le hbytes.le,
        List.nil_append]
    cases rest with
    | nil =>
        rw [List.append_nil, if_neg (by rw [hbytes]; exact lt_irrefl _)] at h
        cases h
        exact ⟨separated, front, [], rfl, hfront, hdate, .inl ⟨rfl, rfl, rfl⟩⟩
    | cons c more =>
        have hsome : 0 < (bytesOf (c :: more)).length :=
          List.length_pos_iff.mpr (mt bytesOf_eq_nil.mp (List.cons_ne_nil c more))
        rw [if_pos (by rw [bytesOf_append, List.length_append, hbytes]; omega), hbehind,
          dropCharacter_cons] at h
        obtain ⟨⟨f', z'⟩, htime, hall⟩ := Option.bind_eq_some_iff.mp h
        cases hall
        exact ⟨separated, front, c :: more, rfl, hfront, hdate, .inr ⟨c, more, rfl, htime⟩⟩

/-- A date by month and day, with hyphens. -/
abbrev DayText : List Char → Nat × Nat × Nat → Prop := FieldsText 4 '-'

namespace DayText

variable {front : List Char} {date : Nat × Nat × Nat}

theorem dateText (h : DayText front date) : DateText true front date := by
  obtain ⟨hyear, hmonth, hday⟩ := h
  exact .day hyear hmonth hday

theorem length_eq (h : DayText front date) : front.length = 10 := by
  obtain ⟨hyear, hmonth, hday⟩ := h
  simp [hyear.length_eq, hmonth.length_eq, hday.length_eq]

theorem exists_fields (h : DayText front date) :
    ∃ ys ms ds, front = ys ++ (hyphen true ++ (ms ++ (hyphen true ++ ds))) ∧ Numeral 4 date.1 ys ∧
      Numeral 2 date.2.1 ms ∧ Numeral 2 date.2.2 ds := by
  obtain ⟨hyear, hmonth, hday⟩ := h
  exact ⟨_, _, _, rfl, hyear, hmonth, hday⟩

theorem separatorAt?_eq (h : DayText front date) (rest : List Char) :
    separatorAt? (bytesOf (front ++ rest)) = some 10 := by
  obtain ⟨ys, ms, ds, rfl, hyear, hmonth, hday⟩ := h.exists_fields
  simp only [List.append_assoc]
  exact separatorAt?_day hyear hmonth hday rest

theorem dateFields?_eq (h : DayText front date) (width : Nat) (rest : List Char) :
    dateFields? width (bytesOf (front ++ rest)) = some date := by
  obtain ⟨ys, ms, ds, rfl, hyear, hmonth, hday⟩ := h.exists_fields
  simp only [List.append_assoc]
  exact dateFields?_day hyear hmonth hday width rest

theorem timestampFields?_eq (h : DayText front date) (c : Char) (more : List Char) :
    timestampFields? (bytesOf (front ++ c :: more)) =
      (timeFields? (bytesOf more)).map fun (f, z) => (date, f, z) := by
  have hbytes : (bytesOf front).length = 10 := h.dateText.length_bytesOf.trans h.length_eq
  have hsome : 0 < (bytesOf (c :: more)).length :=
    List.length_pos_iff.mpr (mt bytesOf_eq_nil.mp (List.cons_ne_nil c more))
  have hlong : 10 < (bytesOf (front ++ c :: more)).length := by
    rw [bytesOf_append, List.length_append]
    omega
  have hbehind : (bytesOf (front ++ c :: more)).drop 10 = bytesOf (c :: more) := by
    rw [bytesOf_append, List.drop_append_of_le_length hbytes.ge, List.drop_of_length_le hbytes.le,
      List.nil_append]
  unfold timestampFields?
  rw [if_neg (by omega), h.separatorAt?_eq, Option.bind_eq_bind, Option.bind_some, h.dateFields?_eq,
    Option.bind_eq_bind, Option.bind_some, if_pos hlong, hbehind, dropCharacter_cons]
  cases timeFields? (bytesOf more) <;> rfl

end DayText

/-- A text with a date by month and day and a clock is read if and only if the seconds are followed
by what may follow them. -/
theorem timestampFields?_clock {front clock tail : List Char} {date date' : Nat × Nat × Nat}
    {hour minute second : Nat} {f : ClockFields} {z : Option Span} (hfront : DayText front date)
    (hclock : ClockText clock (hour, minute, second)) (c : Char) :
    timestampFields? (bytesOf (front ++ c :: (clock ++ tail))) = some (date', f, z) ↔
      date' = date ∧ ∃ micro, f = ⟨hour, minute, second, micro⟩ ∧ AfterSeconds tail micro z := by
  rw [hfront.timestampFields?_eq, Option.map_eq_some_iff, ← timeFields?_clock hclock]
  constructor
  · rintro ⟨⟨f', z'⟩, hread, hall⟩
    cases hall
    exact ⟨rfl, hread⟩
  · rintro ⟨rfl, hread⟩
    exact ⟨(f, z), hread, rfl⟩

theorem dayText_text (d : Date) : DayText d.text.toList (d.year, d.month, d.day) := by
  have hvalid := d.valid
  simp only [isDate, Bool.and_eq_true, decide_eq_true_eq] at hvalid
  have hdays : daysInMonth d.year d.month ≤ 31 := by
    unfold daysInMonth
    repeat' split
    all_goals omega
  have htext : d.text.toList = (padded 4 d.year).toList ++
      '-' :: ((padded 2 d.month).toList ++ '-' :: (padded 2 d.day).toList) := by
    simp [Date.text]
  rw [htext]
  exact .intro (numeral_padded (by decide) (by omega)) (numeral_padded (by decide) (by omega))
    (numeral_padded (by decide) (by omega))

def wholeText (c : Clock) : List Char :=
  (padded 2 c.hour).toList ++ ':' ::
    ((padded 2 c.minute).toList ++ ':' :: (padded 2 c.second).toList)

theorem clock_bounds (c : Clock) :
    c.hour < 24 ∧ c.minute < 60 ∧ c.second < 60 ∧ c.micro < 1000000 := by
  have hvalid := c.valid
  simp only [isClock, Bool.and_eq_true, decide_eq_true_eq] at hvalid
  omega

theorem clockText_wholeText (c : Clock) : ClockText (wholeText c) (c.hour, c.minute, c.second) := by
  have hbounds := clock_bounds c
  exact .intro (numeral_padded (by decide) (by omega)) (numeral_padded (by decide) (by omega))
    (numeral_padded (by decide) (by omega))

/-- A date in whose text a hyphen follows the year is one by month and day, unless the mark of a
week follows the hyphen. -/
theorem dayText_of_dateText {separated : Bool} {front rest ys ms ds more : List Char}
    {date : Nat × Nat × Nat} (h : DateText separated front date) (hyear : ys.length = 4)
    (hmonth : ms.length = 2) (hday : ds.length = 2) (hmark : 'W' ∉ ms)
    (heq : front ++ rest = (ys ++ '-' :: (ms ++ '-' :: ds)) ++ more) :
    front = ys ++ '-' :: (ms ++ '-' :: ds) ∧ rest = more ∧ DayText front date := by
  have hnodigit : isAsciiDigit '-' ≠ true := by decide
  obtain ⟨m, m', rfl⟩ := List.length_eq_two.mp hmonth
  cases h with
  | @day year month day ys' ms' ds' hy hm hd =>
      simp only [List.append_assoc] at heq
      obtain ⟨rfl, hbehind⟩ := List.append_inj heq (hy.length_eq.trans hyear.symm)
      cases separated with
      | true =>
          have hmonths : ms' ++ '-' :: (ds' ++ rest) = [m, m'] ++ '-' :: (ds ++ more) := by
            simpa [hyphen] using hbehind
          obtain ⟨rfl, hafter⟩ := List.append_inj hmonths (hm.length_eq.trans hmonth.symm)
          obtain ⟨-, hdays⟩ := List.cons.inj hafter
          obtain ⟨rfl, rfl⟩ := List.append_inj hdays (hd.length_eq.trans hday.symm)
          exact ⟨rfl, rfl, .intro hy hm hd⟩
      | false =>
          obtain ⟨d, d', rfl⟩ := List.length_eq_two.mp hm.length_eq
          obtain ⟨rfl, -⟩ := List.cons.inj hbehind
          exact absurd (hm.digits '-' List.mem_cons_self) hnodigit
  | week hy hw hdate =>
      simp only [List.append_assoc] at heq
      obtain ⟨rfl, hbehind⟩ := List.append_inj heq (hy.length_eq.trans hyear.symm)
      cases separated <;> simp [hyphen] at hbehind
      exact absurd (hbehind.1 ▸ List.mem_cons_self) hmark
  | weekDay hy hw hd hdate =>
      simp only [List.append_assoc] at heq
      obtain ⟨rfl, hbehind⟩ := List.append_inj heq (hy.length_eq.trans hyear.symm)
      cases separated <;> simp [hyphen] at hbehind
      exact absurd (hbehind.1 ▸ List.mem_cons_self) hmark

/-- A text in the form of a date and a clock that is read as a timestamp has ASCII digits there. -/
theorem texts_of_timestampFields? {ys ms ds hs is ss tail : List Char} {c : Char}
    {date : Nat × Nat × Nat} {f : ClockFields} {z : Option Span} (hyear : ys.length = 4)
    (hmonth : ms.length = 2) (hday : ds.length = 2) (hmark : 'W' ∉ ms) (hhour : hs.length = 2)
    (hminute : is.length = 2) (hsecond : ss.length = 2)
    (hzone : ∀ x ∈ hs ++ ':' :: (is ++ ':' :: ss), isZoneChar x = false)
    (h : timestampFields? (bytesOf ((ys ++ '-' :: (ms ++ '-' :: ds)) ++
      c :: (hs ++ ':' :: (is ++ ':' :: ss) ++ tail))) = some (date, f, z)) :
    DayText (ys ++ '-' :: (ms ++ '-' :: ds)) date ∧
      ∃ fields, ClockText (hs ++ ':' :: (is ++ ':' :: ss)) fields := by
  obtain ⟨separated, front, rest, heq, hfront, -, hrest⟩ := timestampFields?_eq_some h
  obtain ⟨rfl, rfl, hdayText⟩ := dayText_of_dateText hfront hyear hmonth hday hmark heq.symm
  rcases hrest with ⟨hnone, -⟩ | ⟨c', more, hmore, htime⟩
  · cases hnone
  · obtain ⟨-, rfl⟩ := List.cons.inj hmore
    have hpos : ∀ x ∈ hs ++ ':' :: (is ++ ':' :: ss), (!isZoneChar x) = true := by simpa using hzone
    rw [timeFields?, isZoneByte_alike.takeWhile, List.takeWhile_append_of_pos hpos] at htime
    obtain ⟨r, hread, -⟩ := Option.bind_eq_some_iff.mp htime
    exact ⟨hdayText, clockText_of_clockFields? hhour hminute hsecond hread⟩

end Calendar

end StatementWalk
