import StatementWalk.Proofs.TimestampParts

/-!
# Timestamps in standard texts

A text that is cut into parts and put together again is read as it was before, with one exception: a
fraction behind a comma or a colon is not cut off as one, and stands as a remainder behind six
zeros. Such a text is refused where it has no offset, and read without its microseconds where it has
one.
-/

namespace StatementWalk.Calendar

open Text

/-- The text behind the seconds, once it is put together again. -/
def rebuilt (tail : List Char) : List Char :=
  '.' :: (sixPlaces (splitFraction tail).1 ++ (splitFraction tail).2.dropWhile isBlank)

/-- A fraction that is not cut off as one, and that matters: behind it stands no offset, or it tells
microseconds. -/
inductive Lost : List Char → Nat → Option Span → Prop where
  | intro {mark digit : Char} {more : List Char} {micro : Nat} {z : Option Span}
      (hmark : mark ∈ [',', ':']) (hdigit : isAsciiDigit digit = true)
      (hlost : z = none ∨ micro ≠ 0) :
      Lost (mark :: digit :: more) micro z

theorem AfterSeconds.unique {tail : List Char} {micro micro' : Nat} {z z' : Option Span}
    (h : AfterSeconds tail micro z) (h' : AfterSeconds tail micro' z') :
    micro = micro' ∧ z = z' := by
  have hclock := clockText_wholeText .midnight
  have hread := (timeFields?_clock hclock).mpr ⟨micro, rfl, h⟩
  have hread' := (timeFields?_clock hclock).mpr ⟨micro', rfl, h'⟩
  have hall := Option.some.inj (hread.symm.trans hread')
  simp only [Prod.mk.injEq, ClockFields.mk.injEq, true_and] at hall
  exact hall

theorem zoneFields?_eq_none {bs : Bytes} (h : zoneFields? bs = some none) : bs = [] := by
  unfold zoneFields? at h
  split at h
  · rfl
  · cases h
  · split at h <;> cases h
  · split at h <;> cases h

/-- Characters behind the sixth change no microseconds. -/
theorem microsOf_append {ds more : List Char} (h : more ≠ [] → 6 ≤ ds.length) :
    (ds ++ more).take 6 = ds.take 6 ∧ microsOf (ds ++ more) = microsOf ds := by
  have htake : (ds ++ more).take 6 = ds.take 6 := by
    by_cases hmore : more = []
    · rw [hmore, List.append_nil]
    · exact List.take_append_of_le_length (h hmore)
  have hplaces : 6 - (ds ++ more).length = 6 - ds.length := by
    by_cases hmore : more = []
    · rw [hmore, List.append_nil]
    · have := h hmore
      rw [List.length_append]
      omega
  rw [microsOf, microsOf, htake, hplaces]
  exact ⟨rfl, rfl⟩

/-- What is left of a text behind its ASCII digits is left behind its digits and blanks, if it is
nothing or begins with the zero character. -/
theorem headD_dropWhile {cs : List Char} (h : (cs.dropWhile isAsciiDigit).headD '\x00' = '\x00') :
    (((cs.dropWhile isDigit).dropWhile isBlank).dropWhile isAsciiDigit).headD '\x00' = '\x00' := by
  induction cs with
  | nil => rfl
  | cons c cs ih =>
      cases hc : isAsciiDigit c with
      | true =>
          rw [List.dropWhile_cons_of_pos hc] at h
          rw [List.dropWhile_cons_of_pos (isDigit_of_isAsciiDigit hc)]
          exact ih h
      | false =>
          rw [List.dropWhile_cons_of_neg (by simp [hc]), List.headD_cons] at h
          have hzero : isDigit '\x00' = false ∧ isBlank '\x00' = false ∧
              isAsciiDigit '\x00' = false := by
            decide
          simp [h, hzero]

section Rebuilt

variable {junk zone : List Char} {z : Option Span} (hjunk : ∀ c ∈ junk, isZoneChar c = false)
  (hzone : ∀ c ∈ zone.head?, isZoneChar c = true) (hz : zoneFields? (bytesOf zone) = some z)
include hjunk hzone hz

/-- Where nothing is cut off as a fraction, the text is read without microseconds. -/
theorem afterSeconds_rebuilt_uncut (huncut : splitFraction (junk ++ zone) = ([], junk ++ zone))
    (hspare : zone = [] → ((junk.dropWhile isBlank).dropWhile isAsciiDigit).headD '\x00' = '\x00') :
    AfterSeconds (rebuilt (junk ++ zone)) 0 z := by
  have hbehind : (junk ++ zone).dropWhile isBlank = junk.dropWhile isBlank ++ zone :=
    (scan_append fun c hc => isBlank_of_isZoneChar (hzone c hc)).2
  have hunblank : ∀ c ∈ junk.dropWhile isBlank, isZoneChar c = false := fun c hc =>
    hjunk c ((List.dropWhile_sublist isBlank).mem hc)
  have hmicro : microsOf [] = 0 := rfl
  rw [rebuilt, huncut, hbehind, ← hmicro]
  exact afterSeconds_sixPlaces (by simp) hunblank hzone hspare hz

/-- A fraction behind a point is cut off, with all the digits that follow it. -/
theorem afterSeconds_rebuilt_point {digits : List Char} (hsome : digits ≠ [])
    (hdigits : ∀ c ∈ digits, isAsciiDigit c = true) (hlong : junk ≠ [] → 6 ≤ digits.length)
    (hspare : zone = [] → (junk.dropWhile isAsciiDigit).headD '\x00' = '\x00') :
    AfterSeconds (rebuilt ('.' :: (digits ++ junk) ++ zone)) (microsOf digits) z := by
  have hrest : ∀ c ∈ (junk.dropWhile isDigit ++ zone).head?, isDigit c = false := by
    have hfirst := first_dropLeading isDigit junk
    rw [dropLeading] at hfirst
    cases hdrop : junk.dropWhile isDigit with
    | nil => exact fun c hc => isDigit_of_isZoneChar (hzone c hc)
    | cons x rest =>
        rw [hdrop] at hfirst
        exact hfirst
  have hfraction : ∀ c ∈ digits ++ junk.takeWhile isDigit, isDigit c = true := by
    rw [List.forall_mem_append]
    exact ⟨fun c hc => isDigit_of_isAsciiDigit (hdigits c hc), fun c hc =>
      List.mem_takeWhile_imp hc⟩
  have hsplit : '.' :: (digits ++ junk) ++ zone =
      '.' :: (digits ++ junk.takeWhile isDigit ++ (junk.dropWhile isDigit ++ zone)) := by
    rw [List.append_assoc, ← List.append_assoc (junk.takeWhile isDigit),
      List.takeWhile_append_dropWhile]
    simp
  have hcut := splitFraction_digits (List.append_ne_nil_of_left_ne_nil hsome _) hfraction hrest
  have hlonger : junk.takeWhile isDigit ≠ [] → 6 ≤ digits.length := fun hmore =>
    hlong fun hnone => hmore (by rw [hnone]; rfl)
  obtain ⟨htake, hmicro⟩ := microsOf_append hlonger
  have hbehind : (junk.dropWhile isDigit ++ zone).dropWhile isBlank =
      (junk.dropWhile isDigit).dropWhile isBlank ++ zone :=
    (scan_append fun c hc => isBlank_of_isZoneChar (hzone c hc)).2
  have hrests : ∀ c ∈ (junk.dropWhile isDigit).dropWhile isBlank,
      isZoneChar c = false := fun c hc =>
    hjunk c ((List.dropWhile_sublist isDigit).mem ((List.dropWhile_sublist isBlank).mem hc))
  rw [hsplit, rebuilt, hcut, hbehind, ← hmicro]
  refine afterSeconds_sixPlaces ?_ hrests hzone (fun hnone => headD_dropWhile (hspare hnone)) hz
  rw [htake]
  exact fun c hc => hdigits c (List.mem_of_mem_take hc)

end Rebuilt

/-- A fraction behind a comma or a colon stays where it is. -/
theorem splitFraction_mark {mark : Char} (hmark : mark ∈ [',', ':']) (cs : List Char) :
    splitFraction (mark :: cs) = ([], mark :: cs) ∧ isBlank mark = false ∧ isZoneChar mark = false ∧
      isAsciiDigit mark = false ∧ mark ≠ '\x00' := by
  have hpoint : mark ≠ '.' := by
    rintro rfl
    exact absurd hmark (by decide)
  refine ⟨splitFraction_none fun rest hrest => absurd (List.cons.inj hrest).1 hpoint, ?_⟩
  simp only [List.mem_cons, List.not_mem_nil, or_false] at hmark
  rcases hmark with rfl | rfl <;> decide

theorem afterSeconds_rebuilt {tail : List Char} {micro : Nat} {z : Option Span}
    (h : AfterSeconds tail micro z) (hkept : ¬Lost tail micro z) :
    AfterSeconds (rebuilt tail) micro z := by
  obtain @⟨body, zone, spare, micro, z, hbody, hzone, hfraction, hspare, hz⟩ := h
  have hnopoint : ∀ rest, zone = '.' :: rest → rest.takeWhile isDigit = [] := by
    rintro rest rfl
    cases hzone '.' rfl
  cases hfraction with
  | none =>
      exact afterSeconds_rebuilt_uncut hbody hzone hz (splitFraction_none hnopoint) fun _ => rfl
  | @one c hc =>
      have huncut : splitFraction ([c] ++ zone) = ([], [c] ++ zone) := by
        refine splitFraction_none fun rest hrest => ?_
        obtain ⟨-, rfl⟩ := List.cons.inj hrest
        cases zone with
        | nil => rfl
        | cons x zone =>
            exact List.takeWhile_cons_of_neg (by simp [isDigit_of_isZoneChar (hzone x rfl)])
      refine afterSeconds_rebuilt_uncut hbody hzone hz huncut fun hnone => ?_
      obtain rfl : c = '\x00' := hspare hnone
      decide
  | @marked mark digits junk hmark hdigits hjunk =>
      by_cases hpoint : mark = '.'
      · subst hpoint
        have hrest : ∀ c ∈ junk, isZoneChar c = false := fun c hc => hbody c (by simp [hc])
        exact afterSeconds_rebuilt_point hrest hzone hz hdigits.1 hdigits.2 hjunk hspare
      · have hother : mark ∈ [',', ':'] := by simpa [hpoint] using hmark
        obtain ⟨digit, more, rfl⟩ := List.exists_cons_of_ne_nil hdigits.1
        obtain ⟨hsome, hnone⟩ : z ≠ none ∧ microsOf (digit :: more) = 0 := by
          by_contra hlost
          exact hkept (.intro hother (hdigits.2 digit List.mem_cons_self) (by tauto))
        have hoffset : zone ≠ [] := by
          rintro rfl
          cases hz
          exact hsome rfl
        rw [hnone]
        exact afterSeconds_rebuilt_uncut hbody hzone hz (splitFraction_mark hother _).1
          fun h => absurd h hoffset

theorem not_afterSeconds_rebuilt {tail : List Char} {micro : Nat} {z : Option Span}
    (h : AfterSeconds tail micro z) (hlost : Lost tail micro z) :
    ¬AfterSeconds (rebuilt tail) micro z := by
  obtain @⟨mark, digit, more, micro, z, hmark, hdigit, hlost⟩ := hlost
  obtain ⟨huncut, hunblank, -, hnodigit, hsome⟩ := splitFraction_mark hmark (digit :: more)
  have hrebuilt : rebuilt (mark :: digit :: more) =
      '.' :: (sixPlaces [] ++ mark :: digit :: more) := by
    rw [rebuilt, huncut, List.dropWhile_cons_of_neg (by simp [hunblank])]
  generalize htail : mark :: digit :: more = tail at h huncut hrebuilt
  obtain @⟨body, zone, spare, _, _, hbody, hzone, hfraction, hspare, hz⟩ := h
  by_cases hnone : zone = []
  · subst hnone
    rw [List.append_nil] at htail hrebuilt ⊢
    rw [hrebuilt]
    have hzeros : ∀ c ∈ sixPlaces [], isAsciiDigit c = true :=
      isAsciiDigit_of_mem_sixPlaces (by simp)
    refine not_afterSeconds_of_left ?_ ?_
    · rw [List.forall_mem_cons, List.forall_mem_append]
      exact ⟨rfl, fun c hc => isZoneChar_of_isAsciiDigit (hzeros c hc), hbody⟩
    · rw [List.dropWhile_append_of_pos hzeros, ← htail,
        List.dropWhile_cons_of_neg (by simp [hnodigit])]
      exact hsome
  · intro hread
    have hoffset : z ≠ none := by
      rintro rfl
      exact hnone (bytesOf_eq_nil.mp (zoneFields?_eq_none hz))
    have hzero := afterSeconds_rebuilt_uncut hbody hzone hz huncut fun h => absurd h hnone
    exact hlost.elim hoffset fun hmicro => hmicro (hread.unique hzero).1

/-- A date and a clock, and behind them a fraction after a comma or a colon that matters. -/
inductive LosesFraction (d : Timestamp) : List Char → Prop where
  | intro {separator mark digit : Char} {more : List Char} (hseparator : separator ∈ [' ', 'T'])
      (hmark : mark ∈ [',', ':']) (hdigit : isAsciiDigit digit = true) (hline : '\n' ∉ more)
      (hlost : d.zone = none ∨ d.clock.micro ≠ 0) :
      LosesFraction d (d.date.text.toList ++ separator ::
        (wholeText d.clock ++ mark :: digit :: more))

/-- What is cut as a date and a clock off a standard text is the date and the clock that the text
tells. -/
theorem texts_of_groups {day clock tail : List Char} {separator : Char} {d : Timestamp}
    (hday : Groups 4 '-' day) (hclock : Groups 2 ':' clock)
    (h : timestampFields? (bytesOf (day ++ separator :: (clock ++ tail))) = some d.fields) :
    day = d.date.text.toList ∧ clock = wholeText d.clock ∧
      AfterSeconds tail d.clock.micro (d.zone.map fun o => ⟨o.micros⟩) := by
  have hzone := hclock.forall_mem (fun _ => isZoneChar_of_isDigit) rfl
  obtain ⟨hyear, hmonth, hdays⟩ := hday
  obtain ⟨hhour, hminute, hsecond⟩ := hclock
  have hmark : 'W' ∉ _ := fun hmem => absurd (hmonth.digits 'W' hmem) (by decide)
  obtain ⟨hdayText, ⟨hour, minute, second⟩, hclockText⟩ := texts_of_timestampFields? hyear.length_eq
    hmonth.length_eq hdays.length_eq hmark hhour.length_eq hminute.length_eq
      hsecond.length_eq hzone h
  obtain ⟨-, micro, hfields, hafter⟩ := (timestampFields?_clock hdayText hclockText separator).mp h
  simp only [ClockFields.mk.injEq] at hfields
  obtain ⟨rfl, rfl, rfl, rfl⟩ := hfields
  exact ⟨hdayText.unique (dayText_text d.date),
    hclockText.unique (clockText_wholeText d.clock), hafter⟩

section Loses

variable {d : Timestamp}

theorem losesFraction_iff {separator : Char} {tail : List Char}
    (hseparator : separator ∈ [' ', 'T'])
    (hline : '\n' ∉ (splitFraction tail).2.dropWhile isBlank) :
    LosesFraction d (d.date.text.toList ++ separator :: (wholeText d.clock ++ tail)) ↔
      Lost tail d.clock.micro (d.zone.map fun o => ⟨o.micros⟩) := by
  constructor
  · generalize hbody : d.date.text.toList ++ separator :: (wholeText d.clock ++ tail) = body
    rintro ⟨-, hmark, hdigit, -, hlost⟩
    obtain ⟨-, hbehind⟩ := List.cons.inj (List.append_cancel_left hbody)
    rw [List.append_cancel_left hbehind]
    exact .intro hmark hdigit (by simpa using hlost)
  · rintro @⟨mark, digit, more, micro, z, hmark, hdigit, hlost⟩
    obtain ⟨huncut, hunblank, -⟩ := splitFraction_mark hmark (digit :: more)
    rw [huncut, List.dropWhile_cons_of_neg (by simp [hunblank])] at hline
    simp only [List.mem_cons, not_or] at hline
    exact .intro hseparator hmark hdigit hline.2.2 (by simpa using hlost)

theorem LosesFraction.exists_parts {cs : List Char} (h : LosesFraction d cs) :
    ∃ p, TimestampParts.ofChars? cs = some p := by
  obtain @⟨separator, mark, digit, more, hseparator, hmark, hdigit, hline, -⟩ := h
  obtain ⟨huncut, hunblank, -⟩ := splitFraction_mark hmark (digit :: more)
  have hnoline : '\n' ≠ mark ∧ '\n' ≠ digit := by
    constructor
    · rintro rfl
      exact absurd hmark (by decide)
    · rintro rfl
      exact absurd hdigit (by decide)
  refine ⟨_, ofChars?_groups (dayText_text d.date).groups (clockText_wholeText d.clock).groups
    hseparator ?_⟩
  rw [huncut, List.dropWhile_cons_of_neg (by simp [hunblank])]
  simp [hnoline, hline]

end Loses

/-- A text that is read by the standard rules is read the same by cutting it into parts, unless it
has a fraction behind a comma or a colon that matters. -/
theorem parseTimestamp_eq_iso_iff {s : String} {d : Timestamp}
    (h : timestampOfIso (strip s) = .ok d) :
    parseTimestamp s = .ok d ↔ ¬LosesFraction d (stripChars s.toList) := by
  have hfields := timestampOfIso_eq_ok.mp h
  rw [strip, encodeUtf8_ofList] at hfields
  cases hparts : TimestampParts.ofChars? (stripChars s.toList) with
  | none =>
      rw [parseTimestamp_of_none hparts, ← strip]
      refine iff_of_true h fun hloses => ?_
      obtain ⟨p, hp⟩ := hloses.exists_parts
      cases hparts.symm.trans hp
  | some p =>
      obtain ⟨separator, tail, hday, hclock, hseparator, hbody, hfraction, hzone, hline⟩ :=
        groups_of_ofChars? hparts
      rw [hbody] at hfields
      obtain ⟨hdate, hwhole, hafter⟩ := texts_of_groups hday hclock hfields
      have hdayText : DayText p.day (d.date.year, d.date.month, d.date.day) :=
        hdate ▸ dayText_text d.date
      have hclockText : ClockText p.clock (d.clock.hour, d.clock.minute, d.clock.second) :=
        hwhole ▸ clockText_wholeText d.clock
      rw [hzone] at hline
      rw [parseTimestamp_of_parts hparts, timestampOfIso_eq_ok, Timestamp.fields,
        timestampFields?_toText hdayText hclockText, hbody, hdate, hwhole,
        losesFraction_iff hseparator hline, hfraction, hzone]
      constructor
      · rintro ⟨-, micro, hmicro, hread⟩ hlost
        obtain rfl : d.clock.micro = micro := by simpa using hmicro
        exact not_afterSeconds_rebuilt hafter hlost hread
      · intro hkept
        exact ⟨rfl, _, rfl, afterSeconds_rebuilt hafter hkept⟩

def justPastTen (zone : Option Offset) : Timestamp :=
  ⟨⟨2024, 1, 1, by decide⟩, ⟨10, 0, 0, 500000, by decide⟩, zone⟩

theorem comma_text_not_read_as_iso :
    timestampOfIso (strip "2024-01-01T10:00:00,5") = .ok (justPastTen none) ∧
      LosesFraction (justPastTen none) (stripChars "2024-01-01T10:00:00,5".toList) ∧
      parseTimestamp "2024-01-01T10:00:00,5" ≠ .ok (justPastTen none) := by
  have hread : timestampOfIso (strip "2024-01-01T10:00:00,5") = .ok (justPastTen none) := rfl
  have hbody : stripChars "2024-01-01T10:00:00,5".toList = (justPastTen none).date.text.toList ++
      'T' :: (wholeText (justPastTen none).clock ++ ',' :: '5' :: []) := rfl
  have hloses : LosesFraction (justPastTen none) (stripChars "2024-01-01T10:00:00,5".toList) := by
    rw [hbody]
    exact .intro (by decide) (by decide) rfl (by simp) (.inl rfl)
  exact ⟨hread, hloses, fun h => (parseTimestamp_eq_iso_iff hread).mp h hloses⟩

/-- Without an offset such a fraction is refused, and in front of one it is left out. -/
theorem comma_fraction_refused_or_left_out :
    timestampOfIso (strip "2024-01-01T10:00:00,5") = .ok (justPastTen none) ∧
      (∃ f, parseTimestamp "2024-01-01T10:00:00,5" = .error f) ∧
      timestampOfIso (strip "2024-01-01T10:00:00,5Z") = .ok (justPastTen (some .utc)) ∧
      ∃ t, parseTimestamp "2024-01-01T10:00:00,5Z" = .ok t ∧ t.clock.micro = 0 :=
  ⟨rfl, ⟨_, rfl⟩, rfl, _, rfl, rfl⟩

end StatementWalk.Calendar
