import StatementWalk.Calendar.TimestampText
import StatementWalk.Proofs.TimestampGrammar

/-!
# Timestamp texts cut into parts

A driver's text is cut behind its seconds, and is put together again with a fraction of six places.
What is cut off as the fraction, and what is passed on as the offset, follows the first characters
behind the seconds.
-/

namespace StatementWalk.Calendar

open Text

theorem isDigit_of_isAsciiDigit {c : Char} (hc : isAsciiDigit c = true) : isDigit c = true := by
  have hascii := ascii_of_isAsciiDigit hc
  rw [isDigit, digitValue?, if_pos hascii, if_pos (of_decide_eq_true hc)]
  rfl

theorem isBlank_of_isDigit {c : Char} (hc : isDigit c = true) : isBlank c = false := by
  rw [← Bool.not_eq_true]
  intro hblank
  by_cases hascii : c.toNat < 0x80
  · rw [isDigit, digitValue?, if_pos hascii] at hc
    split at hc
    · rename_i hdigit
      have hrange := isAsciiDigit_iff.mp (decide_eq_true hdigit)
      have hspace : c ≠ ' ' := by
        rintro rfl
        exact absurd hdigit (by decide)
      simp only [isBlank, isWhite, isAsciiSpace, Bool.or_eq_true, beq_iff_eq,
        decide_eq_true_eq, hspace, false_or] at hblank
      omega
    · cases hc
  · rw [isDigit, Number.digitValue?_of_isBlank hascii hblank] at hc
    cases hc

theorem isZoneChar_of_isDigit {c : Char} (hc : isDigit c = true) : isZoneChar c = false := by
  rw [← Bool.not_eq_true]
  intro hzone
  simp only [isZoneChar, Bool.or_eq_true, beq_iff_eq] at hzone
  rcases hzone with (rfl | rfl) | rfl <;> cases hc

theorem isDigit_of_isZoneChar {c : Char} (hc : isZoneChar c = true) : isDigit c = false := by
  rw [← Bool.not_eq_true]
  intro hdigit
  cases hc.symm.trans (isZoneChar_of_isDigit hdigit)

theorem isDigit_of_isBlank {c : Char} (hc : isBlank c = true) : isDigit c = false := by
  rw [← Bool.not_eq_true]
  intro hdigit
  cases hc.symm.trans (isBlank_of_isDigit hdigit)

theorem isBlank_of_isZoneChar {c : Char} (hc : isZoneChar c = true) : isBlank c = false := by
  simp only [isZoneChar, Bool.or_eq_true, beq_iff_eq] at hc
  rcases hc with (rfl | rfl) | rfl <;> decide

/-- As many digits, of any script, as a pattern has. -/
structure Digits (width : Nat) (cs : List Char) : Prop where
  length_eq : cs.length = width
  digits : ∀ c ∈ cs, isDigit c = true

theorem Numeral.toDigits {width n : Nat} {cs : List Char} (h : Numeral width n cs) :
    Digits width cs where
  length_eq := h.length_eq
  digits c hc := isDigit_of_isAsciiDigit (h.digits c hc)

section Pattern

variable {p : Char} {ps cs taken rest : List Char} {width : Nat}

theorem takePattern?_cons {c : Char} :
    takePattern? (p :: ps) (c :: cs) = some (taken, rest) ↔
      (if p == '0' then isDigit c else c == p) = true ∧
        ∃ taken', takePattern? ps cs = some (taken', rest) ∧ taken = c :: taken' := by
  rw [takePattern?]
  by_cases hfits : (if p == '0' then isDigit c else c == p) = true
  · rw [if_pos hfits, Option.map_eq_some_iff]
    constructor
    · rintro ⟨⟨taken', rest'⟩, hmore, hall⟩
      cases hall
      exact ⟨hfits, taken', hmore, rfl⟩
    · rintro ⟨-, taken', hmore, rfl⟩
      exact ⟨(taken', rest), hmore, rfl⟩
  · rw [if_neg hfits]
    constructor
    · rintro ⟨⟩
    · rintro ⟨htrue, -⟩
      exact absurd htrue hfits

theorem takePattern?_digits :
    takePattern? (List.replicate width '0' ++ ps) cs = some (taken, rest) ↔
      ∃ ds more taken', Digits width ds ∧ cs = ds ++ more ∧
        takePattern? ps more = some (taken', rest) ∧
        taken = ds ++ taken' := by
  induction width generalizing cs taken with
  | zero =>
      constructor
      · intro h
        exact ⟨[], cs, taken, ⟨rfl, by simp⟩, rfl, h, rfl⟩
      · rintro ⟨ds, more, taken', hds, rfl, h, rfl⟩
        obtain rfl := List.length_eq_zero_iff.mp hds.length_eq
        exact h
  | succ width ih =>
      rw [List.replicate_succ, List.cons_append]
      constructor
      · intro h
        cases cs with
        | nil => cases h
        | cons c cs =>
            obtain ⟨hc, taken, hmore, rfl⟩ := takePattern?_cons.mp h
            obtain ⟨ds, more, taken', hds, rfl, hrest, rfl⟩ := ih.mp hmore
            exact ⟨c :: ds, more, taken',
              ⟨by simp [hds.length_eq], by simpa using ⟨hc, hds.digits⟩⟩, rfl, hrest, rfl⟩
      · rintro ⟨ds, more, taken', hds, rfl, hmore, rfl⟩
        cases ds with
        | nil => cases hds.length_eq
        | cons d ds =>
            have hbehind : Digits width ds :=
              ⟨Nat.succ.inj hds.length_eq, fun c hc => hds.digits c (List.mem_cons_of_mem d hc)⟩
            exact takePattern?_cons.mpr ⟨hds.digits d List.mem_cons_self, ds ++ taken',
              ih.mpr ⟨ds, more, taken', hbehind, rfl, hmore, rfl⟩, rfl⟩

theorem takePattern?_literal (hp : (p == '0') = false) :
    takePattern? (p :: ps) cs = some (taken, rest) ↔
      ∃ more taken', cs = p :: more ∧ takePattern? ps more = some (taken', rest) ∧
        taken = p :: taken' := by
  constructor
  · intro h
    cases cs with
    | nil => cases h
    | cons c cs =>
        obtain ⟨hc, taken', hmore, rfl⟩ := takePattern?_cons.mp h
        rw [hp] at hc
        obtain rfl : c = p := eq_of_beq hc
        exact ⟨cs, taken', rfl, hmore, rfl⟩
  · rintro ⟨more, taken', rfl, hmore, rfl⟩
    exact takePattern?_cons.mpr ⟨by rw [hp]; exact beq_self_eq_true p, taken', hmore, rfl⟩

end Pattern

/-- Three groups of digits, of any script: a first one of some width, and two of two digits. -/
inductive Groups (width : Nat) (separator : Char) : List Char → Prop where
  | intro {xs ys zs : List Char} (hx : Digits width xs) (hy : Digits 2 ys) (hz : Digits 2 zs) :
      Groups width separator (xs ++ separator :: (ys ++ separator :: zs))

theorem Groups.forall_mem {width : Nat} {separator : Char} {cs : List Char} {P : Char → Prop}
    (h : Groups width separator cs) (hdigit : ∀ c, isDigit c = true → P c)
    (hseparator : P separator) :
    ∀ c ∈ cs, P c := by
  obtain ⟨hx, hy, hz⟩ := h
  rw [List.forall_mem_append, List.forall_mem_cons, List.forall_mem_append, List.forall_mem_cons]
  exact ⟨fun c hc => hdigit c (hx.digits c hc), hseparator, fun c hc => hdigit c (hy.digits c hc),
    hseparator, fun c hc => hdigit c (hz.digits c hc)⟩

theorem Groups.exists_cons {width : Nat} {separator : Char} {cs : List Char}
    (h : Groups (width + 1) separator cs) : ∃ d more, cs = d :: more ∧ isDigit d = true := by
  obtain ⟨hx, -, -⟩ := h
  obtain ⟨d, ds, rfl⟩ := List.exists_cons_of_ne_nil (List.ne_nil_of_length_eq_add_one hx.length_eq)
  exact ⟨d, _, rfl, hx.digits d List.mem_cons_self⟩

theorem FieldsText.groups {width : Nat} {separator : Char} {cs : List Char}
    {fields : Nat × Nat × Nat} (h : FieldsText width separator cs fields) :
    Groups width separator cs := by
  obtain ⟨hx, hy, hz⟩ := h
  exact .intro hx.toDigits hy.toDigits hz.toDigits

def groupsPattern (width : Nat) (separator : Char) : List Char :=
  List.replicate width '0' ++ separator ::
    (List.replicate 2 '0' ++ separator :: (List.replicate 2 '0' ++ []))

theorem takePattern?_groups {width : Nat} {separator : Char}
    (hseparator : (separator == '0') = false) {cs taken rest : List Char} :
    takePattern? (groupsPattern width separator) cs = some (taken, rest) ↔
      Groups width separator taken ∧ cs = taken ++ rest := by
  constructor
  · intro h
    obtain ⟨xs, _, _, hx, rfl, hbehind, rfl⟩ := takePattern?_digits.mp h
    obtain ⟨_, _, rfl, hsecond, rfl⟩ := (takePattern?_literal hseparator).mp hbehind
    obtain ⟨ys, _, _, hy, rfl, hbehind', rfl⟩ := takePattern?_digits.mp hsecond
    obtain ⟨_, _, rfl, hthird, rfl⟩ := (takePattern?_literal hseparator).mp hbehind'
    obtain ⟨zs, _, _, hz, rfl, hnone, rfl⟩ := takePattern?_digits.mp hthird
    cases hnone
    rw [List.append_nil]
    exact ⟨.intro hx hy hz, by simp⟩
  · rintro ⟨@⟨xs, ys, zs, hx, hy, hz⟩, rfl⟩
    have hthird : takePattern? (List.replicate 2 '0' ++ []) (zs ++ rest) = some (zs, rest) :=
      takePattern?_digits.mpr ⟨zs, rest, [], hz, rfl, rfl, (List.append_nil zs).symm⟩
    have hsecond := takePattern?_digits.mpr
      ⟨ys, _, _, hy, rfl, (takePattern?_literal hseparator).mpr ⟨_, _, rfl, hthird, rfl⟩, rfl⟩
    exact takePattern?_digits.mpr
      ⟨xs, _, _, hx, by simp, (takePattern?_literal hseparator).mpr ⟨_, _, rfl, hsecond, rfl⟩, rfl⟩

theorem takePattern?_day {cs day rest : List Char} :
    takePattern? "0000-00-00".toList cs = some (day, rest) ↔
      Groups 4 '-' day ∧ cs = day ++ rest := by
  have hpattern : "0000-00-00".toList = groupsPattern 4 '-' := by decide
  rw [hpattern]
  exact takePattern?_groups rfl

theorem takePattern?_clock {cs clock rest : List Char} :
    takePattern? "00:00:00".toList cs = some (clock, rest) ↔
      Groups 2 ':' clock ∧ cs = clock ++ rest := by
  have hpattern : "00:00:00".toList = groupsPattern 2 ':' := by decide
  rw [hpattern]
  exact takePattern?_groups rfl

theorem splitFraction_digits {fraction rest : List Char} (hsome : fraction ≠ [])
    (hfraction : ∀ c ∈ fraction, isDigit c = true) (hrest : ∀ c ∈ rest.head?, isDigit c = false) :
    splitFraction ('.' :: (fraction ++ rest)) = (fraction, rest) := by
  obtain ⟨htake, hdrop⟩ := scan_all hfraction hrest
  rw [splitFraction, htake, hdrop, if_neg (by simpa using hsome)]

/-- Where no point is followed by a digit, nothing is cut off. -/
theorem splitFraction_none {cs : List Char}
    (h : ∀ rest, cs = '.' :: rest → rest.takeWhile isDigit = []) :
    splitFraction cs = ([], cs) := by
  unfold splitFraction
  split
  · rename_i rest
    rw [if_pos (by simpa using h rest rfl)]
  · rfl

theorem sixPlaces_eq (fraction : List Char) :
    sixPlaces fraction = fraction.take 6 ++ List.replicate (6 - fraction.length) '0' := by
  cases fraction with
  | nil => rfl
  | cons c cs =>
      have hplaces : 6 - ((c :: cs).take 6).length = 6 - (c :: cs).length := by
        rw [List.length_take]
        omega
      exact congrArg ((c :: cs).take 6 ++ List.replicate · '0') hplaces

theorem length_sixPlaces (fraction : List Char) : (sixPlaces fraction).length = 6 := by
  rw [sixPlaces_eq, List.length_append, List.length_take, List.length_replicate]
  omega

theorem isAsciiDigit_of_mem_sixPlaces {fraction : List Char}
    (h : ∀ c ∈ fraction.take 6, isAsciiDigit c = true) :
    ∀ c ∈ sixPlaces fraction, isAsciiDigit c = true := by
  rw [sixPlaces_eq, List.forall_mem_append]
  refine ⟨h, fun c hc => ?_⟩
  rw [List.eq_of_mem_replicate hc]
  rfl

/-- The six places tell the same microseconds as the whole fraction. -/
theorem microsOf_sixPlaces (fraction : List Char) :
    microsOf (sixPlaces fraction) = microsOf fraction := by
  rw [microsOf, List.take_of_length_le (length_sixPlaces fraction).le, length_sixPlaces,
    Nat.sub_self, List.replicate_zero, List.append_nil, sixPlaces_eq]
  rfl

/-- What is put together with a fraction of six places is read with the microseconds of the
fraction, and with the offset that ends it. -/
theorem afterSeconds_sixPlaces {fraction junk zone : List Char} {z : Option Span}
    (hfraction : ∀ c ∈ fraction.take 6, isAsciiDigit c = true)
    (hjunk : ∀ c ∈ junk, isZoneChar c = false) (hzone : ∀ c ∈ zone.head?, isZoneChar c = true)
    (hspare : zone = [] → (junk.dropWhile isAsciiDigit).headD '\x00' = '\x00')
    (hz : zoneFields? (bytesOf zone) = some z) :
    AfterSeconds ('.' :: (sixPlaces fraction ++ (junk ++ zone))) (microsOf fraction) z := by
  have hsix := isAsciiDigit_of_mem_sixPlaces hfraction
  have hlength := length_sixPlaces fraction
  have hsome : sixPlaces fraction ≠ [] := List.ne_nil_of_length_eq_add_one hlength
  have hbody : ∀ c ∈ '.' :: (sixPlaces fraction ++ junk), isZoneChar c = false := by
    rw [List.forall_mem_cons, List.forall_mem_append]
    exact ⟨rfl, fun c hc => isZoneChar_of_isAsciiDigit (hsix c hc), hjunk⟩
  have htext : FractionText ('.' :: (sixPlaces fraction ++ junk)) (microsOf (sixPlaces fraction))
      (junk.dropWhile isAsciiDigit) := .marked (by decide) ⟨hsome, hsix⟩ fun _ => hlength.ge
  rw [microsOf_sixPlaces] at htext
  have hread := AfterSeconds.intro hbody hzone htext hspare hz
  rwa [List.cons_append, List.append_assoc] at hread

/-- Without an offset, nothing may be left behind the digits of a fraction. -/
theorem not_afterSeconds_of_left {mark : Char} {cs : List Char} {micro : Nat} {z : Option Span}
    (hnozone : ∀ c ∈ mark :: cs, isZoneChar c = false)
    (hleft : (cs.dropWhile isAsciiDigit).headD '\x00' ≠ '\x00') :
    ¬AfterSeconds (mark :: cs) micro z := by
  generalize htext : mark :: cs = text
  rintro @⟨body, zone, spare, _, _, hbody, hzone, hfraction, hspare, hz⟩
  have hnone : zone = [] := by
    cases zone with
    | nil => rfl
    | cons c zone =>
        have hc := hnozone c (htext ▸ List.mem_append_right body List.mem_cons_self)
        rw [hzone c rfl] at hc
        cases hc
  subst hnone
  rw [List.append_nil] at htext
  subst htext
  cases hfraction with
  | one hc => exact hleft rfl
  | @marked _ digits junk hmark hdigits hjunk =>
      rw [List.dropWhile_append_of_pos hdigits.2] at hleft
      exact hleft (hspare rfl)

/-- What follows the space or the `T` between a date and a clock. -/
def afterSeparator? : List Char → Option (List Char)
  | ' ' :: rest => some rest
  | 'T' :: rest => some rest
  | _ => none

theorem afterSeparator?_eq_some {cs rest : List Char} :
    afterSeparator? cs = some rest ↔ ∃ separator ∈ [' ', 'T'], cs = separator :: rest := by
  constructor
  · intro h
    unfold afterSeparator? at h
    split at h
    · cases h
      exact ⟨' ', by decide, rfl⟩
    · cases h
      exact ⟨'T', by decide, rfl⟩
    · cases h
  · rintro ⟨separator, hseparator, rfl⟩
    simp only [List.mem_cons, List.not_mem_nil, or_false] at hseparator
    rcases hseparator with rfl | rfl <;> rfl

def partsWith? (day clock tail : List Char) : Option TimestampParts :=
  let (fraction, rest) := splitFraction tail
  let zone := rest.dropWhile isBlank
  if zone.contains '\n' then none else some ⟨day, clock, fraction, zone⟩

theorem ofChars?_eq (cs : List Char) :
    TimestampParts.ofChars? cs =
      (takePattern? "0000-00-00".toList cs).bind fun (day, rest) =>
        (afterSeparator? rest).bind fun rest =>
          (takePattern? "00:00:00".toList rest).bind fun (clock, tail) =>
            partsWith? day clock tail := by
  unfold TimestampParts.ofChars?
  rw [Option.bind_eq_bind]
  congr
  funext ⟨day, rest⟩
  dsimp only
  split
  · rfl
  · rfl
  · rename_i hspace hmark
    rw [afterSeparator?]
    · rfl
    · exact hspace
    · exact hmark

/-- A text that begins with a date and a clock is cut into parts, if what stands behind its fraction
and blanks is on one line. -/
theorem ofChars?_groups {day clock tail : List Char} {separator : Char} (hday : Groups 4 '-' day)
    (hclock : Groups 2 ':' clock) (hseparator : separator ∈ [' ', 'T'])
    (hline : '\n' ∉ (splitFraction tail).2.dropWhile isBlank) :
    TimestampParts.ofChars? (day ++ separator :: (clock ++ tail)) =
      some ⟨day, clock, (splitFraction tail).1, (splitFraction tail).2.dropWhile isBlank⟩ := by
  rw [ofChars?_eq, takePattern?_day.mpr ⟨hday, rfl⟩, Option.bind_some]
  dsimp only
  rw [afterSeparator?_eq_some.mpr ⟨separator, hseparator, rfl⟩, Option.bind_some,
    takePattern?_clock.mpr ⟨hclock, rfl⟩, Option.bind_some]
  dsimp only [partsWith?]
  rw [if_neg (by simpa using hline)]

/-- Only such a text is cut into parts. -/
theorem groups_of_ofChars? {cs : List Char} {p : TimestampParts}
    (h : TimestampParts.ofChars? cs = some p) :
    ∃ separator tail, Groups 4 '-' p.day ∧ Groups 2 ':' p.clock ∧ separator ∈ [' ', 'T'] ∧
      cs = p.day ++ separator :: (p.clock ++ tail) ∧ p.fraction = (splitFraction tail).1 ∧
      p.zone = (splitFraction tail).2.dropWhile isBlank ∧ '\n' ∉ p.zone := by
  rw [ofChars?_eq] at h
  obtain ⟨⟨day, between⟩, hfirst, hbehind⟩ := Option.bind_eq_some_iff.mp h
  obtain ⟨hday, rfl⟩ := takePattern?_day.mp hfirst
  obtain ⟨behind, hbetween, hparts⟩ := Option.bind_eq_some_iff.mp hbehind
  obtain ⟨separator, hseparator, rfl⟩ := afterSeparator?_eq_some.mp hbetween
  obtain ⟨⟨clock, tail⟩, hsecond, hwith⟩ := Option.bind_eq_some_iff.mp hparts
  obtain ⟨hclock, rfl⟩ := takePattern?_clock.mp hsecond
  dsimp only [partsWith?] at hwith
  split at hwith
  · cases hwith
  · rename_i hline
    cases hwith
    exact ⟨separator, tail, hday, hclock, hseparator, rfl, rfl, rfl, by simpa using hline⟩

/-- A text put together from its parts is read if and only if the digits of the date and of the
clock are ASCII and the offset may follow the fraction. -/
theorem timestampFields?_toText {p : TimestampParts} {date date' : Nat × Nat × Nat}
    {hour minute second : Nat} {f : ClockFields} {z : Option Span} (hday : DayText p.day date)
    (hclock : ClockText p.clock (hour, minute, second)) :
    timestampFields? (encodeUtf8 p.toText) = some (date', f, z) ↔
      date' = date ∧ ∃ micro, f = ⟨hour, minute, second, micro⟩ ∧
        AfterSeconds ('.' :: (sixPlaces p.fraction ++ p.zone)) micro z := by
  rw [← timestampFields?_clock hday hclock ' ', TimestampParts.toText, encodeUtf8_ofList]
  simp only [List.append_assoc, List.cons_append]

theorem parseTimestamp_of_parts {s : String} {p : TimestampParts}
    (h : TimestampParts.ofChars? (stripChars s.toList) = some p) :
    parseTimestamp s = timestampOfIso p.toText := by
  rw [parseTimestamp, h]

theorem parseTimestamp_of_none {s : String}
    (h : TimestampParts.ofChars? (stripChars s.toList) = none) :
    parseTimestamp s = timestampOfIso (String.ofList (stripChars s.toList)) := by
  rw [parseTimestamp, h]

end StatementWalk.Calendar
