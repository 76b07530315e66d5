import StatementWalk.Proofs.TimestampParts

/-!
# Timestamps written and read back

A driver writes a date, a clock, a fraction of any length and an offset, with blanks around them and
in front of the offset. Such a text is read as the moment it writes, the fraction cut off after six
places, and every moment is written as such a text.
-/

namespace StatementWalk

open Text Calendar

namespace Calendar

/-- What may stand behind the minutes of an offset: seconds, and six places of their fraction. -/
inductive OffsetSeconds where
  | none
  | whole (second : Fin 60)
  | parts (second : Fin 60) (micro : Fin 1000000)

namespace OffsetSeconds

def text : OffsetSeconds → List Char
  | none => []
  | whole second => ':' :: (padded 2 second).toList
  | parts second micro => ':' :: ((padded 2 second).toList ++ '.' :: (padded 6 micro).toList)

def second : OffsetSeconds → Nat
  | none => 0
  | whole second | parts second _ => second

def micro : OffsetSeconds → Nat
  | parts _ micro => micro
  | _ => 0

theorem second_lt (s : OffsetSeconds) : s.second < 60 := by
  cases s <;> simp [second]

theorem micro_lt (s : OffsetSeconds) : s.micro < 1000000 := by
  cases s <;> simp [micro]

end OffsetSeconds

theorem microsOf_of_numeral {n : Nat} {ds : List Char} (h : Numeral 6 n ds) : microsOf ds = n := by
  rw [microsOf, List.take_of_length_le h.length_eq.le, h.length_eq, Nat.sub_self,
    List.replicate_zero, List.append_nil, h.value_eq]

/-- An offset is read as its sign and its clock say, if it is none or at least a second long. -/
theorem zoneFields?_signed {rest : List Char} {f : ClockFields} (minus : Bool)
    (h : clockFields? 0 (bytesOf rest) = some (f, false))
    (hcoarse : f.hour * 3600 + f.minute * 60 + f.second = 0 → f.micro = 0) :
    let length : Nat := (f.hour * 3600 + f.minute * 60 + f.second) * 1000000 + f.micro
    zoneFields? (bytesOf ((if minus then '-' else '+') :: rest)) =
      some (some ⟨if minus then -length else length⟩) := by
  intro length
  have hmicros : (if (f.hour * 3600 + f.minute * 60 + f.second : Int) = 0 then 0
      else (f.hour * 3600 + f.minute * 60 + f.second : Int) * 1000000 + f.micro) = length := by
    split <;> omega
  cases minus
  · rw [if_neg Bool.false_ne_true, bytesOf_ascii (by decide)]
    simp [zoneFields?, h, hmicros]
  · rw [if_pos rfl, bytesOf_ascii (by decide)]
    simp [zoneFields?, h, hmicros]

/-- An offset as a text writes it. It is none, or at least a second long. -/
structure WrittenOffset where
  minus : Bool
  hour : Fin 24
  minute : Fin 60
  seconds : OffsetSeconds
  coarse : (hour * 3600 + minute * 60 + seconds.second : Nat) = 0 → seconds.micro = 0

namespace WrittenOffset

def text (o : WrittenOffset) : List Char :=
  (if o.minus then '-' else '+') ::
    ((padded 2 o.hour).toList ++ ':' :: ((padded 2 o.minute).toList ++ o.seconds.text))

def length (o : WrittenOffset) : Nat :=
  (o.hour * 3600 + o.minute * 60 + o.seconds.second) * 1000000 + o.seconds.micro

theorem length_lt (o : WrittenOffset) : o.length < dayMicros := by
  have hsecond := o.seconds.second_lt
  have hmicro := o.seconds.micro_lt
  unfold length dayMicros
  omega

def offset (o : WrittenOffset) : Offset where
  micros := if o.minus then -o.length else o.length
  inDay := by
    have hlength := o.length_lt
    split <;> omega

theorem clockFields?_text (o : WrittenOffset) :
    clockFields? 0 (bytesOf ((padded 2 o.hour).toList ++ ':' :: ((padded 2 o.minute).toList ++
      o.seconds.text))) = some (⟨o.hour, o.minute, o.seconds.second, o.seconds.micro⟩, false) := by
  have hhour : Numeral 2 o.hour (padded 2 o.hour).toList := numeral_padded (by decide) (by omega)
  have hminute : Numeral 2 o.minute (padded 2 o.minute).toList :=
    numeral_padded (by decide) (by omega)
  cases o.seconds with
  | none =>
      rw [OffsetSeconds.text, List.append_nil, clockFields?,
        clockFieldsFrom?_colon hhour (.inl rfl), clockFieldsFrom?_end hminute]
      · rfl
      · exact List.ne_nil_of_length_eq_add_one hminute.length_eq
  | whole second =>
      have hsecond : Numeral 2 second (padded 2 second).toList :=
        numeral_padded (by decide) (by omega)
      have hclock : ClockText _ (↑o.hour, ↑o.minute, ↑second) := .intro hhour hminute hsecond
      have hread := clockFields?_clock hclock 0 []
      rw [List.append_nil] at hread
      exact hread
  | parts second micro =>
      have hsecond : Numeral 2 second (padded 2 second).toList :=
        numeral_padded (by decide) (by omega)
      have hmicro : Numeral 6 micro (padded 6 micro).toList := numeral_padded (by decide) (by omega)
      have hclock : ClockText _ (↑o.hour, ↑o.minute, ↑second) := .intro hhour hminute hsecond
      have hread := clockFields?_clock hclock 0 ('.' :: (padded 6 micro).toList)
      have hsome : (padded 6 micro).toList ≠ [] := List.ne_nil_of_length_eq_add_one hmicro.length_eq
      have hfraction : FractionText ('.' :: ((padded 6 micro).toList ++ [])) _ _ :=
        .marked (by decide) ⟨hsome, hmicro.digits⟩ (by simp)
      rw [List.append_nil, microsOf_of_numeral hmicro] at hfraction
      have hended : somethingLeft 0 (bytesOf ([].dropWhile isAsciiDigit)) = false := rfl
      rw [fractionAfter?_of_text hfraction 0 rfl, hended] at hread
      simpa [OffsetSeconds.text, OffsetSeconds.second, OffsetSeconds.micro] using hread

theorem zoneFields?_text (o : WrittenOffset) :
    zoneFields? (bytesOf o.text) = some (some ⟨o.offset.micros⟩) := by
  have hspan := zoneFields?_signed o.minus o.clockFields?_text o.coarse
  dsimp only [text, offset, length]
  exact hspan

end WrittenOffset

theorem isBlank_of_isAsciiDigit {c : Char} (hc : isAsciiDigit c = true) : isBlank c = false :=
  isBlank_of_isDigit (isDigit_of_isAsciiDigit hc)

theorem isBlank_of_mem_padded {width n : Nat} (hwidth : 0 < width) (hn : n < 10 ^ width) :
    ∀ c ∈ (padded width n).toList, isBlank c = false := fun c hc =>
  isBlank_of_isAsciiDigit ((numeral_padded hwidth hn).digits c hc)

theorem OffsetSeconds.isBlank_of_mem_text (s : OffsetSeconds) :
    ∀ c ∈ s.text, isBlank c = false := by
  have hcolon : isBlank ':' = false := by decide
  have hpoint : isBlank '.' = false := by decide
  cases s with
  | none => simp [text]
  | whole second =>
      rw [text, List.forall_mem_cons]
      exact ⟨hcolon, isBlank_of_mem_padded (by decide) (by omega)⟩
  | parts second micro =>
      rw [text, List.forall_mem_cons, List.forall_mem_append, List.forall_mem_cons]
      exact ⟨hcolon, isBlank_of_mem_padded (by decide) (by omega), hpoint,
        isBlank_of_mem_padded (by decide) (by omega)⟩

theorem WrittenOffset.isBlank_of_mem_text (o : WrittenOffset) :
    ∀ c ∈ o.text, isBlank c = false := by
  have hsign : isBlank (if o.minus then '-' else '+') = false := by split <;> decide
  have hcolon : isBlank ':' = false := by decide
  rw [WrittenOffset.text, List.forall_mem_cons, List.forall_mem_append, List.forall_mem_cons,
    List.forall_mem_append]
  exact ⟨hsign, isBlank_of_mem_padded (by decide) (by omega), hcolon,
    isBlank_of_mem_padded (by decide) (by omega), o.seconds.isBlank_of_mem_text⟩

/-- What a text says of the zone: nothing, `Z`, or an offset. -/
inductive WrittenZone where
  | absent
  | zulu
  | offset (o : WrittenOffset)

namespace WrittenZone

def text : WrittenZone → List Char
  | absent => []
  | zulu => ['Z']
  | offset o => o.text

def offset? : WrittenZone → Option Offset
  | absent => none
  | zulu => some .utc
  | offset o => some o.offset

theorem isBlank_of_mem_text (z : WrittenZone) : ∀ c ∈ z.text, isBlank c = false := by
  cases z with
  | absent => simp [text]
  | zulu => simp [text, isBlank, isWhite, isAsciiSpace]
  | offset o => exact o.isBlank_of_mem_text

theorem isZoneChar_of_head (z : WrittenZone) : ∀ c ∈ z.text.head?, isZoneChar c = true := by
  cases z with
  | absent => simp [text]
  | zulu => simp [text, isZoneChar]
  | offset o =>
      intro c hc
      obtain rfl : (if o.minus then '-' else '+') = c := Option.some.inj hc
      split <;> rfl

theorem zoneFields?_text (z : WrittenZone) :
    zoneFields? (bytesOf z.text) = some (z.offset?.map fun o => ⟨o.micros⟩) := by
  cases z with
  | absent => rfl
  | zulu => rfl
  | offset o => exact o.zoneFields?_text

end WrittenZone

theorem microsOf_lt {fraction : List Char} (h : ∀ c ∈ fraction, isAsciiDigit c = true) :
    microsOf fraction < 1000000 := by
  have hfirst : ∀ c ∈ fraction.take 6, isAsciiDigit c = true := fun c hc =>
    h c (List.mem_of_mem_take hc)
  have hbound := ofDigitChars_lt (isAsciiDigit_of_mem_sixPlaces hfirst)
  rw [length_sixPlaces, sixPlaces_eq] at hbound
  exact hbound

end Calendar

/-- A date, a clock of whole seconds, a fraction and a zone, as a driver writes them: a space or a
`T` behind the date, and blanks around the text and in front of the zone. No fraction is written
where it has no digits. -/
structure WrittenTimestamp where
  before : List Char
  date : Date
  separator : Char
  hour : Fin 24
  minute : Fin 60
  second : Fin 60
  fraction : List Char
  gap : List Char
  zone : WrittenZone
  after : List Char
  separates : separator ∈ [' ', 'T']
  digits : ∀ c ∈ fraction, isAsciiDigit c = true
  blank_before : ∀ c ∈ before, isBlank c = true
  blank_gap : ∀ c ∈ gap, isBlank c = true
  blank_after : ∀ c ∈ after, isBlank c = true

namespace WrittenTimestamp

def moment (w : WrittenTimestamp) : Timestamp where
  date := w.date
  clock :=
    { hour := w.hour, minute := w.minute, second := w.second, micro := microsOf w.fraction,
      valid := by simp [isClock, microsOf_lt w.digits] }
  zone := w.zone.offset?

def fractionText (w : WrittenTimestamp) : List Char :=
  if w.fraction = [] then [] else '.' :: w.fraction

def body (w : WrittenTimestamp) (tail : List Char) : List Char :=
  w.date.text.toList ++ w.separator :: (wholeText w.moment.clock ++ (w.fractionText ++ tail))

def text (w : WrittenTimestamp) : String :=
  String.ofList (w.before ++ (w.body (w.gap ++ w.zone.text) ++ w.after))

theorem isBlank_of_mem_fractionText (w : WrittenTimestamp) :
    ∀ c ∈ w.fractionText, isBlank c = false := by
  have hpoint : isBlank '.' = false := by decide
  unfold fractionText
  split
  · simp
  · rw [List.forall_mem_cons]
    exact ⟨hpoint, fun c hc => isBlank_of_isAsciiDigit (w.digits c hc)⟩

/-- What is written ends in no blank if its zone does not. -/
theorem stripped_body (w : WrittenTimestamp) {tail : List Char}
    (hlast : ∀ c ∈ tail.getLast?, isBlank c = false) : Stripped (w.body tail) := by
  have hcolon : isBlank ':' = false := by decide
  have hgroups := (clockText_wholeText w.moment.clock).groups
  have hclock := hgroups.forall_mem (fun _ => isBlank_of_isDigit) hcolon
  obtain ⟨d, more, hday, hd⟩ := (dayText_text w.date).groups.exists_cons
  obtain ⟨h, hs, hwhole, -⟩ := hgroups.exists_cons
  constructor
  · rw [body, hday]
    intro c hc
    obtain rfl : d = c := Option.some.inj hc
    exact isBlank_of_isDigit hd
  · have hsplit : w.body tail = (w.date.text.toList ++ [w.separator]) ++
        ((wholeText w.moment.clock ++ w.fractionText) ++ tail) := by
      simp [body]
    intro c hc
    rw [hsplit, List.getLast?_append_of_ne_nil _ (by simp [hwhole])] at hc
    cases tail with
    | nil =>
        rw [List.append_nil] at hc
        exact (List.mem_append.mp (List.mem_of_getLast? hc)).elim (hclock c)
          (w.isBlank_of_mem_fractionText c)
    | cons x tail =>
        rw [List.getLast?_append_of_ne_nil _ (List.cons_ne_nil x tail)] at hc
        exact hlast c hc

/-- The outer blanks are taken away, and with them those in front of a zone that is absent. -/
theorem exists_stripChars_text (w : WrittenTimestamp) :
    ∃ gap, (∀ c ∈ gap, isBlank c = true) ∧
      stripChars w.text.toList = w.body (gap ++ w.zone.text) := by
  rw [text, String.toList_ofList]
  by_cases hzone : w.zone.text = []
  · refine ⟨[], by simp, ?_⟩
    have hsplit : w.body (w.gap ++ w.zone.text) ++ w.after = w.body [] ++ (w.gap ++ w.after) := by
      simp [body, hzone]
    have hbehind : ∀ c ∈ w.gap ++ w.after, isBlank c = true := by
      rw [List.forall_mem_append]
      exact ⟨w.blank_gap, w.blank_after⟩
    rw [hsplit, stripChars_surrounded (w.stripped_body (by simp)) w.blank_before hbehind, hzone,
      List.append_nil]
  · refine ⟨w.gap, w.blank_gap, ?_⟩
    refine stripChars_surrounded (w.stripped_body fun c hc => ?_) w.blank_before w.blank_after
    rw [List.getLast?_append_of_ne_nil _ hzone] at hc
    exact w.zone.isBlank_of_mem_text c (List.mem_of_getLast? hc)

theorem splitFraction_fractionText (w : WrittenTimestamp) {tail : List Char}
    (htail : ∀ c ∈ tail.head?, isDigit c = false ∧ c ≠ '.') :
    splitFraction (w.fractionText ++ tail) = (w.fraction, tail) := by
  unfold fractionText
  split
  · rename_i hnone
    rw [hnone, List.nil_append, splitFraction_none]
    rintro rest rfl
    exact absurd rfl (htail '.' rfl).2
  · rename_i hsome
    exact splitFraction_digits hsome (fun c hc => isDigit_of_isAsciiDigit (w.digits c hc))
      fun c hc => (htail c hc).1

theorem not_isDigit_of_head (w : WrittenTimestamp) {gap : List Char}
    (hgap : ∀ c ∈ gap, isBlank c = true) :
    ∀ c ∈ (gap ++ w.zone.text).head?, isDigit c = false ∧ c ≠ '.' := by
  have hpoint : isBlank '.' = false ∧ isZoneChar '.' = false := by decide
  intro c hc
  cases gap with
  | nil =>
      have hzone := w.zone.isZoneChar_of_head c hc
      refine ⟨isDigit_of_isZoneChar hzone, ?_⟩
      rintro rfl
      cases hzone.symm.trans hpoint.2
  | cons x gap =>
      obtain rfl : x = c := Option.some.inj hc
      have hblank := hgap x List.mem_cons_self
      refine ⟨isDigit_of_isBlank hblank, ?_⟩
      rintro rfl
      cases hblank.symm.trans hpoint.1

def parts (w : WrittenTimestamp) : TimestampParts where
  day := w.date.text.toList
  clock := wholeText w.moment.clock
  fraction := w.fraction
  zone := w.zone.text

theorem dayText_parts (w : WrittenTimestamp) :
    DayText w.parts.day (w.date.year, w.date.month, w.date.day) := by
  dsimp only [parts]
  exact dayText_text w.date

theorem clockText_parts (w : WrittenTimestamp) :
    ClockText w.parts.clock (w.moment.clock.hour, w.moment.clock.minute,
      w.moment.clock.second) := by
  dsimp only [parts]
  exact clockText_wholeText w.moment.clock

theorem ofChars?_body (w : WrittenTimestamp) {gap : List Char}
    (hgap : ∀ c ∈ gap, isBlank c = true) :
    TimestampParts.ofChars? (w.body (gap ++ w.zone.text)) = some w.parts := by
  have hcut := w.splitFraction_fractionText (w.not_isDigit_of_head hgap)
  have hzone := w.zone.isBlank_of_mem_text
  have hbehind : (gap ++ w.zone.text).dropWhile isBlank = w.zone.text :=
    dropLeading_append hgap fun c hc => hzone c (List.mem_of_head? hc)
  have hline : '\n' ∉ (splitFraction (w.fractionText ++ (gap ++ w.zone.text))).2.dropWhile
      isBlank := by
    rw [hcut, hbehind]
    exact fun h => absurd (hzone '\n' h) (by decide)
  have hread := ofChars?_groups (dayText_text w.date).groups
    (clockText_wholeText w.moment.clock).groups
    w.separates hline
  rw [hcut, hbehind] at hread
  exact hread

/-- A text that is written is read as its moment. -/
theorem parseTimestamp_text (w : WrittenTimestamp) : parseTimestamp w.text = .ok w.moment := by
  obtain ⟨gap, hgap, hbody⟩ := w.exists_stripChars_text
  have hread : AfterSeconds ('.' :: (sixPlaces w.parts.fraction ++ ([] ++ w.parts.zone)))
      (microsOf w.parts.fraction) (w.zone.offset?.map fun o => ⟨o.micros⟩) := by
    rw [parts]
    exact afterSeconds_sixPlaces (fun c hc => w.digits c (List.mem_of_mem_take hc)) (by simp)
      w.zone.isZoneChar_of_head (fun _ => rfl) w.zone.zoneFields?_text
  rw [parseTimestamp_of_parts (hbody ▸ w.ofChars?_body hgap), timestampOfIso_eq_ok]
  exact (timestampFields?_toText w.dayText_parts w.clockText_parts).mpr ⟨rfl, _, rfl, hread⟩

end WrittenTimestamp

namespace Calendar

/-- The fraction that is written for microseconds: none for zero, else six digits. -/
def fractionOf (micro : Nat) : List Char := if micro = 0 then [] else (padded 6 micro).toList

theorem isAsciiDigit_of_mem_fractionOf {micro : Nat} (h : micro < 1000000) :
    ∀ c ∈ fractionOf micro, isAsciiDigit c = true := by
  unfold fractionOf
  split
  · simp
  · exact (numeral_padded (by decide) h).digits

theorem microsOf_fractionOf {micro : Nat} (h : micro < 1000000) :
    microsOf (fractionOf micro) = micro := by
  unfold fractionOf
  split
  · rename_i hnone
    rw [hnone]
    rfl
  · exact microsOf_of_numeral (numeral_padded (by decide) h)

theorem toList_fractionText {micro : Nat} (h : micro < 1000000) :
    (Span.fractionText micro).toList =
      if fractionOf micro = [] then [] else '.' :: fractionOf micro := by
  unfold fractionOf Span.fractionText
  split
  · rfl
  · have hnumeral := numeral_padded (show 0 < 6 by decide) h
    rw [if_neg (List.ne_nil_of_length_eq_add_one hnumeral.length_eq)]
    simp

/-- The seconds of a length in microseconds, written where they are needed. -/
def OffsetSeconds.ofMicros (n : Nat) : OffsetSeconds :=
  if n % 60000000 = 0 then .none
  else if n % 1000000 = 0 then .whole ⟨n / 1000000 % 60, by omega⟩
  else .parts ⟨n / 1000000 % 60, by omega⟩ ⟨n % 1000000, by omega⟩

theorem OffsetSeconds.second_micro_ofMicros (n : Nat) :
    (ofMicros n).second = n / 1000000 % 60 ∧ (ofMicros n).micro = n % 1000000 := by
  unfold ofMicros
  split
  · rename_i hminutes
    obtain ⟨k, rfl⟩ := Nat.dvd_of_mod_eq_zero hminutes
    simp only [second, micro]
    omega
  · split
    · rename_i hseconds
      exact ⟨rfl, hseconds.symm⟩
    · exact ⟨rfl, rfl⟩

theorem OffsetSeconds.text_ofMicros (n : Nat) :
    (ofMicros n).text = (if n % 60000000 = 0 then ""
      else ":" ++ padded 2 (n / 1000000 % 60) ++ Span.fractionText (n % 1000000)).toList := by
  unfold ofMicros
  split
  · rfl
  · split
    · rename_i hseconds
      simp [text, hseconds, Span.fractionText]
    · rename_i hseconds
      simp [text, hseconds, Span.fractionText]

/-- An offset that is read back when it is written: none, or at least a second. -/
def Coarse (o : Offset) : Prop := o.micros = 0 ∨ 1000000 ≤ o.micros.natAbs

def WrittenOffset.ofOffset (o : Offset) (h : Coarse o) : WrittenOffset where
  minus := o.micros < 0
  hour := ⟨o.micros.natAbs / 1000000 / 3600, by have := o.inDay; unfold dayMicros at this; omega⟩
  minute := ⟨o.micros.natAbs / 1000000 / 60 % 60, by omega⟩
  seconds := .ofMicros o.micros.natAbs
  coarse := by
    unfold Coarse at h
    obtain ⟨hsecond, hmicro⟩ := OffsetSeconds.second_micro_ofMicros o.micros.natAbs
    dsimp only
    omega

theorem WrittenOffset.offset_ofOffset (o : Offset) (h : Coarse o) :
    (ofOffset o h).offset = o := by
  obtain ⟨hsecond, hmicro⟩ := OffsetSeconds.second_micro_ofMicros o.micros.natAbs
  have hlength : (ofOffset o h).length = o.micros.natAbs := by
    dsimp only [length, ofOffset]
    omega
  obtain ⟨micros, hin⟩ := o
  rw [offset, Offset.mk.injEq, hlength, ofOffset]
  dsimp only
  simp only [decide_eq_true_eq]
  split <;> omega

theorem WrittenOffset.text_ofOffset (o : Offset) (h : Coarse o) :
    (ofOffset o h).text = o.text.toList := by
  have hseconds := OffsetSeconds.text_ofMicros o.micros.natAbs
  rw [text, ofOffset, Offset.text]
  dsimp only
  rw [hseconds]
  by_cases hminus : o.micros < 0
  · simp [hminus]
  · simp [hminus]

def WrittenZone.ofZone : (zone : Option Offset) → (∀ o ∈ zone, Coarse o) → WrittenZone
  | none, _ => .absent
  | some o, h => .offset (.ofOffset o (h o rfl))

theorem WrittenZone.offset?_ofZone {zone : Option Offset} (h : ∀ o ∈ zone, Coarse o) :
    (ofZone zone h).offset? = zone := by
  cases zone with
  | none => rfl
  | some o => rw [ofZone, offset?, WrittenOffset.offset_ofOffset]

theorem WrittenZone.text_ofZone {zone : Option Offset} (h : ∀ o ∈ zone, Coarse o) :
    (ofZone zone h).text = (zoneText zone).toList := by
  cases zone with
  | none => rfl
  | some o => exact WrittenOffset.text_ofOffset o (h o rfl)

end Calendar

/-- The form in which a moment is shown: no outer blanks, and a space between date and clock. -/
def WrittenTimestamp.ofTimestamp (t : Timestamp) (h : ∀ o ∈ t.zone, Coarse o) :
    WrittenTimestamp where
  before := []
  date := t.date
  separator := ' '
  hour := ⟨t.clock.hour, (clock_bounds t.clock).1⟩
  minute := ⟨t.clock.minute, (clock_bounds t.clock).2.1⟩
  second := ⟨t.clock.second, (clock_bounds t.clock).2.2.1⟩
  fraction := fractionOf t.clock.micro
  gap := []
  zone := .ofZone t.zone h
  after := []
  separates := by decide
  digits := isAsciiDigit_of_mem_fractionOf (clock_bounds t.clock).2.2.2
  blank_before := by simp
  blank_gap := by simp
  blank_after := by simp

theorem WrittenTimestamp.moment_ofTimestamp (t : Timestamp) (h : ∀ o ∈ t.zone, Coarse o) :
    (ofTimestamp t h).moment = t := by
  have hmicro := microsOf_fractionOf (clock_bounds t.clock).2.2.2
  have hzone := WrittenZone.offset?_ofZone h
  simp only [moment, ofTimestamp, hmicro, hzone]

theorem WrittenTimestamp.text_ofTimestamp (t : Timestamp) (h : ∀ o ∈ t.zone, Coarse o) :
    (ofTimestamp t h).text = t.text := by
  have hfraction : (ofTimestamp t h).fractionText = (Span.fractionText t.clock.micro).toList :=
    (toList_fractionText (clock_bounds t.clock).2.2.2).symm
  have hzone := WrittenZone.text_ofZone h
  have hclock : wholeText (ofTimestamp t h).moment.clock = wholeText t.clock := by
    rw [moment_ofTimestamp]
  apply String.toList_inj.mp
  rw [text, String.toList_ofList, body, hclock, hfraction]
  simp only [ofTimestamp, hzone]
  simp [Timestamp.text, Timestamp.textWith, Clock.text, wholeText]

theorem Timestamp.parseTimestamp_text (t : Timestamp) (h : ∀ o ∈ t.zone, Coarse o) :
    parseTimestamp t.text = .ok t := by
  rw [← WrittenTimestamp.text_ofTimestamp t h, WrittenTimestamp.parseTimestamp_text,
    WrittenTimestamp.moment_ofTimestamp]

end StatementWalk
