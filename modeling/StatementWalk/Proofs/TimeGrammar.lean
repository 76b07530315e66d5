import StatementWalk.Proofs.DigitFields
import StatementWalk.Proofs.StrippedText

/-!
# The grammar of standard times

After the seconds of a time may follow a fraction, which a point, a comma or a colon begins, and an
offset. Digits past the sixth are dropped, and where there is an offset, so is all that stands
between the fraction and it.
-/

namespace StatementWalk.Calendar

open Text

def isZoneChar (c : Char) : Bool := c == '+' || c == '-' || c == 'Z'

theorem isZoneByte_alike : TestsAlike (!isZoneByte ·) (!isZoneChar ·) true where
  ascii c hc := by
    have hplus := asciiByte_beq hc (show '+'.toNat < 0x80 by decide)
    have hminus := asciiByte_beq hc (show '-'.toNat < 0x80 by decide)
    have hzulu := asciiByte_beq hc (show 'Z'.toNat < 0x80 by decide)
    exact congrArg (! ·) (congr (congrArg or (congr (congrArg or hplus) hminus)) hzulu)
  wide_byte b hb := by
    rw [Bool.not_eq_true', ← Bool.not_eq_true]
    intro h
    simp only [isZoneByte, Bool.or_eq_true, beq_iff_eq] at h
    rcases h with (rfl | rfl) | rfl <;> exact absurd hb (by decide)
  wide_char c hc := by
    rw [Bool.not_eq_true', ← Bool.not_eq_true]
    intro h
    simp only [isZoneChar, Bool.or_eq_true, beq_iff_eq] at h
    rcases h with (rfl | rfl) | rfl <;> exact hc (by decide)

/-- The microseconds that a fraction tells: its first six digits, filled up with zeros. -/
def microsOf (fraction : List Char) : Nat :=
  Nat.ofDigitChars 10 (fraction.take 6 ++ List.replicate (6 - fraction.length) '0') 0

/-- What stands between the seconds and the offset: the microseconds it tells, and what is left
over. -/
inductive FractionText : List Char → Nat → List Char → Prop where
  | none : FractionText [] 0 []
  | one {c : Char} (hc : c.toNat < 0x80) : FractionText [c] 0 [c]
  | marked {mark : Char} {digits junk : List Char} (hmark : mark ∈ ['.', ',', ':'])
      (hdigits : digits ≠ [] ∧ ∀ c ∈ digits, isAsciiDigit c = true)
      (hjunk : junk ≠ [] → 6 ≤ digits.length) :
      FractionText (mark :: (digits ++ junk)) (microsOf digits) (junk.dropWhile isAsciiDigit)

def fractionAfter? (stop : UInt8) (f : ClockFields) : Bytes → Option (ClockFields × Bool)
  | [] => some (f, stop != 0)
  | [c] => some (f, c != 0)
  | c :: more => if c == 58 || c == 46 || c == 44 then fractionField? stop f more else none

theorem microsOf_eq (fraction : List Char) :
    microsOf fraction = Nat.ofDigitChars 10 (fraction.take 6) 0 *
      Nat.pow 10 (6 - fraction.length) := by
  rw [microsOf, Nat.ofDigitChars_append, Nat.ofDigitChars_replicate_zero, Nat.mul_comm]
  rfl

/-- A fraction is read whole, its first six digits as the microseconds. -/
theorem fractionField?_append {digits junk : List Char}
    (hdigits : ∀ c ∈ digits, isAsciiDigit c = true)
    (hjunk : junk ≠ [] → 6 ≤ digits.length) (stop : UInt8) (f : ClockFields) :
    fractionField? stop f (bytesOf (digits ++ junk)) =
      some ({ f with micro := microsOf digits },
        somethingLeft stop (bytesOf (junk.dropWhile isAsciiDigit))) := by
  have hlength : (bytesOf digits).length = digits.length :=
    length_bytesOf fun c hc => ascii_of_isAsciiDigit (hdigits c hc)
  have hwidth : min 6 (bytesOf (digits ++ junk)).length = (digits.take 6).length := by
    rw [List.length_take, bytesOf_append, List.length_append, hlength]
    by_cases hnone : junk = []
    · simp [hnone]
    · have := hjunk hnone
      omega
  have hfirst : ∀ c ∈ digits.take 6, isAsciiDigit c = true :=
    fun c hc => hdigits c (List.mem_of_mem_take hc)
  have hlater : ∀ c ∈ digits.drop 6, isAsciiDigit c = true :=
    fun c hc => hdigits c (List.mem_of_mem_drop hc)
  have hsplit : digits ++ junk = digits.take 6 ++ (digits.drop 6 ++ junk) := by
    rw [← List.append_assoc, List.take_append_drop]
  have hplaces : 6 - (digits.take 6).length = 6 - digits.length := by
    rw [List.length_take]
    omega
  have hread : takeNumber (digits.take 6).length (bytesOf (digits ++ junk)) =
      some (Nat.ofDigitChars 10 (digits.take 6) 0, bytesOf (digits.drop 6 ++ junk)) := by
    rw [hsplit]
    exact takeNumberFrom_append rfl hfirst 0 _
  unfold fractionField?
  rw [hwidth]
  dsimp only
  rw [hread, Option.bind_eq_bind, Option.bind_some, hplaces, ← microsOf_eq,
    isDigitByte_alike.dropWhile, List.dropWhile_append_of_pos hlater]
  rfl

theorem fractionField?_eq_some {more : List Char} {stop : UInt8} {f : ClockFields}
    {r : ClockFields × Bool} (h : fractionField? stop f (bytesOf more) = some r) :
    ∃ digits junk, more = digits ++ junk ∧ (∀ c ∈ digits, isAsciiDigit c = true) ∧
      (junk ≠ [] → 6 ≤ digits.length) := by
  unfold fractionField? at h
  obtain ⟨⟨value, rest⟩, hread, -⟩ := Option.bind_eq_some_iff.mp h
  obtain ⟨digits, junk, rfl, hnumeral, -⟩ := takeNumber_eq_some.mp hread
  refine ⟨digits, junk, rfl, hnumeral.digits, fun hjunk => ?_⟩
  have hwidth := hnumeral.length_eq
  have hjunk : 0 < (bytesOf junk).length := List.length_pos_iff.mpr (mt bytesOf_eq_nil.mp hjunk)
  have hlength : (bytesOf (digits ++ junk)).length = digits.length + (bytesOf junk).length := by
    rw [bytesOf_append, List.length_append,
      length_bytesOf fun c hc => ascii_of_isAsciiDigit (hnumeral.digits c hc)]
  omega

theorem fractionAfter?_of_text {body spare : List Char} {micro : Nat}
    (h : FractionText body micro spare) (stop : UInt8) {f : ClockFields} (hf : f.micro = 0) :
    fractionAfter? stop f (bytesOf body) =
      some ({ f with micro := micro }, somethingLeft stop (bytesOf spare)) := by
  cases f
  cases hf
  cases h with
  | none => rfl
  | one hc =>
      rw [bytesOf_ascii hc]
      rfl
  | @marked mark digits junk hmark hdigits hjunk =>
      rw [← fractionField?_append hdigits.2 hjunk]
      cases digits with
      | nil => exact absurd rfl hdigits.1
      | cons d ds =>
          have hd := ascii_of_isAsciiDigit (hdigits.2 d List.mem_cons_self)
          simp only [List.mem_cons, List.not_mem_nil, or_false] at hmark
          rw [List.cons_append]
          rcases hmark with rfl | rfl | rfl <;>
            rw [bytesOf_ascii (by decide), bytesOf_ascii hd] <;> rfl

theorem mark_of_byte {c : Char} (hc : c.toNat < 0x80)
    (h : (UInt8.ofNat c.toNat == 58 || UInt8.ofNat c.toNat == 46 || UInt8.ofNat c.toNat == 44) =
      true) :
    c ∈ ['.', ',', ':'] := by
  have hcolon := asciiByte_beq hc (show ':'.toNat < 0x80 by decide)
  have hpoint := asciiByte_beq hc (show '.'.toNat < 0x80 by decide)
  have hcomma := asciiByte_beq hc (show ','.toNat < 0x80 by decide)
  simp only [Bool.or_eq_true] at h
  rcases h with (h | h) | h
  · rw [eq_of_beq (hcolon.symm.trans h)]
    decide
  · rw [eq_of_beq (hpoint.symm.trans h)]
    decide
  · rw [eq_of_beq (hcomma.symm.trans h)]
    decide

theorem exists_fractionText {body : List Char} {stop : UInt8} {f : ClockFields}
    {r : ClockFields × Bool} (h : fractionAfter? stop f (bytesOf body) = some r) :
    ∃ micro spare, FractionText body micro spare := by
  cases body with
  | nil => exact ⟨_, _, .none⟩
  | cons c cs =>
      by_cases hc : c.toNat < 0x80
      · cases cs with
        | nil => exact ⟨_, _, .one hc⟩
        | cons d ds =>
            obtain ⟨b, bs, hrest⟩ : ∃ b bs, bytesOf (d :: ds) = b :: bs :=
              List.exists_cons_of_ne_nil (mt bytesOf_eq_nil.mp (List.cons_ne_nil d ds))
            rw [bytesOf_ascii hc, hrest, fractionAfter?, ← hrest] at h
            · split at h
              · rename_i hmark
                obtain ⟨digits, junk, hsplit, hdigits, hjunk⟩ := fractionField?_eq_some h
                have hsome : digits ≠ [] := by
                  rintro rfl
                  rw [List.nil_append] at hsplit
                  exact absurd (hjunk (hsplit ▸ List.cons_ne_nil d ds)) (by decide)
                rw [hsplit]
                exact ⟨_, _, .marked (mark_of_byte hc hmark) ⟨hsome, hdigits⟩ hjunk⟩
              · cases h
            · rintro ⟨⟩
      · obtain ⟨b, x, rest, hbytes, hwide⟩ := encodeChar_wide hc
        have hb := hwide b List.mem_cons_self
        rw [bytesOf_cons, hbytes] at h
        simp only [List.cons_append, fractionAfter?] at h
        split at h
        · rename_i hmark
          simp only [Bool.or_eq_true, beq_iff_eq] at hmark
          rcases hmark with (rfl | rfl) | rfl <;> exact absurd hb (by decide)
        · cases h

section Clock

variable {n : Nat} {ds : List Char} {stop : UInt8} {separated : Bool} {i todo : Nat}
    {f : ClockFields}

theorem clockFieldsFrom?_end (hd : Numeral 2 n ds) :
    clockFieldsFrom? stop separated i f (todo + 1) (bytesOf ds) = some (f.set i n, stop != 0) := by
  have hread := takeNumber_numeral hd []
  rw [List.append_nil] at hread
  rw [clockFieldsFrom?, hread]
  rfl

theorem clockFieldsFrom?_colon (hd : Numeral 2 n ds) (hseparated : i = 0 ∨ separated = true)
    {rest : List Char} (hrest : rest ≠ []) :
    clockFieldsFrom? stop separated i f (todo + 1) (bytesOf (ds ++ ':' :: rest)) =
      clockFieldsFrom? stop true (i + 1) (f.set i n) todo (bytesOf rest) := by
  obtain ⟨b, bs, hbytes⟩ := List.exists_cons_of_ne_nil (mt bytesOf_eq_nil.mp hrest)
  have hread : takeNumber 2 (bytesOf (ds ++ ':' :: rest)) = some (n, 58 :: bytesOf rest) :=
    takeNumber_numeral hd (':' :: rest)
  rw [clockFieldsFrom?, hread, hbytes]
  rcases hseparated with rfl | rfl <;> simp

theorem clockFieldsFrom?_last (hd : Numeral 2 n ds) (rest : List Char) :
    clockFieldsFrom? stop true (i + 1) f 1 (bytesOf (ds ++ rest)) =
      fractionAfter? stop (f.set (i + 1) n) (bytesOf rest) := by
  rw [clockFieldsFrom?, takeNumber_numeral hd]
  rcases hbytes : bytesOf rest with _ | ⟨b, _ | ⟨b', bs⟩⟩
  · rfl
  · rfl
  · by_cases hcolon : b = 58
    · simp [fractionAfter?, clockFieldsFrom?, hcolon]
    · simp [fractionAfter?, hcolon]

theorem clockFieldsFrom?_eq_some {r : ClockFields × Bool} {cs : List Char}
    (h : clockFieldsFrom? stop separated i f (todo + 1) (bytesOf cs) = some r) :
    ∃ n ds more, cs = ds ++ more ∧ Numeral 2 n ds := by
  obtain ⟨⟨n, rest⟩, hread, -⟩ := Option.bind_eq_some_iff.mp h
  obtain ⟨ds, more, rfl, hd, -⟩ := takeNumber_eq_some.mp hread
  exact ⟨n, ds, more, rfl, hd⟩

end Clock

/-- Hours, minutes and seconds, two digits each, with colons between them. -/
abbrev ClockText : List Char → Nat × Nat × Nat → Prop := FieldsText 2 ':'

theorem clockFields?_clock {clock : List Char} {hour minute second : Nat}
    (h : ClockText clock (hour, minute, second)) (stop : UInt8) (rest : List Char) :
    clockFields? stop (bytesOf (clock ++ rest)) =
      fractionAfter? stop ⟨hour, minute, second, 0⟩ (bytesOf rest) := by
  obtain ⟨hhour, hminute, hsecond⟩ := h
  rw [clockFields?, List.append_assoc, List.cons_append, List.append_assoc, List.cons_append,
    clockFieldsFrom?_colon hhour (.inl rfl) (by simp), clockFieldsFrom?_colon hminute (.inr rfl),
    clockFieldsFrom?_last hsecond]
  · rfl
  · exact List.append_ne_nil_of_left_ne_nil (List.ne_nil_of_length_eq_add_one hsecond.length_eq) _

theorem isZoneChar_of_isAsciiDigit {c : Char} (hc : isAsciiDigit c = true) :
    isZoneChar c = false := by
  rw [← Bool.not_eq_true]
  intro h
  simp only [isZoneChar, Bool.or_eq_true, beq_iff_eq] at h
  rcases h with (rfl | rfl) | rfl <;> cases hc

theorem ClockText.not_isZoneChar {clock : List Char} {fields : Nat × Nat × Nat}
    (h : ClockText clock fields) : ∀ c ∈ clock, isZoneChar c = false := by
  obtain ⟨hhour, hminute, hsecond⟩ := h
  intro c hc
  simp only [List.mem_append, List.mem_cons] at hc
  rcases hc with hc | rfl | hc | rfl | hc
  · exact isZoneChar_of_isAsciiDigit (hhour.digits c hc)
  · rfl
  · exact isZoneChar_of_isAsciiDigit (hminute.digits c hc)
  · rfl
  · exact isZoneChar_of_isAsciiDigit (hsecond.digits c hc)

/-- Six characters between two colons whose time is read are the text of a clock. -/
theorem clockText_of_clockFields? {stop : UInt8} {hs ms ss rest : List Char}
    {r : ClockFields × Bool} (hhour : hs.length = 2) (hminute : ms.length = 2)
    (hsecond : ss.length = 2)
    (h : clockFields? stop (bytesOf ((hs ++ ':' :: (ms ++ ':' :: ss)) ++ rest)) = some r) :
    ∃ fields, ClockText (hs ++ ':' :: (ms ++ ':' :: ss)) fields := by
  have hsome {ds more : List Char} (hds : ds.length = 2) : ds ++ more ≠ [] :=
    List.append_ne_nil_of_left_ne_nil (List.ne_nil_of_length_eq_add_one hds) more
  simp only [clockFields?, List.append_assoc, List.cons_append] at h
  obtain ⟨hour, ds, more, heq, hh⟩ := clockFieldsFrom?_eq_some h
  obtain ⟨rfl, -⟩ := List.append_inj heq (hhour.trans hh.length_eq.symm)
  rw [clockFieldsFrom?_colon hh (.inl rfl) (hsome hminute)] at h
  obtain ⟨minute, ds, more, heq, hm⟩ := clockFieldsFrom?_eq_some h
  obtain ⟨rfl, -⟩ := List.append_inj heq (hminute.trans hm.length_eq.symm)
  rw [clockFieldsFrom?_colon hm (.inr rfl) (hsome hsecond)] at h
  obtain ⟨second, ds, more, heq, hs⟩ := clockFieldsFrom?_eq_some h
  obtain ⟨rfl, -⟩ := List.append_inj heq (hsecond.trans hs.length_eq.symm)
  exact ⟨_, .intro hh hm hs⟩

theorem somethingLeft_zero {spare : List Char} :
    somethingLeft 0 (bytesOf spare) = false ↔ spare.headD '\x00' = '\x00' := by
  cases spare with
  | nil => exact ⟨fun _ => rfl, fun _ => rfl⟩
  | cons c cs =>
      by_cases hc : c.toNat < 0x80
      · have hzero := asciiByte_beq hc (show '\x00'.toNat < 0x80 by decide)
        rw [bytesOf_ascii hc, somethingLeft, List.headD_cons, List.headD_cons, bne_eq_false_iff_eq,
          ← beq_iff_eq (a := c), ← hzero, beq_iff_eq]
        rfl
      · obtain ⟨b, x, rest, hbytes, hwide⟩ := encodeChar_wide hc
        have hb := hwide b List.mem_cons_self
        rw [bytesOf_cons, hbytes, somethingLeft, List.cons_append, List.headD_cons, List.headD_cons,
          bne_eq_false_iff_eq]
        constructor
        · rintro rfl
          exact absurd hb (by decide)
        · rintro rfl
          exact absurd (by decide) hc

/-- What may follow the seconds of a time: a fraction, and an offset that a plus, a minus or a `Z`
begins. Only without an offset must the text end with the fraction; a zero character then ends it
too. -/
inductive AfterSeconds : List Char → Nat → Option Span → Prop where
  | intro {body zone spare : List Char} {micro : Nat} {z : Option Span}
      (hbody : ∀ c ∈ body, isZoneChar c = false) (hzone : ∀ c ∈ zone.head?, isZoneChar c = true)
      (hfraction : FractionText body micro spare) (hspare : zone = [] → spare.headD '\x00' = '\x00')
      (hz : zoneFields? (bytesOf zone) = some z) : AfterSeconds (body ++ zone) micro z

/-- The time is read up to the offset, and must be read whole where there is no offset. -/
theorem timeFields?_split {clock body zone : List Char} {hour minute second : Nat}
    (h : ClockText clock (hour, minute, second)) (hbody : ∀ c ∈ body, isZoneChar c = false)
    (hzone : ∀ c ∈ zone.head?, isZoneChar c = true) :
    timeFields? (bytesOf (clock ++ (body ++ zone))) =
      (fractionAfter? ((bytesOf zone).headD 0) ⟨hour, minute, second, 0⟩ (bytesOf body)).bind
        fun (f, left) =>
          if (bytesOf zone).isEmpty && left then none
            else (zoneFields? (bytesOf zone)).map (f, ·) := by
  have hfront : ∀ c ∈ clock ++ body, (!isZoneChar c) = true := fun c hc => by
    rw [(List.mem_append.mp hc).elim (h.not_isZoneChar c) (hbody c)]
    rfl
  have hstop : ∀ c ∈ zone.head?, (!isZoneChar c) = false := by simpa using hzone
  obtain ⟨htake, hdrop⟩ := scan_all hfront hstop
  rw [← List.append_assoc, timeFields?, isZoneByte_alike.takeWhile,
    isZoneByte_alike.dropWhile, htake, hdrop]
  dsimp only
  rw [clockFields?_clock h]
  cases fractionAfter? ((bytesOf zone).headD 0) ⟨hour, minute, second, 0⟩ (bytesOf body) with
  | none => rfl
  | some found => cases zoneFields? (bytesOf zone) <;> rfl

/-- A time is read if and only if its seconds are followed by what may follow them. -/
theorem timeFields?_clock {clock tail : List Char} {hour minute second : Nat} {f : ClockFields}
    {z : Option Span} (h : ClockText clock (hour, minute, second)) :
    timeFields? (bytesOf (clock ++ tail)) = some (f, z) ↔
      ∃ micro, f = ⟨hour, minute, second, micro⟩ ∧ AfterSeconds tail micro z := by
  constructor
  · intro hread
    have hbody : ∀ c ∈ tail.takeWhile (!isZoneChar ·), isZoneChar c = false := fun c hc => by
      simpa using List.mem_takeWhile_imp hc
    have hzone : ∀ c ∈ (tail.dropWhile (!isZoneChar ·)).head?, isZoneChar c = true := fun c hc => by
      simpa using first_dropLeading (!isZoneChar ·) tail c hc
    rw [← List.takeWhile_append_dropWhile (p := (!isZoneChar ·)) (l := tail)] at hread ⊢
    generalize tail.takeWhile (!isZoneChar ·) = body at hread hbody ⊢
    generalize tail.dropWhile (!isZoneChar ·) = zone at hread hzone ⊢
    rw [timeFields?_split h hbody hzone] at hread
    obtain ⟨⟨found, left⟩, hfound, hread⟩ := Option.bind_eq_some_iff.mp hread
    obtain ⟨micro, spare, hfraction⟩ := exists_fractionText hfound
    rw [fractionAfter?_of_text hfraction _ rfl] at hfound
    obtain ⟨rfl, rfl⟩ := Prod.mk.inj (Option.some.inj hfound)
    dsimp only at hread
    split at hread
    · cases hread
    · rename_i hended
      obtain ⟨z', hz, hpair⟩ := Option.map_eq_some_iff.mp hread
      obtain ⟨rfl, rfl⟩ := Prod.mk.inj hpair
      refine ⟨micro, rfl, .intro hbody hzone hfraction ?_ hz⟩
      rintro rfl
      exact somethingLeft_zero.mp (by simpa using hended)
  · rintro ⟨micro, rfl, @⟨body, zone, spare, _, _, hbody, hzone, hfraction, hspare, hz⟩⟩
    have hended : ((bytesOf zone).isEmpty &&
        somethingLeft ((bytesOf zone).headD 0) (bytesOf spare)) = false := by
      cases zone with
      | nil => simpa using somethingLeft_zero.mpr (hspare rfl)
      | cons c zone =>
          rw [List.isEmpty_eq_false_iff.mpr (mt bytesOf_eq_nil.mp (by simp)), Bool.false_and]
    rw [timeFields?_split h hbody hzone, fractionAfter?_of_text hfraction _ rfl, Option.bind_some]
    dsimp only
    rw [hended, hz]
    rfl

end StatementWalk.Calendar
