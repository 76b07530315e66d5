import Mathlib.Algebra.Group.Nat.Defs
import Mathlib.Data.List.Basic
import Mathlib.Data.List.Induction
import Mathlib.Data.List.TakeWhile
import StatementWalk.Calendar.Iso
import StatementWalk.Proofs.IntegerText
import StatementWalk.Proofs.Utf8Text

/-!
# Fields of digits

Dates and times are written in fields of digits of a fixed width. What is written into such a field
is read back from it, and what is read from a text stands there as such a field. The readers work on
the bytes of a text, so the bytes are first traced back to characters.
-/

namespace StatementWalk.Calendar

open Text

def bytesOf (cs : List Char) : Bytes := cs.flatMap encodeChar

theorem encodeUtf8_ofList (cs : List Char) : encodeUtf8 (String.ofList cs) = bytesOf cs := by
  rw [encodeUtf8, String.toList_ofList, bytesOf]

@[simp] theorem bytesOf_nil : bytesOf [] = [] := rfl

theorem bytesOf_cons (c : Char) (cs : List Char) :
    bytesOf (c :: cs) = encodeChar c ++ bytesOf cs := rfl

@[simp] theorem bytesOf_append (cs ds : List Char) :
    bytesOf (cs ++ ds) = bytesOf cs ++ bytesOf ds :=
  List.flatMap_append

theorem bytesOf_ascii {c : Char} (hc : c.toNat < 0x80) (cs : List Char) :
    bytesOf (c :: cs) = UInt8.ofNat c.toNat :: bytesOf cs := by
  rw [bytesOf_cons, encodeChar_one hc]
  rfl

/-- A character outside ASCII has several bytes, all of them outside ASCII. -/
theorem encodeChar_wide {c : Char} (hc : ¬c.toNat < 0x80) :
    ∃ b x rest, encodeChar c = b :: x :: rest ∧ ∀ y ∈ b :: x :: rest, 0x80 ≤ y.toNat := by
  have hvalid : c.toNat < 0xD800 ∨ 0xDFFF < c.toNat ∧ c.toNat < 0x110000 := c.valid
  rcases Nat.lt_or_ge c.toNat 0x800 with htwo | htwo
  · refine ⟨_, _, _, encodeChar_two (by omega) htwo, ?_⟩
    simp only [List.forall_mem_cons]
    refine ⟨?_, ?_, by simp⟩ <;> rw [toNat_ofNat_byte (by omega)] <;> omega
  rcases Nat.lt_or_ge c.toNat 0x10000 with hthree | hthree
  · refine ⟨_, _, _, encodeChar_three htwo hthree, ?_⟩
    simp only [List.forall_mem_cons]
    refine ⟨?_, ?_, ?_, by simp⟩ <;> rw [toNat_ofNat_byte (by omega)] <;> omega
  · refine ⟨_, _, _, encodeChar_four hthree, ?_⟩
    simp only [List.forall_mem_cons]
    refine ⟨?_, ?_, ?_, ?_, by simp⟩ <;> rw [toNat_ofNat_byte (by omega)] <;> omega

theorem bytesOf_eq_nil {cs : List Char} : bytesOf cs = [] ↔ cs = [] := by
  cases cs with
  | nil => simp
  | cons c cs =>
      by_cases hc : c.toNat < 0x80
      · simp [bytesOf_ascii hc]
      · obtain ⟨b, x, rest, hbytes, -⟩ := encodeChar_wide hc
        simp [bytesOf_cons, hbytes]

theorem asciiByte_inj {c d : Char} (hc : c.toNat < 0x80) (hd : d.toNat < 0x80)
    (h : UInt8.ofNat c.toNat = UInt8.ofNat d.toNat) : c = d := by
  have hcode := congrArg UInt8.toNat h
  rw [toNat_ofNat_byte (by omega), toNat_ofNat_byte (by omega)] at hcode
  exact Char.ext (UInt32.toNat_inj.mp hcode)

theorem asciiByte_beq {c d : Char} (hc : c.toNat < 0x80) (hd : d.toNat < 0x80) :
    (UInt8.ofNat c.toNat == UInt8.ofNat d.toNat) = (c == d) := by
  rw [Bool.eq_iff_iff, beq_iff_eq, beq_iff_eq]
  exact ⟨asciiByte_inj hc hd, fun h => h ▸ rfl⟩

/-- What begins with the byte of an ASCII character begins with the character. -/
theorem eq_cons_of_bytesOf {cs : List Char} {c : Char} {rest : Bytes} (hc : c.toNat < 0x80)
    (h : bytesOf cs = UInt8.ofNat c.toNat :: rest) :
    ∃ more, cs = c :: more ∧ rest = bytesOf more := by
  cases cs with
  | nil => cases h
  | cons d cs =>
      by_cases hd : d.toNat < 0x80
      · rw [bytesOf_ascii hd] at h
        obtain ⟨hbyte, rfl⟩ := List.cons.inj h
        obtain rfl := asciiByte_inj hd hc hbyte
        exact ⟨cs, rfl, rfl⟩
      · obtain ⟨first, x, more, hbytes, hwide⟩ := encodeChar_wide hd
        rw [bytesOf_cons, hbytes] at h
        obtain ⟨rfl, -⟩ := List.cons.inj h
        have hfirst := hwide _ List.mem_cons_self
        rw [toNat_ofNat_byte (by omega)] at hfirst
        omega

theorem length_bytesOf {cs : List Char} (h : ∀ c ∈ cs, c.toNat < 0x80) :
    (bytesOf cs).length = cs.length := by
  induction cs with
  | nil => rfl
  | cons c cs ih =>
      rw [bytesOf_ascii (h c (by simp)), List.length_cons, ih fun x hx => h x (by simp [hx]),
        List.length_cons]

/-- A scan that stops where the rest begins sees nothing of the rest. -/
theorem scan_append {p : Char → Bool} {front rest : List Char}
    (hrest : ∀ c ∈ rest.head?, p c = false) :
    (front ++ rest).takeWhile p = front.takeWhile p ∧
      (front ++ rest).dropWhile p = front.dropWhile p ++ rest := by
  induction front with
  | nil =>
      cases rest with
      | nil => simp
      | cons c rest => simp [hrest c rfl]
  | cons c front ih => cases hc : p c <;> simp [hc, ih]

/-- A scan that stops where the rest begins, and not before, takes all that stands in front. -/
theorem scan_all {p : Char → Bool} {front rest : List Char} (hfront : ∀ c ∈ front, p c = true)
    (hrest : ∀ c ∈ rest.head?, p c = false) :
    (front ++ rest).takeWhile p = front ∧ (front ++ rest).dropWhile p = rest := by
  obtain ⟨htake, hdrop⟩ : _ ∧ (front ++ rest).dropWhile p = _ := scan_append hrest
  rw [htake, hdrop, List.takeWhile_eq_self_iff.mpr hfront, List.dropWhile_eq_nil_iff.mpr hfront,
    List.nil_append]
  exact ⟨rfl, rfl⟩

/-- A test of bytes that amounts to one of characters: outside ASCII both have the same fixed
answer. -/
structure TestsAlike (onByte : UInt8 → Bool) (onChar : Char → Bool) (wide : Bool) : Prop where
  ascii (c : Char) (hc : c.toNat < 0x80) : onByte (UInt8.ofNat c.toNat) = onChar c
  wide_byte (b : UInt8) (hb : 0x80 ≤ b.toNat) : onByte b = wide
  wide_char (c : Char) (hc : ¬c.toNat < 0x80) : onChar c = wide

namespace TestsAlike

variable {onByte : UInt8 → Bool} {onChar : Char → Bool} {wide : Bool}

theorem takeWhile_dropWhile (h : TestsAlike onByte onChar wide) (cs : List Char) :
    (bytesOf cs).takeWhile onByte = bytesOf (cs.takeWhile onChar) ∧
      (bytesOf cs).dropWhile onByte = bytesOf (cs.dropWhile onChar) := by
  induction cs with
  | nil => simp
  | cons c cs ih =>
      by_cases hc : c.toNat < 0x80
      · rw [bytesOf_ascii hc]
        cases hp : onChar c with
        | true => simp [hp, h.ascii c hc, ih, bytesOf_ascii hc]
        | false => simp [hp, h.ascii c hc, bytesOf_ascii hc]
      · obtain ⟨b, x, rest, hbytes, hwide⟩ := encodeChar_wide hc
        have hall : ∀ y ∈ b :: x :: rest, onByte y = wide := fun y hy => h.wide_byte y (hwide y hy)
        cases wide with
        | true =>
            rw [bytesOf_cons, hbytes, List.takeWhile_append_of_pos hall,
              List.dropWhile_append_of_pos hall, ih.1, ih.2]
            simp [h.wide_char c hc, bytesOf_cons, hbytes]
        | false =>
            have hb : onByte b = false := hall b List.mem_cons_self
            simp [bytesOf_cons, hbytes, hb, h.wide_char c hc]

theorem takeWhile (h : TestsAlike onByte onChar wide) (cs : List Char) :
    (bytesOf cs).takeWhile onByte = bytesOf (cs.takeWhile onChar) := (h.takeWhile_dropWhile cs).1

theorem dropWhile (h : TestsAlike onByte onChar wide) (cs : List Char) :
    (bytesOf cs).dropWhile onByte = bytesOf (cs.dropWhile onChar) := (h.takeWhile_dropWhile cs).2

end TestsAlike

theorem isAsciiDigit_iff {c : Char} : isAsciiDigit c = true ↔ 48 ≤ c.toNat ∧ c.toNat ≤ 57 :=
  decide_eq_true_iff

theorem ascii_of_isAsciiDigit {c : Char} (hc : isAsciiDigit c = true) : c.toNat < 0x80 := by
  have := isAsciiDigit_iff.mp hc
  omega

theorem isDigitByte_alike : TestsAlike isDigitByte isAsciiDigit false where
  ascii c hc := by
    rw [Bool.eq_iff_iff, isAsciiDigit_iff, isDigitByte, decide_eq_true_iff,
      toNat_ofNat_byte (by omega)]
  wide_byte b hb := by
    rw [isDigitByte, decide_eq_false_iff_not]
    omega
  wide_char c hc := by
    rw [← Bool.not_eq_true]
    exact fun h => hc (ascii_of_isAsciiDigit h)

/-- As many decimal digits as the width says, which write `n`. -/
structure Numeral (width n : Nat) (cs : List Char) : Prop where
  length_eq : cs.length = width
  digits : ∀ c ∈ cs, isAsciiDigit c = true
  value_eq : Nat.ofDigitChars 10 cs 0 = n

theorem ofDigitChars_concat (cs : List Char) (c : Char) :
    Nat.ofDigitChars 10 (cs ++ [c]) 0 = 10 * Nat.ofDigitChars 10 cs 0 + (c.toNat - 48) := by
  rw [Nat.ofDigitChars_append, Nat.ofDigitChars_cons, Nat.ofDigitChars_nil]
  rfl

theorem ofDigitChars_lt {cs : List Char} (h : ∀ c ∈ cs, isAsciiDigit c = true) :
    Nat.ofDigitChars 10 cs 0 < 10 ^ cs.length := by
  induction cs using List.reverseRecOn with
  | nil => simp
  | append_singleton cs c ih =>
      have hc := isAsciiDigit_iff.mp (h c (by simp))
      have hcs := ih fun x hx => h x (by simp [hx])
      rw [ofDigitChars_concat, List.length_append, List.length_singleton, Nat.pow_succ]
      omega

namespace Numeral

variable {width n : Nat} {cs cs' : List Char}

theorem length_bytesOf (h : Numeral width n cs) : (bytesOf cs).length = width := by
  rw [Calendar.length_bytesOf fun c hc => ascii_of_isAsciiDigit (h.digits c hc), h.length_eq]

theorem unique (h : Numeral width n cs) (h' : Numeral width n cs') : cs = cs' := by
  induction cs using List.reverseRecOn generalizing width n cs' with
  | nil =>
      have hlength : cs'.length = 0 := by rw [h'.length_eq, ← h.length_eq, List.length_nil]
      exact (List.length_eq_zero_iff.mp hlength).symm
  | append_singleton cs c ih =>
      obtain rfl | ⟨ds, d, rfl⟩ := List.eq_nil_or_concat' cs'
      · have hlength := h.length_eq.trans h'.length_eq.symm
        simp at hlength
      · have hc := isAsciiDigit_iff.mp (h.digits c (by simp))
        have hd := isAsciiDigit_iff.mp (h'.digits d (by simp))
        have hvalue := h.value_eq.trans h'.value_eq.symm
        have hlength := h.length_eq.trans h'.length_eq.symm
        rw [ofDigitChars_concat, ofDigitChars_concat] at hvalue
        simp only [List.length_append, List.length_singleton, Nat.add_right_cancel_iff] at hlength
        have hfront : Numeral cs.length (Nat.ofDigitChars 10 cs 0) cs :=
          ⟨rfl, fun x hx => h.digits x (by simp [hx]), rfl⟩
        have hfront' : Numeral cs.length (Nat.ofDigitChars 10 cs 0) ds :=
          ⟨hlength.symm, fun x hx => h'.digits x (by simp [hx]), by omega⟩
        have hlast : c = d := Char.ext (UInt32.toNat_inj.mp (show c.toNat = d.toNat by omega))
        rw [ih hfront hfront', hlast]

end Numeral

theorem numeral_padded {width n : Nat} (hwidth : 0 < width) (h : n < 10 ^ width) :
    Numeral width n (padded width n).toList := by
  have htext : (padded width n).toList =
      List.replicate (width - (Nat.toDigits 10 n).length) '0' ++ Nat.toDigits 10 n := by
    simp [padded]
  have hlength := (Nat.length_toDigits_le_iff (by decide) hwidth).mpr h
  rw [htext]
  refine ⟨?_, fun c hc => ?_, ?_⟩
  · rw [List.length_append, List.length_replicate]
    omega
  · rcases List.mem_append.mp hc with hc | hc
    · rw [List.eq_of_mem_replicate hc]
      rfl
    · have hdigit := Nat.isDigit_of_mem_toDigits (by decide) (by decide) hc
      rw [Char.isDigit, Bool.and_eq_true, decide_eq_true_iff, decide_eq_true_iff] at hdigit
      exact isAsciiDigit_iff.mpr hdigit
  · rw [Nat.ofDigitChars_append, Nat.ofDigitChars_replicate_zero, Nat.mul_zero,
      Nat.ofDigitChars_ten_toDigits]

/-- Three fields of digits with a separator between them: one of some width, and two of two
digits. -/
inductive FieldsText (width : Nat) (separator : Char) : List Char → Nat × Nat × Nat → Prop where
  | intro {x y z : Nat} {xs ys zs : List Char} (hx : Numeral width x xs) (hy : Numeral 2 y ys)
      (hz : Numeral 2 z zs) :
      FieldsText width separator (xs ++ separator :: (ys ++ separator :: zs)) (x, y, z)

theorem FieldsText.unique {width : Nat} {separator : Char} {cs cs' : List Char}
    {fields : Nat × Nat × Nat} (h : FieldsText width separator cs fields)
    (h' : FieldsText width separator cs' fields) : cs = cs' := by
  obtain ⟨hx, hy, hz⟩ := h
  obtain ⟨hx', hy', hz'⟩ := h'
  rw [hx.unique hx', hy.unique hy', hz.unique hz']

theorem takeNumberFrom_cons (acc width : Nat) (c : Char) (cs : List Char) :
    takeNumberFrom acc (width + 1) (bytesOf (c :: cs)) =
      if isAsciiDigit c then takeNumberFrom (10 * acc + (c.toNat - 48)) width (bytesOf cs)
        else none := by
  by_cases hc : c.toNat < 0x80
  · rw [bytesOf_ascii hc, takeNumberFrom, isDigitByte_alike.ascii c hc, toNat_ofNat_byte (by omega)]
  · obtain ⟨b, x, rest, hbytes, hwide⟩ := encodeChar_wide hc
    rw [bytesOf_cons, hbytes, List.cons_append, takeNumberFrom,
      isDigitByte_alike.wide_byte b (hwide b List.mem_cons_self), isDigitByte_alike.wide_char c hc]
    rfl

theorem takeNumberFrom_append {width : Nat} {ds : List Char} (hlength : ds.length = width)
    (hdigits : ∀ c ∈ ds, isAsciiDigit c = true) (acc : Nat) (cs : List Char) :
    takeNumberFrom acc width (bytesOf (ds ++ cs)) =
      some (Nat.ofDigitChars 10 ds acc, bytesOf cs) := by
  induction ds generalizing acc width with
  | nil =>
      subst hlength
      rfl
  | cons d ds ih =>
      subst hlength
      rw [List.length_cons, List.cons_append, takeNumberFrom_cons, if_pos (hdigits d (by simp)),
        ih rfl fun c hc => hdigits c (by simp [hc])]
      rfl

theorem takeNumberFrom_eq_some {acc width n : Nat} {cs : List Char} {rest : Bytes}
    (h : takeNumberFrom acc width (bytesOf cs) = some (n, rest)) :
    ∃ ds more, cs = ds ++ more ∧ ds.length = width ∧ (∀ c ∈ ds, isAsciiDigit c = true) ∧
      rest = bytesOf more := by
  induction width generalizing acc cs with
  | zero =>
      cases h
      exact ⟨[], cs, rfl, rfl, by simp, rfl⟩
  | succ width ih =>
      cases cs with
      | nil => cases h
      | cons c cs =>
          rw [takeNumberFrom_cons] at h
          split at h
          · rename_i hc
            obtain ⟨ds, more, rfl, rfl, hdigits, rfl⟩ := ih h
            exact ⟨c :: ds, more, rfl, rfl, by simpa [hc] using hdigits, rfl⟩
          · cases h

theorem takeNumber_numeral {width n : Nat} {ds : List Char} (h : Numeral width n ds)
    (cs : List Char) :
    takeNumber width (bytesOf (ds ++ cs)) = some (n, bytesOf cs) := by
  rw [takeNumber, takeNumberFrom_append h.length_eq h.digits, h.value_eq]

/-- A number is read off a text if and only if the text begins with its field. -/
theorem takeNumber_eq_some {width n : Nat} {cs : List Char} {rest : Bytes} :
    takeNumber width (bytesOf cs) = some (n, rest) ↔
      ∃ ds more, cs = ds ++ more ∧ Numeral width n ds ∧ rest = bytesOf more := by
  constructor
  · intro h
    obtain ⟨ds, more, rfl, hlength, hdigits, rfl⟩ := takeNumberFrom_eq_some h
    have hread : Numeral width (Nat.ofDigitChars 10 ds 0) ds := ⟨hlength, hdigits, rfl⟩
    obtain ⟨rfl, -⟩ := Prod.mk.inj (Option.some.inj ((takeNumber_numeral hread more).symm.trans h))
    exact ⟨ds, more, rfl, hread, rfl⟩
  · rintro ⟨ds, more, rfl, hread, rfl⟩
    exact takeNumber_numeral hread more

end StatementWalk.Calendar
