import Mathlib.Data.List.TakeWhile
import StatementWalk.Number.IntText

/-!
# Texts that write an integer

An integer is written as a sign, which may be missing, and digits, with single underscores between
them as one likes, and there may be blanks on both sides. Reading accepts exactly the texts of this
form that have no more digits than the limit. A text outside ASCII is read by way of an ASCII text
that has its form.
-/

namespace StatementWalk.Number

open Text

/-- Digits by their values. Between two of them there may be an underscore. -/
inductive DigitRun (value? : Char → Option Nat) : List Char → List Nat → Prop where
  | last {c : Char} {d : Nat} (hc : value? c = some d) : DigitRun value? [c] [d]
  | next {c : Char} {d : Nat} {cs : List Char} {ds : List Nat} (hc : value? c = some d)
      (more : DigitRun value? cs ds) : DigitRun value? (c :: cs) (d :: ds)
  | apart {c : Char} {d : Nat} {cs : List Char} {ds : List Nat} (hc : value? c = some d)
      (more : DigitRun value? cs ds) : DigitRun value? (c :: '_' :: cs) (d :: ds)

inductive SignText : List Char → Bool → Prop where
  | missing : SignText [] false
  | plus : SignText ['+'] false
  | minus : SignText ['-'] true

/-- What counts as a digit and as a blank. -/
structure Numerals where
  value? : Char → Option Nat
  blank : Char → Bool

/-- The text has the form of an integer with the sign and the digits. -/
inductive Numerals.Writes (numerals : Numerals) : List Char → Bool → List Nat → Prop where
  | intro {before sign body after : List Char} {negative : Bool} {ds : List Nat}
      (hbefore : ∀ c ∈ before, numerals.blank c = true) (hsign : SignText sign negative)
      (hbody : DigitRun numerals.value? body ds) (hafter : ∀ c ∈ after, numerals.blank c = true) :
      Numerals.Writes numerals (before ++ (sign ++ (body ++ after))) negative ds

def signed (negative : Bool) (n : Nat) : Int := if negative then -(n : Int) else n

def asciiNumerals : Numerals where
  value? c := if isAsciiDigit c then some (c.toNat - 48) else none
  blank := isAsciiSpace

theorem asciiNumerals_value?_of_digit {c : Char} (h : isAsciiDigit c = true) :
    asciiNumerals.value? c = some (c.toNat - 48) := if_pos h

theorem isAsciiDigit_of_value? {c : Char} {d : Nat} (h : asciiNumerals.value? c = some d) :
    isAsciiDigit c = true ∧ d = c.toNat - 48 := by
  unfold asciiNumerals at h
  dsimp only at h
  split at h
  · rename_i hc
    exact ⟨hc, (Option.some.inj h).symm⟩
  · cases h

/-- Nothing that could belong to a run of digits stands first. -/
def Ends (cs : List Char) : Prop := ∀ c rest, cs = c :: rest → isAsciiDigit c = false ∧ c ≠ '_'

theorem takeDigits_of_ends {cs : List Char} (h : Ends cs) : takeDigits true cs = some ([], cs) := by
  cases cs with
  | nil => rfl
  | cons c rest =>
      obtain ⟨hdigit, hunderscore⟩ := h c rest rfl
      simp [takeDigits, hdigit, hunderscore]

theorem takeDigits_digit {c : Char} (hc : isAsciiDigit c = true) (afterDigit : Bool)
    (cs : List Char) :
    takeDigits afterDigit (c :: cs) =
      (takeDigits true cs).map fun (ds, rest) => ((c.toNat - 48) :: ds, rest) := by
  rw [takeDigits, if_pos hc]

theorem takeDigits_underscore (cs : List Char) :
    takeDigits true ('_' :: cs) = takeDigits false cs := by
  rw [takeDigits]
  rfl

theorem takeDigits_of_run {body after : List Char} {ds : List Nat}
    (hbody : DigitRun asciiNumerals.value? body ds) (hafter : Ends after) (afterDigit : Bool) :
    takeDigits afterDigit (body ++ after) = some (ds, after) := by
  induction hbody generalizing afterDigit with
  | last hc =>
      obtain ⟨hdigit, rfl⟩ := isAsciiDigit_of_value? hc
      rw [List.singleton_append, takeDigits_digit hdigit, takeDigits_of_ends hafter]
      rfl
  | next hc more ih =>
      obtain ⟨hdigit, rfl⟩ := isAsciiDigit_of_value? hc
      rw [List.cons_append, takeDigits_digit hdigit, ih]
      rfl
  | apart hc more ih =>
      obtain ⟨hdigit, rfl⟩ := isAsciiDigit_of_value? hc
      rw [List.cons_append, List.cons_append, takeDigits_digit hdigit, takeDigits_underscore, ih]
      rfl

/-- What is taken from the start of a number is a run of digits; after a digit it is a run that goes
on, or nothing. -/
theorem run_of_takeDigits {cs rest : List Char} {ds : List Nat} {afterDigit : Bool}
    (h : takeDigits afterDigit cs = some (ds, rest)) :
    (∃ body, cs = body ++ rest ∧ DigitRun asciiNumerals.value? body ds) ∨
      afterDigit = true ∧ ((ds = [] ∧ cs = rest) ∨
        ∃ body, cs = '_' :: body ++ rest ∧ DigitRun asciiNumerals.value? body ds) := by
  induction cs generalizing afterDigit ds with
  | nil =>
      cases afterDigit with
      | false => cases h
      | true =>
          cases h
          exact .inr ⟨rfl, .inl ⟨rfl, rfl⟩⟩
  | cons c cs ih =>
      rw [takeDigits] at h
      split at h
      · rename_i hc
        obtain ⟨⟨ds', rest'⟩, hmore, heq⟩ := Option.map_eq_some_iff.mp h
        cases heq
        have hvalue := asciiNumerals_value?_of_digit hc
        rcases ih hmore with ⟨body, rfl, hbody⟩ | ⟨-, ⟨rfl, rfl⟩ | ⟨body, rfl, hbody⟩⟩
        · exact .inl ⟨c :: body, rfl, .next hvalue hbody⟩
        · exact .inl ⟨[c], rfl, .last hvalue⟩
        · exact .inl ⟨c :: '_' :: body, rfl, .apart hvalue hbody⟩
      · split at h
        · rename_i hunderscore
          obtain rfl : c = '_' := by simpa using hunderscore
          cases afterDigit with
          | false => cases h
          | true =>
              rcases ih h with ⟨body, rfl, hbody⟩ | ⟨hfalse, -⟩
              · exact .inr ⟨rfl, .inr ⟨body, rfl, hbody⟩⟩
              · cases hfalse
        · cases afterDigit with
          | false => cases h
          | true =>
              cases h
              exact .inr ⟨rfl, .inl ⟨rfl, rfl⟩⟩

theorem DigitRun.exists_digit {value? : Char → Option Nat} {body : List Char} {ds : List Nat}
    (h : DigitRun value? body ds) : ∃ c d rest, body = c :: rest ∧ value? c = some d := by
  cases h with
  | last hc => exact ⟨_, _, _, rfl, hc⟩
  | next hc more => exact ⟨_, _, _, rfl, hc⟩
  | apart hc more => exact ⟨_, _, _, rfl, hc⟩

theorem ne_of_isAsciiDigit {c x : Char} (hc : isAsciiDigit c = true) (hx : isAsciiDigit x = false) :
    c ≠ x := by
  rintro rfl
  rw [hc] at hx
  cases hx

theorem isAsciiSpace_of_isAsciiDigit {c : Char} (hc : isAsciiDigit c = true) :
    isAsciiSpace c = false := by
  obtain ⟨hlow, hhigh⟩ := of_decide_eq_true hc
  have hlow : 48 ≤ c.toNat := hlow
  have hne : c ≠ ' ' := ne_of_isAsciiDigit hc (by decide)
  simp only [isAsciiSpace, Bool.or_eq_false_iff, beq_eq_false_iff_ne, decide_eq_false_iff_not]
  exact ⟨hne, by omega⟩

theorem ends_of_blank {cs : List Char} (h : ∀ c ∈ cs, isAsciiSpace c = true) : Ends cs := by
  rintro c rest rfl
  have hc := h c List.mem_cons_self
  constructor
  · rw [← Bool.not_eq_true]
    intro hdigit
    rw [isAsciiSpace_of_isAsciiDigit hdigit] at hc
    cases hc
  · rintro rfl
    revert hc
    decide

theorem splitSign_append {sign body : List Char} {negative : Bool} (hsign : SignText sign negative)
    {c : Char} {rest : List Char} (hbody : body = c :: rest) (hc : isAsciiDigit c = true) :
    splitSign (sign ++ body) = (negative, body) := by
  cases hsign with
  | missing =>
      subst hbody
      have hminus : c ≠ '-' := ne_of_isAsciiDigit hc (by decide)
      have hplus : c ≠ '+' := ne_of_isAsciiDigit hc (by decide)
      simp [splitSign, hminus, hplus]
  | plus => rfl
  | minus => rfl

theorem exists_signText (cs : List Char) :
    ∃ sign, SignText sign (splitSign cs).1 ∧ cs = sign ++ (splitSign cs).2 := by
  unfold splitSign
  split
  · exact ⟨_, .minus, rfl⟩
  · exact ⟨_, .plus, rfl⟩
  · exact ⟨_, .missing, rfl⟩

/-- No blank stands before a sign or a digit. -/
theorem dropWhile_sign_append {sign body : List Char} {negative : Bool}
    (hsign : SignText sign negative) {c : Char} {rest : List Char} (hbody : body = c :: rest)
    (hc : isAsciiDigit c = true) : (sign ++ body).dropWhile isAsciiSpace = sign ++ body := by
  cases hsign with
  | missing =>
      subst hbody
      rw [List.nil_append, List.dropWhile_cons_of_neg (by simp [isAsciiSpace_of_isAsciiDigit hc])]
  | plus => rfl
  | minus => rfl

theorem readAsciiInt_of_writes {cs : List Char} {negative : Bool} {ds : List Nat}
    (h : asciiNumerals.Writes cs negative ds) :
    readAsciiInt cs = if digitLimit < ds.length then .tooLong ds.length
      else .number (signed negative (ofDigits ds)) := by
  obtain ⟨hbefore, hsign, hbody, hafter⟩ := h
  rename_i before sign body after
  obtain ⟨c, d, rest, hcons, hc⟩ := hbody.exists_digit
  have hdigit := (isAsciiDigit_of_value? hc).1
  have hcons' : body ++ after = c :: (rest ++ after) := by rw [hcons, List.cons_append]
  have hrest : after.dropWhile isAsciiSpace = [] := List.dropWhile_eq_nil_iff.mpr hafter
  have hstart : (before ++ (sign ++ (body ++ after))).dropWhile isAsciiSpace =
      sign ++ (body ++ after) :=
    (List.dropWhile_append_of_pos hbefore).trans (dropWhile_sign_append hsign hcons' hdigit)
  unfold readAsciiInt
  rw [hstart, splitSign_append hsign hcons' hdigit]
  simp only [takeDigits_of_run hbody (ends_of_blank hafter), hrest, List.isEmpty_nil, if_true]
  rfl

theorem writes_of_readAsciiInt {cs : List Char} {n : Int} (h : readAsciiInt cs = .number n) :
    ∃ negative ds, asciiNumerals.Writes cs negative ds ∧ ds.length ≤ digitLimit ∧
      n = signed negative (ofDigits ds) := by
  have hsplit : cs.takeWhile isAsciiSpace ++ cs.dropWhile isAsciiSpace = cs :=
    List.takeWhile_append_dropWhile
  obtain ⟨sign, hsign, hbody⟩ := exists_signText (cs.dropWhile isAsciiSpace)
  unfold readAsciiInt at h
  cases htake : takeDigits false (splitSign (cs.dropWhile isAsciiSpace)).2 with
  | none =>
      simp only [htake] at h
      cases h
  | some found =>
      obtain ⟨ds, after⟩ := found
      simp only [htake] at h
      split at h
      · cases h
      · rename_i hlength
        split at h
        · rename_i hempty
          rw [IntReading.number.injEq] at h
          rcases run_of_takeDigits htake with ⟨run, hrun, hdigits⟩ | ⟨hfalse, -⟩
          · have hafter : ∀ c ∈ after, isAsciiSpace c = true :=
              List.dropWhile_eq_nil_iff.mp (List.isEmpty_iff.mp hempty)
            have hbefore : ∀ c ∈ cs.takeWhile isAsciiSpace, isAsciiSpace c = true :=
              fun c hc => List.mem_takeWhile_imp hc
            have hwrites : asciiNumerals.Writes _ _ ds := .intro hbefore hsign hdigits hafter
            rw [← hrun, ← hbody, hsplit] at hwrites
            exact ⟨_, ds, hwrites, Nat.le_of_not_lt hlength, h.symm⟩
          · cases hfalse
        · cases h

/-- Digits and blanks of every script. The information separators of ASCII are no blanks here. -/
def anyNumerals : Numerals where
  value? := digitValue?
  blank c := if c.toNat < 0x80 then isAsciiSpace c else isBlank c

/-- Characters are read in the place of others, and signs and underscores in no other's place. -/
structure StandsIn (f : Char → Char) (numerals stand : Numerals) : Prop where
  value?_eq (c : Char) : stand.value? (f c) = numerals.value? c
  blank_eq (c : Char) : stand.blank (f c) = numerals.blank c
  eq_iff (c x : Char) (hx : x ∈ ['+', '-', '_']) : f c = x ↔ c = x

namespace StandsIn

variable {f : Char → Char} {numerals stand : Numerals} {cs : List Char} {ds : List Nat}
    {negative : Bool}

theorem underscore (h : StandsIn f numerals stand) : f '_' = '_' := (h.eq_iff _ _ (by simp)).mpr rfl

theorem run_map (h : StandsIn f numerals stand) (hrun : DigitRun numerals.value? cs ds) :
    DigitRun stand.value? (cs.map f) ds := by
  induction hrun with
  | last hc => exact .last ((h.value?_eq _).trans hc)
  | next hc more ih => exact .next ((h.value?_eq _).trans hc) ih
  | apart hc more ih =>
      rw [List.map_cons, List.map_cons, h.underscore]
      exact .apart ((h.value?_eq _).trans hc) ih

theorem run_of_map (h : StandsIn f numerals stand) (hrun : DigitRun stand.value? (cs.map f) ds) :
    DigitRun numerals.value? cs ds := by
  generalize hcs : cs.map f = fs at hrun
  induction hrun generalizing cs with
  | last hc =>
      obtain ⟨c, rfl, rfl⟩ := List.map_eq_singleton_iff.mp hcs
      exact .last ((h.value?_eq c).symm.trans hc)
  | next hc more ih =>
      obtain ⟨c, rest, rfl, rfl, hrest⟩ := List.map_eq_cons_iff.mp hcs
      exact .next ((h.value?_eq c).symm.trans hc) (ih hrest)
  | apart hc more ih =>
      obtain ⟨c, rest, rfl, rfl, hrest⟩ := List.map_eq_cons_iff.mp hcs
      obtain ⟨u, more, rfl, hu, hmore⟩ := List.map_eq_cons_iff.mp hrest
      obtain rfl := (h.eq_iff u '_' (by simp)).mp hu
      exact .apart ((h.value?_eq c).symm.trans hc) (ih hmore)

theorem sign_map (h : StandsIn f numerals stand) (hsign : SignText cs negative) :
    SignText (cs.map f) negative := by
  cases hsign with
  | missing => exact .missing
  | plus =>
      rw [List.map_singleton, (h.eq_iff '+' '+' (by simp)).mpr rfl]
      exact .plus
  | minus =>
      rw [List.map_singleton, (h.eq_iff '-' '-' (by simp)).mpr rfl]
      exact .minus

theorem sign_of_map (h : StandsIn f numerals stand) (hsign : SignText (cs.map f) negative) :
    SignText cs negative := by
  generalize hcs : cs.map f = fs at hsign
  cases hsign with
  | missing =>
      obtain rfl := List.map_eq_nil_iff.mp hcs
      exact .missing
  | plus =>
      obtain ⟨c, rfl, hc⟩ := List.map_eq_singleton_iff.mp hcs
      obtain rfl := (h.eq_iff c '+' (by simp)).mp hc
      exact .plus
  | minus =>
      obtain ⟨c, rfl, hc⟩ := List.map_eq_singleton_iff.mp hcs
      obtain rfl := (h.eq_iff c '-' (by simp)).mp hc
      exact .minus

theorem blank_map_iff (h : StandsIn f numerals stand) :
    (∀ c ∈ cs.map f, stand.blank c = true) ↔ ∀ c ∈ cs, numerals.blank c = true := by
  simp only [List.forall_mem_map, h.blank_eq]

/-- A text has the form of an integer if and only if the text that stands in for it has. -/
theorem writes_map_iff (h : StandsIn f numerals stand) :
    stand.Writes (cs.map f) negative ds ↔ numerals.Writes cs negative ds := by
  constructor
  · generalize hcs : cs.map f = fs
    rintro ⟨hbefore, hsign, hbody, hafter⟩
    obtain ⟨before, rest, rfl, rfl, hrest⟩ := List.map_eq_append_iff.mp hcs
    obtain ⟨sign, number, rfl, rfl, hnumber⟩ := List.map_eq_append_iff.mp hrest
    obtain ⟨body, after, rfl, rfl, rfl⟩ := List.map_eq_append_iff.mp hnumber
    exact .intro (h.blank_map_iff.mp hbefore) (h.sign_of_map hsign) (h.run_of_map hbody)
      (h.blank_map_iff.mp hafter)
  · rintro ⟨hbefore, hsign, hbody, hafter⟩
    simp only [List.map_append]
    exact .intro (h.blank_map_iff.mpr hbefore) (h.sign_map hsign) (h.run_map hbody)
      (h.blank_map_iff.mpr hafter)

end StandsIn

theorem digitValue?_lt {c : Char} {d : Nat} (h : digitValue? c = some d) : d < 10 := by
  unfold digitValue? at h
  split at h
  · split at h
    · rename_i hc
      cases h
      have hhigh : c.toNat ≤ 57 := hc.2
      omega
    · cases h
  · obtain ⟨z, hz, rfl⟩ := Option.map_eq_some_iff.mp h
    have := List.find?_some hz
    simp only [Bool.and_eq_true, decide_eq_true_eq] at this
    omega

def wideBlanks : List Nat :=
  [0x85, 0xA0, 0x1680, 0x2000, 0x2001, 0x2002, 0x2003, 0x2004, 0x2005, 0x2006, 0x2007,
   0x2008, 0x2009, 0x200A, 0x2028, 0x2029, 0x202F, 0x205F, 0x3000]

theorem mem_wideBlanks {c : Char} (hc : ¬c.toNat < 0x80) (h : isBlank c = true) :
    c.toNat ∈ wideBlanks := by
  have hspace : c ≠ ' ' := by
    rintro rfl
    exact hc (by decide)
  simp only [isBlank, isWhite, isAsciiSpace, Bool.or_eq_true, beq_iff_eq, decide_eq_true_eq,
    hspace, false_or] at h
  simp only [wideBlanks, List.mem_cons, List.not_mem_nil, or_false]
  omega

theorem digitValue?_of_isBlank {c : Char} (hc : ¬c.toNat < 0x80) (h : isBlank c = true) :
    digitValue? c = none := by
  have hfind : ∀ n ∈ wideBlanks, (digitZeros.find? fun z => z ≤ n && n < z + 10) = none := by decide
  rw [digitValue?, if_neg hc, hfind _ (mem_wideBlanks hc h)]
  rfl

theorem digitValue?_of_ascii {c : Char} (hc : c.toNat < 0x80) :
    digitValue? c = asciiNumerals.value? c := by
  rw [digitValue?, if_pos hc]
  simp only [asciiNumerals, isAsciiDigit, decide_eq_true_eq]

theorem digitChar_ascii {d : Nat} (h : d < 10) :
    asciiNumerals.value? (digitChar d) = some d ∧ isAsciiSpace (digitChar d) = false ∧
      digitChar d ∉ ['+', '-', '_'] := by
  revert d
  decide

theorem asciiStandIn_of_ascii {c : Char} (hc : c.toNat < 0x80) : asciiStandIn c = c := if_pos hc

theorem asciiStandIn_of_isBlank {c : Char} (hc : ¬c.toNat < 0x80) (h : isBlank c = true) :
    asciiStandIn c = ' ' := by
  rw [asciiStandIn, if_neg hc, if_pos h]

theorem asciiStandIn_of_digit {c : Char} {d : Nat} (hc : ¬c.toNat < 0x80)
    (hvalue : digitValue? c = some d) : isBlank c = false ∧ asciiStandIn c = digitChar d := by
  have hblank : isBlank c = false := by
    rw [← Bool.not_eq_true]
    intro h
    rw [digitValue?_of_isBlank hc h] at hvalue
    cases hvalue
  refine ⟨hblank, ?_⟩
  rw [asciiStandIn, if_neg hc, hblank, hvalue]
  rfl

theorem asciiStandIn_of_other {c : Char} (hc : ¬c.toNat < 0x80) (hblank : isBlank c = false)
    (hvalue : digitValue? c = none) : asciiStandIn c = '?' := by
  rw [asciiStandIn, if_neg hc, hblank, hvalue]
  rfl

theorem standsIn_asciiStandIn : StandsIn asciiStandIn anyNumerals asciiNumerals where
  value?_eq c := by
    show asciiNumerals.value? (asciiStandIn c) = digitValue? c
    by_cases hc : c.toNat < 0x80
    · rw [asciiStandIn_of_ascii hc, digitValue?_of_ascii hc]
    cases hvalue : digitValue? c with
    | some d =>
        rw [(asciiStandIn_of_digit hc hvalue).2, (digitChar_ascii (digitValue?_lt hvalue)).1]
    | none =>
        cases hblank : isBlank c with
        | true =>
            rw [asciiStandIn_of_isBlank hc hblank]
            rfl
        | false =>
            rw [asciiStandIn_of_other hc hblank hvalue]
            rfl
  blank_eq c := by
    show isAsciiSpace (asciiStandIn c) = if c.toNat < 0x80 then isAsciiSpace c else isBlank c
    by_cases hc : c.toNat < 0x80
    · rw [asciiStandIn_of_ascii hc, if_pos hc]
    rw [if_neg hc]
    cases hvalue : digitValue? c with
    | some d =>
        obtain ⟨hblank, hstand⟩ := asciiStandIn_of_digit hc hvalue
        rw [hstand, hblank, (digitChar_ascii (digitValue?_lt hvalue)).2.1]
    | none =>
        cases hblank : isBlank c with
        | true =>
            rw [asciiStandIn_of_isBlank hc hblank]
            rfl
        | false =>
            rw [asciiStandIn_of_other hc hblank hvalue]
            rfl
  eq_iff c x hx := by
    have hascii : x.toNat < 0x80 := by
      simp only [List.mem_cons, List.not_mem_nil, or_false] at hx
      rcases hx with rfl | rfl | rfl <;> decide
    by_cases hc : c.toNat < 0x80
    · rw [asciiStandIn_of_ascii hc]
    have hne : c ≠ x := fun heq => hc (heq ▸ hascii)
    have hstand : asciiStandIn c ∉ ['+', '-', '_'] := by
      cases hvalue : digitValue? c with
      | some d =>
          rw [(asciiStandIn_of_digit hc hvalue).2]
          exact (digitChar_ascii (digitValue?_lt hvalue)).2.2
      | none =>
          cases hblank : isBlank c with
          | true =>
              rw [asciiStandIn_of_isBlank hc hblank]
              decide
          | false =>
              rw [asciiStandIn_of_other hc hblank hvalue]
              decide
    exact ⟨fun heq => absurd (heq ▸ hx) hstand, fun heq => absurd heq hne⟩

/-- An ASCII text stands in for itself. -/
theorem readInt_eq (cs : List Char) : readInt cs = readAsciiInt (cs.map asciiStandIn) := by
  unfold readInt
  split
  · rename_i h
    have hstand : ∀ c ∈ cs, asciiStandIn c = id c := fun c hc =>
      asciiStandIn_of_ascii (by simpa using List.all_eq_true.mp h c hc)
    rw [List.map_congr_left hstand, List.map_id]
  · rfl

theorem readInt_of_writes {cs : List Char} {negative : Bool} {ds : List Nat}
    (h : anyNumerals.Writes cs negative ds) :
    readInt cs = if digitLimit < ds.length then .tooLong ds.length
      else .number (signed negative (ofDigits ds)) := by
  rw [readInt_eq]
  exact readAsciiInt_of_writes (standsIn_asciiStandIn.writes_map_iff.mpr h)

theorem writes_of_readInt {cs : List Char} {n : Int} (h : readInt cs = .number n) :
    ∃ negative ds, anyNumerals.Writes cs negative ds ∧ ds.length ≤ digitLimit ∧
      n = signed negative (ofDigits ds) := by
  rw [readInt_eq] at h
  obtain ⟨negative, ds, hwrites, hlength, hn⟩ := writes_of_readAsciiInt h
  exact ⟨negative, ds, standsIn_asciiStandIn.writes_map_iff.mp hwrites, hlength, hn⟩

theorem toExcept_eq_ok {reading : IntReading} {shown : String} {n : Int} :
    reading.toExcept shown = .ok n ↔ reading = .number n := by
  cases reading <;> simp [IntReading.toExcept]

theorem kind_of_toExcept {reading : IntReading} {shown : String} {f : Fault}
    (h : reading.toExcept shown = .error f) : f.kind = .badValue := by
  cases reading with
  | number m => cases h
  | tooLong digits =>
      cases h
      rfl
  | malformed =>
      cases h
      rfl

end StatementWalk.Number
