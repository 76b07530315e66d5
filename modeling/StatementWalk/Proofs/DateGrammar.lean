import StatementWalk.Proofs.DigitFields

/-!
# The grammar of standard dates

A date is written by month and day, or by week and perhaps the day of the week, with hyphens between
all of its fields or none. The reader accepts such a text only, and looks for the separator of a
time where the date ends.
-/

namespace StatementWalk.Calendar

open Text

def hyphen (separated : Bool) : List Char := if separated then ['-'] else []

/-- A text writes a date, by month and day or by week and perhaps the day of the week, with hyphens
between all of its fields or none. -/
inductive DateText (separated : Bool) : List Char → Nat × Nat × Nat → Prop where
  | day {year month day : Nat} {ys ms ds : List Char} (hy : Numeral 4 year ys)
      (hm : Numeral 2 month ms) (hd : Numeral 2 day ds) :
      DateText separated (ys ++ (hyphen separated ++ (ms ++ (hyphen separated ++ ds))))
        (year, month, day)
  | week {year week : Nat} {ys ws : List Char} {date : Nat × Nat × Nat} (hy : Numeral 4 year ys)
      (hw : Numeral 2 week ws) (hdate : ofWeek? year week 1 = some date) :
      DateText separated (ys ++ (hyphen separated ++ 'W' :: ws)) date
  | weekDay {year week day : Nat} {ys ws ds : List Char} {date : Nat × Nat × Nat}
      (hy : Numeral 4 year ys) (hw : Numeral 2 week ws) (hd : Numeral 1 day ds)
      (hdate : ofWeek? year week day = some date) :
      DateText separated (ys ++ (hyphen separated ++ 'W' :: (ws ++ (hyphen separated ++ ds)))) date

theorem DateText.length_bytesOf {separated : Bool} {front : List Char} {date : Nat × Nat × Nat}
    (h : DateText separated front date) : (bytesOf front).length = front.length := by
  have hnumeral {width n : Nat} {ds : List Char} (hd : Numeral width n ds) :
      ∀ c ∈ ds, c.toNat < 0x80 := fun c hc => ascii_of_isAsciiDigit (hd.digits c hc)
  have hhyphen : ∀ c ∈ hyphen separated, c.toNat < 0x80 := by cases separated <;> simp [hyphen]
  have hmark : 'W'.toNat < 0x80 := by decide
  apply Calendar.length_bytesOf
  cases h with
  | day hy hm hd =>
      simp only [List.forall_mem_append]
      exact ⟨hnumeral hy, hhyphen, hnumeral hm, hhyphen, hnumeral hd⟩
  | week hy hw hdate =>
      simp only [List.forall_mem_append, List.forall_mem_cons]
      exact ⟨hnumeral hy, hhyphen, hmark, hnumeral hw⟩
  | weekDay hy hw hd hdate =>
      simp only [List.forall_mem_append, List.forall_mem_cons]
      exact ⟨hnumeral hy, hhyphen, hmark, hnumeral hw, hhyphen, hnumeral hd⟩

theorem dropSeparator?_eq_some {separated : Bool} {cs : List Char} {rest : Bytes}
    (h : dropSeparator? separated (bytesOf cs) = some rest) :
    ∃ more, cs = hyphen separated ++ more ∧ rest = bytesOf more := by
  cases separated with
  | false =>
      cases h
      exact ⟨cs, rfl, rfl⟩
  | true =>
      simp only [dropSeparator?, if_true] at h
      unfold dropHyphen? at h
      split at h
      · rename_i hbytes
        have hhyphen : '-'.toNat < 0x80 := by decide
        obtain ⟨more, rfl, rfl⟩ := eq_cons_of_bytesOf hhyphen hbytes
        obtain rfl := Option.some.inj h
        exact ⟨more, rfl, rfl⟩
      · cases h

theorem exists_of_head? {cs : List Char} {c : Char} (hc : c.toNat < 0x80)
    (h : ((bytesOf cs).head? == some (UInt8.ofNat c.toNat)) = true) : ∃ more, cs = c :: more := by
  obtain ⟨rest, hbytes⟩ := List.head?_eq_some_iff.mp (eq_of_beq h)
  obtain ⟨more, hmore, -⟩ := eq_cons_of_bytesOf hc hbytes
  exact ⟨more, hmore⟩

/-- The hyphen behind the year, if there is one, and what follows it. -/
theorem exists_hyphen (cs : List Char) :
    ∃ separated more, ((bytesOf cs).head? == some 45) = separated ∧ cs = hyphen separated ++ more ∧
      (if separated then (bytesOf cs).drop 1 else bytesOf cs) = bytesOf more := by
  cases hhead : (bytesOf cs).head? == some 45 with
  | true =>
      have hhyphen : '-'.toNat < 0x80 := by decide
      obtain ⟨more, rfl⟩ := exists_of_head? hhyphen hhead
      exact ⟨true, more, rfl, rfl, rfl⟩
  | false => exact ⟨false, cs, rfl, rfl, rfl⟩

theorem length_hyphen (separated : Bool) :
    (hyphen separated).length = (if separated then 1 else 0) ∧
      (bytesOf (hyphen separated)).length = if separated then 1 else 0 := by
  cases separated <;> exact ⟨rfl, rfl⟩

theorem length_bytesOf_week (cs : List Char) :
    (bytesOf ('W' :: cs)).length = (bytesOf cs).length + 1 := rfl

theorem takeWeekDay_eq_some {width : Nat} {separated : Bool} {bs : Bytes}
    {cs : List Char} {day : Nat} (h : takeWeekDay width separated bs (bytesOf cs) = some day) :
    (bs.length - (bytesOf cs).length < width ∧
        ∃ ds more, cs = hyphen separated ++ (ds ++ more) ∧ Numeral 1 day ds) ∨
      (¬bs.length - (bytesOf cs).length < width ∧ day = 1) := by
  unfold takeWeekDay at h
  split at h
  · rename_i hshort
    obtain ⟨rest, hrest, h⟩ := Option.bind_eq_some_iff.mp h
    obtain ⟨more, rfl, rfl⟩ := dropSeparator?_eq_some hrest
    obtain ⟨⟨n, rest⟩, hnumber, hn⟩ := Option.bind_eq_some_iff.mp h
    obtain ⟨ds, more, rfl, hd, -⟩ := takeNumber_eq_some.mp hnumber
    obtain rfl : n = day := Option.some.inj hn
    exact .inl ⟨hshort, ds, more, rfl, hd⟩
  · rename_i hlong
    exact .inr ⟨hlong, (Option.some.inj h).symm⟩

theorem getElem?_bytesOf {year : Nat} {ys : List Char} (hy : Numeral 4 year ys) (more : List Char)
    (i : Nat) : (bytesOf (ys ++ more))[4 + i]? = (bytesOf more)[i]? := by
  rw [bytesOf_append, List.getElem?_append_right (by simp [hy.length_bytesOf]), hy.length_bytesOf,
    Nat.add_sub_cancel_left]

/-- A field begins with the byte of a digit, which separates nothing. -/
theorem exists_digit_getElem? {width n : Nat} {ds : List Char} (h : Numeral (width + 1) n ds)
    (more : List Char) : ∃ b, (bytesOf (ds ++ more))[0]? = some b ∧ b ≠ 45 ∧ b ≠ 87 := by
  cases ds with
  | nil => cases h.length_eq
  | cons d ds =>
      have hd := h.digits d List.mem_cons_self
      have hbyte := isDigitByte_alike.ascii d (ascii_of_isAsciiDigit hd)
      rw [hd] at hbyte
      rw [List.cons_append, bytesOf_ascii (ascii_of_isAsciiDigit hd)]
      refine ⟨_, rfl, ?_, ?_⟩ <;> rintro heq <;> rw [heq] at hbyte <;> cases hbyte

section Separator

variable {bs : Bytes} {b : UInt8} {pos : Nat}

theorem separatorAt?_separated (hlength : bs.length ≠ 7) (hfour : bs[4]? = some 45)
    (hfive : bs[5]? = some b) (hb : b ≠ 87) : separatorAt? bs = some 10 := by
  simp [separatorAt?, hlength, hfour, hfive, hb]

theorem separatorAt?_compact (hlength : bs.length ≠ 7) (hfour : bs[4]? = some b) (hb : b ≠ 45)
    (hweek : b ≠ 87) : separatorAt? bs = some 8 := by
  simp [separatorAt?, hlength, hfour, hb, hweek]

theorem separatorAt?_separatedWeek (hlength : bs.length ≠ 7) (hfour : bs[4]? = some 45)
    (hfive : bs[5]? = some 87) (h : separatorAt? bs = some pos) : pos = 8 ∨ pos = 10 := by
  simp only [separatorAt?, List.getD_eq_getElem?_getD, hlength, hfour, hfive] at h
  repeat' split at h
  all_goals simp_all

theorem separatorAt?_compactWeek (hfour : bs[4]? = some 87) (h : separatorAt? bs = some pos) :
    pos = 7 ∨ pos = 8 := by
  simp only [separatorAt?, List.getD_eq_getElem?_getD, hfour] at h
  repeat' split at h
  all_goals simp_all
  all_goals omega

end Separator

/-- A date by month and day ends where it is written to its end. -/
theorem separatorAt?_day {separated : Bool} {year month n : Nat} {ys ms ds : List Char}
    (hy : Numeral 4 year ys) (hm : Numeral 2 month ms) (hd : Numeral 2 n ds) (rest : List Char) :
    separatorAt? (bytesOf (ys ++ (hyphen separated ++
      (ms ++ (hyphen separated ++ (ds ++ rest)))))) =
      some (if separated then 10 else 8) := by
  generalize hmore : hyphen separated ++ (ds ++ rest) = more
  obtain ⟨b, hb, hhyphen, hweek⟩ := exists_digit_getElem? hm more
  have hlength : (bytesOf (ys ++ (hyphen separated ++ (ms ++ more)))).length ≠ 7 := by
    rw [← hmore]
    simp only [bytesOf_append, List.length_append, hy.length_bytesOf, hm.length_bytesOf,
      hd.length_bytesOf]
    omega
  cases separated with
  | true =>
      have hfour := getElem?_bytesOf hy ('-' :: (ms ++ more)) 0
      have hfive := getElem?_bytesOf hy ('-' :: (ms ++ more)) 1
      exact separatorAt?_separated hlength hfour (hfive.trans hb) hweek
  | false =>
      have hfour := getElem?_bytesOf hy (ms ++ more) 0
      exact separatorAt?_compact hlength (hfour.trans hb) hhyphen hweek

theorem separatorAt?_week {separated : Bool} {year week pos : Nat} {ys ws : List Char}
    (hy : Numeral 4 year ys) (hw : Numeral 2 week ws) (rest : List Char)
    (h : separatorAt? (bytesOf (ys ++ (hyphen separated ++ 'W' :: (ws ++ rest)))) = some pos) :
    pos = (if separated then 8 else 7) ∨ pos = (if separated then 10 else 8) := by
  cases separated with
  | true =>
      have hfour := getElem?_bytesOf hy ('-' :: 'W' :: (ws ++ rest)) 0
      have hfive := getElem?_bytesOf hy ('-' :: 'W' :: (ws ++ rest)) 1
      have hlength : (bytesOf (ys ++ (hyphen true ++ 'W' :: (ws ++ rest)))).length ≠ 7 := by
        simp only [bytesOf_append, List.length_append, length_bytesOf_week, length_hyphen, if_true,
          hy.length_bytesOf, hw.length_bytesOf]
        omega
      exact separatorAt?_separatedWeek hlength hfour hfive h
  | false =>
      have hfour := getElem?_bytesOf hy ('W' :: (ws ++ rest)) 0
      exact separatorAt?_compactWeek hfour h

theorem dropSeparator?_hyphen (separated : Bool) (cs : List Char) :
    dropSeparator? separated (bytesOf (hyphen separated ++ cs)) = some (bytesOf cs) := by
  cases separated <;> rfl

theorem dateFields?_day {separated : Bool} {year month day : Nat} {ys ms ds : List Char}
    (hy : Numeral 4 year ys) (hm : Numeral 2 month ms) (hd : Numeral 2 day ds) (width : Nat)
    (rest : List Char) :
    dateFields? width (bytesOf (ys ++
      (hyphen separated ++ (ms ++ (hyphen separated ++ (ds ++ rest)))))) =
      some (year, month, day) := by
  generalize hmore : hyphen separated ++ (ds ++ rest) = more
  obtain ⟨b, hb, hhyphen, hweek⟩ := exists_digit_getElem? hm more
  rw [← List.head?_eq_getElem?] at hb
  have hmark : ((bytesOf (hyphen separated ++ (ms ++ more))).head? == some 45) = separated := by
    cases separated with
    | true => rfl
    | false =>
        rw [hyphen, if_neg Bool.false_ne_true, List.nil_append, hb]
        simpa using hhyphen
  have hbehind : (if separated then (bytesOf (hyphen separated ++ (ms ++ more))).drop 1
      else bytesOf (hyphen separated ++ (ms ++ more))) = bytesOf (ms ++ more) := by
    cases separated <;> rfl
  have hday : ((bytesOf (ms ++ more)).head? == some 87) = false := by
    rw [hb]
    simpa using hweek
  unfold dateFields?
  rw [takeNumber_numeral hy, Option.bind_eq_bind, Option.bind_some]
  dsimp only
  rw [hmark, hbehind, hday, if_neg Bool.false_ne_true, takeNumber_numeral hm, ← hmore,
    Option.bind_eq_bind, Option.bind_some]
  dsimp only
  rw [dropSeparator?_hyphen, Option.bind_some, takeNumber_numeral hd]
  rfl

theorem exists_digit_of_dateFields? {width : Nat} {cs : List Char} {date : Nat × Nat × Nat}
    (h : dateFields? width (bytesOf cs) = some date) :
    ∃ d more, cs = d :: more ∧ isAsciiDigit d = true := by
  obtain ⟨⟨year, rest⟩, hyear, -⟩ := Option.bind_eq_some_iff.mp h
  obtain ⟨ys, more, rfl, hy, -⟩ := takeNumber_eq_some.mp hyear
  obtain ⟨d, ds, rfl⟩ := List.exists_cons_of_ne_nil (List.ne_nil_of_length_eq_add_one hy.length_eq)
  exact ⟨d, _, rfl, hy.digits d List.mem_cons_self⟩

/-- The day behind a week without hyphens is read as long as the date goes on behind the week. -/
theorem dateFields?_compactWeek {year week width : Nat} {ys ws : List Char} (hy : Numeral 4 year ys)
    (hw : Numeral 2 week ws) (hwidth : 7 < width) (rest : List Char) :
    dateFields? width (bytesOf (ys ++ 'W' :: (ws ++ rest))) =
      (takeNumber 1 (bytesOf rest)).bind fun (day, _) => ofWeek? year week day := by
  have hweek : takeNumber 2 ((bytesOf ('W' :: (ws ++ rest))).drop 1) = some (week, bytesOf rest) :=
    takeNumber_numeral hw rest
  have hlength : (bytesOf (ys ++ 'W' :: (ws ++ rest))).length - (bytesOf rest).length < width := by
    simp only [bytesOf_append, List.length_append, length_bytesOf_week, hy.length_bytesOf,
      hw.length_bytesOf]
    omega
  have hday : takeWeekDay width false (bytesOf (ys ++ 'W' :: (ws ++ rest))) (bytesOf rest) =
      (takeNumber 1 (bytesOf rest)).bind fun (day, _) => some day := by
    rw [takeWeekDay, if_pos hlength]
    rfl
  have hnohyphen : ((bytesOf ('W' :: (ws ++ rest))).head? == some 45) = false := rfl
  have hmark : ((bytesOf ('W' :: (ws ++ rest))).head? == some 87) = true := rfl
  unfold dateFields?
  rw [takeNumber_numeral hy, Option.bind_eq_bind, Option.bind_some]
  dsimp only
  rw [hnohyphen, if_neg Bool.false_ne_true, if_pos hmark, hweek, Option.bind_eq_bind,
    Option.bind_some]
  dsimp only
  rw [hday]
  cases takeNumber 1 (bytesOf rest) <;> rfl

/-- What is read as a date is the text of one, and the separator is looked for where it ends. -/
theorem dateText_of_dateFields? {width : Nat} {cs : List Char} {date : Nat × Nat × Nat}
    (h : dateFields? width (bytesOf cs) = some date)
    (hwidth : separatorAt? (bytesOf cs) = some width) :
    ∃ separated front rest, cs = front ++ rest ∧ DateText separated front date ∧
      front.length = width := by
  unfold dateFields? at h
  obtain ⟨⟨year, rest⟩, hyear, h⟩ := Option.bind_eq_some_iff.mp h
  obtain ⟨ys, cs, rfl, hy, rfl⟩ := takeNumber_eq_some.mp hyear
  obtain ⟨separated, more, hseparated, rfl, hmore⟩ := exists_hyphen cs
  dsimp only at h
  rw [hseparated, hmore] at h
  split at h
  · rename_i hweek
    have hmark : 'W'.toNat < 0x80 := by decide
    obtain ⟨more, rfl⟩ := exists_of_head? hmark hweek
    obtain ⟨⟨week, rest⟩, hnumber, h⟩ := Option.bind_eq_some_iff.mp h
    obtain ⟨ws, more, rfl, hw, rfl⟩ := takeNumber_eq_some.mp hnumber
    obtain ⟨day, hday, hdate⟩ := Option.bind_eq_some_iff.mp h
    have hends := separatorAt?_week hy hw more hwidth
    have hread : (bytesOf (ys ++ (hyphen separated ++ 'W' :: (ws ++ more)))).length -
        (bytesOf more).length = if separated then 8 else 7 := by
      simp only [bytesOf_append, List.length_append, length_bytesOf_week, length_hyphen,
        hy.length_bytesOf, hw.length_bytesOf]
      split <;> omega
    rcases takeWeekDay_eq_some hday with ⟨hshort, ds, more, rfl, hd⟩ | ⟨hlong, rfl⟩
    · refine ⟨separated, _, more, ?_, .weekDay hy hw hd hdate, ?_⟩
      · simp
      · simp only [List.length_append, List.length_cons, length_hyphen, hy.length_eq, hw.length_eq,
          hd.length_eq]
        cases separated <;> simp at hends hread hshort ⊢ <;> omega
    · refine ⟨separated, _, more, ?_, .week hy hw hdate, ?_⟩
      · simp
      · simp only [List.length_append, List.length_cons, length_hyphen, hy.length_eq, hw.length_eq]
        cases separated <;> simp at hends hread hlong ⊢ <;> omega
  · obtain ⟨⟨month, rest⟩, hnumber, h⟩ := Option.bind_eq_some_iff.mp h
    obtain ⟨ms, more, rfl, hm, rfl⟩ := takeNumber_eq_some.mp hnumber
    obtain ⟨rest, hrest, h⟩ := Option.bind_eq_some_iff.mp h
    obtain ⟨more, rfl, rfl⟩ := dropSeparator?_eq_some hrest
    obtain ⟨⟨day, rest⟩, hnumber, hdate⟩ := Option.bind_eq_some_iff.mp h
    obtain ⟨ds, more, rfl, hd, rfl⟩ := takeNumber_eq_some.mp hnumber
    obtain rfl : (year, month, day) = date := Option.some.inj hdate
    refine ⟨separated, _, more, ?_, .day hy hm hd, ?_⟩
    · simp
    · rw [separatorAt?_day hy hm hd more] at hwidth
      simp only [List.length_append, length_hyphen, hy.length_eq, hm.length_eq, hd.length_eq,
        ← Option.some.inj hwidth]
      split <;> rfl

end StatementWalk.Calendar
