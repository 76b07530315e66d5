import StatementWalk.Fault
import StatementWalk.Text.Utf8

/-!
# Texts in UTF-8

The reader of UTF-8 accepts exactly the bytes that some text is written as, and gives that text. One
direction follows the bytes of a character as they are read, the other keeps what was read of a
character that is not complete.
-/

namespace StatementWalk.Text

section CharBytes

variable {c : Char}

theorem encodeChar_one (h : c.toNat < 0x80) : encodeChar c = [UInt8.ofNat c.toNat] := if_pos h

theorem encodeChar_two (hlow : 0x80 ≤ c.toNat) (hhigh : c.toNat < 0x800) :
    encodeChar c = [UInt8.ofNat (0xC0 + c.toNat / 64), UInt8.ofNat (0x80 + c.toNat % 64)] := by
  have hone : ¬c.toNat < 0x80 := Nat.not_lt.mpr hlow
  simp [encodeChar, hone, hhigh, Nat.pow]

theorem encodeChar_three (hlow : 0x800 ≤ c.toNat) (hhigh : c.toNat < 0x10000) :
    encodeChar c =
      [UInt8.ofNat (0xE0 + c.toNat / 4096), UInt8.ofNat (0x80 + c.toNat / 64 % 64),
        UInt8.ofNat (0x80 + c.toNat % 64)] := by
  have hone : ¬c.toNat < 0x80 := by omega
  have htwo : ¬c.toNat < 0x800 := Nat.not_lt.mpr hlow
  simp [encodeChar, hone, htwo, hhigh, Nat.pow]

theorem encodeChar_four (hlow : 0x10000 ≤ c.toNat) :
    encodeChar c =
      [UInt8.ofNat (0xF0 + c.toNat / 262144), UInt8.ofNat (0x80 + c.toNat / 4096 % 64),
        UInt8.ofNat (0x80 + c.toNat / 64 % 64), UInt8.ofNat (0x80 + c.toNat % 64)] := by
  have hone : ¬c.toNat < 0x80 := by omega
  have htwo : ¬c.toNat < 0x800 := by omega
  have hthree : ¬c.toNat < 0x10000 := Nat.not_lt.mpr hlow
  simp [encodeChar, hone, htwo, hthree, Nat.pow]

end CharBytes

theorem toNat_ofNat_byte {n : Nat} (h : n < 0x100) : (UInt8.ofNat n).toNat = n := by
  rw [UInt8.toNat_ofNat']
  exact Nat.mod_eq_of_lt h

section Tail

variable {start pos value low high x : Nat} {lead : UInt8} (hx : x < 64) (hlow : low ≤ 0x80 + x)
  (hhigh : 0x80 + x ≤ high) (rest : Bytes)
include hx hlow hhigh

theorem decodeFrom_tail (missing : Nat) :
    decodeFrom pos (some ⟨start, lead, value, missing, low, high⟩)
      (UInt8.ofNat (0x80 + x) :: rest) =
      if missing ≤ 1 then (decodeFrom (pos + 1) none rest).map (Char.ofNat (value * 64 + x) :: ·)
      else
        decodeFrom (pos + 1) (some ⟨start, lead, value * 64 + x, missing - 1, 0x80, 0xBF⟩)
          rest := by
  have hbyte := toNat_ofNat_byte (show 0x80 + x < 0x100 by omega)
  have hbounds : low ≤ (UInt8.ofNat (0x80 + x)).toNat ∧ (UInt8.ofNat (0x80 + x)).toNat ≤ high := by
    rw [hbyte]
    exact ⟨hlow, hhigh⟩
  rw [decodeFrom, decide_eq_true hbounds, hbyte, Nat.add_sub_cancel_left]
  rfl

theorem decodeFrom_last :
    decodeFrom pos (some ⟨start, lead, value, 1, low, high⟩) (UInt8.ofNat (0x80 + x) :: rest) =
      (decodeFrom (pos + 1) none rest).map (Char.ofNat (value * 64 + x) :: ·) :=
  (decodeFrom_tail hx hlow hhigh rest 1).trans (if_pos (Nat.le_refl 1))

theorem decodeFrom_more (missing : Nat) :
    decodeFrom pos (some ⟨start, lead, value, missing + 2, low, high⟩)
        (UInt8.ofNat (0x80 + x) :: rest) =
      decodeFrom (pos + 1) (some ⟨start, lead, value * 64 + x, missing + 1, 0x80, 0xBF⟩) rest :=
  (decodeFrom_tail hx hlow hhigh rest _).trans (if_neg (by omega))

end Tail

theorem decodeFrom_lead {n : Nat} (hlow : 0x80 ≤ n) (hhigh : n < 0x100) {pos : Nat} {p : Partial}
    (hp : beginChar? pos (UInt8.ofNat n) = some p) (rest : Bytes) :
    decodeFrom pos none (UInt8.ofNat n :: rest) = decodeFrom (pos + 1) (some p) rest := by
  have hbyte : ¬(UInt8.ofNat n).toNat < 0x80 := by
    rw [toNat_ofNat_byte hhigh]
    exact Nat.not_lt.mpr hlow
  rw [decodeFrom, if_neg hbyte, hp]

theorem beginChar?_two (pos : Nat) {x : Nat} (hlow : 2 ≤ x) (hhigh : x < 0x20) :
    beginChar? pos (UInt8.ofNat (0xC0 + x)) =
      some ⟨pos, UInt8.ofNat (0xC0 + x), x, 1, 0x80, 0xBF⟩ := by
  simp only [beginChar?, toNat_ofNat_byte (show 0xC0 + x < 0x100 by omega)]
  rw [if_neg (by omega), if_pos (by omega), Nat.add_sub_cancel_left]

theorem beginChar?_three (pos : Nat) {x : Nat} (hhigh : x < 0x10) :
    beginChar? pos (UInt8.ofNat (0xE0 + x)) =
      some ⟨pos, UInt8.ofNat (0xE0 + x), x, 2, if x = 0 then 0xA0 else 0x80,
        if x = 0xD then 0x9F else 0xBF⟩ := by
  simp only [beginChar?, toNat_ofNat_byte (show 0xE0 + x < 0x100 by omega)]
  rw [if_neg (by omega), if_neg (by omega), if_pos (by omega), Nat.add_sub_cancel_left]
  simp [show 0xE0 + x = 0xED ↔ x = 0xD by omega]

theorem beginChar?_four (pos : Nat) {x : Nat} (hhigh : x < 5) :
    beginChar? pos (UInt8.ofNat (0xF0 + x)) =
      some ⟨pos, UInt8.ofNat (0xF0 + x), x, 3, if x = 0 then 0x90 else 0x80,
        if x = 4 then 0x8F else 0xBF⟩ := by
  simp only [beginChar?, toNat_ofNat_byte (show 0xF0 + x < 0x100 by omega)]
  rw [if_neg (by omega), if_neg (by omega), if_neg (by omega), if_pos (by omega),
    Nat.add_sub_cancel_left]
  simp [show 0xF0 + x = 0xF4 ↔ x = 4 by omega]

/-- The bytes of a character are read as this character. -/
theorem decodeFrom_encodeChar (c : Char) (pos : Nat) (rest : Bytes) :
    decodeFrom pos none (encodeChar c ++ rest) =
      (decodeFrom (pos + (encodeChar c).length) none rest).map (c :: ·) := by
  have hvalid : c.toNat < 0xD800 ∨ 0xDFFF < c.toNat ∧ c.toNat < 0x110000 := c.valid
  rcases Nat.lt_or_ge c.toNat 0x80 with hone | hone
  · have hbyte := toNat_ofNat_byte (show c.toNat < 0x100 by omega)
    rw [encodeChar_one hone, List.singleton_append, decodeFrom, hbyte, if_pos hone,
      Char.ofNat_toNat]
    rfl
  rcases Nat.lt_or_ge c.toNat 0x800 with htwo | htwo
  · have hlead := beginChar?_two pos (x := c.toNat / 64) (by omega) (by omega)
    have hvalue : c.toNat / 64 * 64 + c.toNat % 64 = c.toNat := by omega
    rw [encodeChar_two hone htwo, List.cons_append, decodeFrom_lead (by omega) (by omega) hlead,
      List.singleton_append, decodeFrom_last (by omega) (by omega) (by omega), hvalue,
      Char.ofNat_toNat]
    rfl
  rcases Nat.lt_or_ge c.toNat 0x10000 with hthree | hthree
  · have hlead := beginChar?_three pos (x := c.toNat / 4096) (by omega)
    have hvalue : (c.toNat / 4096 * 64 + c.toNat / 64 % 64) * 64 + c.toNat % 64 = c.toNat := by
      omega
    rw [encodeChar_three htwo hthree, List.cons_append, decodeFrom_lead (by omega) (by omega) hlead,
      List.cons_append, decodeFrom_more (by omega) (by split <;> omega) (by split <;> omega),
      List.singleton_append, decodeFrom_last (by omega) (by omega) (by omega), hvalue,
      Char.ofNat_toNat]
    rfl
  · have hlead := beginChar?_four pos (x := c.toNat / 262144) (by omega)
    have hvalue : ((c.toNat / 262144 * 64 + c.toNat / 4096 % 64) * 64 + c.toNat / 64 % 64) * 64 +
        c.toNat % 64 = c.toNat := by omega
    rw [encodeChar_four hthree, List.cons_append, decodeFrom_lead (by omega) (by omega) hlead,
      List.cons_append, decodeFrom_more (by omega) (by split <;> omega) (by split <;> omega),
      List.cons_append, decodeFrom_more (by omega) (by omega) (by omega),
      List.singleton_append, decodeFrom_last (by omega) (by omega) (by omega), hvalue,
      Char.ofNat_toNat]
    rfl

theorem decodeFrom_flatMap (cs : List Char) (pos : Nat) :
    decodeFrom pos none (cs.flatMap encodeChar) = .ok cs := by
  induction cs generalizing pos with
  | nil => rfl
  | cons c cs ih =>
      rw [List.flatMap_cons, decodeFrom_encodeChar, ih]
      rfl

theorem toNat_ofNat_char {n : Nat} (h : n < 0xD800 ∨ 0xDFFF < n ∧ n < 0x110000) :
    (Char.ofNat n).toNat = n := by
  have hvalid : n.isValidChar := h
  rw [Char.ofNat, dif_pos hvalid]
  rfl

/-- A lead byte says how many bytes follow, and within which bounds the next one lies. -/
inductive Leads (b : UInt8) : Partial → Prop where
  | two {start x : Nat} (hx : 2 ≤ x) (hx' : x < 0x20) (hb : b.toNat = 0xC0 + x) :
      Leads b ⟨start, b, x, 1, 0x80, 0xBF⟩
  | three {start x low high : Nat} (hx : x < 0x10) (hb : b.toNat = 0xE0 + x) (hlow : 0x80 ≤ low)
      (hlong : x = 0 → 0xA0 ≤ low) (hhigh : high ≤ 0xBF) (hsurrogate : x = 0xD → high ≤ 0x9F) :
      Leads b ⟨start, b, x, 2, low, high⟩
  | four {start x low high : Nat} (hx : x < 5) (hb : b.toNat = 0xF0 + x) (hlow : 0x80 ≤ low)
      (hlong : x = 0 → 0x90 ≤ low) (hhigh : high ≤ 0xBF) (hlast : x = 4 → high ≤ 0x8F) :
      Leads b ⟨start, b, x, 3, low, high⟩

theorem leads_of_beginChar? {pos : Nat} {b : UInt8} {p : Partial} (h : beginChar? pos b = some p) :
    Leads b p := by
  have hb : UInt8.ofNat b.toNat = b := UInt8.ofNat_toNat
  rcases Nat.lt_or_ge b.toNat 0xC2 with htail | htwo
  · simp [beginChar?, htail] at h
  rcases Nat.lt_or_ge b.toNat 0xE0 with hthree | hthree
  · have hbegin := beginChar?_two pos (x := b.toNat - 0xC0) (by omega) (by omega)
    rw [show 0xC0 + (b.toNat - 0xC0) = b.toNat by omega, hb] at hbegin
    obtain rfl := Option.some.inj (h.symm.trans hbegin)
    exact .two (by omega) (by omega) (by omega)
  rcases Nat.lt_or_ge b.toNat 0xF0 with hfour | hfour
  · have hbegin := beginChar?_three pos (x := b.toNat - 0xE0) (by omega)
    rw [show 0xE0 + (b.toNat - 0xE0) = b.toNat by omega, hb] at hbegin
    obtain rfl := Option.some.inj (h.symm.trans hbegin)
    exact .three (by omega) (by omega) (by split <;> omega)
      (fun hx => Nat.le_of_eq (if_pos hx).symm)
      (by split <;> omega) (fun hx => Nat.le_of_eq (if_pos hx))
  rcases Nat.lt_or_ge b.toNat 0xF5 with hpast | hpast
  · have hbegin := beginChar?_four pos (x := b.toNat - 0xF0) (by omega)
    rw [show 0xF0 + (b.toNat - 0xF0) = b.toNat by omega, hb] at hbegin
    obtain rfl := Option.some.inj (h.symm.trans hbegin)
    exact .four (by omega) (by omega) (by split <;> omega) (fun hx => Nat.le_of_eq (if_pos hx).symm)
      (by split <;> omega) (fun hx => Nat.le_of_eq (if_pos hx))
  · simp [beginChar?, Nat.not_lt.mpr htwo, Nat.not_lt.mpr hthree, Nat.not_lt.mpr hfour,
      Nat.not_lt.mpr hpast] at h

/-- What was read of a character that is not complete: its first bytes. -/
inductive Begun : Partial → Bytes → Prop where
  | lead {b : UInt8} {p : Partial} (h : Leads b p) : Begun p [b]
  | more {start value missing low high : Nat} {lead : UInt8} {seen : Bytes} (b : UInt8)
      (h : Begun ⟨start, lead, value, missing + 2, low, high⟩ seen) (hlow : low ≤ b.toNat)
      (hhigh : b.toNat ≤ high) :
      Begun ⟨start, lead, value * 64 + (b.toNat - 0x80), missing + 1, 0x80, 0xBF⟩ (seen ++ [b])

theorem Begun.missing_bounds {p : Partial} {seen : Bytes} (h : Begun p seen) :
    1 ≤ p.missing ∧ p.missing ≤ 3 := by
  induction h with
  | lead h => cases h <;> simp
  | more b h hlow hhigh ih =>
      dsimp only at ih ⊢
      omega

theorem ofNat_byte {b : UInt8} {n : Nat} (h : n = b.toNat) : UInt8.ofNat n = b := by
  rw [h, UInt8.ofNat_toNat]

/-- A character is complete once the last of its bytes is read. -/
theorem encodeChar_of_begun {start value low high : Nat} {lead b : UInt8} {seen : Bytes}
    (h : Begun ⟨start, lead, value, 1, low, high⟩ seen) (hlow : low ≤ b.toNat)
    (hhigh : b.toNat ≤ high) :
    encodeChar (Char.ofNat (value * 64 + (b.toNat - 0x80))) = seen ++ [b] := by
  generalize hn : value * 64 + (b.toNat - 0x80) = n
  cases h with
  | lead h =>
      cases h with
      | two hx hx' hb =>
          have htoNat := toNat_ofNat_char (n := n) (by omega)
          rw [encodeChar_two (by omega) (by omega), htoNat, ofNat_byte (b := lead) (by omega),
            ofNat_byte (b := b) (by omega)]
          rfl
  | more before h hlow' hhigh' =>
      cases h with
      | lead h =>
          cases h with
          | three hx hb =>
              have htoNat := toNat_ofNat_char (n := n) (by omega)
              rw [encodeChar_three (by omega) (by omega), htoNat, ofNat_byte (b := lead) (by omega),
                ofNat_byte (b := before) (by omega), ofNat_byte (b := b) (by omega)]
              rfl
      | more second h hlow'' hhigh'' =>
          cases h with
          | lead h =>
              cases h with
              | four hx hb =>
                  have htoNat := toNat_ofNat_char (n := n) (by omega)
                  rw [encodeChar_four (by omega), htoNat, ofNat_byte (b := lead) (by omega),
                    ofNat_byte (b := second) (by omega), ofNat_byte (b := before) (by omega),
                    ofNat_byte (b := b) (by omega)]
                  rfl
          | more third h => exact absurd h.missing_bounds.2 (by simp)

/-- What is read are the characters of the bytes, those of a character that was begun included. -/
theorem flatMap_of_decodeFrom (bs : Bytes) : ∀ pos cs,
    (decodeFrom pos none bs = .ok cs → cs.flatMap encodeChar = bs) ∧
      ∀ p seen, Begun p seen → decodeFrom pos (some p) bs = .ok cs →
        cs.flatMap encodeChar = seen ++ bs := by
  induction bs with
  | nil =>
      intro pos cs
      constructor
      · intro h
        cases h
        rfl
      · intro p seen _ h
        cases h
  | cons b rest ih =>
      intro pos cs
      constructor
      · intro h
        rw [decodeFrom] at h
        split at h
        · rename_i hascii
          obtain ⟨more, hmore, rfl⟩ := except_map_eq_ok.mp h
          have htoNat := toNat_ofNat_char (n := b.toNat) (by omega)
          rw [List.flatMap_cons, encodeChar_one (by omega), htoNat, UInt8.ofNat_toNat,
            (ih _ _).1 hmore]
          rfl
        · split at h
          · cases h
          · rename_i p hp
            exact (ih _ _).2 p [b] (.lead (leads_of_beginChar? hp)) h
      · rintro ⟨start, lead, value, missing, low, high⟩ seen hbegun h
        rw [decodeFrom] at h
        split at h
        · rename_i hbounds
          obtain ⟨hlow, hhigh⟩ := of_decide_eq_true hbounds
          match missing, hbegun with
          | 0, hbegun => exact absurd hbegun.missing_bounds.1 (by simp)
          | 1, hbegun =>
              obtain ⟨more, hmore, rfl⟩ := except_map_eq_ok.mp h
              rw [List.flatMap_cons, encodeChar_of_begun hbegun hlow hhigh, (ih _ _).1 hmore,
                List.append_assoc, List.singleton_append]
          | missing + 2, hbegun =>
              have hmore := (ih _ _).2 _ _ (hbegun.more b hlow hhigh) h
              rw [hmore, List.append_assoc, List.singleton_append]
        · cases h

/-- Bytes are read as a text if and only if the text is written as these bytes. -/
theorem decodeUtf8_eq_ok {bs : Bytes} {s : String} : decodeUtf8 bs = .ok s ↔ encodeUtf8 s = bs := by
  constructor
  · intro h
    obtain ⟨cs, hcs, rfl⟩ := except_map_eq_ok.mp h
    have hbytes := (flatMap_of_decodeFrom bs 0 cs).1 hcs
    rw [encodeUtf8, String.toList_ofList, hbytes]
  · rintro rfl
    rw [decodeUtf8, encodeUtf8, decodeFrom_flatMap]
    exact congrArg Except.ok String.ofList_toList

end StatementWalk.Text
