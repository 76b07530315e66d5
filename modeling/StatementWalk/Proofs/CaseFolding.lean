import Mathlib.Data.List.Basic
import Mathlib.Data.List.Chain
import StatementWalk.Proofs.Utf8Text
import StatementWalk.Text.Case

/-!
# Case mappings and folding

Texts are compared after folding. Folding a text gives the same whether it was brought to lower case
before or not, and also whether it was brought to upper case, with one exception: the dotless i has
the capital letter of the dotted one. The tables are compared run by run: the entries of the folding
that reach into a run and into its image are looked up once, and then they are all that is searched
for each character of it.
-/

namespace StatementWalk.Text

/-- The entries that reach into the stretch from `lo` to `hi`. They are in order, so the search ends
with the first one that begins behind it. -/
def between {α : Type} (first last : α → Nat) (lo hi : Nat) : List α → List α
  | [] => []
  | a :: rest =>
    bif Nat.ble lo (last a) then
      bif Nat.ble (first a) hi then a :: between first last lo hi rest else []
    else between first last lo hi rest

theorem find?_between {α : Type} {first last : α → Nat} {lo hi n : Nat} {p : α → Bool} {xs : List α}
    (h : xs.Pairwise fun a b => first a ≤ first b) (hp : ∀ a, p a = true → first a ≤ n ∧ n ≤ last a)
    (hlo : lo ≤ n) (hhi : n ≤ hi) : (between first last lo hi xs).find? p = xs.find? p := by
  induction xs with
  | nil => rfl
  | cons a rest ih =>
      obtain ⟨hfirst, hrest⟩ := List.pairwise_cons.mp h
      rw [between]
      cases hlast : Nat.ble lo (last a) with
      | false =>
          have hpa : ¬p a = true := fun ha => by
            have := (hp a ha).2
            have := Nat.not_le_of_not_ble_eq_true (ne_true_of_eq_false hlast)
            omega
          rw [cond_false, ih hrest, List.find?_cons_of_neg hpa]
      | true =>
          rw [cond_true]
          cases hbegins : Nat.ble (first a) hi with
          | false =>
              have hbehind := Nat.not_le_of_not_ble_eq_true (ne_true_of_eq_false hbegins)
              rw [cond_false, List.find?_nil, eq_comm, List.find?_eq_none]
              intro b hb hpb
              have := (hp b hpb).1
              rcases List.mem_cons.mp hb with rfl | hb
              · omega
              · have := hfirst b hb
                omega
          | true => rw [cond_true, List.find?_cons, List.find?_cons, ih hrest]

namespace CaseRun

def image (r : CaseRun) (n : Nat) : Nat := ((n : Int) + r.shift).toNat

def places (r : CaseRun) : List Nat :=
  (List.range ((r.last - r.first) / r.step + 1)).map (r.first + r.step * ·)

theorem bounds_of_holds {r : CaseRun} {n : Nat} (h : r.holds n = true) :
    r.first ≤ n ∧ n ≤ r.last := by
  simp only [holds, Bool.and_eq_true, decide_eq_true_eq] at h
  exact h.1

theorem mem_places {r : CaseRun} {n : Nat} (h : r.holds n = true) : n ∈ r.places := by
  obtain ⟨hfirst, hlast⟩ := bounds_of_holds h
  simp only [holds, Bool.and_eq_true, beq_iff_eq] at h
  have hsteps : r.step * ((n - r.first) / r.step) = n - r.first :=
    Nat.mul_div_cancel' (Nat.dvd_of_mod_eq_zero h.2)
  refine List.mem_map.mpr ⟨(n - r.first) / r.step, List.mem_range.mpr ?_, by omega⟩
  exact Nat.lt_succ_of_le (Nat.div_le_div_right (by omega))

end CaseRun

namespace CaseTable

variable {t : CaseTable} {n lo hi : Nat}

def codes (t : CaseTable) (n : Nat) : List Nat :=
  match t.runs.find? (·.holds n) with
  | some r => [r.image n]
  | none => ((t.expansions.find? (n == ·.1)).map Prod.snd).getD [n]

theorem lookup_eq_find? (es : List (Nat × List Nat)) (n : Nat) :
    es.lookup n = (es.find? (n == ·.1)).map Prod.snd := by
  induction es with
  | nil => rfl
  | cons e rest ih =>
      rw [List.lookup_cons, List.find?_cons, ih]
      cases n == e.1 <;> rfl

theorem map_eq_codes (t : CaseTable) (c : Char) : t.map c = (t.codes c.toNat).map Char.ofNat := by
  rw [map, codes, lookup_eq_find?]
  cases t.runs.find? (·.holds c.toNat) with
  | some r => rfl
  | none =>
      cases t.expansions.find? (c.toNat == ·.1) with
      | some e => rfl
      | none => simp

/-- A code point is moved by a run, is replaced, or stays. -/
theorem codes_cases (t : CaseTable) (n : Nat) :
    (∃ r ∈ t.runs, r.holds n = true ∧ t.codes n = [r.image n]) ∨
      (∃ e ∈ t.expansions, e.1 = n ∧ t.codes n = e.2) ∨ t.codes n = [n] := by
  rw [codes]
  cases hrun : t.runs.find? (·.holds n) with
  | some r =>
      have hholds : r.holds n = true := by simpa using List.find?_some hrun
      exact .inl ⟨r, List.mem_of_find?_eq_some hrun, hholds, rfl⟩
  | none =>
      cases hexpansion : t.expansions.find? (n == ·.1) with
      | some e =>
          have hkey : n = e.1 := by simpa using List.find?_some hexpansion
          exact .inr (.inl ⟨e, List.mem_of_find?_eq_some hexpansion, hkey.symm, rfl⟩)
      | none => exact .inr (.inr rfl)

/-- The entries of a table come in the order of what they map. -/
structure Sorted (t : CaseTable) : Prop where
  runs : t.runs.Pairwise fun r s => r.first ≤ s.first
  expansions : t.expansions.Pairwise fun e f => e.1 ≤ f.1

/-- The part of a table that is about the code points of a stretch. -/
def within (t : CaseTable) (lo hi : Nat) : CaseTable where
  runs := between CaseRun.first CaseRun.last lo hi t.runs
  expansions := between Prod.fst Prod.fst lo hi t.expansions

theorem codes_within (h : t.Sorted) (hlo : lo ≤ n) (hhi : n ≤ hi) :
    (t.within lo hi).codes n = t.codes n := by
  have hruns := find?_between h.runs (fun r hr => CaseRun.bounds_of_holds (n := n) hr) hlo hhi
  have hexpansions := find?_between (p := (n == ·.1)) h.expansions
    (fun e he => by rw [beq_iff_eq.mp he]; exact ⟨Nat.le_refl _, Nat.le_refl _⟩) hlo hhi
  rw [codes, within, hruns, hexpansions, codes]

end CaseTable

/-- The code points of a folded character, with a table for those outside ASCII. -/
def foldCodes (t : CaseTable) (n : Nat) : List Nat :=
  bif n.blt 0x80 then [bif Nat.ble 0x41 n && Nat.ble n 0x5A then n + 32 else n] else t.codes n

theorem sorted_foldTable : foldTable.Sorted where
  runs := List.isChain_iff_pairwise.mp (by decide +kernel)
  expansions := List.isChain_iff_pairwise.mp (by decide +kernel)

theorem foldCodes_within {lo hi n : Nat} (hlo : lo ≤ n) (hhi : n ≤ hi) :
    foldCodes (foldTable.within lo hi) n = foldCodes foldTable n := by
  rw [foldCodes, CaseTable.codes_within sorted_foldTable hlo hhi, foldCodes]

theorem foldChar_eq (c : Char) : foldChar c = (foldCodes foldTable c.toNat).map Char.ofNat := by
  rw [foldChar, foldCodes]
  by_cases hc : c.toNat < 0x80
  · have hblt : c.toNat.blt 0x80 = true := Nat.ble_eq_true_of_le hc
    rw [if_pos hc, hblt, cond_true, lowerChar, if_pos hc, List.map_singleton]
    by_cases hcapital : 'A' ≤ c ∧ c ≤ 'Z'
    · have hcodes : 0x41 ≤ c.toNat ∧ c.toNat ≤ 0x5A := hcapital
      rw [if_pos hcapital, Nat.ble_eq_true_of_le hcodes.1, Nat.ble_eq_true_of_le hcodes.2]
      rfl
    · have hcodes : (Nat.ble 0x41 c.toNat && Nat.ble c.toNat 0x5A) = false := by
        rw [← Bool.not_eq_true, Bool.and_eq_true, Nat.ble_eq, Nat.ble_eq]
        exact hcapital
      rw [if_neg hcapital, hcodes, cond_false, Char.ofNat_toNat]
  · have hblt : c.toNat.blt 0x80 = false := by
      rw [← Bool.not_eq_true]
      exact fun h => hc (Nat.le_of_ble_eq_true h)
    rw [if_neg hc, hblt, cond_false, CaseTable.map_eq_codes]

theorem foldChars_ofNat {ms : List Nat} (h : ∀ m ∈ ms, m.isValidChar) :
    foldChars (ms.map Char.ofNat) = (ms.flatMap (foldCodes foldTable)).map Char.ofNat := by
  induction ms with
  | nil => rfl
  | cons m rest ih =>
      have hm := toNat_ofNat_char (h m List.mem_cons_self)
      have hrest := ih fun x hx => h x (List.mem_cons_of_mem _ hx)
      rw [foldChars] at hrest ⊢
      rw [List.map_cons, List.flatMap_cons, foldChar_eq, hm, hrest, List.flatMap_cons,
        List.map_append]

/-- Every code point of the run has an image that folds alike. -/
def CaseRun.foldsAlike (skipped : List Nat) (r : CaseRun) : Bool :=
  let here := foldTable.within r.first r.last
  let there := foldTable.within (r.image r.first) (r.image r.last)
  r.places.all fun n => skipped.elem n ||
    (decide (r.image n).isValidChar && foldCodes there (r.image n) == foldCodes here n)

/-- The code points that replace one fold alike. -/
def expansionFoldsAlike (e : Nat × List Nat) : Bool :=
  e.2.all (fun m => decide m.isValidChar) &&
    e.2.flatMap (fun m => foldCodes (foldTable.within m m) m) ==
      foldCodes (foldTable.within e.1 e.1) e.1

/-- What the table maps a code point to folds as the code point does, but for some that are left
out. -/
structure CaseTable.FoldsAlike (skipped : List Nat) (t : CaseTable) : Prop where
  runs : t.runs.all (·.foldsAlike skipped) = true
  expansions : t.expansions.all expansionFoldsAlike = true

theorem CaseRun.foldCodes_image {r : CaseRun} {skipped : List Nat} {n : Nat}
    (h : r.foldsAlike skipped = true) (hn : r.holds n = true) (hskipped : n ∉ skipped) :
    (r.image n).isValidChar ∧ foldCodes foldTable (r.image n) = foldCodes foldTable n := by
  obtain ⟨hfirst, hlast⟩ := bounds_of_holds hn
  have hlow : r.image r.first ≤ r.image n := by
    simp only [image]
    omega
  have hhigh : r.image n ≤ r.image r.last := by
    simp only [image]
    omega
  have hplace := List.all_eq_true.mp h n (mem_places hn)
  rw [foldCodes_within hlow hhigh, foldCodes_within hfirst hlast, Bool.or_eq_true, Bool.and_eq_true,
    decide_eq_true_eq, beq_iff_eq] at hplace
  exact hplace.resolve_left fun hmem => hskipped (List.elem_iff.mp hmem)

namespace CaseTable.FoldsAlike

variable {t : CaseTable} {skipped : List Nat}

theorem foldChars_map (h : t.FoldsAlike skipped) {c : Char} (hc : c.toNat ∉ skipped) :
    foldChars (t.map c) = foldChar c := by
  have hvalid : c.toNat.isValidChar := c.valid
  have hcodes : (∀ m ∈ t.codes c.toNat, m.isValidChar) ∧
      (t.codes c.toNat).flatMap (foldCodes foldTable) = foldCodes foldTable c.toNat := by
    rcases t.codes_cases c.toNat with ⟨r, hr, hholds, hmoved⟩ | ⟨e, he, hkey, hreplaced⟩ | hstays
    · obtain ⟨himage, hfold⟩ := CaseRun.foldCodes_image (List.all_eq_true.mp h.runs r hr) hholds hc
      rw [hmoved, List.flatMap_singleton]
      exact ⟨fun m hm => List.mem_singleton.mp hm ▸ himage, hfold⟩
    · have hfold := List.all_eq_true.mp h.expansions e he
      simp only [expansionFoldsAlike, Bool.and_eq_true, List.all_eq_true,
        decide_eq_true_eq, beq_iff_eq, foldCodes_within (Nat.le_refl _) (Nat.le_refl _)] at hfold
      rw [hreplaced, ← hkey]
      exact hfold
    · rw [hstays, List.flatMap_singleton]
      exact ⟨fun m hm => List.mem_singleton.mp hm ▸ hvalid, rfl⟩
  rw [map_eq_codes, foldChars_ofNat hcodes.1, hcodes.2, foldChar_eq]

end CaseTable.FoldsAlike

theorem foldsAlike_lowerTable : lowerTable.FoldsAlike [] where
  runs := by decide +kernel
  expansions := by decide +kernel

theorem foldsAlike_upperTable : upperTable.FoldsAlike [0x131] where
  runs := by decide +kernel
  expansions := by decide +kernel

@[simp] theorem foldChars_append (cs ds : List Char) :
    foldChars (cs ++ ds) = foldChars cs ++ foldChars ds :=
  List.flatMap_append

theorem foldChars_cons (c : Char) (cs : List Char) :
    foldChars (c :: cs) = foldChar c ++ foldChars cs := rfl

@[simp] theorem foldChars_singleton (c : Char) : foldChars [c] = foldChar c :=
  List.flatMap_singleton ..

theorem foldChars_ascii {c : Char} (hc : c.toNat < 0x80) :
    foldChars (lowerChar c) = foldChar c ∧ foldChars (upperChar c) = foldChar c := by
  have hall : ∀ n < 0x80, foldChars (lowerChar (Char.ofNat n)) = foldChar (Char.ofNat n) ∧
      foldChars (upperChar (Char.ofNat n)) = foldChar (Char.ofNat n) := by decide +kernel
  rw [← Char.ofNat_toNat c]
  exact hall c.toNat hc

theorem foldChars_lowerChar (c : Char) : foldChars (lowerChar c) = foldChar c := by
  by_cases hc : c.toNat < 0x80
  · exact (foldChars_ascii hc).1
  · rw [lowerChar, if_neg hc, foldsAlike_lowerTable.foldChars_map List.not_mem_nil]

theorem foldChars_upperChar {c : Char} (h : c ≠ 'ı') : foldChars (upperChar c) = foldChar c := by
  by_cases hc : c.toNat < 0x80
  · exact (foldChars_ascii hc).2
  · have hskipped : c.toNat ∉ [0x131] := by
      rw [List.mem_singleton]
      intro hcode
      rw [← Char.ofNat_toNat c, hcode] at h
      exact h rfl
    rw [upperChar, if_neg hc, foldsAlike_upperTable.foldChars_map hskipped]

theorem foldChar_sigma : foldChar 'ς' = foldChar 'Σ' ∧ foldChar 'σ' = foldChar 'Σ' := by
  decide +kernel

theorem foldChars_lowerAfter (cased : Bool) (cs : List Char) :
    foldChars (lowerAfter cased cs) = foldChars cs := by
  induction cs generalizing cased with
  | nil => rfl
  | cons c rest ih =>
      rw [lowerAfter, foldChars_append, ih, foldChars_cons]
      split
      · rename_i hsigma
        obtain rfl := beq_iff_eq.mp hsigma
        split
        · rw [foldChars_singleton, foldChar_sigma.1]
        · rw [foldChars_singleton, foldChar_sigma.2]
      · rw [foldChars_lowerChar]

/-- Folding does not see a change to lower case. -/
theorem foldChars_lowerChars (cs : List Char) : foldChars (lowerChars cs) = foldChars cs :=
  foldChars_lowerAfter false cs

def dotted (c : Char) : Char := if c = 'ı' then 'i' else c

theorem foldChars_upperChar_dotted (c : Char) : foldChars (upperChar c) = foldChar (dotted c) := by
  by_cases hc : c = 'ı'
  · subst hc
    decide +kernel
  · rw [dotted, if_neg hc, foldChars_upperChar hc]

/-- Folding sees a change to upper case only where it gives a dotless i its dot. -/
theorem foldChars_upperChars (cs : List Char) :
    foldChars (upperChars cs) = foldChars (cs.map dotted) := by
  induction cs with
  | nil => rfl
  | cons c rest ih =>
      rw [upperChars] at ih ⊢
      rw [List.flatMap_cons, foldChars_append, ih, foldChars_upperChar_dotted, List.map_cons,
        foldChars_cons]

theorem map_dotted_of_not_mem {cs : List Char} (h : 'ı' ∉ cs) : cs.map dotted = cs := by
  have hsame : ∀ c ∈ cs, dotted c = id c := fun c hc => if_neg (ne_of_mem_of_not_mem hc h)
  rw [List.map_congr_left hsame, List.map_id]

/-- No other character folds to a dotless i. -/
theorem mem_foldCodes_dotless {n : Nat} (h : 0x131 ∈ foldCodes foldTable n) : n = 0x131 := by
  have hruns : (foldTable.runs.all fun r => r.places.all (r.image · != 0x131)) = true := by
    decide +kernel
  have hexpansions : (foldTable.expansions.all fun e => !e.2.elem 0x131) = true := by decide +kernel
  rw [foldCodes] at h
  cases hascii : n.blt 0x80 with
  | true =>
      have hn : n < 0x80 := Nat.le_of_ble_eq_true hascii
      rw [hascii, cond_true, List.mem_singleton] at h
      cases hcapital : Nat.ble 0x41 n && Nat.ble n 0x5A <;>
        simp only [hcapital, cond_true, cond_false] at h <;>
        omega
  | false =>
      rw [hascii, cond_false] at h
      rcases foldTable.codes_cases n with ⟨r, hr, hholds, hmoved⟩ | ⟨e, he, -, hreplaced⟩ | hstays
      · rw [hmoved, List.mem_singleton] at h
        have himage := List.all_eq_true.mp (List.all_eq_true.mp hruns r hr) n
          (CaseRun.mem_places hholds)
        rw [← h] at himage
        cases himage
      · rw [hreplaced] at h
        have hnone := List.all_eq_true.mp hexpansions e he
        rw [List.elem_eq_true_of_mem h] at hnone
        cases hnone
      · rw [hstays, List.mem_singleton] at h
        exact h.symm

theorem mem_foldChar_dotless {c : Char} : 'ı' ∈ foldChar c ↔ c = 'ı' := by
  constructor
  · intro h
    rw [foldChar_eq] at h
    obtain ⟨m, hm, hcode⟩ := List.mem_map.mp h
    have hvalid : m.isValidChar := by
      by_contra hinvalid
      rw [Char.ofNat, dif_neg hinvalid] at hcode
      exact absurd hcode (by decide)
    have hm' : m = 0x131 := by rw [← toNat_ofNat_char hvalid, hcode]; rfl
    subst hm'
    rw [← Char.ofNat_toNat c, mem_foldCodes_dotless hm]
  · rintro rfl
    decide +kernel

end StatementWalk.Text
