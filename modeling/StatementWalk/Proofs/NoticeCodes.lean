import Mathlib.Algebra.Group.Nat.Defs
import StatementWalk.Dialect.Notices

/-!
# Codes of collected notices

A code that was read from a text has no more digits than are ever written, so the notices of
messages and of connections can all be written out again. The warning object of a cursor may hold
any integer, but there is only one of it. In no dialect does a notice without a text follow one that
has a text.
-/

namespace StatementWalk

open Number Text

namespace Number

theorem digitBound_eq : digitBound = 10 ^ digitLimit := by
  unfold digitBound
  generalize digitLimit = n
  rfl

theorem lt_digitBound_of_lt_pow {n k : Nat} (hk : k ≤ digitLimit) (h : n < 10 ^ k) :
    n < digitBound := by
  have hpow : 10 ^ k ≤ 10 ^ digitLimit := Nat.pow_le_pow_right (by decide) hk
  rw [digitBound_eq]
  exact Nat.lt_of_lt_of_le h hpow

theorem lt_digitBound {n : Nat} (h : n < 10 ^ 4) : n < digitBound :=
  lt_digitBound_of_lt_pow (by decide) h

theorem zero_lt_digitBound : 0 < digitBound := lt_digitBound (by decide)

theorem foldl_digits_lt {ds : List Nat} (h : ∀ d ∈ ds, d < 10) (n : Nat) :
    ds.foldl (fun n d => 10 * n + d) n < (n + 1) * 10 ^ ds.length := by
  induction ds generalizing n with
  | nil => simp
  | cons d rest ih =>
      have hd := h d (List.mem_cons_self ..)
      have hrest := ih (fun x hx => h x (List.mem_cons_of_mem _ hx)) (10 * n + d)
      have hstep : (10 * n + d + 1) * 10 ^ rest.length ≤ (n + 1) * 10 ^ (rest.length + 1) := by
        rw [Nat.pow_succ, Nat.mul_comm (10 ^ rest.length) 10, ← Nat.mul_assoc]
        exact Nat.mul_le_mul_right _ (by omega)
      exact Nat.lt_of_lt_of_le hrest hstep

theorem ofDigits_lt {ds : List Nat} (h : ∀ d ∈ ds, d < 10) : ofDigits ds < 10 ^ ds.length := by
  have hlt := foldl_digits_lt h 0
  rwa [Nat.zero_add, Nat.one_mul] at hlt

theorem sub_lt_of_isAsciiDigit {c : Char} (h : isAsciiDigit c = true) : c.toNat - 48 < 10 := by
  obtain ⟨-, hle⟩ := of_decide_eq_true h
  have hval : c.toNat ≤ 57 := hle
  omega

theorem takeDigits_lt {cs rest : List Char} {ds : List Nat} {afterDigit : Bool}
    (h : takeDigits afterDigit cs = some (ds, rest)) : ∀ d ∈ ds, d < 10 := by
  induction cs generalizing afterDigit ds with
  | nil =>
      rw [takeDigits] at h
      split at h
      · cases h
        simp
      · cases h
  | cons c cs ih =>
      rw [takeDigits] at h
      split at h
      · rename_i hc
        cases hrest : takeDigits true cs with
        | none =>
            rw [hrest] at h
            cases h
        | some found =>
            rw [hrest] at h
            cases h
            intro d hd
            rcases List.mem_cons.mp hd with rfl | hd
            · exact sub_lt_of_isAsciiDigit hc
            · exact ih hrest d hd
      · split at h
        · split at h
          · exact ih h
          · cases h
        · split at h
          · cases h
            simp
          · cases h

theorem readAsciiInt_lt {cs : List Char} {n : Int} (h : readAsciiInt cs = .number n) :
    n.natAbs < digitBound := by
  unfold readAsciiInt at h
  cases htake : takeDigits false (splitSign (cs.dropWhile isAsciiSpace)).2 with
  | none =>
      simp only [htake] at h
      cases h
  | some found =>
      obtain ⟨ds, rest⟩ := found
      simp only [htake] at h
      split at h
      · cases h
      · rename_i hlength
        split at h
        · have hlt : ofDigits ds < digitBound := by
            rw [digitBound_eq]
            refine Nat.lt_of_lt_of_le (ofDigits_lt (takeDigits_lt htake)) ?_
            exact Nat.pow_le_pow_right (by decide) (by omega)
          rw [IntReading.number.injEq] at h
          subst h
          split <;> simpa using hlt
        · cases h

theorem intOfText_lt {s : String} {n : Int} (h : intOfText s = .ok n) : n.natAbs < digitBound := by
  have hread : readInt s.toList = .number n := by
    unfold intOfText at h
    cases hr : readInt s.toList with
    | number m =>
        rw [hr] at h
        cases h
        rfl
    | tooLong k =>
        rw [hr] at h
        cases h
    | malformed =>
        rw [hr] at h
        cases h
  unfold readInt at hread
  split at hread
  · exact readAsciiInt_lt hread
  · exact readAsciiInt_lt hread

end Number

theorem Notice.render_eq_ok {n : Notice} (h : n.code.natAbs < digitBound) :
    ∃ line, n.classify.render = .ok line := by
  unfold classify
  split
  · exact ⟨_, rfl⟩
  · simp only [ClassifiedWarning.render, intText_eq_ok h]
    exact ⟨_, rfl⟩

namespace Dialect

theorem noticeOfMessage_lt {tag text : Value} {n : Notice} (h : noticeOfMessage tag text = .ok n) :
    n.code.natAbs < digitBound := by
  unfold noticeOfMessage at h
  obtain ⟨body, -, h⟩ := except_bind_eq_ok.mp h
  obtain ⟨shown, -, h⟩ := except_bind_eq_ok.mp h
  split at h
  · cases h
    exact zero_lt_digitBound
  · obtain ⟨code, hcode, h⟩ := except_bind_eq_ok.mp h
    cases h
    exact intOfText_lt hcode

theorem noticeOfParts_lt {parts : List Value} {n : Notice} (h : noticeOfParts parts = .ok n) :
    n.code.natAbs < digitBound := by
  unfold noticeOfParts at h
  split at h
  · exact noticeOfMessage_lt h
  · cases h
  · cases h
  · cases h

theorem noticeOfText_code (s : String) : (noticeOfText s).code = 0 := by
  unfold noticeOfText
  split <;> rfl

theorem forall_of_mapM_ok {α β : Type} {f : α → Except Fault β} {P : β → Prop} {xs : List α}
    {ys : List β} (h : xs.mapM f = .ok ys) (hf : ∀ x y, f x = .ok y → P y) : ∀ y ∈ ys, P y := by
  induction xs generalizing ys with
  | nil =>
      cases h
      simp
  | cons x rest ih =>
      rw [List.mapM_cons] at h
      obtain ⟨y, hy, h⟩ := except_bind_eq_ok.mp h
      obtain ⟨zs, hzs, h⟩ := except_bind_eq_ok.mp h
      cases h
      intro z hz
      rcases List.mem_cons.mp hz with rfl | hz
      · exact hf x z hy
      · exact ih hzs z hz

theorem code_of_collect_postgresql {board left : NoticeBoard} {ns : List Notice}
    (h : postgresql.collect board = .ok (ns, left)) {n : Notice} (hn : n ∈ ns) : n.code = 0 := by
  unfold collect at h
  dsimp only at h
  split at h
  · cases h
    cases hn
  · rename_i v _
    obtain ⟨found, hfound, h⟩ := except_bind_eq_ok.mp h
    cases h
    unfold takePending at hfound
    split at hfound
    · obtain ⟨items, -, hfound⟩ := except_bind_eq_ok.mp hfound
      obtain ⟨texts, -, hfound⟩ := except_bind_eq_ok.mp hfound
      obtain ⟨left, -, hfound⟩ := except_bind_eq_ok.mp hfound
      cases hfound
      obtain ⟨s, -, rfl⟩ := List.mem_map.mp hn
      exact noticeOfText_code s
    · cases hfound
      cases hn

/-- All collected notices can be written, or there is at most one. -/
theorem collect_tidy {d : Dialect} {board left : NoticeBoard} {ns : List Notice}
    (h : d.collect board = .ok (ns, left)) :
    (∀ n ∈ ns, n.code.natAbs < digitBound) ∨ ns.length ≤ 1 := by
  unfold collect at h
  cases d with
  | mssql =>
      obtain ⟨found, hfound, h⟩ := except_bind_eq_ok.mp h
      cases h
      exact .inl (forall_of_mapM_ok hfound fun _ _ hparts => noticeOfParts_lt hparts)
  | postgresql =>
      refine .inl fun n hn => ?_
      rw [code_of_collect_postgresql h hn]
      exact zero_lt_digitBound
  | oracle =>
      refine .inr ?_
      dsimp only at h
      split at h
      · cases h
        exact Nat.zero_le 1
      · cases h
        exact Nat.zero_le 1
      · obtain ⟨n, -, h⟩ := except_bind_eq_ok.mp h
        cases h
        exact Nat.le_refl 1
  | _ =>
      cases h
      exact .inl nofun

end Dialect

end StatementWalk
