import Mathlib.Data.List.TakeWhile
import StatementWalk.Proofs.OutcomeReport

/-!
# Names in front of messages

A message of the server comes with the names of driver and server in brackets before it. Collecting
drops the names, and with them every further group of brackets that follows at once. So the text of
the server is kept if and only if it does not begin with a group of brackets itself.
-/

namespace StatementWalk

open Text Number

/-- A name in brackets stands first. -/
def BeginsWithName (cs : List Char) : Prop := ∃ name rest, cs = '[' :: name ++ ']' :: rest

/-- Names in brackets, and what follows them. -/
inductive Named : List Char → List Char → Prop where
  | plain (cs : List Char) : Named cs cs
  | behind {name cs rest : List Char} (hname : ']' ∉ name) (h : Named cs rest) :
      Named ('[' :: name ++ ']' :: cs) rest

theorem not_beginsWithName_nil : ¬BeginsWithName [] := by
  rintro ⟨name, rest, h⟩
  cases h

theorem takeWhile_name {name : List Char} (hname : ']' ∉ name) (cs : List Char) :
    (name ++ ']' :: cs).takeWhile (· != ']') = name := by
  have hall : ∀ c ∈ name, (c != ']') = true := by
    intro c hc
    simpa using fun heq : c = ']' => hname (heq ▸ hc)
  rw [List.takeWhile_append_of_pos hall]
  simp

theorem Named.unique {cs rest rest' : List Char} (h : Named cs rest) (hrest : ¬BeginsWithName rest)
    (h' : Named cs rest') (hrest' : ¬BeginsWithName rest') : rest = rest' := by
  induction h with
  | plain cs =>
      cases h' with
      | plain => rfl
      | behind hname _ => exact absurd ⟨_, _, rfl⟩ hrest
  | @behind name cs rest hname h ih =>
      generalize htext : '[' :: name ++ ']' :: cs = text at h'
      cases h' with
      | plain => exact absurd ⟨name, cs, htext.symm⟩ hrest'
      | @behind name' cs' _ hname' h' =>
          have hsplit : name ++ ']' :: cs = name' ++ ']' :: cs' := (List.cons.inj htext).2
          have hsame : name = name' := by
            rw [← takeWhile_name hname cs, hsplit, takeWhile_name hname' cs']
          subst hsame
          obtain rfl : cs = cs' := (List.cons.inj (List.append_cancel_left hsplit)).2
          exact ih hrest h'

namespace Dialect

/-- The names are dropped, and no other one stands first after that. -/
theorem named_dropTagsWithin {fuel : Nat} {cs : List Char} (hfuel : cs.length ≤ fuel) :
    Named cs (dropTagsWithin fuel cs) ∧ ¬BeginsWithName (dropTagsWithin fuel cs) := by
  induction fuel generalizing cs with
  | zero =>
      obtain rfl := List.length_eq_zero_iff.mp (Nat.le_zero.mp hfuel)
      exact ⟨.plain [], not_beginsWithName_nil⟩
  | succ fuel ih =>
      unfold dropTagsWithin
      split
      · rename_i rest
        have hbody : rest.takeWhile (· != ']') ++ rest.dropWhile (· != ']') = rest :=
          List.takeWhile_append_dropWhile
        have hname : ']' ∉ rest.takeWhile (· != ']') := fun h => by
          simpa using List.mem_takeWhile_imp h
        split
        · rename_i more hmore
          rw [hmore] at hbody
          have hlength : more.length ≤ fuel := by
            have := congrArg List.length hbody
            simp only [List.length_append, List.length_cons] at this hfuel
            omega
          obtain ⟨hnamed, hends⟩ := ih hlength
          rw [← hbody]
          exact ⟨.behind hname hnamed, hends⟩
        · rename_i hmore
          refine ⟨.plain _, ?_⟩
          rintro ⟨name, more, htext⟩
          have hclose : ']' ∈ rest := by
            rw [(List.cons.inj htext).2]
            simp
          cases hdrop : rest.dropWhile (· != ']') with
          | nil =>
              rw [hdrop, List.append_nil] at hbody
              rw [hbody] at hname
              exact hname hclose
          | cons c tail =>
              have hc := List.head_dropWhile_not (· != ']') (l := rest) (by simp [hdrop])
              simp only [hdrop, List.head_cons, bne_eq_false_iff_eq] at hc
              exact hmore tail (hc ▸ hdrop)
      · rename_i hopen
        refine ⟨.plain cs, ?_⟩
        rintro ⟨name, more, rfl⟩
        exact hopen _ rfl

theorem named_dropTags (cs : List Char) : Named cs (dropTags cs) :=
  (named_dropTagsWithin (Nat.le_refl _)).1

theorem not_beginsWithName_dropTags (cs : List Char) : ¬BeginsWithName (dropTags cs) :=
  (named_dropTagsWithin (Nat.le_refl _)).2

theorem dropTags_of_named {cs rest : List Char} (h : Named cs rest) (hrest : ¬BeginsWithName rest) :
    dropTags cs = rest :=
  (named_dropTags cs).unique (not_beginsWithName_dropTags cs) h hrest

end Dialect

theorem dropTrailing_append {front : List Char} {c : Char} (hc : isBlank c = false)
    (rest : List Char) :
    dropTrailing isBlank (front ++ c :: rest) = front ++ c :: dropTrailing isBlank rest := by
  unfold dropTrailing
  rw [List.reverse_append, List.reverse_cons, List.append_assoc, List.dropWhile_append]
  split
  · rename_i hempty
    rw [List.isEmpty_iff] at hempty
    simp [hempty, hc]
  · simp

theorem length_dropTrailing_le_append (front rest : List Char) :
    (dropTrailing isBlank rest).length ≤ (dropTrailing isBlank (front ++ rest)).length := by
  unfold dropTrailing
  rw [List.reverse_append, List.dropWhile_append]
  split
  · rename_i hempty
    rw [List.isEmpty_iff] at hempty
    simp [hempty]
  · simp

theorem length_stripChars_le (cs : List Char) :
    (stripChars cs).length ≤ (dropTrailing isBlank cs).length := by
  have hsplit : cs.takeWhile isBlank ++ cs.dropWhile isBlank = cs := List.takeWhile_append_dropWhile
  calc (stripChars cs).length
      = (dropTrailing isBlank (cs.dropWhile isBlank)).length := rfl
    _ ≤ (dropTrailing isBlank (cs.takeWhile isBlank ++ cs.dropWhile isBlank)).length :=
        length_dropTrailing_le_append _ _
    _ = (dropTrailing isBlank cs).length := by rw [hsplit]

theorem stripChars_cons {c : Char} (hc : isBlank c = false) (cs : List Char) :
    stripChars (c :: cs) = dropTrailing isBlank (c :: cs) := by
  rw [stripChars, trimBy, dropLeading, List.dropWhile_cons_of_neg (by simp [hc])]

namespace Named

variable {cs rest : List Char}

theorem length_stripChars_le (h : Named cs rest) :
    (stripChars rest).length ≤ (dropTrailing isBlank cs).length := by
  induction h with
  | plain cs => exact StatementWalk.length_stripChars_le cs
  | @behind name cs rest hname h ih =>
      have hclose : isBlank ']' = false := by decide
      rw [dropTrailing_append hclose]
      simp only [List.length_append, List.length_cons]
      omega

/-- Brackets are no blanks, so a text is shorter without the names before it. -/
theorem length_stripChars_lt (h : Named cs rest) (hcs : BeginsWithName cs)
    (hrest : ¬BeginsWithName rest) : (stripChars rest).length < (stripChars cs).length := by
  cases h with
  | plain => exact absurd hcs hrest
  | @behind name cs _ hname h =>
      have hopen : isBlank '[' = false := by decide
      have hclose : isBlank ']' = false := by decide
      have hle := h.length_stripChars_le
      rw [List.cons_append, stripChars_cons hopen, ← List.cons_append, dropTrailing_append hclose]
      simp only [List.length_append, List.length_cons]
      omega

end Named

theorem stripChars_dropTags_eq_iff (cs : List Char) :
    stripChars (Dialect.dropTags cs) = stripChars cs ↔ ¬BeginsWithName cs := by
  constructor
  · intro hsame hcs
    have hlt := (Dialect.named_dropTags cs).length_stripChars_lt hcs
      (Dialect.not_beginsWithName_dropTags cs)
    rw [hsame] at hlt
    exact Nat.lt_irrefl _ hlt
  · intro hcs
    rw [Dialect.dropTags_of_named (.plain cs) hcs]

/-- A message of the server, as the driver hands it on: its state and code in a text of their own,
and what the server said. -/
structure ServerMessage where
  tag : Value
  said : String

namespace ServerMessage

/-- The names of driver and server, which the driver puts before every text. -/
def names : String := "[Microsoft][ODBC Driver 18 for SQL Server][SQL Server]"

def parts (m : ServerMessage) : List Value := [m.tag, .text (names ++ m.said)]

/-- The state and code can be read: the code, if there is one, does not have too many digits. -/
def HasReadableTag (m : ServerMessage) : Prop :=
  ∃ shown, m.tag.display = .ok shown ∧
    ∀ state code, Dialect.messageTag? shown.toList = some (state, code) →
      ∃ n, intOfText code = .ok n

/-- The notice has the text that is left once the names before it are dropped. -/
def Becomes (m : ServerMessage) (n : Notice) : Prop :=
  ∃ rest, Named m.said.toList rest ∧ ¬BeginsWithName rest ∧ n.message = strip (String.ofList rest)

theorem named_names {cs rest : List Char} (h : Named cs rest) :
    Named (names.toList ++ cs) rest := by
  have hserver : ']' ∉ "SQL Server".toList := by decide
  have hdriver : ']' ∉ "ODBC Driver 18 for SQL Server".toList := by decide
  have hvendor : ']' ∉ "Microsoft".toList := by decide
  exact .behind hvendor (.behind hdriver (.behind hserver h))

theorem dropTags_names (cs : List Char) :
    Dialect.dropTags (names.toList ++ cs) = Dialect.dropTags cs :=
  Dialect.dropTags_of_named (named_names (Dialect.named_dropTags cs))
    (Dialect.not_beginsWithName_dropTags cs)

theorem said_of_noticeOfMessage {tag : Value} {s : String} {n : Notice}
    (h : Dialect.noticeOfMessage tag (.text s) = .ok n) :
    n.message = String.ofList (stripChars (Dialect.dropTags s.toList)) := by
  unfold Dialect.noticeOfMessage at h
  obtain ⟨body, hbody, h⟩ := except_bind_eq_ok.mp h
  obtain rfl : s = body := Except.ok.inj hbody
  obtain ⟨shown, -, h⟩ := except_bind_eq_ok.mp h
  split at h
  · cases h
    rfl
  · obtain ⟨code, -, h⟩ := except_bind_eq_ok.mp h
    cases h
    rfl

/-- Whether there is a notice depends on the state and code alone. -/
theorem exists_noticeOfParts_iff (m : ServerMessage) :
    (∃ n, Dialect.noticeOfParts m.parts = .ok n) ↔ m.HasReadableTag := by
  show (∃ n, Dialect.noticeOfMessage m.tag (.text (names ++ m.said)) = .ok n) ↔ _
  unfold Dialect.noticeOfMessage
  constructor
  · rintro ⟨n, h⟩
    obtain ⟨body, -, h⟩ := except_bind_eq_ok.mp h
    obtain ⟨shown, hshown, h⟩ := except_bind_eq_ok.mp h
    refine ⟨shown, hshown, fun state code htag => ?_⟩
    rw [htag] at h
    obtain ⟨number, hnumber, -⟩ := except_bind_eq_ok.mp h
    exact ⟨number, hnumber⟩
  · rintro ⟨shown, hshown, hcode⟩
    rw [Value.display, except_ok_bind, hshown, except_ok_bind]
    cases htag : Dialect.messageTag? shown.toList with
    | none => exact ⟨_, rfl⟩
    | some tag =>
        obtain ⟨number, hnumber⟩ := hcode tag.1 tag.2 htag
        exact ⟨_, by simp only [hnumber, except_ok_bind]; rfl⟩

theorem becomes_of_noticeOfParts {m : ServerMessage} {n : Notice}
    (h : Dialect.noticeOfParts m.parts = .ok n) :
    m.Becomes n ∧ (n.message = strip m.said ↔ ¬BeginsWithName m.said.toList) := by
  have hmessage : n.message = String.ofList (stripChars (Dialect.dropTags m.said.toList)) := by
    rw [← dropTags_names, ← String.toList_append]
    exact said_of_noticeOfMessage h
  refine ⟨⟨Dialect.dropTags m.said.toList, Dialect.named_dropTags _,
    Dialect.not_beginsWithName_dropTags _, ?_⟩, ?_⟩
  · rw [hmessage, strip, String.toList_ofList]
  · rw [hmessage, strip, String.ofList_inj]
    exact stripChars_dropTags_eq_iff _

end ServerMessage

/-- The messages of a cursor are collected if and only if the state and code of each can be read.
Each gives one notice, in order, with the text that the server said, less the names in brackets that
the server itself put first; so the text is kept if and only if it does not begin with a name in
brackets. -/
theorem collect_keeps_text_iff (board : NoticeBoard) (ms : List ServerMessage) :
    let b : NoticeBoard := { board with messages := ms.map ServerMessage.parts }
    ((∃ ns, Dialect.mssql.collect b = .ok (ns, b)) ↔ ∀ m ∈ ms, m.HasReadableTag) ∧
      ∀ ns left, Dialect.mssql.collect b = .ok (ns, left) → left = b ∧
        List.Forall₂ (fun m n => m.Becomes n ∧
          (n.message = strip m.said ↔ ¬BeginsWithName m.said.toList)) ms ns := by
  intro b
  have hcollect : Dialect.mssql.collect b = do
      return (← (ms.map ServerMessage.parts).mapM Dialect.noticeOfParts, b) := rfl
  refine ⟨⟨?_, fun htags => ?_⟩, fun ns left h => ?_⟩
  · rintro ⟨ns, h⟩
    obtain ⟨found, hfound, -⟩ := except_bind_eq_ok.mp (hcollect.symm.trans h)
    have hall : List.Forall₂ (fun m n => m.HasReadableTag ∧ Dialect.noticeOfParts m.parts = .ok n)
        ms found :=
      (List.forall₂_map_left_iff.mp (forall₂_of_mapM_ok hfound)).imp fun m n hn =>
        ⟨m.exists_noticeOfParts_iff.mp ⟨n, hn⟩, hn⟩
    exact ((List.forall₂_and_left _ _).mp hall).1
  · have hparts : ∀ x ∈ ms.map ServerMessage.parts, ∃ n, Dialect.noticeOfParts x = .ok n := by
      intro x hx
      obtain ⟨m, hm, rfl⟩ := List.mem_map.mp hx
      exact m.exists_noticeOfParts_iff.mpr (htags m hm)
    obtain ⟨ns, hns, -⟩ := mapM_eq_ok hparts
    refine ⟨ns, ?_⟩
    rw [hcollect, hns]
    rfl
  · obtain ⟨found, hfound, hpair⟩ := except_bind_eq_ok.mp (hcollect.symm.trans h)
    obtain ⟨rfl, rfl⟩ := Prod.mk.inj (Except.ok.inj hpair)
    refine ⟨rfl, (List.forall₂_map_left_iff.mp (forall₂_of_mapM_ok hfound)).imp fun m n hn => ?_⟩
    exact ServerMessage.becomes_of_noticeOfParts hn

/-- A word in brackets is lost with the names before it. -/
theorem collect_loses_bracketed_word :
    (Dialect.mssql.collect { messages := [ServerMessage.parts ⟨.text "[01000] (0)", "[a] b"⟩] }).map
        Prod.fst = .ok [{ message := "b" }] ∧
      strip "[a] b" = "[a] b" := by
  decide

end StatementWalk
