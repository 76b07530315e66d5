import StatementWalk.Dialect.Notices
import StatementWalk.Proofs.NoticeCodes
import StatementWalk.Proofs.StrippedText
import StatementWalk.Script.Cursor

/-!
# Draining the notices of a connection

A driver appends what the server says to a list on its connection, and collecting takes all of it
away. So each notice is part of the first collection that follows it, in the order of the list, and
of no other one. Its text is kept as the server sent it, without the severity that the driver puts
in front and without the blanks around it.
-/

namespace StatementWalk

open Text

/-- A severity stands in front of a text: capital letters, perhaps behind blanks, and a colon that a
blank follows. -/
inductive Graded : List Char → String → List Char → Prop where
  | intro {before letters text : List Char} {blank : Char}
      (hbefore : ∀ c ∈ before, isBlank c = true) (hsome : letters ≠ [])
      (hletters : ∀ c ∈ letters, 'A' ≤ c ∧ c ≤ 'Z') (hblank : isBlank blank = true) :
      Graded (before ++ (letters ++ ':' :: blank :: text)) (String.ofList letters) text

/-- What a notice says of the text that was on the list. -/
structure Says (s : String) (n : Notice) : Prop where
  code_eq : n.code = 0
  graded : ∀ severity text, Graded s.toList severity text → n.message = strip (String.ofList text) ∧
    n.state = if severity ∈ ["NOTICE", "INFO", "LOG", "DEBUG"] then none else some "01000"
  plain : (¬∃ severity text, Graded s.toList severity text) → n.message = strip s ∧ n.state = none

theorem isBlank_of_capital {c : Char} (h : 'A' ≤ c ∧ c ≤ 'Z') : isBlank c = false := by
  have hlow : 65 ≤ c.toNat := h.1
  have hhigh : c.toNat ≤ 90 := h.2
  have hspace : c ≠ ' ' := by
    rintro rfl
    exact absurd hlow (by decide)
  rw [← Bool.not_eq_true]
  intro hblank
  simp only [isBlank, isWhite, isAsciiSpace, Bool.or_eq_true, beq_iff_eq, decide_eq_true_eq, hspace,
    false_or] at hblank
  omega

namespace Dialect

variable {cs text : List Char} {severity : String}

/-- The severity is split off wherever one stands in front. -/
theorem severityOf?_graded (h : Graded cs severity text) :
    severityOf? cs = some (severity, stripChars text) := by
  obtain ⟨hbefore, hsome, hletters, hblank⟩ := h
  rename_i before letters blank
  have hcapitals : ∀ c ∈ letters, decide ('A' ≤ c ∧ c ≤ 'Z') = true := by simpa using hletters
  have hfirst : ∀ c ∈ (letters ++ ':' :: blank :: text).head?, isBlank c = false := by
    intro c hc
    rw [List.head?_append_of_ne_nil _ hsome] at hc
    exact isBlank_of_capital (hletters c (List.mem_of_mem_head? hc))
  have hbody : (before ++ (letters ++ ':' :: blank :: text)).dropWhile isBlank =
      letters ++ ':' :: blank :: text := dropLeading_append hbefore hfirst
  unfold severityOf?
  dsimp only
  rw [hbody, List.takeWhile_append_of_pos hcapitals, List.dropWhile_append_of_pos hcapitals]
  obtain ⟨letter, more, rfl⟩ := List.exists_cons_of_ne_nil hsome
  simp [hblank, stripChars_blank hblank]

theorem exists_graded {message : List Char} (h : severityOf? cs = some (severity, message)) :
    ∃ text, Graded cs severity text := by
  unfold severityOf? at h
  dsimp only at h
  split at h
  · rename_i letter letters blank text htake hdrop
    have hblanks : cs.takeWhile isBlank ++ cs.dropWhile isBlank = cs :=
      List.takeWhile_append_dropWhile
    rw [← List.takeWhile_append_dropWhile (p := fun c => decide ('A' ≤ c ∧ c ≤ 'Z'))
      (l := cs.dropWhile isBlank), htake, hdrop] at hblanks
    split at h
    · rename_i hblank
      obtain ⟨rfl, -⟩ := Prod.mk.inj (Option.some.inj h)
      rw [← hblanks]
      refine ⟨text, .intro (fun c hc => List.mem_takeWhile_imp hc) (List.cons_ne_nil _ _) ?_ hblank⟩
      intro c hc
      rw [← htake] at hc
      simpa using List.mem_takeWhile_imp hc
    · cases h
  · cases h

theorem says_noticeOfText (s : String) : Says s (noticeOfText s) := by
  refine ⟨noticeOfText_code s, fun severity text h => ?_, fun h => ?_⟩
  · rw [noticeOfText, severityOf?_graded h]
    refine ⟨?_, ?_⟩
    · rw [strip, String.toList_ofList]
    · simp only [plainSeverities, List.contains_iff_mem, printedState]
  · have hnone : severityOf? s.toList = none := by
      cases hread : severityOf? s.toList with
      | none => rfl
      | some found => exact absurd (exists_graded hread) fun ⟨text, htext⟩ => h ⟨_, text, htext⟩
    rw [noticeOfText, hnone]
    exact ⟨rfl, rfl⟩

end Dialect

namespace NoticeBoard

def holding (texts : List String) (b : NoticeBoard) : NoticeBoard :=
  { b with pending := some (.list (texts.map .text)) }

def append (s : String) (b : NoticeBoard) : NoticeBoard :=
  { b with pending := b.pending.map fun held => ScriptedCursor.addNotices held [.text s] }

variable (texts : List String) (b : NoticeBoard)

theorem append_holding (s : String) : (b.holding texts).append s = b.holding (texts ++ [s]) := by
  simp [append, holding, ScriptedCursor.addNotices]

end NoticeBoard

namespace Dialect

theorem mapM_display_texts (texts : List String) :
    (texts.map Value.text).mapM Value.display = .ok texts := by
  induction texts with
  | nil => rfl
  | cons s texts ih => rw [List.map_cons, List.mapM_cons, Value.display, ih]; rfl

theorem forall₂_says (texts : List String) : List.Forall₂ Says texts (texts.map noticeOfText) := by
  induction texts with
  | nil => exact .nil
  | cons s texts ih => exact .cons (says_noticeOfText s) ih

/-- Collecting gives one notice for each text of the list, and leaves the list empty. -/
theorem collect_holding (b : NoticeBoard) (texts : List String) :
    postgresql.collect (b.holding texts) = .ok (texts.map noticeOfText, b.holding []) := by
  cases texts with
  | nil => rfl
  | cons s texts =>
      have htruthy : (Value.list ((s :: texts).map .text)).isTruthy = true := rfl
      simp only [collect, NoticeBoard.holding, takePending, htruthy, if_true, Value.toRow,
        except_ok_bind, mapM_display_texts, emptied]
      rfl

end Dialect

/-- What happens to the notices of a connection: the driver appends one, or they are collected. -/
inductive NoticeCall where
  | append (s : String)
  | collect

namespace NoticeCall

def run : List NoticeCall → NoticeBoard → Except Fault (List (List Notice) × NoticeBoard)
  | [], b => .ok ([], b)
  | .append s :: calls, b => run calls (b.append s)
  | .collect :: calls, b => do
    let (notices, left) ← Dialect.postgresql.collect b
    let (answers, last) ← run calls left
    return (notices :: answers, last)

def round (appended : List String) : List NoticeCall := appended.map .append ++ [.collect]

/-- Each collection of a history answers what was appended since the one before it, and what was
appended since the last one is left. The texts on the list at first count as appended. -/
theorem run_holding (calls : List NoticeCall) (b : NoticeBoard) (texts : List String) :
    ∃ rounds last answers, texts.map .append ++ calls = rounds.flatMap round ++ last.map .append ∧
      run calls (b.holding texts) = .ok (answers, b.holding last) ∧
      List.Forall₂ (List.Forall₂ Says) rounds answers := by
  induction calls generalizing texts with
  | nil => exact ⟨[], texts, [], by simp, rfl, .nil⟩
  | cons call calls ih =>
      cases call with
      | append s =>
          obtain ⟨rounds, last, answers, hcalls, hrun, hsays⟩ := ih (texts ++ [s])
          refine ⟨rounds, last, answers, ?_, ?_, hsays⟩
          · rw [← hcalls]
            simp
          · rw [run, NoticeBoard.append_holding, hrun]
      | collect =>
          obtain ⟨rounds, last, answers, hcalls, hrun, hsays⟩ := ih []
          rw [List.map_nil, List.nil_append] at hcalls
          refine ⟨texts :: rounds, last, texts.map Dialect.noticeOfText :: answers, ?_, ?_,
            .cons ?_ hsays⟩
          · rw [List.flatMap_cons, round, List.append_assoc, List.append_assoc, ← hcalls]
            rfl
          · rw [run, Dialect.collect_holding, except_ok_bind]
            dsimp only
            rw [hrun]
            rfl
          · exact Dialect.forall₂_says texts

end NoticeCall

/-- Collecting takes the whole list of a connection, and says one notice for each of its texts, in
order. Over any history of the list, each notice is part of the first collection behind it and of no
other. -/
theorem postgresql_notices_drained (b : NoticeBoard) (texts : List String) :
    (∃ notices, Dialect.postgresql.collect (b.holding texts) = .ok (notices, b.holding []) ∧
        List.Forall₂ Says texts notices) ∧
      ∀ calls, ∃ rounds last answers,
        texts.map .append ++ calls = rounds.flatMap NoticeCall.round ++ last.map .append ∧
          NoticeCall.run calls (b.holding texts) = .ok (answers, b.holding last) ∧
          List.Forall₂ (List.Forall₂ Says) rounds answers :=
  ⟨⟨_, Dialect.collect_holding b texts, Dialect.forall₂_says texts⟩,
    fun calls => NoticeCall.run_holding calls b texts⟩

example : (NoticeCall.run [.append "WARNING:  two\nlines\n", .collect, .collect]
    (({} : NoticeBoard).holding ["NOTICE:  one\n"])).map Prod.fst =
      .ok [[{ message := "one" }, { state := some "01000", message := "two\nlines" }], []] := by
  decide

end StatementWalk
