import Mathlib.Data.List.Forall2
import Mathlib.Data.List.TakeWhile
import StatementWalk.Proofs.DigitFields
import StatementWalk.Proofs.MessageTags
import StatementWalk.Proofs.Reporting
import StatementWalk.Proofs.StrippedText

/-!
# States and codes of messages

A message comes with a state in brackets and a code in parentheses. Both are read back as they were
written, whatever the code: any integer, in the digits of any script, with or without blanks before
it. The state of printed output is dropped where the code is zero, so that reporting the message
later gives it as plain output. This is so exactly for printed output and for messages whose state
and code cannot be read; every other message is reported as a diagnostic with its state and code.
-/

namespace StatementWalk

open Text Number

/-- Five capital letters or digits of ASCII. -/
structure IsState (cs : List Char) : Prop where
  length_eq : cs.length = 5
  chars : ∀ c ∈ cs, ('0' ≤ c ∧ c ≤ '9') ∨ ('A' ≤ c ∧ c ≤ 'Z')

/-- Digits of any script, at least one, with a minus before them or without: the number that they
write, and how many there are. -/
inductive CodeText : List Char → Int → Nat → Prop where
  | plain {digits : List Char} {ds : List Nat} (hds : ds ≠ [])
      (hdigits : List.Forall₂ (fun c d => digitValue? c = some d) digits ds) :
      CodeText digits (ofDigits ds) ds.length
  | minus {digits : List Char} {ds : List Nat} (hds : ds ≠ [])
      (hdigits : List.Forall₂ (fun c d => digitValue? c = some d) digits ds) :
      CodeText ('-' :: digits) (-(ofDigits ds : Int)) ds.length

/-- The text begins with a state in brackets and, after blanks or at once, a code in parentheses, of
so many digits. -/
inductive Tagged : List Char → String → Int → Nat → Prop where
  | intro {state blanks code rest : List Char} {n : Int} {width : Nat} (hstate : IsState state)
      (hblanks : ∀ c ∈ blanks, isBlank c = true) (hcode : CodeText code n width) :
      Tagged ('[' :: (state ++ ']' :: (blanks ++ '(' :: (code ++ ')' :: rest))))
        (String.ofList state) n width

theorem isDigit_of_value? {c : Char} {d : Nat} (h : digitValue? c = some d) : isDigit c = true := by
  rw [isDigit, h]
  rfl

theorem isDigit_of_forall₂ {cs : List Char} {ds : List Nat}
    (h : List.Forall₂ (fun c d => digitValue? c = some d) cs ds) : ∀ c ∈ cs, isDigit c = true := by
  induction h with
  | nil => simp
  | cons hc _ ih => exact List.forall_mem_cons.mpr ⟨isDigit_of_value? hc, ih⟩

theorem forall₂_of_isDigit {cs : List Char} (h : ∀ c ∈ cs, isDigit c = true) :
    ∃ ds, List.Forall₂ (fun c d => digitValue? c = some d) cs ds := by
  induction cs with
  | nil => exact ⟨[], .nil⟩
  | cons c rest ih =>
      obtain ⟨d, hd⟩ := Option.isSome_iff_exists.mp (h c List.mem_cons_self)
      obtain ⟨ds, hds⟩ := ih fun x hx => h x (List.mem_cons_of_mem _ hx)
      exact ⟨d :: ds, .cons hd hds⟩

theorem digitRun_of_forall₂ {cs : List Char} {ds : List Nat} (hds : ds ≠ [])
    (h : List.Forall₂ (fun c d => digitValue? c = some d) cs ds) :
    DigitRun anyNumerals.value? cs ds := by
  induction h with
  | nil => exact absurd rfl hds
  | @cons c d cs ds hc hrest ih =>
      cases hrest with
      | nil => exact .last hc
      | cons hx hmore => exact .next hc (ih (List.cons_ne_nil _ _))

namespace CodeText

variable {code : List Char} {n : Int} {width : Nat}

theorem writes (h : CodeText code n width) :
    ∃ negative ds, anyNumerals.Writes code negative ds ∧ n = signed negative (ofDigits ds) ∧
      ds.length = width := by
  cases h with
  | @plain _ ds hds hdigits =>
      have hwrites : anyNumerals.Writes ([] ++ ([] ++ (code ++ []))) false ds :=
        .intro nofun .missing (digitRun_of_forall₂ hds hdigits) nofun
      simp only [List.nil_append, List.append_nil] at hwrites
      exact ⟨false, _, hwrites, rfl, rfl⟩
  | @minus digits ds hds hdigits =>
      have hwrites : anyNumerals.Writes ([] ++ (['-'] ++ (digits ++ []))) true ds :=
        .intro nofun .minus (digitRun_of_forall₂ hds hdigits) nofun
      simp only [List.nil_append, List.append_nil, List.singleton_append] at hwrites
      exact ⟨true, _, hwrites, rfl, rfl⟩

theorem width_le (h : CodeText code n width) : width ≤ code.length := by
  cases h with
  | plain hds hdigits => exact Nat.le_of_eq hdigits.length_eq.symm
  | minus hds hdigits => exact Nat.le_succ_of_le (Nat.le_of_eq hdigits.length_eq.symm)

theorem intOfText_eq (h : CodeText code n width) (hwidth : width ≤ digitLimit) :
    intOfText (String.ofList code) = .ok n := by
  obtain ⟨negative, ds, hwrites, rfl, rfl⟩ := h.writes
  rw [intOfText, String.toList_ofList, readInt_of_writes hwrites, if_neg (Nat.not_lt.mpr hwidth)]
  rfl

theorem scan_digits {digits : List Char} (h : ∀ c ∈ digits, isDigit c = true) (rest : List Char) :
    (digits ++ ')' :: rest).takeWhile isDigit = digits ∧
      (digits ++ ')' :: rest).dropWhile isDigit = ')' :: rest :=
  Calendar.scan_all h fun c hc => by
    obtain rfl := Option.some.inj hc
    decide

theorem ne_minus_of_value? {c : Char} {d : Nat} (h : digitValue? c = some d) : c ≠ '-' := by
  rintro rfl
  have hnone : digitValue? '-' = none := by decide
  rw [hnone] at h
  cases h

theorem codeText?_eq (h : CodeText code n width) (rest : List Char) :
    Dialect.codeText? (code ++ ')' :: rest) = some code := by
  cases h with
  | plain hds hdigits =>
      obtain ⟨htake, hdrop⟩ := scan_digits (isDigit_of_forall₂ hdigits) rest
      cases hdigits with
      | nil => exact absurd rfl hds
      | cons hc hmore =>
          rw [List.cons_append] at htake hdrop ⊢
          unfold Dialect.codeText?
          split
          rename_i sign body hsplit
          split at hsplit
          · rename_i hminus
            exact absurd (List.cons.inj hminus).1 (ne_minus_of_value? hc)
          · cases hsplit
            simp only [htake, hdrop, List.nil_append]
  | minus hds hdigits =>
      obtain ⟨htake, hdrop⟩ := scan_digits (isDigit_of_forall₂ hdigits) rest
      cases hdigits with
      | nil => exact absurd rfl hds
      | cons hc hmore =>
          simp only [List.cons_append] at htake hdrop ⊢
          simp only [Dialect.codeText?, htake, hdrop, List.singleton_append]

/-- What is taken for a code is one, and a parenthesis closes it. -/
theorem of_codeText? {cs text : List Char} (h : Dialect.codeText? cs = some text) :
    ∃ rest n width, cs = text ++ ')' :: rest ∧ CodeText text n width := by
  unfold Dialect.codeText? at h
  split at h
  rename_i sign body hsplit
  dsimp only at h
  have hbody : body.takeWhile isDigit ++ body.dropWhile isDigit = body :=
    List.takeWhile_append_dropWhile
  have hdigits : ∀ c ∈ body.takeWhile isDigit, isDigit c = true := fun c hc =>
    List.mem_takeWhile_imp hc
  obtain ⟨ds, hds⟩ := forall₂_of_isDigit hdigits
  split at h
  · rename_i c more rest htake hdrop
    cases h
    rw [htake, hdrop] at hbody
    rw [htake] at hds
    have hne : ds ≠ [] := by
      rintro rfl
      cases hds
    rw [htake]
    split at hsplit
    · cases hsplit
      exact ⟨rest, _, _, by rw [← hbody]; rfl, .minus hne hds⟩
    · cases hsplit
      exact ⟨rest, _, _, by rw [← hbody]; rfl, .plain hne hds⟩
  · cases h

theorem forall₂_toDigits (n : Nat) :
    ∃ ds, ds ≠ [] ∧ List.Forall₂ (fun c d => digitValue? c = some d) (Nat.toDigits 10 n) ds ∧
      ofDigits ds = n := by
  refine ⟨(Nat.toDigits 10 n).map (·.toNat - 48), ?_, ?_, ?_⟩
  · rw [Ne, List.map_eq_nil_iff, ← List.length_eq_zero_iff]
    exact Nat.ne_of_gt Nat.length_toDigits_pos
  · rw [List.forall₂_map_right_iff, List.forall₂_same]
    intro c hc
    have hdigit := Nat.isDigit_of_mem_toDigits (by decide) (by decide) hc
    rw [Char.isDigit, Bool.and_eq_true, decide_eq_true_iff, decide_eq_true_iff] at hdigit
    have hascii : isAsciiDigit c = true := decide_eq_true hdigit
    rw [digitValue?_of_ascii (Calendar.ascii_of_isAsciiDigit hascii),
      asciiNumerals_value?_of_digit hascii]
  · rw [ofDigits, List.foldl_map]
    exact Nat.ofDigitChars_ten_toDigits

theorem toString (n : Int) : ∃ width, CodeText (ToString.toString n).toList n width := by
  cases n with
  | ofNat m =>
      obtain ⟨ds, hds, hdigits, hm⟩ := forall₂_toDigits m
      have hcode := CodeText.plain hds hdigits
      rw [hm, ← Nat.toList_repr] at hcode
      exact ⟨_, hcode⟩
  | negSucc m =>
      obtain ⟨ds, hds, hdigits, hm⟩ := forall₂_toDigits (m + 1)
      have hcode := CodeText.minus hds hdigits
      have htext : (ToString.toString (Int.negSucc m)).toList = '-' :: Nat.toDigits 10 (m + 1) := by
        show ("-" ++ Nat.repr (m + 1)).toList = _
        rw [String.toList_append, Nat.toList_repr]
        rfl
      rw [hm, ← htext] at hcode
      exact ⟨_, hcode⟩

end CodeText

theorem isStateChar_iff {c : Char} :
    Dialect.isStateChar c = true ↔ ('0' ≤ c ∧ c ≤ '9') ∨ ('A' ≤ c ∧ c ≤ 'Z') := by
  simp only [Dialect.isStateChar, Bool.or_eq_true, decide_eq_true_eq]

namespace Tagged

variable {cs : List Char} {state : String} {n : Int} {width : Nat}

/-- A tag is found, with its state and the text of its code. -/
theorem messageTag?_eq (h : Tagged cs state n width) :
    ∃ code, Dialect.messageTag? cs = some (state, String.ofList code) ∧ CodeText code n width := by
  obtain ⟨hstate, hblanks, hcode⟩ := h
  rename_i state blanks code rest
  refine ⟨code, ?_, hcode⟩
  have htake : (state ++ ']' :: (blanks ++ '(' :: (code ++ ')' :: rest))).take 5 = state := by
    rw [← hstate.length_eq, List.take_left]
  have hdrop : (state ++ ']' :: (blanks ++ '(' :: (code ++ ')' :: rest))).drop 5 =
      ']' :: (blanks ++ '(' :: (code ++ ')' :: rest)) := by
    rw [← hstate.length_eq, List.drop_left]
  have hall : state.all Dialect.isStateChar = true :=
    List.all_eq_true.mpr fun c hc => isStateChar_iff.mpr (hstate.chars c hc)
  have hblank : (blanks ++ '(' :: (code ++ ')' :: rest)).dropWhile isBlank =
      '(' :: (code ++ ')' :: rest) :=
    dropLeading_append hblanks fun c hc => by
      obtain rfl := Option.some.inj hc
      decide
  simp only [Dialect.messageTag?, htake, hdrop, hstate.length_eq, hall, and_self, if_true, hblank,
    hcode.codeText?_eq, Option.map_some]

theorem of_messageTag? {text : String} (h : Dialect.messageTag? cs = some (state, text)) :
    ∃ n width, Tagged cs state n width ∧ CodeText text.toList n width := by
  unfold Dialect.messageTag? at h
  split at h
  · rename_i rest
    dsimp only at h
    split at h
    · rename_i more hclose
      split at h
      · rename_i hstate
        split at h
        · rename_i body hopen
          obtain ⟨code, hcode, hpair⟩ := Option.map_eq_some_iff.mp h
          obtain ⟨rfl, rfl⟩ := Prod.mk.inj hpair
          obtain ⟨tail, n, width, rfl, hwrites⟩ := CodeText.of_codeText? hcode
          have hblanks : more.takeWhile isBlank ++ '(' :: (code ++ ')' :: tail) = more := by
            rw [← hopen, List.takeWhile_append_dropWhile]
          have hrest : rest.take 5 ++ ']' :: more = rest := by
            rw [← hclose, List.take_append_drop]
          refine ⟨n, width, ?_, by rwa [String.toList_ofList]⟩
          rw [← hrest, ← hblanks, List.take_left' hstate.1]
          exact .intro ⟨hstate.1, fun c hc =>
            isStateChar_iff.mp (List.all_eq_true.mp hstate.2 c hc)⟩
            (fun c hc => List.mem_takeWhile_imp hc) hwrites
        · cases h
      · cases h
    · cases h
  · cases h

theorem written (hstate : IsState state.toList) (n : Int) :
    ∃ width, Tagged ("[" ++ state ++ "] (" ++ toString n ++ ")").toList state n width := by
  obtain ⟨width, hcode⟩ := CodeText.toString n
  have hblanks : ∀ c ∈ [' '], isBlank c = true := List.forall_mem_singleton.mpr rfl
  have htagged : Tagged ('[' :: (state.toList ++ ']' ::
      ([' '] ++ '(' :: ((toString n).toList ++ ')' :: []))))
      (String.ofList state.toList) n width := .intro hstate hblanks hcode
  have htext : ("[" ++ state ++ "] (" ++ toString n ++ ")").toList =
      '[' :: (state.toList ++ ']' :: ([' '] ++ '(' :: ((toString n).toList ++ ')' :: []))) := by
    simp only [String.toList_append, List.append_assoc]
    rfl
  rw [htext]
  rw [String.ofList_toList] at htagged
  exact ⟨width, htagged⟩

theorem width_le (h : Tagged cs state n width) : width ≤ cs.length := by
  obtain ⟨-, -, hcode⟩ := h
  have hwidth := hcode.width_le
  simp only [List.length_cons, List.length_append]
  omega

/-- Codes that are not too long are told from each other. -/
theorem unique {state' : String} {n' : Int} {width' : Nat} (h : Tagged cs state n width)
    (h' : Tagged cs state' n' width') (hwidth : width ≤ digitLimit)
    (hwidth' : width' ≤ digitLimit) :
    state = state' ∧ n = n' := by
  obtain ⟨code, htag, hcode⟩ := h.messageTag?_eq
  obtain ⟨code', htag', hcode'⟩ := h'.messageTag?_eq
  rw [htag] at htag'
  obtain ⟨rfl, htext⟩ := Prod.mk.inj (Option.some.inj htag')
  have hread := hcode.intOfText_eq hwidth
  rw [htext, hcode'.intOfText_eq hwidth'] at hread
  exact ⟨rfl, (Except.ok.inj hread).symm⟩

end Tagged

/-- A message of the server: its tag and what was said, both of which can be shown as texts. -/
structure TaggedMessage where
  tag : Value
  said : Value
  tagText : String
  saidText : String
  display_tag : tag.display = .ok tagText
  display_said : said.display = .ok saidText

/-- What becomes of a message: a notice, and the line in which it is reported. -/
structure ReportedMessage where
  notice : Notice
  line : String

namespace TaggedMessage

variable {m : TaggedMessage} {n : Notice} {line : String}

def parts (m : TaggedMessage) : List Value := [m.tag, m.said]

/-- The code of the tag, if there is one, has no more digits than are read. -/
def HasShortCode (m : TaggedMessage) : Prop :=
  ∀ state code width, Tagged m.tagText.toList state code width → width ≤ digitLimit

/-- There is no tag, or it is the one of printed output. -/
def IsPlain (m : TaggedMessage) : Prop :=
  ∀ state code width, Tagged m.tagText.toList state code width → code = 0 ∧ state = "01000"

/-- The notice has the state and the code of the tag, less the state of printed output. -/
structure Decodes (m : TaggedMessage) (n : Notice) : Prop where
  written : ∀ (state : String) (code : Int), IsState state.toList →
    m.tagText = "[" ++ state ++ "] (" ++ toString code ++ ")" →
    n.code = code ∧ n.state = if code = 0 ∧ state = "01000" then none else some state
  tagged : ∀ state code width, Tagged m.tagText.toList state code width →
    n.code = code ∧ n.state = if code = 0 ∧ state = "01000" then none else some state
  untagged : (∀ state code width, ¬Tagged m.tagText.toList state code width) →
    n.code = 0 ∧ n.state = none
  message_eq : n.message = String.ofList (stripChars (Dialect.dropTags m.saidText.toList))

/-- The notice is reported as plain output where the message is plain, and else as a diagnostic with
the state and the code of the tag. -/
structure Reports (m : TaggedMessage) (n : Notice) (line : String) : Prop where
  isInfo_iff : n.classify.isInfo = true ↔ m.IsPlain
  plain : m.IsPlain → n.classify = { kind := .info, message := n.message } ∧
    line = "SQLOUT: " ++ n.message
  diagnostic : ∀ state code width, Tagged m.tagText.toList state code width →
    ¬(code = 0 ∧ state = "01000") →
    n.classify = { kind := .diagnostic, message := n.message, code, state := some state } ∧
      line = "***** Database Message *****\nCode:   " ++ toString code ++ "\nMessage:  " ++
        n.message ++ "\nSQLState: " ++ state

theorem hasShortCode_of_length (h : m.tagText.toList.length ≤ digitLimit) : m.HasShortCode :=
  fun _ _ _ htag => Nat.le_trans htag.width_le h

theorem noticeOfParts_untagged (h : Dialect.messageTag? m.tagText.toList = none) :
    Dialect.noticeOfParts m.parts =
      .ok { message := String.ofList (stripChars (Dialect.dropTags m.saidText.toList)) } := by
  show Dialect.noticeOfMessage m.tag m.said = _
  rw [Dialect.noticeOfMessage, m.display_said, except_ok_bind, m.display_tag, except_ok_bind, h]
  rfl

theorem noticeOfParts_tagged {state text : String} {code : Int}
    (h : Dialect.messageTag? m.tagText.toList = some (state, text))
    (hcode : intOfText text = .ok code) :
    Dialect.noticeOfParts m.parts =
      .ok { code, state := if code = 0 ∧ state = "01000" then none else some state,
            message := String.ofList (stripChars (Dialect.dropTags m.saidText.toList)) } := by
  show Dialect.noticeOfMessage m.tag m.said = _
  rw [Dialect.noticeOfMessage, m.display_said, except_ok_bind, m.display_tag, except_ok_bind, h]
  dsimp only
  rw [hcode]
  rfl

/-- A notice decodes the message if it has what one tag says, and no tag says anything else. -/
theorem decodes_of_tagged (h : m.HasShortCode) {state : String} {code : Int} {width : Nat}
    (htag : Tagged m.tagText.toList state code width) :
    m.Decodes { code, state := if code = 0 ∧ state = "01000" then none else some state,
                message := String.ofList (stripChars (Dialect.dropTags m.saidText.toList)) } := by
  have htagged : ∀ state' code' width', Tagged m.tagText.toList state' code' width' →
      code = code' ∧ (if code = 0 ∧ state = "01000" then none else some state) =
        if code' = 0 ∧ state' = "01000" then none else some state' := by
    intro state' code' width' htag'
    obtain ⟨rfl, rfl⟩ := htag.unique htag' (h _ _ _ htag) (h _ _ _ htag')
    exact ⟨rfl, rfl⟩
  refine ⟨fun state' code' hstate htext => ?_, htagged, fun hnone => absurd htag (hnone _ _ _), rfl⟩
  obtain ⟨width', hwritten⟩ := Tagged.written hstate code'
  rw [← htext] at hwritten
  exact htagged _ _ _ hwritten

theorem decodes_of_untagged (h : ∀ state code width, ¬Tagged m.tagText.toList state code width) :
    m.Decodes { message := String.ofList (stripChars (Dialect.dropTags m.saidText.toList)) } := by
  refine ⟨fun state code hstate htext => ?_, fun _ _ _ htag => absurd htag (h _ _ _),
    fun _ => ⟨rfl, rfl⟩, rfl⟩
  obtain ⟨width, hwritten⟩ := Tagged.written hstate code
  rw [← htext] at hwritten
  exact absurd hwritten (h _ _ _)

theorem exists_decodes (h : m.HasShortCode) :
    ∃ n, Dialect.noticeOfParts m.parts = .ok n ∧ m.Decodes n := by
  cases htag : Dialect.messageTag? m.tagText.toList with
  | none =>
      refine ⟨_, noticeOfParts_untagged htag,
        decodes_of_untagged fun state code width htagged => ?_⟩
      obtain ⟨text, hfound, -⟩ := htagged.messageTag?_eq
      rw [htag] at hfound
      cases hfound
  | some found =>
      obtain ⟨state, text⟩ := found
      obtain ⟨code, width, htagged, hcode⟩ := Tagged.of_messageTag? htag
      have hread := hcode.intOfText_eq (h _ _ _ htagged)
      rw [String.ofList_toList] at hread
      exact ⟨_, noticeOfParts_tagged htag hread, decodes_of_tagged h htagged⟩

/-- What a decoded tag says settles how the notice is reported. -/
theorem Decodes.isInfo_iff (h : m.Decodes n) : n.classify.isInfo = true ↔ m.IsPlain := by
  rw [Notice.isInfo_classify]
  constructor
  · rintro ⟨hcode, hstate⟩ state code width htag
    obtain ⟨hn, hs⟩ := h.tagged _ _ _ htag
    by_contra hprinted
    rw [hstate, if_neg hprinted] at hs
    cases hs
  · intro hplain
    by_cases htag : ∃ state code width, Tagged m.tagText.toList state code width
    · obtain ⟨state, code, width, htag⟩ := htag
      obtain ⟨hn, hs⟩ := h.tagged _ _ _ htag
      obtain ⟨hzero, hprinted⟩ := hplain _ _ _ htag
      exact ⟨hn.trans hzero, hs.trans (if_pos ⟨hzero, hprinted⟩)⟩
    · exact h.untagged fun state code width htagged => htag ⟨state, code, width, htagged⟩

theorem Decodes.reports (h : m.Decodes n) (hline : n.classify.render = .ok line) :
    m.Reports n line := by
  refine ⟨h.isInfo_iff, fun hplain => ?_, fun state code width htag hprinted => ?_⟩
  · have hclass : n.classify = { kind := .info, message := n.message } :=
      if_pos (n.isInfo_classify.mp (h.isInfo_iff.mpr hplain))
    rw [hclass] at hline
    exact ⟨hclass, (Except.ok.inj hline).symm⟩
  · obtain ⟨hcode, hstate⟩ := h.tagged _ _ _ htag
    rw [if_neg hprinted] at hstate
    have hclass : n.classify =
        { kind := .diagnostic, message := n.message, code, state := some state } := by
      have hdiagnostic : ¬(n.code = 0 ∧ n.state = none) := fun hnone =>
        Option.some_ne_none state (hstate.symm.trans hnone.2)
      rw [Notice.classify, if_neg hdiagnostic, hcode, hstate]
    refine ⟨hclass, ?_⟩
    rw [hclass] at hline
    obtain ⟨text, htext, hline⟩ := except_bind_eq_ok.mp hline
    unfold intText at htext
    split at htext
    · cases htext
      exact (Except.ok.inj hline).symm
    · cases htext

theorem exists_reports (h : m.HasShortCode) :
    ∃ r : ReportedMessage, Dialect.noticeOfParts m.parts = .ok r.notice ∧
      r.notice.classify.render = .ok r.line ∧ m.Decodes r.notice ∧ m.Reports r.notice r.line := by
  obtain ⟨n, hn, hdecodes⟩ := exists_decodes h
  obtain ⟨line, hline⟩ := Notice.render_eq_ok (Dialect.noticeOfParts_lt hn)
  exact ⟨⟨n, line⟩, hn, hline, hdecodes, hdecodes.reports hline⟩

/-- One message after the other, each has its notice and its line. -/
theorem exists_reports_all {ms : List TaggedMessage} (h : ∀ m ∈ ms, m.HasShortCode) :
    ∃ rs : List ReportedMessage,
      (ms.map parts).mapM Dialect.noticeOfParts = .ok (rs.map ReportedMessage.notice) ∧
      Rendered (rs.map ReportedMessage.notice) (rs.map ReportedMessage.line) ∧
      List.Forall₂ (fun m r => m.Decodes r.notice ∧ m.Reports r.notice r.line) ms rs := by
  induction ms with
  | nil => exact ⟨[], rfl, .nil, .nil⟩
  | cons m rest ih =>
      obtain ⟨r, hr, hline, hdecodes, hreports⟩ := exists_reports (h m List.mem_cons_self)
      obtain ⟨rs, hrs, hlines, hall⟩ := ih fun x hx => h x (List.mem_cons_of_mem _ hx)
      refine ⟨r :: rs, ?_, .cons hline hlines, .cons ⟨hdecodes, hreports⟩ hall⟩
      rw [List.map_cons, List.mapM_cons, hr, except_ok_bind, hrs]
      rfl

end TaggedMessage

/-- The messages of a cursor in which no code is too long are all collected, each with the state and
the code of its tag; and a report on the chain of them classifies and writes each, as plain output
exactly where there is no tag or the one of printed output, and else with its state and code. -/
theorem message_tags_decode_and_report {σ : Type} (board : NoticeBoard) (ms : List TaggedMessage)
    (sink : Sink) (w : World σ) (hshort : ∀ m ∈ ms, m.HasShortCode) :
    ∃ rs : List ReportedMessage,
      Dialect.mssql.collect { board with messages := ms.map TaggedMessage.parts } =
        .ok (rs.map ReportedMessage.notice, { board with messages := ms.map TaggedMessage.parts }) ∧
      (reportChain sink (WarningRecord.chain
          ((rs.map ReportedMessage.notice).map WarningRecord.single))).run w =
        (.ok (rs.map fun r => r.notice.classify),
          ⟨w.driver, sink.offers (rs.map ReportedMessage.line) w.journal⟩) ∧
      List.Forall₂ (fun m r => m.Decodes r.notice ∧ m.Reports r.notice r.line) ms rs := by
  obtain ⟨rs, hrs, hlines, hall⟩ := TaggedMessage.exists_reports_all hshort
  have hcollect (b : NoticeBoard) : Dialect.mssql.collect b = do
      return (← b.messages.mapM Dialect.noticeOfParts, b) := rfl
  refine ⟨rs, ?_, ?_, hall⟩
  · rw [hcollect, hrs]
    rfl
  · have hchain : WarningRecord.noticesOf (WarningRecord.chain
        ((rs.map ReportedMessage.notice).map WarningRecord.single)) =
          rs.map ReportedMessage.notice := by
      rw [WarningRecord.noticesOf_chain, List.map_map]
      exact List.map_id _
    rw [reportChain, hchain, World.run_onJournal, run_reportNotices_written hlines, List.map_map]
    rfl

def threeMessages : List TaggedMessage :=
  [⟨.text "[01000] (0)", .text "a", "[01000] (0)", "a", rfl, rfl⟩,
    ⟨.text "[42S02](-٢٠٨)", .text "b", "[42S02](-٢٠٨)", "b", rfl, rfl⟩,
    ⟨.text "HY000", .text "c", "HY000", "c", rfl, rfl⟩]

theorem three_messages_decode_and_report :
    (∀ m ∈ threeMessages, m.HasShortCode) ∧
    ∃ rs : List ReportedMessage,
      rs.map ReportedMessage.notice = [⟨0, none, "a"⟩, ⟨-208, some "42S02", "b"⟩, ⟨0, none, "c"⟩] ∧
      List.Forall₂ (fun m r => m.Decodes r.notice ∧ m.Reports r.notice r.line)
        threeMessages rs := by
  have hshort : ∀ m ∈ threeMessages, m.HasShortCode := by
    have hlength : ∀ m ∈ threeMessages, m.tagText.toList.length ≤ digitLimit := by decide
    exact fun m hm => TaggedMessage.hasShortCode_of_length (hlength m hm)
  obtain ⟨rs, hcollect, -, hall⟩ := message_tags_decode_and_report {} threeMessages Sink.collecting
    (⟨(), {}⟩ : World Unit) hshort
  refine ⟨hshort, rs, ?_, hall⟩
  have hnotices : (Dialect.mssql.collect
      { messages := threeMessages.map TaggedMessage.parts }).map Prod.fst =
        .ok [⟨0, none, "a"⟩, ⟨-208, some "42S02", "b"⟩, ⟨0, none, "c"⟩] := by decide
  rw [hcollect] at hnotices
  exact Except.ok.inj hnotices

end StatementWalk
