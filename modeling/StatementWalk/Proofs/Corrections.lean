import StatementWalk.Dialect.Reading

/-!
# Which correction applies

The table of corrections is gone through in order, and a value is classified on the way: is it a
large object, and does the driver call it by the name of one of its own classes? Classifying a
driver object may fail. Otherwise one correction decides how the cell is read once more, or the
value is left as it is.
-/

namespace StatementWalk.Dialect

variable {d : Dialect} {v : Value} {c : Column} {f : Fault}

theorem largeObjectKind_of_call {outcome : Except Fault Value}
    (hread : v.call? "read" = some outcome) :
    v.largeObjectKind = v.largeObjectType.map fun declared =>
      some (if Value.namesCharacters declared then .character else .binary) := by
  unfold Value.largeObjectKind
  split
  · cases hread
  · cases hread
  · cases hread
  · rw [hread]
    cases v.largeObjectType <;> rfl

theorem largeObjectKind_of_no_call (hread : v.call? "read" = none) :
    ∃ kind, v.largeObjectKind = .ok kind := by
  unfold Value.largeObjectKind
  split
  · exact ⟨_, rfl⟩
  · exact ⟨_, rfl⟩
  · exact ⟨_, rfl⟩
  · rw [hread]
    exact ⟨_, rfl⟩

theorem largeObjectKind_eq_error : v.largeObjectKind = .error f ↔
    (∃ outcome, v.call? "read" = some outcome) ∧ v.largeObjectType = .error f := by
  cases hread : v.call? "read" with
  | none =>
      obtain ⟨kind, hkind⟩ := largeObjectKind_of_no_call hread
      simp [hkind]
  | some outcome =>
      rw [largeObjectKind_of_call hread]
      cases v.largeObjectType with
      | error e => simp [Except.map]
      | ok declared => simp [Except.map]

theorem isKind_of_kind {kind? : Option LargeObjectKind} (h : v.largeObjectKind = .ok kind?)
    (kind : LargeObjectKind) : isKind kind v = .ok (kind? == some kind) := by
  rw [isKind, h]
  rfl

theorem isOfClass_of_name {name : String} (h : v.implementationName = .ok name)
    (prefixName : String) :
    isOfClass prefixName v = .ok (prefixName.toList.isPrefixOf name.toList) := by
  rw [isOfClass, h]
  rfl

theorem isKind_eq_ok {kind : LargeObjectKind} {applies : Bool} : isKind kind v = .ok applies ↔
    ∃ kind?, v.largeObjectKind = .ok kind? ∧ (kind? == some kind) = applies := by
  rw [isKind, bind_pure_comp]
  exact except_map_eq_ok

theorem isOfClass_eq_ok {prefixName : String} {applies : Bool} :
    isOfClass prefixName v = .ok applies ↔
    ∃ name, v.implementationName = .ok name ∧
      prefixName.toList.isPrefixOf name.toList = applies := by
  rw [isOfClass, bind_pure_comp]
  exact except_map_eq_ok

theorem largeObjectKind_of_not_isKind (hbinary : isKind .binary v = .ok false)
    (hcharacter : isKind .character v = .ok false) : v.largeObjectKind = .ok none := by
  obtain ⟨kind?, hkind, hnotBinary⟩ := isKind_eq_ok.mp hbinary
  rw [isKind_of_kind hkind, Except.ok.injEq] at hcharacter
  cases kind? with
  | none => exact hkind
  | some kind =>
      cases kind with
      | binary => cases hnotBinary
      | character => cases hcharacter

/-- A correction whose test gives an answer leaves the faults to those that follow it. -/
theorem firstApplying_eq_error_of_ok {q : Correction} {rest : List Correction} {applies : Bool}
    (hq : q.applies v c = .ok applies) : firstApplying v c (q :: rest) = .error f ↔
      applies = false ∧ firstApplying v c rest = .error f := by
  rw [firstApplying, hq, except_ok_bind]
  cases applies <;> simp [pure, Except.pure]

theorem firstApplying_of_error {q : Correction} {rest : List Correction}
    (hq : q.applies v c = .error f) : firstApplying v c (q :: rest) = .error f := by
  rw [firstApplying, hq]
  rfl

/-- Either the first correction applies, or it does not and the others are gone through. -/
theorem firstApplying_cons_eq_ok {q : Correction} {rest : List Correction}
    {found : Option Correction} : firstApplying v c (q :: rest) = .ok found ↔
      (q.applies v c = .ok true ∧ found = some q) ∨
        (q.applies v c = .ok false ∧ firstApplying v c rest = .ok found) := by
  rw [firstApplying]
  cases q.applies v c with
  | error e => simp [except_error_bind]
  | ok applies => cases applies <;> simp [except_ok_bind, pure, Except.pure, eq_comm]

theorem firstApplying_ne_error {qs : List Correction}
    (h : ∀ q ∈ qs, ∃ applies, q.applies v c = .ok applies) : firstApplying v c qs ≠ .error f := by
  induction qs with
  | nil => nofun
  | cons q rest ih =>
      obtain ⟨applies, hq⟩ := h q List.mem_cons_self
      intro hf
      exact ih (fun x hx => h x (List.mem_cons_of_mem _ hx))
        ((firstApplying_eq_error_of_ok hq).mp hf).2

/-- The tests for the driver's own classes fail where the class of a value has no name. -/
theorem vendorCorrections_eq_error {rest : List Correction}
    (hrest : firstApplying v c rest ≠ .error f) :
    firstApplying v c (d.vendorCorrections ++ rest) = .error f ↔
      d = oracle ∧ v.implementationName = .error f := by
  cases d with
  | oracle =>
      simp only [vendorCorrections, List.cons_append, List.nil_append, true_and]
      cases hname : v.implementationName with
      | error e =>
          have hclass : isOfClass "oracle.sql.TIMESTAMP" v = .error e := by
            rw [isOfClass, hname]
            rfl
          rw [firstApplying_of_error hclass]
          simp
      | ok name =>
          rw [firstApplying_eq_error_of_ok (isOfClass_of_name hname _),
            firstApplying_eq_error_of_ok (isOfClass_of_name hname _)]
          simp [hrest]
  | _ => simp [vendorCorrections, hrest]

theorem correctionOf_eq_error_iff : d.correctionOf v c = .error f ↔
    v.largeObjectKind = .error f ∨
      (v.largeObjectKind = .ok none ∧ d = oracle ∧ v.implementationName = .error f) := by
  rw [correctionOf, corrections, List.append_assoc]
  cases hkind : v.largeObjectKind with
  | error e =>
      have hbinary : isKind .binary v = .error e := by
        rw [isKind, hkind]
        rfl
      rw [List.cons_append, firstApplying_of_error hbinary]
      simp
  | ok kind? =>
      rw [List.cons_append, List.cons_append, List.nil_append,
        firstApplying_eq_error_of_ok (isKind_of_kind hkind _),
        firstApplying_eq_error_of_ok (isKind_of_kind hkind _), vendorCorrections_eq_error]
      · cases kind? with
        | none => simp
        | some kind => cases kind <;> simp
      · refine firstApplying_ne_error fun q hq => ?_
        rcases List.mem_cons.mp hq with rfl | hq
        · exact ⟨_, rfl⟩
        · obtain rfl := List.mem_singleton.mp hq
          exact ⟨_, rfl⟩

/-- The class by which the driver calls the value has a name that begins like this. -/
def Wraps (prefixName : String) (v : Value) : Prop :=
  ∃ name, v.implementationName = .ok name ∧ prefixName.toList <+: name.toList

/-- How a cell with the value is read once more, and nothing where the value stays as it is. -/
inductive Rereads (d : Dialect) (v : Value) (c : Column) : Option Reading → Prop where
  | binary (hkind : v.largeObjectKind = .ok (some .binary)) : Rereads d v c (some .bytes)
  | character (hkind : v.largeObjectKind = .ok (some .character)) : Rereads d v c (some .text)
  | wrappedTimestamp (hkind : v.largeObjectKind = .ok none) (hd : d = oracle)
      (hclass : Wraps "oracle.sql.TIMESTAMP" v) : Rereads d v c (some .timestamp)
  | wrappedDate (hkind : v.largeObjectKind = .ok none) (hd : d = oracle)
      (hclass : Wraps "oracle.sql.DATE" v) :
      Rereads d v c (some (if d.isTimestampColumn c then .timestamp else .date))
  | bareDate (hdate : isBareDate v = true) (hc : d.isTimestampColumn c = true) :
      Rereads d v c (some .timestamp)
  | uncanonical (hkind : v.largeObjectKind = .ok none)
      (hclass : d = oracle → ¬Wraps "oracle.sql.DATE" v) (hv : v.isCanonical = false) :
      Rereads d v c (some .text)
  | settled (hv : v.isCanonical = true)
      (hdate : isBareDate v = true → d.isTimestampColumn c = false) : Rereads d v c none

theorem wraps_of_isOfClass {prefixName : String} (h : isOfClass prefixName v = .ok true) :
    Wraps prefixName v := by
  obtain ⟨name, hname, hstarts⟩ := isOfClass_eq_ok.mp h
  exact ⟨name, hname, List.isPrefixOf_iff_prefix.mp hstarts⟩

theorem not_wraps_of_isOfClass {prefixName : String} (h : isOfClass prefixName v = .ok false) :
    ¬Wraps prefixName v := by
  rintro ⟨name, hname, hstarts⟩
  rw [isOfClass_of_name hname, List.isPrefixOf_iff_prefix.mpr hstarts] at h
  cases h

/-- The driver's own corrections come before the rest of the table. -/
theorem vendorCorrections_eq_ok {rest : List Correction} {found : Option Correction}
    (hkind : v.largeObjectKind = .ok none)
    (h : firstApplying v c (d.vendorCorrections ++ rest) = .ok found) :
    Rereads d v c (found.map (·.reading c)) ∨
      ((d = oracle → ¬Wraps "oracle.sql.DATE" v) ∧ firstApplying v c rest = .ok found) := by
  cases d with
  | oracle =>
      simp only [vendorCorrections, List.cons_append, List.nil_append] at h
      rcases firstApplying_cons_eq_ok.mp h with ⟨hclass, rfl⟩ | ⟨-, h⟩
      · exact .inl (.wrappedTimestamp hkind rfl (wraps_of_isOfClass hclass))
      rcases firstApplying_cons_eq_ok.mp h with ⟨hclass, rfl⟩ | ⟨hclass, h⟩
      · exact .inl (.wrappedDate hkind rfl (wraps_of_isOfClass hclass))
      · exact .inr ⟨fun _ => not_wraps_of_isOfClass hclass, h⟩
  | _ => exact .inr ⟨nofun, h⟩

/-- The correction that is found says how the cell is read once more. -/
theorem rereads_of_correctionOf {found : Option Correction} (h : d.correctionOf v c = .ok found) :
    Rereads d v c (found.map (·.reading c)) := by
  rw [correctionOf, corrections, List.append_assoc] at h
  rcases firstApplying_cons_eq_ok.mp h with ⟨hbinary, rfl⟩ | ⟨hbinary, h⟩
  · obtain ⟨kind?, hkind, heq⟩ := isKind_eq_ok.mp hbinary
    exact .binary (hkind.trans (congrArg _ (eq_of_beq heq)))
  rcases firstApplying_cons_eq_ok.mp h with ⟨hcharacter, rfl⟩ | ⟨hcharacter, h⟩
  · obtain ⟨kind?, hkind, heq⟩ := isKind_eq_ok.mp hcharacter
    exact .character (hkind.trans (congrArg _ (eq_of_beq heq)))
  have hkind := largeObjectKind_of_not_isKind hbinary hcharacter
  rcases vendorCorrections_eq_ok hkind h with hvendor | ⟨hclass, h⟩
  · exact hvendor
  rcases firstApplying_cons_eq_ok.mp h with ⟨hdate, rfl⟩ | ⟨hdate, h⟩
  · have hboth : isBareDate v = true ∧ d.isTimestampColumn c = true := by simpa using hdate
    exact .bareDate hboth.1 hboth.2
  rcases firstApplying_cons_eq_ok.mp h with ⟨hv, rfl⟩ | ⟨hv, h⟩
  · exact .uncanonical hkind hclass (by simpa using hv)
  · cases h
    exact .settled (by simpa using hv) (by simpa using hdate)

theorem largeObjectKind_of_isCanonical (hv : v.isCanonical = true) :
    v.largeObjectKind = .ok none := by
  cases v with
  | bool | int | float | decimal | text | bytes | timestamp | date => rfl
  | _ => cases hv

theorem implementationName_of_isCanonical (hv : v.isCanonical = true) :
    ∃ name, v.implementationName = .ok name ∧
      name ∈ ["builtins.bool", "builtins.int", "builtins.float", "decimal.Decimal", "builtins.str",
        "builtins.bytes", "datetime.datetime", "datetime.date"] := by
  cases v with
  | bool | int | float | decimal | text | bytes | timestamp | date =>
      refine ⟨_, rfl, ?_⟩
      simp [Value.qualifiedName, Value.moduleName, Value.className]
  | _ => cases hv

theorem not_wraps_of_isCanonical (hv : v.isCanonical = true) {prefixName : String}
    (hown : prefixName ∈ ["oracle.sql.TIMESTAMP", "oracle.sql.DATE"]) : ¬Wraps prefixName v := by
  obtain ⟨name, hname, hmem⟩ := implementationName_of_isCanonical hv
  rintro ⟨name', hname', hstarts⟩
  obtain rfl : name = name' := Except.ok.inj (hname.symm.trans hname')
  have hapart : ∀ p ∈ ["oracle.sql.TIMESTAMP", "oracle.sql.DATE"],
      ∀ n ∈ ["builtins.bool", "builtins.int", "builtins.float", "decimal.Decimal", "builtins.str",
        "builtins.bytes", "datetime.datetime", "datetime.date"],
      p.toList.isPrefixOf n.toList = false := by decide
  have hnot := hapart _ hown _ hmem
  rw [List.isPrefixOf_iff_prefix.mpr hstarts] at hnot
  cases hnot

theorem exists_correctionOf_of_isCanonical (hv : v.isCanonical = true) (d : Dialect) (c : Column) :
    ∃ found, d.correctionOf v c = .ok found := by
  cases hfound : d.correctionOf v c with
  | ok found => exact ⟨found, rfl⟩
  | error f =>
      obtain ⟨name, hname, -⟩ := implementationName_of_isCanonical hv
      rcases correctionOf_eq_error_iff.mp hfound with hf | ⟨-, -, hf⟩
      · cases (largeObjectKind_of_isCanonical hv).symm.trans hf
      · cases hname.symm.trans hf

/-- A canonical value stays as it is, save a date in a column of timestamps. -/
theorem rereads_of_isCanonical (hv : v.isCanonical = true) {r : Option Reading} :
    Rereads d v c r ↔
      r = if isBareDate v && d.isTimestampColumn c then some .timestamp else none := by
  have hkind := largeObjectKind_of_isCanonical hv
  constructor
  · intro h
    cases h with
    | binary hother => cases hkind.symm.trans hother
    | character hother => cases hkind.symm.trans hother
    | wrappedTimestamp _ _ hclass => exact absurd hclass (not_wraps_of_isCanonical hv (by simp))
    | wrappedDate _ _ hclass => exact absurd hclass (not_wraps_of_isCanonical hv (by simp))
    | bareDate hdate hc => simp [hdate, hc]
    | uncanonical _ _ hother => cases hv.symm.trans hother
    | settled _ hdate => cases hbare : isBareDate v <;> simp [hdate, hbare]
  · rintro rfl
    cases hdate : isBareDate v with
    | false => exact .settled hv (by simp [hdate])
    | true =>
        cases hc : d.isTimestampColumn c with
        | true => exact .bareDate hdate hc
        | false => exact .settled hv fun _ => hc

theorem correctionOf_of_isCanonical (hv : v.isCanonical = true)
    (hdate : isBareDate v = true → d.isTimestampColumn c = false) :
    d.correctionOf v c = .ok none := by
  obtain ⟨found, hfound⟩ := exists_correctionOf_of_isCanonical hv d c
  have hreads := (rereads_of_isCanonical hv).mp (rereads_of_correctionOf hfound)
  have hnone : (isBareDate v && d.isTimestampColumn c) = false := by
    cases hbare : isBareDate v <;> simp [hdate, hbare]
  rw [hnone, if_neg (by simp), Option.map_eq_none_iff] at hreads
  rw [hfound, hreads]

/-- How a large object is read once more. -/
def readingOfKind : LargeObjectKind → Reading
  | .binary => .bytes
  | .character => .text

theorem rereads_of_kind {kind : LargeObjectKind} (hkind : v.largeObjectKind = .ok (some kind))
    {r : Option Reading} (h : Rereads d v c r) : r = some (readingOfKind kind) := by
  have hcanonical : v.isCanonical = false := by
    rw [← Bool.not_eq_true]
    intro hv
    cases hkind.symm.trans (largeObjectKind_of_isCanonical hv)
  cases h with
  | binary hother =>
      cases hkind.symm.trans hother
      rfl
  | character hother =>
      cases hkind.symm.trans hother
      rfl
  | wrappedTimestamp hother => cases hkind.symm.trans hother
  | wrappedDate hother => cases hkind.symm.trans hother
  | bareDate hdate =>
      cases v with
      | date => cases hcanonical
      | _ => cases hdate
  | uncanonical hother => cases hkind.symm.trans hother
  | settled hv => cases hcanonical.symm.trans hv

theorem exists_correctionOf_of_kind {kind : LargeObjectKind}
    (hkind : v.largeObjectKind = .ok (some kind)) (d : Dialect) (c : Column) :
    ∃ q, d.correctionOf v c = .ok (some q) ∧ q.reading c = readingOfKind kind := by
  cases hfound : d.correctionOf v c with
  | error f =>
      rcases correctionOf_eq_error_iff.mp hfound with hf | ⟨hf, -⟩
      · cases hkind.symm.trans hf
      · cases hkind.symm.trans hf
  | ok found =>
      have hreading := rereads_of_kind hkind (rereads_of_correctionOf hfound)
      obtain ⟨q, rfl, hq⟩ := Option.map_eq_some_iff.mp hreading
      exact ⟨q, rfl, hq⟩

end StatementWalk.Dialect
