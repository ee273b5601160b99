import BulkInsert.Proofs.Batch.Outcome
import BulkInsert.Proofs.Statement.Shape

/-!
# Refused insertions

An insertion is refused for what its arguments are, or it goes to the connection. `Refuses`
lists the reasons in their order, each one under the condition that those before it do not
apply. The errors given for them are the statement errors, so the error of an insertion tells
which of the two happened, provided that the connection never reports such an error itself:
`insertRows_refused_iff`.

A statement is looked at twice, once to check it and once to extract its tuple. The two agree on
every text: what has a tuple is recognised, and what is recognised has a group. So the extraction
alone decides which statements go to the connection: `check_extractTuple_agree`.
-/

namespace BulkInsert.Batch

variable {σ S V : Type}

/-- `Refuses query size rows error`: what is wrong with the arguments of an insertion, the
first thing in the order in which they are looked at. -/
inductive Refuses (query : Text) : Nat → List (List V) → InsertError → Prop
  | noRows {size : Nat} : Refuses query size [] .noArguments
  | noSize {rows : List (List V)} : rows ≠ [] → Refuses query 0 rows (.invalidBatchSize 0)
  | notRecognized {size : Nat} {rows : List (List V)} {error : InsertError} :
      rows ≠ [] → 1 ≤ size → Statement.check query = .error error →
      Refuses query size rows error
  | noTuple {size : Nat} {rows : List (List V)} {error : InsertError} :
      rows ≠ [] → 1 ≤ size → Statement.check query = .ok () →
      Statement.extractTuple query = .error error → Refuses query size rows error

/-- What is found wrong is the first reason to refuse. -/
theorem examine_eq_error_iff {query : Text} {size : Nat} {rows : List (List V)}
    {error : InsertError} :
    examine query size rows = .error error ↔ Refuses query size rows error := by
  constructor
  · intro h
    rcases rows with - | ⟨row, rows⟩
    · obtain rfl := Except.error.inj h
      exact .noRows
    · have hrows : row :: rows ≠ [] := List.cons_ne_nil row rows
      rcases Nat.eq_zero_or_pos size with rfl | hsize
      · obtain rfl := Except.error.inj h
        exact .noSize hrows
      · rw [examine_of_pos hrows hsize] at h
        split at h
        · rename_i hcheck
          obtain rfl := Except.error.inj h
          exact .notRecognized hrows hsize hcheck
        · rename_i hcheck
          exact .noTuple hrows hsize hcheck h
  · intro h
    cases h with
    | noRows => rfl
    | noSize hrows =>
        obtain ⟨row, rows, rfl⟩ := List.exists_cons_of_ne_nil hrows
        rfl
    | notRecognized hrows hsize hcheck => rw [examine_of_pos hrows hsize, hcheck]
    | noTuple hrows hsize hcheck htuple =>
        rw [examine_of_pos hrows hsize, hcheck]
        exact htuple

/-- The check of a statement gives statement errors only. -/
theorem isStatementError_of_check {query : Text} {error : InsertError}
    (h : Statement.check query = .error error) : error.isStatementError = true := by
  simp only [Statement.check] at h
  split at h
  · obtain rfl := Except.error.inj h
    rfl
  · split at h
    · obtain rfl := Except.error.inj h
      rfl
    · cases h

/-- So does the extraction of its tuple. -/
theorem isStatementError_of_extractTuple {query : Text} {error : InsertError}
    (h : Statement.extractTuple query = .error error) : error.isStatementError = true := by
  rw [Statement.extractTuple] at h
  split at h
  · obtain rfl := Except.error.inj h
    rfl
  · split at h
    · obtain rfl := Except.error.inj h
      rfl
    · cases h

/-- Whatever the reason to refuse, the error is a statement error. -/
theorem Refuses.isStatementError {query : Text} {size : Nat} {rows : List (List V)}
    {error : InsertError} (h : Refuses query size rows error) :
    error.isStatementError = true := by
  cases h with
  | noRows => rfl
  | noSize => rfl
  | notRecognized _ _ hcheck => exact isStatementError_of_check hcheck
  | noTuple _ _ _ htuple => exact isStatementError_of_extractTuple htuple

/-! ### What a connection reports -/

/-- The error that a call returned. -/
def Call.error? : Call S V → Option InsertError
  | prepare _ (.error error) | execute _ _ (.error error) | close _ (.error error) => some error
  | prepare _ (.ok _) | execute _ _ (.ok _) | close _ (.ok _) => none

/-- A failure that counts is the error of its call. -/
theorem Call.error?_of_failure? {call : Call S V} {error : InsertError}
    (h : call.failure? = some error) : call.error? = some error := by
  rcases call with ⟨sql, _ | _⟩ | ⟨handle, arguments, _ | _⟩ | ⟨handle, _ | _⟩
  all_goals first | exact h | cases h

/-- The error with which a trace ends was returned by one of its calls. -/
theorem Traced.exists_error? {query tuple : Text} {slot : Slot S} {cut : List (List (List V))}
    {calls : List (Call S V)} {error : InsertError}
    (h : Traced query tuple slot cut calls (.error error)) (hne : calls ≠ []) :
    ∃ call ∈ calls, call.error? = some error := by
  rcases h.tells with ⟨error', ⟨earlier, call, later, rfl, hfailure, -⟩, hresult⟩ | ⟨-, hends⟩
  · obtain rfl := Except.error.inj hresult
    exact ⟨call, by simp, Call.error?_of_failure? hfailure⟩
  · obtain ⟨earlier, handle, rfl⟩ := hends.resolve_left hne
    exact ⟨.close handle (.error error), by simp, rfl⟩

/-- With nothing open and windows left, the first thing is a prepare. -/
theorem Traced.exists_prepare {query tuple : Text} {window : List (List V)}
    {rest : List (List (List V))} {calls : List (Call S V)} {result : Except InsertError Unit}
    (h : Traced query tuple none (window :: rest) calls result) :
    ∃ sql prepared later, calls = .prepare sql prepared :: later := by
  cases h with
  | prepareFailed => exact ⟨_, _, _, rfl⟩
  | prepared => exact ⟨_, _, _, rfl⟩

/-- An accepted insertion begins with a prepare. -/
theorem exists_prepare_callsOf (conn : Connection σ S V) {query tuple : Text} {size : Nat}
    {rows : List (List V)} (h : examine query size rows = .ok tuple) (s : σ) :
    ∃ sql prepared later, callsOf conn query size rows s = .prepare sql prepared :: later := by
  have htraced := traced_callsOf conn h s
  have hrows : rows ≠ [] := by
    rintro rfl
    cases h
  obtain ⟨window, rest, hcut⟩ := List.exists_cons_of_ne_nil (windows_ne_nil hrows size)
  rw [hcut] at htraced
  exact htraced.exists_prepare

/-- **An insertion is refused exactly when it makes no call.** On a connection that never
reports a statement error itself, an insertion ends with one if and only if it makes no call.
That error is the first reason to refuse, and the state of the connection is what it was.
Without a reason to refuse, the first call is a prepare, and no error is a statement error. -/
theorem insertRows_refused_iff (conn : Connection σ S V) (query : Text) (size : Nat)
    (rows : List (List V)) (s : σ)
    (hreports : ∀ call ∈ callsOf conn query size rows s, ∀ error ∈ call.error?,
      error.isStatementError = false) :
    let calls := callsOf conn query size rows s
    let out := insertRows conn query size rows s
    ((∃ error, out.1 = .error error ∧ error.isStatementError = true) ↔ calls = []) ∧
      (∀ error, Refuses query size rows error → calls = [] ∧ out = (.error error, s)) ∧
      ((∀ error, ¬ Refuses query size rows error) →
        (∃ sql prepared later, calls = .prepare sql prepared :: later) ∧
          ∀ error, out.1 = .error error → error.isStatementError = false) := by
  intro calls out
  cases hexamine : examine query size rows with
  | error error =>
      have hrefuses := examine_eq_error_iff.1 hexamine
      have hcalls : calls = [] := callsOf_of_examine_error conn hexamine s
      have hout : out = (.error error, s) := insertRows_of_examine_error hexamine s
      refine ⟨iff_of_true ⟨error, by rw [hout], hrefuses.isStatementError⟩ hcalls, ?_,
        fun hnone => absurd hrefuses (hnone error)⟩
      intro error' hrefuses'
      obtain rfl : error = error' :=
        Except.error.inj (hexamine.symm.trans (examine_eq_error_iff.2 hrefuses'))
      exact ⟨hcalls, hout⟩
  | ok tuple =>
      have htraced := traced_callsOf conn hexamine s
      obtain ⟨sql, prepared, later, hcalls⟩ := exists_prepare_callsOf conn hexamine s
      have hne : calls ≠ [] := by simp [calls, hcalls]
      have hreported : ∀ error, out.1 = .error error → error.isStatementError = false := by
        intro error herror
        change (insertRows conn query size rows s).1 = .error error at herror
        rw [herror] at htraced
        obtain ⟨call, hmem, hcall⟩ := htraced.exists_error? hne
        exact hreports call hmem error hcall
      refine ⟨iff_of_false ?_ hne, ?_, fun _ => ⟨⟨sql, prepared, later, hcalls⟩, hreported⟩⟩
      · rintro ⟨error, herror, hstatement⟩
        rw [hreported error herror] at hstatement
        cases hstatement
      · intro error hrefuses
        rw [examine_eq_error_iff.2 hrefuses] at hexamine
        cases hexamine

/-- A connection whose second prepare and first close fail: the insertion is not refused, and
its error is that of the prepare. Over the same connection a blank tuple is refused. -/
theorem insertRows_refused_iff_of_failures :
    let query := "INSERT INTO t VALUES (?)".toList
    let blank := "INSERT INTO t VALUES ( )".toList
    let rows := [[1], [2], [3]]
    let plan : Recording.FailurePlan :=
      { prepare := [⟨2, .prepareFailed "gone".toList⟩]
        close := [⟨1, .executionFailed "busy".toList⟩] }
    let start : Recording.Recorder Nat := { plan, tracing := false }
    let calls (query : Text) := callsOf Recording.Recorder.connection query 2 rows start
    let out (query : Text) := insertRows Recording.Recorder.connection query 2 rows start
    (∀ call ∈ calls query, ∀ error ∈ call.error?, error.isStatementError = false) ∧
      (∀ call ∈ calls blank, ∀ error ∈ call.error?, error.isStatementError = false) ∧
      (out query).1 = .error (.prepareFailed "gone".toList) ∧
      (∃ sql prepared later, calls query = .prepare sql prepared :: later) ∧
      Refuses blank 2 rows .unparsableValues ∧ calls blank = [] ∧
      out blank = (.error .unparsableValues, start) := by
  intro query blank rows plan start calls out
  have hreports : ∀ call ∈ calls query, ∀ error ∈ call.error?,
      error.isStatementError = false := by decide +kernel
  have hreports' : ∀ call ∈ calls blank, ∀ error ∈ call.error?,
      error.isStatementError = false := by decide +kernel
  have haccepted : examine query 2 rows = .ok "(?)".toList :=
    examine_eq_ok (by simp [rows]) (by decide) (by decide) (by decide)
  have hnone : ∀ error, ¬ Refuses query 2 rows error := by
    intro error hrefuses
    rw [← examine_eq_error_iff, haccepted] at hrefuses
    cases hrefuses
  have hblank : Refuses blank 2 rows .unparsableValues :=
    .noTuple (by simp [rows]) (by decide) (by decide) (by decide)
  obtain ⟨-, -, hcalled⟩ := insertRows_refused_iff Recording.Recorder.connection query 2 rows
    start hreports
  obtain ⟨-, hrefused, -⟩ := insertRows_refused_iff Recording.Recorder.connection blank 2 rows
    start hreports'
  exact ⟨hreports, hreports', by decide +kernel, (hcalled hnone).1, hblank, hrefused _ hblank⟩

/-! ### What goes to the connection -/

/-- What passes the examination: some rows, a positive batch size, and a statement whose tuple is
extracted. -/
theorem examine_eq_ok_iff {query tuple : Text} {size : Nat} {rows : List (List V)} :
    examine query size rows = .ok tuple ↔
      rows ≠ [] ∧ 1 ≤ size ∧ Statement.extractTuple query = .ok tuple := by
  constructor
  · intro h
    refine ⟨?_, of_examine_eq_ok h⟩
    rintro rfl
    cases h
  · rintro ⟨hrows, hsize, htuple⟩
    exact examine_eq_ok hrows hsize (Statement.check_of_extractTuple htuple) htuple

/-- **Check and extraction agree, and the extraction decides.** A statement with a tuple is
recognised. One that is not recognised has no tuple. One that is recognised has a chosen group, and
only a blank pair in it is a reason not to extract it. So, for some rows and a positive batch size,
an insertion makes calls on its connection exactly when the tuple of its statement is extracted. -/
theorem check_extractTuple_agree (conn : Connection σ S V) (query : Text) (size : Nat)
    (rows : List (List V)) (s : σ) :
    (∀ tuple, Statement.extractTuple query = .ok tuple → Statement.check query = .ok ()) ∧
      (∀ error, Statement.check query = .error error →
        Statement.extractTuple query = .error .unparsableValues) ∧
      (Statement.check query = .ok () →
        ∃ front k, Statement.Chosen (Statement.stripClause query) front k ∧
          (Statement.BlankPair k.tuple →
            Statement.extractTuple query = .error .unparsableValues) ∧
          (¬ Statement.BlankPair k.tuple → Statement.extractTuple query = .ok k.tuple)) ∧
      (callsOf conn query size rows s ≠ [] ↔
        rows ≠ [] ∧ 1 ≤ size ∧ ∃ tuple, Statement.extractTuple query = .ok tuple) := by
  refine ⟨fun _ => Statement.check_of_extractTuple,
    fun _ => Statement.extractTuple_of_check_error, Statement.exists_chosen_of_check, ?_⟩
  cases hexamine : examine query size rows with
  | error error =>
      refine iff_of_false (fun hne => hne (callsOf_of_examine_error conn hexamine s)) ?_
      rintro ⟨hrows, hsize, tuple, htuple⟩
      rw [examine_eq_ok_iff.2 ⟨hrows, hsize, htuple⟩] at hexamine
      cases hexamine
  | ok tuple =>
      obtain ⟨sql, prepared, later, hcalls⟩ := exists_prepare_callsOf conn hexamine s
      obtain ⟨hrows, hsize, htuple⟩ := examine_eq_ok_iff.1 hexamine
      exact iff_of_true (by simp [hcalls]) ⟨hrows, hsize, tuple, htuple⟩

end BulkInsert.Batch
