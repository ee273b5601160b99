import BulkInsert.Proofs.Batch.Run
import BulkInsert.Proofs.Batch.Windows

/-!
# Insertions over two connections

Two connections are compared by a relation of their states. When related states give equal
results and stay related at every prepare, execute and close, a whole insertion does too:
`Simulation.insertRows`. Which rows are inserted may differ as well, as long as they are
related one by one, so the relation decides what the comparison is about: equal rows over
different connections, or different rows over the same one.
-/

namespace BulkInsert.Batch

variable {σ σ' S V W : Type}

/-- Two outcomes are the **same up to** a relation of states: the results are equal, and the
states related. -/
def SameUpTo {α : Type} (R : σ → σ' → Prop) (out : α × σ) (out' : α × σ') : Prop :=
  out.1 = out'.1 ∧ R out.2 out'.2

/-- A **simulation** between two connections, for a relation of rows and one of states: what
an insertion does with related windows keeps the states related and gives equal results. -/
structure Simulation (conn : Connection σ S V) (conn' : Connection σ' S W)
    (P : List V → List W → Prop) (R : σ → σ' → Prop) : Prop where
  prepare {s : σ} {s' : σ'} : R s s' → ∀ query tuple width,
    SameUpTo R (prepareWidth conn query tuple width s) (prepareWidth conn' query tuple width s')
  execute {s : σ} {s' : σ'} {window : List (List V)} {window' : List (List W)} :
    R s s' → List.Forall₂ P window window' → ∀ c : Cached S,
    SameUpTo R (executeWindow conn c window s) (executeWindow conn' c window' s')
  close {s : σ} {s' : σ'} : R s s' → ∀ c : Cached S,
    SameUpTo R (c.close conn s) (c.close conn' s')

/-- An outcome that is the same up to states has the same result. -/
theorem SameUpTo.exists_eq {α : Type} {R : σ → σ' → Prop} {result : α} {s : σ} {out' : α × σ'}
    (h : SameUpTo R (result, s) out') : ∃ s', out' = (result, s') ∧ R s s' :=
  ⟨out'.2, Prod.ext h.1.symm rfl, h.2⟩

section

variable {conn : Connection σ S V} {conn' : Connection σ' S W} {P : List V → List W → Prop}
  {R : σ → σ' → Prop} {query tuple : Text} {s : σ} {s' : σ'}

/-- For every run there is one over related windows that does the same. -/
theorem Simulation.exists_runs (sim : Simulation conn conn' P R) {slot : Slot S}
    {cut : List (List (List V))} {cut' : List (List (List W))}
    {out : Except InsertError Unit × σ} (h : Runs conn query tuple slot cut s out)
    (hcut : List.Forall₂ (List.Forall₂ P) cut cut') (hs : R s s') :
    ∃ out', Runs conn' query tuple slot cut' s' out' ∧ SameUpTo R out out' := by
  -- Related windows have equally many rows, so at every point the same rule applies to both.
  induction h generalizing cut' s' with
  | done =>
      cases hcut
      exact ⟨_, .done, rfl, hs⟩
  | @finished c s =>
      cases hcut
      exact ⟨_, .finished, sim.close hs c⟩
  | @prepareFailed window rest s t error hprep =>
      obtain ⟨window', rest', hwindow, -, rfl⟩ := List.forall₂_cons_left_iff.1 hcut
      have hsame := sim.prepare hs query tuple window.length
      rw [hprep, hwindow.length_eq] at hsame
      obtain ⟨t', hprep', ht⟩ := hsame.exists_eq
      exact ⟨_, .prepareFailed hprep', rfl, ht⟩
  | @prepared window rest s t handle out hprep _ ih =>
      obtain ⟨window', rest', hwindow, -, rfl⟩ := List.forall₂_cons_left_iff.1 hcut
      have hsame := sim.prepare hs query tuple window.length
      rw [hprep] at hsame
      obtain ⟨t', hprep', ht⟩ := hsame.exists_eq
      obtain ⟨out', hrun, hout⟩ := ih hcut ht
      rw [hwindow.length_eq] at hprep' hrun
      exact ⟨out', .prepared hprep' hrun, hout⟩
  | @replaced c window rest s out hw _ ih =>
      obtain ⟨out', hrun, hout⟩ := ih hcut (sim.close hs c).2
      obtain ⟨window', rest', hwindow, -, rfl⟩ := List.forall₂_cons_left_iff.1 hcut
      rw [hwindow.length_eq] at hw
      exact ⟨out', .replaced hw hrun, hout⟩
  | @executeFailed c window rest s t error hw hexec =>
      obtain ⟨window', rest', hwindow, -, rfl⟩ := List.forall₂_cons_left_iff.1 hcut
      have hsame := sim.execute hs hwindow c
      rw [hexec] at hsame
      obtain ⟨t', hexec', ht⟩ := hsame.exists_eq
      rw [hwindow.length_eq] at hw
      exact ⟨_, .executeFailed hw hexec', rfl, (sim.close ht c).2⟩
  | @executed c window rest s t out hw hexec _ ih =>
      obtain ⟨window', rest', hwindow, hrest, rfl⟩ := List.forall₂_cons_left_iff.1 hcut
      have hsame := sim.execute hs hwindow c
      rw [hexec] at hsame
      obtain ⟨t', hexec', ht⟩ := hsame.exists_eq
      obtain ⟨out', hrun, hout⟩ := ih hrest ht
      rw [hwindow.length_eq] at hw
      exact ⟨out', .executed hw hexec' hrun, hout⟩

/-- The examination of an insertion asks of the rows only whether there are any. -/
theorem examine_congr {rows : List (List V)} {rows' : List (List W)}
    (h : rows.length = rows'.length) (query : Text) (size : Nat) :
    examine query size rows = examine query size rows' := by
  have hempty : rows.isEmpty = rows'.isEmpty := by
    rw [Bool.eq_iff_iff, List.isEmpty_iff_length_eq_zero, List.isEmpty_iff_length_eq_zero, h]
  rw [examine, examine, hempty]

/-- **Insertions over related connections.** They return the same result and leave the states
related, whether or not their arguments are accepted. -/
theorem Simulation.insertRows (sim : Simulation conn conn' P R) (query : Text) (size : Nat)
    {rows : List (List V)} {rows' : List (List W)} (hrows : List.Forall₂ P rows rows')
    (hs : R s s') :
    SameUpTo R (insertRows conn query size rows s) (insertRows conn' query size rows' s') := by
  have hexamine' := examine_congr hrows.length_eq query size
  cases hexamine : examine query size rows with
  | error error =>
      rw [insertRows_of_examine_error hexamine,
        insertRows_of_examine_error (hexamine'.symm.trans hexamine)]
      exact ⟨rfl, hs⟩
  | ok tuple =>
      rw [insertRows_of_examine hexamine,
        insertRows_of_examine (hexamine'.symm.trans hexamine)]
      obtain ⟨out', hrun, hout⟩ :=
        sim.exists_runs (runs_insertWindows conn query tuple none (windows size rows) s)
          (forall₂_windows hrows size) hs
      rwa [← hrun.eq_insertWindows]

end

end BulkInsert.Batch
