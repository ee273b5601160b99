import BulkInsert.Config.Ignored

/-!
# Settings

The settings of an executor are its batch size. They are written as a JSON object with the
one member `batch_size`, and read from such an object, with other members passed over, or
from a sequence of just the size.

## Order of problems

The document is read from the left and the first problem decides. In particular a second
`batch_size` is reported at its key, before its value is looked at, and a missing one only
at the end of the object. Behind the settings only space may follow.
-/

namespace BulkInsert.Config

/-- The **settings** of an executor. -/
structure Settings where
  /-- The most rows sent with one statement. -/
  batchSize : Nat
  deriving DecidableEq, Repr

/-- The name of the member that holds the batch size. -/
def sizeKey : Text := "batch_size".toList

namespace Settings

/-- The settings as a compact document. -/
def write (s : Settings) : Text :=
  ['\x7b', '\x22'] ++ sizeKey ++ ['\x22', ':'] ++ Text.digitsOf s.batchSize ++ ['\x7d']

end Settings

/-! ### Reading -/

/-- What the value that a document goes on with is. Nothing is read behind the bracket that
opens a sequence or an object. -/
def findValue : Text → Read Found
  | [] => .error .endOfText
  | c :: rest =>
    if c = 'n' then (expectWord "ull".toList rest).map fun _ => .null
    else if c = 't' then (expectWord "rue".toList rest).map fun _ => .boolean true
    else if c = 'f' then (expectWord "alse".toList rest).map fun _ => .boolean false
    else if c = '\x22' then (readString rest).map fun (t, _) => .text t
    else if c = '[' then .ok .sequence
    else if c = '\x7b' then .ok .map
    else if c = '-' ∨ c.isDigit then (readNumber (c :: rest)).map fun (n, _) => n.found
    else .error .malformed

/-- The problem of a value of the wrong type: either it is no value, or it is reported as
what it is. -/
def rejectValue {α : Type} (expected : Expected) (t : Text) : Read α :=
  (findValue t).bind fun found => .error (.wrongType found expected)

/-- Reads a batch size: a whole number that fits into 64 bits. -/
def readSize (t : Text) : Read (Nat × Text) :=
  match skipSpace t with
  | [] => .error .endOfText
  | c :: rest =>
    if c = '-' ∨ c.isDigit then
      (readNumber (c :: rest)).bind fun
        | (.unsigned n, tail) => .ok (n, tail)
        | (.negative n, _) => .error (.wrongValue (.integer (-n)) .size)
        | (.fraction x, _) => .error (.wrongType (.fraction x) .size)
    else rejectValue .size (c :: rest)

/-- Reads the colon of a member. -/
def readColon (t : Text) : Read Text := expectWord [':'] (skipSpace t)

/-- Reads a sequence behind its opening bracket. Nothing but the closing bracket may stand
behind its one element, and behind a comma the grammar is broken even by the end of the
document. -/
def readSequence (t : Text) : Read (Settings × Text) :=
  match skipSpace t with
  | [] => .error .endOfText
  | ']' :: _ => .error .emptySequence
  | rest => do
    let (size, rest) ← readSize rest
    return (⟨size⟩, ← expectWord [']'] (skipSpace rest))

/-- Reads a key of an object, its quotes included. -/
def readKey : Text → Read (Text × Text)
  | [] => .error .endOfText
  | c :: rest => if c = '\x22' then readString rest else .error .malformed

/-- Reads the value of a member, given the size that an earlier member set: the size set
now, and the rest. -/
def readMember (size? : Option Nat) (key rest : Text) : Read (Option Nat × Text) :=
  if key = sizeKey then
    if size?.isSome then .error .duplicateSize
    else do
      let (size, rest) ← readSize (← readColon rest)
      return (some size, rest)
  else do
    return (size?, ← skipValue (← readColon rest))

/-! ### How much a reader takes -/

theorem rejectValue_ne_ok {α : Type} {expected : Expected} {t : Text} {a : α} :
    rejectValue expected t ≠ .ok a := by
  unfold rejectValue
  cases findValue t <;> simp [Except.bind]

theorem length_of_readSize {t rest : Text} {n : Nat} (h : readSize t = .ok (n, rest)) :
    rest.length ≤ t.length := by
  unfold readSize at h
  have hs := length_skipSpace t
  split at h
  · simp at h
  · rename_i c u hc
    rw [hc] at hs
    split at h
    · cases hn : readNumber (c :: u) with
      | error e => simp [hn, Except.bind] at h
      | ok p =>
        obtain ⟨number, tail⟩ := p
        have := length_of_readNumber hn
        cases number with
        | unsigned m =>
          simp only [hn, Except.bind, Except.ok.injEq, Prod.mk.injEq] at h
          rw [← h.2]; omega
        | negative m => simp [hn, Except.bind] at h
        | fraction x => simp [hn, Except.bind] at h
    · exact absurd h rejectValue_ne_ok

theorem length_of_readColon {t rest : Text} (h : readColon t = .ok rest) :
    rest.length ≤ t.length :=
  Nat.le_trans (length_of_expectWord h) (length_skipSpace t)

theorem length_of_readKey {t rest key : Text} (h : readKey t = .ok (key, rest)) :
    rest.length < t.length := by
  cases t with
  | nil => simp [readKey] at h
  | cons c t =>
    simp only [readKey] at h
    split at h
    · have := length_of_readString h
      simp only [List.length_cons]; omega
    · simp at h

theorem length_of_readMember {size? size'? : Option Nat} {key t rest : Text}
    (h : readMember size? key t = .ok (size'?, rest)) : rest.length ≤ t.length := by
  cases hc : readColon t with
  | error e =>
    simp only [readMember, hc, bind, Except.bind] at h
    split at h
    · split at h <;> simp at h
    · simp at h
  | ok u =>
    have h₁ := length_of_readColon hc
    simp only [readMember, hc, bind, Except.bind, pure, Except.pure] at h
    split at h
    · split at h
      · simp at h
      · rcases hz : readSize u with e | ⟨n, v⟩
        · simp [hz] at h
        · have h₂ := length_of_readSize hz
          simp only [hz, Except.ok.injEq, Prod.mk.injEq] at h
          rw [← h.2]; omega
    · rcases hv : skipValue u with e | v
      · simp [hv] at h
      · have h₂ := length_of_skipFrom hv
        simp only [hv, Except.ok.injEq, Prod.mk.injEq] at h
        rw [← h.2]; omega

/-! ### Documents -/

/-- Reads members up to the closing bracket of an object, given the size set so far. -/
def readMembers (size? : Option Nat) (t : Text) : Read (Settings × Text) :=
  match _hk : readKey (skipSpace t) with
  | .error e => .error e
  | .ok (key, rest) =>
    match _hm : readMember size? key rest with
    | .error e => .error e
    | .ok (size'?, rest) =>
      match _hs : skipSpace rest with
      | [] => .error .endOfText
      | c :: rest =>
        if c = ',' then readMembers size'? rest
        else if c = '\x7d' then
          match size'? with
          | some size => .ok (⟨size⟩, rest)
          | none => .error .missingSize
        else .error .malformed
termination_by t.length
decreasing_by
  have h₁ := length_skipSpace t
  have h₂ := length_of_readKey _hk
  have h₃ := length_of_readMember _hm
  have h₄ := length_of_skipSpace _hs
  omega

/-- Reads an object behind its opening bracket. -/
def readObject (t : Text) : Read (Settings × Text) :=
  match skipSpace t with
  | [] => .error .endOfText
  | '\x7d' :: _ => .error .missingSize
  | rest => readMembers none rest

/-- Reads the settings from a document. -/
def Settings.read (t : Text) : Read Settings := do
  let (settings, rest) ←
    match skipSpace t with
    | [] => .error .endOfText
    | '[' :: rest => readSequence rest
    | '\x7b' :: rest => readObject rest
    | rest => rejectValue .settings rest
  if (skipSpace rest).isEmpty then return settings else throw .malformed

end BulkInsert.Config
