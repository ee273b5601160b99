import BulkInsert.Config.Number

/-!
# Values passed over

The value of a member that the settings do not know is passed over, whatever it is and
however deep it nests. `skipFrom` keeps the list of the brackets that are open and walks
the document once, a token at a time, so no depth is too great for it.
-/

namespace BulkInsert.Config

/-- A kind of bracket. -/
inductive Bracket where
  | sequence
  | map
  deriving DecidableEq, Repr

/-- What has to come next. -/
inductive Awaiting where
  /-- A value. -/
  | value
  /-- A key, its colon and its value. -/
  | key
  /-- What may stand behind a value: a comma or the bracket that closes. -/
  | next
  deriving DecidableEq, Repr

/-- The character that closes a bracket. -/
def Bracket.closer : Bracket → Char
  | sequence => ']'
  | map => '\x7d'

/-- What a bracket holds: values, or keys with values. -/
def Bracket.content : Bracket → Awaiting
  | sequence => .value
  | map => .key

/-- Passes over a value that is neither a sequence nor an object. -/
def skipScalar : Text → Read Text
  | [] => .error .endOfText
  | c :: rest =>
    if c = 'n' then expectWord "ull".toList rest
    else if c = 't' then expectWord "rue".toList rest
    else if c = 'f' then expectWord "alse".toList rest
    else if c = '\x22' then skipString rest
    else if c = '-' ∨ c.isDigit then skipNumber (c :: rest)
    else .error .malformed

/-- Passes over a key and its colon. -/
def skipKey : Text → Read Text
  | [] => .error .endOfText
  | c :: rest =>
    if c = '\x22' then do
      expectWord [':'] (skipSpace (← skipString rest))
    else .error .malformed

theorem length_of_skipScalar {t rest : Text} (h : skipScalar t = .ok rest) :
    rest.length < t.length := by
  cases t with
  | nil => simp [skipScalar] at h
  | cons c t =>
    simp only [skipScalar] at h
    split at h
    · have := length_of_expectWord h; simp only [List.length_cons]; omega
    · split at h
      · have := length_of_expectWord h; simp only [List.length_cons]; omega
      · split at h
        · have := length_of_expectWord h; simp only [List.length_cons]; omega
        · split at h
          · have := length_of_skipString h; simp only [List.length_cons]; omega
          · split at h
            · exact length_of_skipNumber h
            · simp at h

theorem length_of_skipKey {t rest : Text} (h : skipKey t = .ok rest) :
    rest.length < t.length := by
  cases t with
  | nil => simp [skipKey] at h
  | cons c t =>
    simp only [skipKey] at h
    split at h
    · cases hs : skipString t with
      | error e => simp [hs, bind, Except.bind] at h
      | ok u =>
        simp only [hs, bind, Except.bind] at h
        have h₁ := length_of_skipString hs
        have h₂ := length_skipSpace u
        have h₃ := length_of_expectWord h
        simp only [List.length_cons]; omega
    · simp at h

/-- Passes over what is left of a value, given the brackets that are open, the innermost
first, and what has to come next. -/
def skipFrom (awaiting : Awaiting) (brackets : List Bracket) (t : Text) : Read Text :=
  match awaiting, brackets, _h : skipSpace t with
  | .next, [], _ => .ok t
  | .next, b :: outer, c :: rest =>
    if c = ',' then skipFrom b.content (b :: outer) rest
    else if c = b.closer then skipFrom .next outer rest
    else .error .malformed
  | .key, _, c :: rest =>
    match _hk : skipKey (c :: rest) with
    | .error e => .error e
    | .ok tail => skipFrom .value brackets tail
  | .value, _, c :: rest =>
    if c = '[' then
      match _hs : skipSpace rest with
      | ']' :: tail => skipFrom .next brackets tail
      | _ => skipFrom .value (.sequence :: brackets) rest
    else if c = '\x7b' then
      match _hs : skipSpace rest with
      | '\x7d' :: tail => skipFrom .next brackets tail
      | _ => skipFrom .key (.map :: brackets) rest
    else
      match _hv : skipScalar (c :: rest) with
      | .error e => .error e
      | .ok tail => skipFrom .next brackets tail
  | _, _, [] => .error .endOfText
termination_by t.length
decreasing_by
  all_goals have hspace := length_of_skipSpace _h
  · exact hspace
  · exact hspace
  · have := length_of_skipKey _hk; simp only [List.length_cons] at this; omega
  · have := length_of_skipSpace _hs; omega
  · exact hspace
  · have := length_of_skipSpace _hs; omega
  · exact hspace
  · have := length_of_skipScalar _hv; simp only [List.length_cons] at this; omega

theorem length_of_skipFrom {awaiting : Awaiting} {brackets : List Bracket} {t rest : Text}
    (h : skipFrom awaiting brackets t = .ok rest) : rest.length ≤ t.length := by
  fun_induction skipFrom awaiting brackets t with
  | case1 => simp only [Except.ok.injEq] at h; simp [h]
  | case2 _ _ _ _ hs ih => have := length_of_skipSpace hs; have := ih h; omega
  | case3 _ _ _ _ hs _ ih => have := length_of_skipSpace hs; have := ih h; omega
  | case4 => simp at h
  | case5 => simp at h
  | case6 _ _ _ _ hs _ hk ih =>
    have := length_of_skipSpace hs
    have := length_of_skipKey hk
    have := ih h
    simp only [List.length_cons] at *; omega
  | case7 _ _ _ _ hs hr ih =>
    have := length_of_skipSpace hs
    have := length_of_skipSpace hr
    have := ih h
    omega
  | case8 _ _ _ _ hs ih => have := length_of_skipSpace hs; have := ih h; omega
  | case9 _ _ _ _ hs hr _ ih =>
    have := length_of_skipSpace hs
    have := length_of_skipSpace hr
    have := ih h
    omega
  | case10 _ _ _ _ hs _ ih => have := length_of_skipSpace hs; have := ih h; omega
  | case11 => simp at h
  | case12 _ _ _ _ hs _ _ _ hv ih =>
    have := length_of_skipSpace hs
    have := length_of_skipScalar hv
    have := ih h
    simp only [List.length_cons] at *; omega
  | case13 => simp at h

/-- Passes over one value. -/
def skipValue (t : Text) : Read Text := skipFrom .value [] t

end BulkInsert.Config
