import BulkInsert.Config.Settings
import BulkInsert.Proofs.Config.Values
import Mathlib.Data.List.DropRight

/-!
# Settings are read back

Settings that are written are read back, and so are all documents that say the same in
another way: an object with one member for the batch size among any others, with its key
escaped or not and space around the tokens. A second batch size is refused at its key.

`SizeMember` and `OtherMember` are the two kinds of members, and `Sized` are members of
which exactly one holds the batch size. The members of an object are read one after the
other, and all that one leaves to the next is the size that has been set. `Reads` says so of
a list of members, and it goes from two lists to the one with a comma between them.
-/

namespace BulkInsert.Config

/-- A member that holds the batch size `n`. -/
def SizeMember (n : Nat) (t : Text) : Prop :=
  ∃ key, Unescapes key sizeKey ∧ MemberOf key (Text.digitsOf n) t

/-- A member that holds any value and has another key. -/
def OtherMember (t : Text) : Prop :=
  ∃ key text value, Unescapes key text ∧ text ≠ sizeKey ∧ WellFormed .value value ∧
    MemberOf key value t

/-- `Sized n t`: members with commas between them, of which exactly one holds the batch size,
and that is `n`. -/
inductive Sized (n : Nat) : Text → Prop
  | size {t : Text} : SizeMember n t → Sized n t
  | before {t t' : Text} : OtherMember t → Sized n t' → Sized n (t ++ ',' :: t')
  | behind {t t' : Text} : Sized n t → OtherMember t' → Sized n (t ++ ',' :: t')

/-! ### One member -/

/-- The value of another member is passed over and leaves the size as it is. -/
theorem readMember_other {text value s s' rest : Text} (size? : Option Nat)
    (htext : text ≠ sizeKey) (hvalue : WellFormed .value value) (hs : Space s)
    (hs' : Space s') (hrest : Delimited rest) :
    readMember size? text (s ++ ':' :: (s' ++ (value ++ rest))) = .ok (size?, rest) := by
  have hcolon : readColon (s ++ ':' :: (s' ++ (value ++ rest))) =
      .ok (s' ++ (value ++ rest)) := by
    rw [readColon, hs.skipSpace_append_cons rfl]
    rfl
  simp only [readMember, if_neg htext, hcolon, bind, Except.bind,
    hvalue.skipValue_append hs' hrest]
  rfl

/-- A number that fits into 64 bits is read as a size. -/
theorem readSize_digitsOf {n : Nat} (h : n < UInt64.size) {s rest : Text} (hs : Space s)
    (hrest : Delimited rest) : readSize (s ++ (Text.digitsOf n ++ rest)) = .ok (n, rest) := by
  have hnumber := readNumber_digitsOf h hrest
  obtain ⟨c, t, hct, hc⟩ := (whole_digitsOf n).exists_cons
  rw [hct, List.cons_append] at hnumber ⊢
  simp only [readSize,
    hs.skipSpace_append_cons (solid_of_isDigit (.inr hc)).isSpace_eq, hc, or_true, if_true,
    hnumber, Except.bind]

/-- The value of the first size is read and sets the size. -/
theorem readMember_size {n : Nat} (h : n < UInt64.size) {s s' rest : Text} (hs : Space s)
    (hs' : Space s') (hrest : Delimited rest) :
    readMember none sizeKey (s ++ ':' :: (s' ++ (Text.digitsOf n ++ rest))) =
      .ok (some n, rest) := by
  have hcolon : readColon (s ++ ':' :: (s' ++ (Text.digitsOf n ++ rest))) =
      .ok (s' ++ (Text.digitsOf n ++ rest)) := by
    rw [readColon, hs.skipSpace_append_cons rfl]
    rfl
  simp only [readMember, if_true, Option.isSome_none, Bool.false_eq_true, if_false, hcolon,
    bind, Except.bind, readSize_digitsOf h hs' hrest]
  rfl

/-! ### Members one after the other -/

/-- What is read of members is a key and its value, and then what the next token asks for. -/
theorem readMembers_eq (size? : Option Nat) (t : Text) :
    readMembers size? t = (readKey (skipSpace t)).bind fun (key, rest) =>
      (readMember size? key rest).bind fun (size'?, rest') =>
        match skipSpace rest' with
        | [] => .error .endOfText
        | c :: tail =>
          if c = ',' then readMembers size'? tail
          else if c = '\x7d' then
            match size'? with
            | some n => .ok (⟨n⟩, tail)
            | none => .error .missingSize
          else .error .malformed := by
  rw [readMembers.eq_def]
  split
  · rename_i hkey
    rw [hkey, Except.bind]
  · rename_i hkey
    rw [hkey, Except.bind]
    split
    · rename_i hmember
      simp only [hmember, Except.bind]
    · rename_i size'? rest' hmember
      simp only [hmember, Except.bind]
      split
      · rename_i hnext
        rw [hnext]
      · rename_i hnext
        rw [hnext]
        cases size'? <;> rfl

/-- What is read depends on the document behind its leading space. -/
theorem readMembers_skipSpace (size? : Option Nat) (t : Text) :
    readMembers size? (skipSpace t) = readMembers size? t := by
  have hspace : skipSpace (skipSpace t) = skipSpace t := List.dropWhile_idempotent ..
  rw [readMembers_eq, readMembers_eq size? t, hspace]

section

variable {size? size'? : Option Nat} {key t rest rest' tail : Text}

/-- Behind a member and a comma the next member is read. -/
theorem readMembers_comma (hkey : readKey (skipSpace t) = .ok (key, rest))
    (hmember : readMember size? key rest = .ok (size'?, rest'))
    (hcomma : skipSpace rest' = ',' :: tail) :
    readMembers size? t = readMembers size'? tail := by
  rw [readMembers_eq]
  simp only [hkey, hmember, hcomma, Except.bind, if_true]

/-- Behind the last member and the end of the object, the size that is set is the result. -/
theorem readMembers_closer {n : Nat} (hkey : readKey (skipSpace t) = .ok (key, rest))
    (hmember : readMember size? key rest = .ok (some n, rest'))
    (hcloser : skipSpace rest' = '\x7d' :: tail) :
    readMembers size? t = .ok (⟨n⟩, tail) := by
  rw [readMembers_eq]
  simp only [hkey, hmember, hcloser, Except.bind]
  rfl

/-- A second size is refused at its key. -/
theorem readMembers_duplicate {n : Nat} (hkey : readKey (skipSpace t) = .ok (sizeKey, rest)) :
    readMembers (some n) t = .error .duplicateSize := by
  have hmember : readMember (some n) sizeKey rest = .error .duplicateSize := by
    simp only [readMember, if_true, Option.isSome_some]
  rw [readMembers_eq]
  simp only [hkey, hmember, Except.bind]

end

/-- `Reads size? size'? t`: when `size?` is the size set so far, reading the members `t`
leaves `size'?`, whether a comma follows or the end of the object. -/
structure Reads (size? size'? : Option Nat) (t : Text) : Prop where
  comma : ∀ rest, readMembers size? (t ++ ',' :: rest) = readMembers size'? rest
  closer : ∀ n rest, size'? = some n →
    readMembers size? (t ++ '\x7d' :: rest) = .ok (⟨n⟩, rest)

/-- Members are read one after the other. -/
theorem Reads.append {size? size'? size''? : Option Nat} {t t' : Text}
    (h : Reads size? size'? t) (h' : Reads size'? size''? t') :
    Reads size? size''? (t ++ ',' :: t') where
  comma rest := by rw [List.append_assoc, List.cons_append, h.comma, h'.comma]
  closer n rest hn := by rw [List.append_assoc, List.cons_append, h.comma, h'.closer n rest hn]

/-- A member is read when its key is and its value is, in front of any delimiter. -/
theorem MemberOf.reads {size? size'? : Option Nat} {key text value t : Text}
    (h : MemberOf key value t) (hkey : Unescapes key text)
    (hmember : ∀ s s' rest, Space s → Space s' → Delimited rest →
      readMember size? text (s ++ ':' :: (s' ++ (value ++ rest))) = .ok (size'?, rest)) :
    Reads size? size'? t := by
  obtain ⟨h₁, h₂, h₃, h₄⟩ := h
  rename_i s₁ s₂ s₃ s₄
  have hread : ∀ u, readKey (skipSpace (s₁ ++ '\x22' :: (key ++ '\x22' :: u))) =
      .ok (text, u) := by
    intro u
    rw [h₁.skipSpace_append_cons rfl, readKey, if_pos rfl, hkey.readString_append]
  constructor
  · intro rest
    simp only [List.append_assoc, List.cons_append]
    exact readMembers_comma (hread _)
      (hmember s₂ s₃ _ h₂ h₃ (h₄.delimited (delimited_comma rest)))
      (h₄.skipSpace_append_cons rfl rest)
  · intro n rest hn
    subst hn
    simp only [List.append_assoc, List.cons_append]
    exact readMembers_closer (hread _)
      (hmember s₂ s₃ _ h₂ h₃ (h₄.delimited (delimited_closer .map rest)))
      (h₄.skipSpace_append_cons rfl rest)

/-- Another member leaves the size as it is. -/
theorem OtherMember.reads {t : Text} (h : OtherMember t) (size? : Option Nat) :
    Reads size? size? t := by
  obtain ⟨key, text, value, hkey, htext, hvalue, hmember⟩ := h
  exact hmember.reads hkey fun _ _ _ hs hs' hrest =>
    readMember_other size? htext hvalue hs hs' hrest

/-- The member with the size sets it. -/
theorem SizeMember.reads {n : Nat} {t : Text} (h : SizeMember n t) (hn : n < UInt64.size) :
    Reads none (some n) t := by
  obtain ⟨key, hkey, hmember⟩ := h
  exact hmember.reads hkey fun _ _ _ hs hs' hrest => readMember_size hn hs hs' hrest

/-- Members of which exactly one holds the size set it. -/
theorem Sized.reads {n : Nat} {t : Text} (h : Sized n t) (hn : n < UInt64.size) :
    Reads none (some n) t := by
  induction h with
  | size hmember => exact hmember.reads hn
  | before hother _ ih => exact (hother.reads none).append ih
  | behind _ hother ih => exact ih.append (hother.reads (some n))

/-! ### Objects -/

/-- Members begin with a quote, behind space. -/
theorem Sized.exists_head {n : Nat} {t : Text} (h : Sized n t) :
    ∃ s u, t = s ++ '\x22' :: u ∧ Space s := by
  induction h with
  | size hmember =>
      obtain ⟨_, -, ⟨hs, -, -, -⟩⟩ := hmember
      exact ⟨_, _, rfl, hs⟩
  | before hother =>
      obtain ⟨_, _, _, -, -, -, ⟨hs, -, -, -⟩⟩ := hother
      exact ⟨_, _, List.append_assoc .., hs⟩
  | behind _ _ ih =>
      obtain ⟨s, u, rfl, hs⟩ := ih
      exact ⟨s, _, List.append_assoc .., hs⟩

/-- An object with members is read by reading its members. -/
theorem Sized.readObject_append {n : Nat} {t : Text} (h : Sized n t) (rest : Text) :
    readObject (t ++ rest) = readMembers none (t ++ rest) := by
  obtain ⟨s, u, rfl, hs⟩ := h.exists_head
  rw [← readMembers_skipSpace, List.append_assoc, List.cons_append]
  simp only [readObject, hs.skipSpace_append_cons (show isSpace '\x22' = false from rfl)]
  rfl

/-- Characters that stand for themselves mean themselves, in front of any string. -/
theorem Unescapes.plain_append {t body text : Text} (h : t.all fun c => Plain c)
    (hbody : Unescapes body text) : Unescapes (t ++ body) (t ++ text) := by
  induction t with
  | nil => exact hbody
  | cons c t ih =>
      obtain ⟨hc, ht⟩ : Plain c ∧ t.all fun c => Plain c := by simpa using h
      exact .plain hc (ih ht)

/-- The key of the size, as it is written, means itself. -/
theorem unescapes_sizeKey : Unescapes sizeKey sizeKey :=
  .plain_append (show sizeKey.all fun c => Plain c from rfl) .nil

/-- What is written for settings is an object with the size for its one member. -/
theorem exists_write_eq (n : Nat) :
    ∃ t, Sized n t ∧ Settings.write ⟨n⟩ = '\x7b' :: (t ++ ['\x7d']) := by
  refine ⟨_, .size ⟨sizeKey, unescapes_sizeKey,
    .mk space_nil space_nil space_nil space_nil⟩, ?_⟩
  simp [Settings.write]

/-- An object in a document is read behind its opening bracket, and only space may follow. -/
theorem read_object {s t rest : Text} {settings : Settings} (hs : Space s)
    (h : readObject t = .ok (settings, rest)) (hrest : Space rest) :
    Settings.read (s ++ '\x7b' :: t) = .ok settings := by
  have hspace : skipSpace rest = [] := by
    simpa [skipSpace] using hrest.skipSpace_append []
  simp only [Settings.read, hs.skipSpace_append_cons (show isSpace '\x7b' = false from rfl), h,
    bind, Except.bind, hspace]
  rfl

/-- What is wrong with an object is wrong with the document. -/
theorem read_object_error {s t : Text} {error : ConfigError} (hs : Space s)
    (h : readObject t = .error error) :
    Settings.read (s ++ '\x7b' :: t) = .error error := by
  simp only [Settings.read, hs.skipSpace_append_cons (show isSpace '\x7b' = false from rfl), h,
    bind, Except.bind]

/-- **Settings are read back.** For every batch size of at most 64 bits: what is written is
read back; so is every object of which exactly one member holds this size, whatever the
others hold; and behind such members a second key for the size is refused, whatever stands
behind it. -/
theorem Settings.read_rule {n : Nat} (hn : n < UInt64.size) :
    Settings.read (Settings.write ⟨n⟩) = .ok ⟨n⟩ ∧
      (∀ s members s', Space s → Sized n members → Space s' →
        Settings.read (s ++ '\x7b' :: (members ++ '\x7d' :: s')) = .ok ⟨n⟩) ∧
      ∀ s members s' key rest, Space s → Sized n members → Space s' → Unescapes key sizeKey →
        Settings.read (s ++ '\x7b' :: (members ++ ',' ::
          (s' ++ '\x22' :: (key ++ '\x22' :: rest)))) = .error .duplicateSize := by
  have hobject : ∀ s members s', Space s → Sized n members → Space s' →
      Settings.read (s ++ '\x7b' :: (members ++ '\x7d' :: s')) = .ok ⟨n⟩ := by
    intro s members s' hs hmembers hs'
    refine read_object hs ?_ hs'
    rw [hmembers.readObject_append]
    exact (hmembers.reads hn).closer n s' rfl
  refine ⟨?_, hobject, fun s members s' key rest hs hmembers hs' hkey => ?_⟩
  · obtain ⟨members, hmembers, hwrite⟩ := exists_write_eq n
    rw [hwrite]
    exact hobject [] members [] space_nil hmembers space_nil
  · refine read_object_error hs ?_
    have hsecond : readKey (skipSpace (s' ++ '\x22' :: (key ++ '\x22' :: rest))) =
        .ok (sizeKey, rest) := by
      rw [hs'.skipSpace_append_cons rfl, readKey, if_pos rfl, hkey.readString_append]
    rw [hmembers.readObject_append, (hmembers.reads hn).comma]
    exact readMembers_duplicate hsecond

/-- The largest size, behind a member that nests a string without a meaning, and with one
letter of its key escaped; then a second key and no document any more. -/
theorem Settings.read_rule_largest :
    let n := 18446744073709551615
    let members := "\"a\":[\x7b\x7d, \"\\ud800\"],\"batch_\\u0073ize\" :18446744073709551615".toList
    n < UInt64.size ∧ Sized n members ∧
      Settings.read ('\n' :: '\x7b' :: (members ++ ['\x7d', ' '])) = .ok ⟨n⟩ ∧
      Settings.read ('\n' :: '\x7b' :: (members ++ ", \"batch_size\"]".toList)) =
        .error .duplicateSize := by
  have hn : 18446744073709551615 < UInt64.size := by decide
  have hnil := space_nil
  have hspace : Space [' '] := by decide
  have hline : Space ['\n'] := by decide
  have hzero : HexDigit '0' 0 := by decide
  -- the first member, from the innermost value outwards
  have hsurrogate : WellFormed .value
      ('\x22' :: (['\\', 'u', 'd', '8', '0', '0'] ++ ['\x22'])) :=
    .string (.unit (.mk (show HexDigit 'd' 13 by decide) (show HexDigit '8' 8 by decide)
      hzero hzero) .nil)
  have hnested : WellFormed .value ('[' :: _) :=
    @WellFormed.enclosed .sequence _ (.comma (.element hnil (.empty .map hnil) hnil)
      (.element hspace hsurrogate hnil))
  have hother : OtherMember _ :=
    ⟨['a'], ['a'], _, .plain (by decide) .nil, by decide, hnested, .mk hnil hnil hnil hnil⟩
  -- the second member
  have hkey : Unescapes _ sizeKey :=
    .plain_append (show "batch_".toList.all fun c => Plain c from rfl)
      (.unit (show HexUnit _ 's'.toNat from .mk hzero hzero (show HexDigit '7' 7 by decide)
        (show HexDigit '3' 3 by decide))
        (.plain_append (show "ize".toList.all fun c => Plain c from rfl) .nil))
  have hsize : SizeMember 18446744073709551615 _ := ⟨_, hkey, .mk hnil hspace hnil hnil⟩
  have hmembers := Sized.before hother (.size hsize)
  obtain ⟨-, hread, hduplicate⟩ := Settings.read_rule hn
  exact ⟨hn, hmembers, hread ['\n'] _ [' '] hline hmembers hspace,
    hduplicate ['\n'] _ [' '] sizeKey [']'] hline hmembers hspace unescapes_sizeKey⟩

end BulkInsert.Config
