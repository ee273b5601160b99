import BulkInsert.Proofs.Config.Numbers
import BulkInsert.Proofs.Config.Strings

/-!
# Values are passed over to their end

`skipFrom` walks a document once and keeps the brackets that are open. Whatever a value
nests, when it has been walked the brackets are as before: `WellFormed.skipFrom_append`, by
induction over the grammar. The statement for what stands in a bracket is about the walk up
to a comma or up to the end of that bracket, since these are the two ways it can go on.

So `skipValue` stops exactly behind a value, `WellFormed.skipValue_append`.
-/

namespace BulkInsert.Config

/-! ### Space -/

theorem Space.all_isSpace {s : Text} (h : Space s) : ∀ c ∈ s, isSpace c := by
  have hall : ∀ c ∈ [' ', '\n', '\t', '\r'], Config.isSpace c := by simp [Config.isSpace]
  exact fun c hc => hall c (h c hc)

theorem Space.skipSpace_append {s : Text} (h : Space s) (t : Text) :
    skipSpace (s ++ t) = skipSpace t :=
  List.dropWhile_append_of_pos h.all_isSpace

/-- Space is left out up to the first character that is none. -/
theorem Space.skipSpace_append_cons {s : Text} (h : Space s) {c : Char}
    (hc : isSpace c = false) (t : Text) : skipSpace (s ++ c :: t) = c :: t := by
  rw [h.skipSpace_append]
  exact List.dropWhile_cons_of_neg (by simp [hc])

/-- Space in front of a delimiter delimits, too. -/
theorem Space.delimited {s : Text} (h : Space s) {rest : Text} (hrest : Delimited rest) :
    Delimited (s ++ rest) := by
  cases s with
  | nil => exact hrest
  | cons c s =>
      intro d hd
      obtain rfl : c = d := by simpa using hd
      exact List.mem_append_left [',', ']', '\x7d'] (h c List.mem_cons_self)

theorem delimited_comma (t : Text) : Delimited (',' :: t) := by simp [Delimited]

theorem delimited_closer (bracket : Bracket) (t : Text) : Delimited (bracket.closer :: t) := by
  cases bracket <;> simp [Delimited, Bracket.closer]

theorem isSpace_opener (bracket : Bracket) : isSpace bracket.opener = false := by
  cases bracket <;> rfl

theorem isSpace_closer (bracket : Bracket) : isSpace bracket.closer = false := by
  cases bracket <;> rfl

/-! ### One step of the walk

The definition of the walk has a row for each thing that may come next. In each of these
equations what is known of the document leaves only one row. -/

section

variable {bracket : Bracket} {brackets : List Bracket} {t rest tail : Text} {c : Char}

/-- Behind a comma the next content of the bracket is awaited. -/
theorem skipFrom_comma (h : skipSpace t = ',' :: rest) :
    skipFrom .next (bracket :: brackets) t =
      skipFrom bracket.content (bracket :: brackets) rest := by
  rw [skipFrom.eq_def]
  split <;> simp_all

/-- Behind the end of a bracket the walk goes on outside it. -/
theorem skipFrom_closer (h : skipSpace t = bracket.closer :: rest) :
    skipFrom .next (bracket :: brackets) t = skipFrom .next brackets rest := by
  have hcomma : bracket.closer ≠ ',' := by cases bracket <;> decide
  rw [skipFrom.eq_def]
  split <;> simp_all

/-- Behind a key and its colon a value is awaited. -/
theorem skipFrom_key (h : skipSpace t = c :: rest) (hkey : skipKey (c :: rest) = .ok tail) :
    skipFrom .key brackets t = skipFrom .value brackets tail := by
  rw [skipFrom.eq_def]
  split <;> simp_all
  split <;> simp_all

/-- A bracket that ends at once is a value. -/
theorem skipFrom_empty (h : skipSpace t = bracket.opener :: rest)
    (hend : skipSpace rest = bracket.closer :: tail) :
    skipFrom .value brackets t = skipFrom .next brackets tail := by
  rw [skipFrom.eq_def]
  split <;> simp_all
  obtain ⟨rfl, rfl⟩ := h
  cases bracket with
  | sequence =>
      rw [if_pos (show Bracket.sequence.opener = '[' from rfl)]
      split <;> simp_all [Bracket.closer]
  | map =>
      rw [if_neg (show Bracket.map.opener ≠ '[' by decide),
        if_pos (show Bracket.map.opener = '\x7b' from rfl)]
      split <;> simp_all [Bracket.closer]

/-- Behind an opening bracket that does not end at once its content is awaited. -/
theorem skipFrom_opener (h : skipSpace t = bracket.opener :: rest)
    (hend : ∀ tail, skipSpace rest ≠ bracket.closer :: tail) :
    skipFrom .value brackets t = skipFrom bracket.content (bracket :: brackets) rest := by
  rw [skipFrom.eq_def]
  split <;> simp_all
  obtain ⟨rfl, rfl⟩ := h
  cases bracket with
  | sequence =>
      rw [if_pos (show Bracket.sequence.opener = '[' from rfl)]
      split <;> simp_all [Bracket.closer, Bracket.content]
  | map =>
      rw [if_neg (show Bracket.map.opener ≠ '[' by decide),
        if_pos (show Bracket.map.opener = '\x7b' from rfl)]
      split <;> simp_all [Bracket.closer, Bracket.content]

/-- Any other value is passed over as a whole. -/
theorem skipFrom_scalar (h : skipSpace t = c :: rest) (hopener : ∀ b, c ≠ Bracket.opener b)
    (hscalar : skipScalar (c :: rest) = .ok tail) :
    skipFrom .value brackets t = skipFrom .next brackets tail := by
  have hsequence := hopener .sequence
  have hmap := hopener .map
  rw [skipFrom.eq_def]
  split <;> simp_all [Bracket.opener]
  split <;> simp_all

end

/-! ### Values without brackets -/

/-- A word that stands here is passed over. -/
theorem expectWord_append (word rest : Text) : expectWord word (word ++ rest) = .ok rest := by
  induction word with
  | nil => rfl
  | cons w word ih => simpa only [List.cons_append, expectWord, if_true] using ih

/-- A word is passed over. -/
theorem skipScalar_word {t : Text} (h : t ∈ ["null".toList, "true".toList, "false".toList])
    (rest : Text) : skipScalar (t ++ rest) = .ok rest := by
  simp only [List.mem_cons, List.not_mem_nil, or_false] at h
  rcases h with rfl | rfl | rfl
  · exact expectWord_append "ull".toList rest
  · exact expectWord_append "rue".toList rest
  · exact expectWord_append "alse".toList rest

/-- A string is passed over. -/
theorem StringBody.skipScalar_append {body : Text} (h : StringBody body) (rest : Text) :
    skipScalar ('\x22' :: (body ++ ['\x22']) ++ rest) = .ok rest := by
  rw [List.cons_append, List.append_assoc]
  exact h.skipString_append rest

/-- A number begins with its sign or with a digit. -/
theorem Numeral.exists_cons {number : Text} (h : Numeral number) :
    ∃ c t, number = c :: t ∧ (c = '-' ∨ c.isDigit) := by
  obtain ⟨hsign, hwhole, -, -⟩ := h
  rename_i sign whole places power
  rcases (by simpa using hsign : sign = [] ∨ sign = ['-']) with rfl | rfl
  · obtain ⟨c, t, rfl, hc⟩ := hwhole.exists_cons
    exact ⟨c, _, rfl, .inr hc⟩
  · exact ⟨'-', _, rfl, .inl rfl⟩

/-- A digit or a sign is no other character. -/
theorem ne_of_isDigit {c d : Char} (h : c = '-' ∨ c.isDigit)
    (hd : d ≠ '-' ∧ d.isDigit = false) : c ≠ d := by
  rintro rfl
  rcases h with h | h
  · exact hd.1 h
  · exact absurd h (by simp [hd.2])

/-- A number is passed over. -/
theorem Numeral.skipScalar_append {number rest : Text} (h : Numeral number)
    (hrest : Delimited rest) : skipScalar (number ++ rest) = .ok rest := by
  have hskip := h.skipNumber_append hrest
  obtain ⟨c, t, rfl, hc⟩ := h.exists_cons
  rw [List.cons_append] at hskip ⊢
  simp (disch := decide) only [skipScalar, ne_of_isDigit hc, if_false]
  rw [if_pos hc, hskip]

/-! ### How values begin -/

/-- A character that is no space and neither opens nor ends a bracket. -/
structure Solid (c : Char) : Prop where
  isSpace_eq : isSpace c = false
  ne_opener : ∀ b, c ≠ Bracket.opener b
  ne_closer : ∀ b, c ≠ Bracket.closer b

/-- A digit or a sign is solid. -/
theorem solid_of_isDigit {c : Char} (h : c = '-' ∨ c.isDigit) : Solid c where
  isSpace_eq := by simp (disch := decide) [isSpace, ne_of_isDigit h]
  ne_opener b := by cases b <;> exact ne_of_isDigit h (by decide)
  ne_closer b := by cases b <;> exact ne_of_isDigit h (by decide)

/-- A string and the words begin with a solid character. -/
theorem solid_of_mem {c : Char} (h : c ∈ ['\x22', 'n', 't', 'f']) : Solid c := by
  simp only [List.mem_cons, List.not_mem_nil, or_false] at h
  rcases h with rfl | rfl | rfl | rfl <;>
    exact ⟨rfl, fun b => by cases b <;> decide, fun b => by cases b <;> decide⟩

/-- A word begins with a solid character. -/
theorem exists_solid_of_word {t : Text}
    (h : t ∈ ["null".toList, "true".toList, "false".toList]) :
    ∃ c u, t = c :: u ∧ Solid c := by
  simp only [List.mem_cons, List.not_mem_nil, or_false] at h
  rcases h with rfl | rfl | rfl
  · exact ⟨'n', "ull".toList, rfl, solid_of_mem (by simp)⟩
  · exact ⟨'t', "rue".toList, rfl, solid_of_mem (by simp)⟩
  · exact ⟨'f', "alse".toList, rfl, solid_of_mem (by simp)⟩

/-- A number begins with a solid character. -/
theorem Numeral.exists_solid {number : Text} (h : Numeral number) :
    ∃ c u, number = c :: u ∧ Solid c := by
  obtain ⟨c, u, heq, hc⟩ := h.exists_cons
  exact ⟨c, u, heq, solid_of_isDigit hc⟩

/-! ### The walk over a value -/

/-- How a value or the content of a bracket begins: behind space, with a character that is
none and ends no bracket. A value has no space in front. -/
theorem WellFormed.exists_head {part : Part} {t : Text} (h : WellFormed part t) :
    ∃ s c u, t = s ++ c :: u ∧ Space s ∧ isSpace c = false ∧ (∀ b, c ≠ Bracket.closer b) ∧
      (part = .value → s = []) := by
  have hquote : Solid '\x22' := solid_of_mem (by simp)
  have hopener : ∀ b b', Bracket.opener b ≠ Bracket.closer b' := by
    intro b b'
    cases b <;> cases b' <;> decide
  induction h with
  | word ht =>
      obtain ⟨c, u, rfl, hc⟩ := exists_solid_of_word ht
      exact ⟨[], c, u, rfl, space_nil, hc.isSpace_eq, hc.ne_closer, fun _ => rfl⟩
  | number ht =>
      obtain ⟨c, u, rfl, hc⟩ := ht.exists_solid
      exact ⟨[], c, u, rfl, space_nil, hc.isSpace_eq, hc.ne_closer, fun _ => rfl⟩
  | string => exact ⟨[], _, _, rfl, space_nil, hquote.isSpace_eq, hquote.ne_closer, fun _ => rfl⟩
  | empty b => exact ⟨[], _, _, rfl, space_nil, isSpace_opener b, hopener b, fun _ => rfl⟩
  | @enclosed b => exact ⟨[], _, _, rfl, space_nil, isSpace_opener b, hopener b, fun _ => rfl⟩
  | @element s _ _ hs _ _ ih =>
      obtain ⟨s', c, u, rfl, -, hspace, hcloser, hvalue⟩ := ih
      obtain rfl := hvalue rfl
      exact ⟨s, c, _, rfl, hs, hspace, hcloser, by simp⟩
  | member _ _ hmember =>
      obtain ⟨hs, -, -, -⟩ := hmember
      exact ⟨_, _, _, rfl, hs, hquote.isSpace_eq, hquote.ne_closer, by simp⟩
  | comma _ _ ih =>
      obtain ⟨s, c, u, rfl, hs, hspace, hcloser, -⟩ := ih
      exact ⟨s, c, _, List.append_assoc .., hs, hspace, hcloser, by simp⟩

/-- `Walked part t`: what the walk does over the text `t` of this part. A value is passed
over in front of a delimiter. The content of a bracket is passed over up to a comma, behind
which more content is awaited, and up to the end of the bracket. -/
def Walked : Part → Text → Prop
  | .value, t => ∀ brackets s rest, Space s → Delimited rest →
      skipFrom .value brackets (s ++ (t ++ rest)) = skipFrom .next brackets rest
  | .inside b, t => ∀ brackets rest,
      skipFrom b.content (b :: brackets) (t ++ ',' :: rest) =
          skipFrom b.content (b :: brackets) rest ∧
        skipFrom b.content (b :: brackets) (t ++ b.closer :: rest) =
          skipFrom .next brackets rest

/-- A value without brackets is passed over. -/
theorem walked_scalar {c : Char} {t : Text} (hc : Solid c)
    (hscalar : ∀ rest, Delimited rest → skipScalar (c :: t ++ rest) = .ok rest) :
    Walked .value (c :: t) := fun _ _ rest hs hrest =>
  skipFrom_scalar (hs.skipSpace_append_cons hc.isSpace_eq (t ++ rest)) hc.ne_opener
    (hscalar rest hrest)

/-- Space behind a value is left out, and the walk goes on or leaves the bracket. -/
theorem walked_inside {b : Bracket} {t s : Text} (hs : Space s)
    (h : ∀ brackets rest, Delimited (s ++ rest) →
      skipFrom b.content (b :: brackets) (t ++ rest) =
        skipFrom .next (b :: brackets) (s ++ rest)) : Walked (.inside b) t := by
  intro brackets rest
  rw [h brackets _ (hs.delimited (delimited_comma rest)),
    h brackets _ (hs.delimited (delimited_closer b rest))]
  exact ⟨skipFrom_comma (hs.skipSpace_append_cons rfl rest),
    skipFrom_closer (hs.skipSpace_append_cons (isSpace_closer b) rest)⟩

/-- A key and its colon are passed over. -/
theorem StringBody.skipKey_append {key s : Text} (h : StringBody key) (hs : Space s)
    (rest : Text) : skipKey ('\x22' :: (key ++ '\x22' :: (s ++ ':' :: rest))) = .ok rest := by
  simp only [skipKey, if_true, h.skipString_append, bind, Except.bind,
    hs.skipSpace_append_cons (show isSpace ':' = false from rfl)]
  rfl

/-- The walk over every part of the grammar. -/
theorem WellFormed.walked {part : Part} {t : Text} (h : WellFormed part t) : Walked part t := by
  induction h with
  | word ht =>
      obtain ⟨c, u, rfl, hc⟩ := exists_solid_of_word ht
      exact walked_scalar hc fun rest _ => skipScalar_word ht rest
  | number ht =>
      obtain ⟨c, u, rfl, hc⟩ := ht.exists_solid
      exact walked_scalar hc fun rest hrest => ht.skipScalar_append hrest
  | string hbody =>
      exact walked_scalar (solid_of_mem (by simp)) fun rest _ => hbody.skipScalar_append rest
  | empty b hs' =>
      intro brackets s rest hs _
      refine skipFrom_empty (hs.skipSpace_append_cons (isSpace_opener b) _) ?_
      change skipSpace (_ ++ [b.closer] ++ rest) = _
      rw [List.append_assoc]
      exact hs'.skipSpace_append_cons (isSpace_closer b) rest
  | @enclosed b t ht ih =>
      intro brackets s rest hs _
      obtain ⟨s', c, u, rfl, hs', hspace, hcloser, -⟩ := ht.exists_head
      rw [List.cons_append, skipFrom_opener (hs.skipSpace_append_cons (isSpace_opener b) _)]
      · rw [List.append_assoc]
        exact (ih brackets rest).2
      · intro tail
        simp only [List.append_assoc, List.cons_append, hs'.skipSpace_append_cons hspace]
        intro heq
        exact hcloser b (List.cons.inj heq).1
  | element hs _ hs' ih =>
      refine walked_inside hs' fun brackets rest hrest => ?_
      simp only [List.append_assoc]
      exact ih _ _ _ hs hrest
  | member hkey _ hmember ih =>
      obtain ⟨h₁, h₂, h₃, h₄⟩ := hmember
      refine walked_inside h₄ fun brackets rest hrest => ?_
      simp only [List.append_assoc, List.cons_append]
      rw [Bracket.content, skipFrom_key (h₁.skipSpace_append_cons rfl _) (hkey.skipKey_append h₂ _)]
      exact ih _ _ _ h₃ hrest
  | comma _ _ ih ih' =>
      intro brackets rest
      simp only [List.append_assoc, List.cons_append, (ih brackets _).1]
      exact ih' brackets rest

/-- With no bracket open and nothing awaited, the walk is over. -/
theorem skipFrom_next_nil (t : Text) : skipFrom .next [] t = .ok t := by
  rw [skipFrom.eq_def]

/-- A value is passed over, up to what follows it. -/
theorem WellFormed.skipValue_append {value s rest : Text} (h : WellFormed .value value)
    (hs : Space s) (hrest : Delimited rest) : skipValue (s ++ (value ++ rest)) = .ok rest := by
  rw [skipValue, h.walked [] s rest hs hrest, skipFrom_next_nil]

end BulkInsert.Config
