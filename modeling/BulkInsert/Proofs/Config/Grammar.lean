import BulkInsert.Config.Ignored

/-!
# The grammar of documents

What JSON is, said without any reader. `Numeral` are the numbers, `StringBody` is what may
stand between the quotes of a string, and `WellFormed` are the values, nested to any depth,
with space around every token.

A string that is passed over only has to be a `StringBody`, so `\u` may be followed by any
four hexadecimal digits. `Unescapes` is a string with the text that it means; there the
surrogates come in pairs.

## How values nest

A sequence holds values and an object holds members, both with commas between them. So the
grammar has two parts: a value, and what stands inside a bracket. One rule puts commas and
one puts brackets, for both kinds of bracket.
-/

namespace BulkInsert.Config

/-- Space that may stand between tokens. -/
def Space (t : Text) : Prop := ∀ c ∈ t, c ∈ [' ', '\n', '\t', '\r']

instance : DecidablePred Space := fun t => List.decidableBAll _ t

@[simp] theorem space_nil : Space [] := List.forall_mem_nil _

/-- What may stand behind a value: nothing, or what begins with space, a comma or the end of
a bracket. -/
def Delimited (rest : Text) : Prop :=
  ∀ c ∈ rest.head?, c ∈ [' ', '\n', '\t', '\r', ',', ']', '\x7d']

/-! ### Numbers -/

/-- One digit or more. -/
def Digits (t : Text) : Prop := t ≠ [] ∧ ∀ c ∈ t, c.isDigit

/-- The digits before the point. The first of several is not zero. -/
inductive Whole : Text → Prop
  | zero : Whole ['0']
  | digits {c : Char} {t : Text} : c.isDigit → c ≠ '0' → (∀ d ∈ t, d.isDigit) → Whole (c :: t)

/-- A point with digits behind it, or nothing. -/
inductive Places : Text → Prop
  | none : Places []
  | some {digits : Text} : Digits digits → Places ('.' :: digits)

/-- A power of ten, with or without a sign, or nothing. -/
inductive Power : Text → Prop
  | none : Power []
  | some {e : Char} {sign digits : Text} : e ∈ ['e', 'E'] → sign ∈ [[], ['+'], ['-']] →
      Digits digits → Power (e :: (sign ++ digits))

/-- The numbers. -/
inductive Numeral : Text → Prop
  | mk {sign whole places power : Text} : sign ∈ [[], ['-']] → Whole whole → Places places →
      Power power → Numeral (sign ++ (whole ++ (places ++ power)))

/-! ### Strings -/

/-- A character that stands for itself in a string. -/
def Plain (c : Char) : Prop := c ≠ '\x22' ∧ c ≠ '\\' ∧ 0x20 ≤ c.toNat

instance : DecidablePred Plain := fun c =>
  inferInstanceAs (Decidable (c ≠ '\x22' ∧ c ≠ '\\' ∧ 0x20 ≤ c.toNat))

/-- The letters of the short escapes, with what they stand for. -/
def escapes : List (Char × Char) :=
  [('\x22', '\x22'), ('\\', '\\'), ('/', '/'), ('b', '\x08'), ('f', '\x0c'), ('n', '\n'),
    ('r', '\r'), ('t', '\t')]

/-- A hexadecimal digit, of either case, with its value. -/
def HexDigit (c : Char) (value : Nat) : Prop :=
  value < 16 ∧ (c = value.digitChar ∨ c = value.digitChar.toUpper)

instance (c : Char) (value : Nat) : Decidable (HexDigit c value) :=
  inferInstanceAs (Decidable (value < 16 ∧ (c = value.digitChar ∨ c = value.digitChar.toUpper)))

/-- Four hexadecimal digits with their value. -/
inductive HexUnit : Text → Nat → Prop
  | mk {a b c d : Char} {i j k l : Nat} : HexDigit a i → HexDigit b j → HexDigit c k →
      HexDigit d l → HexUnit [a, b, c, d] (((i * 16 + j) * 16 + k) * 16 + l)

/-- What may stand between the quotes of a string. -/
inductive StringBody : Text → Prop
  | nil : StringBody []
  | plain {c : Char} {body : Text} : Plain c → StringBody body → StringBody (c :: body)
  | escape {c d : Char} {body : Text} : (c, d) ∈ escapes → StringBody body →
      StringBody ('\\' :: c :: body)
  | unit {digits body : Text} {n : Nat} : HexUnit digits n → StringBody body →
      StringBody ('\\' :: 'u' :: (digits ++ body))

/-- What may stand between the quotes of a string, with the text that it means. An escaped
code unit is the number of a character, which no surrogate is, or a leading surrogate and
the trailing one behind it make up one character. -/
inductive Unescapes : Text → Text → Prop
  | nil : Unescapes [] []
  | plain {c : Char} {body text : Text} : Plain c → Unescapes body text →
      Unescapes (c :: body) (c :: text)
  | escape {c d : Char} {body text : Text} : (c, d) ∈ escapes → Unescapes body text →
      Unescapes ('\\' :: c :: body) (d :: text)
  | unit {digits body text : Text} {c : Char} : HexUnit digits c.toNat →
      Unescapes body text → Unescapes ('\\' :: 'u' :: (digits ++ body)) (c :: text)
  | pair {digits digits' body text : Text} {high low : Nat} {c : Char} :
      HexUnit digits high → 0xD800 ≤ high → high ≤ 0xDBFF →
      HexUnit digits' low → 0xDC00 ≤ low → low ≤ 0xDFFF →
      c.toNat = 0x10000 + (high - 0xD800) * 0x400 + (low - 0xDC00) → Unescapes body text →
      Unescapes ('\\' :: 'u' :: (digits ++ '\\' :: 'u' :: (digits' ++ body))) (c :: text)

/-! ### Values -/

/-- The character that opens a bracket. -/
def Bracket.opener : Bracket → Char
  | sequence => '['
  | map => '\x7b'

/-- A member of an object: its key is written `key` between quotes, its value `value`, and
there may be space around every token. -/
inductive MemberOf (key value : Text) : Text → Prop
  | mk {s₁ s₂ s₃ s₄ : Text} : Space s₁ → Space s₂ → Space s₃ → Space s₄ →
      MemberOf key value
        (s₁ ++ '\x22' :: (key ++ '\x22' :: (s₂ ++ ':' :: (s₃ ++ (value ++ s₄)))))

/-- The parts of the grammar of values. -/
inductive Part where
  /-- A value without space around it. -/
  | value
  /-- What stands in a bracket that is not empty. -/
  | inside (bracket : Bracket)

/-- `WellFormed part t`: the text `t` is this part of a document. -/
inductive WellFormed : Part → Text → Prop
  | word {t : Text} : t ∈ ["null".toList, "true".toList, "false".toList] → WellFormed .value t
  | number {t : Text} : Numeral t → WellFormed .value t
  | string {body : Text} : StringBody body →
      WellFormed .value ('\x22' :: (body ++ ['\x22']))
  | empty (bracket : Bracket) {s : Text} : Space s →
      WellFormed .value (bracket.opener :: (s ++ [bracket.closer]))
  | enclosed {bracket : Bracket} {t : Text} : WellFormed (.inside bracket) t →
      WellFormed .value (bracket.opener :: (t ++ [bracket.closer]))
  | element {s value s' : Text} : Space s → WellFormed .value value → Space s' →
      WellFormed (.inside .sequence) (s ++ (value ++ s'))
  | member {key value t : Text} : StringBody key → WellFormed .value value →
      MemberOf key value t → WellFormed (.inside .map) t
  | comma {bracket : Bracket} {t t' : Text} : WellFormed (.inside bracket) t →
      WellFormed (.inside bracket) t' → WellFormed (.inside bracket) (t ++ ',' :: t')

end BulkInsert.Config
