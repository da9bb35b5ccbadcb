import ForwardChaining.Text.Basic

/-!
# JSON texts

The grammar of JSON (RFC 8259) with the value that each text stands for.  `Json.Reads l p t` says
that the characters `l` begin with a phrase `p`, after which `t` is left; `Json.Denotes` is about
whole texts.  Spaces may stand before each value and before each structural character, and after the
value of a text.
-/

namespace ForwardChaining

/-- A JSON value.  An object is the list of its members, in the order in which they stand. -/
inductive Json where
  | null
  | bool (b : Bool)
  | number (q : Rat)
  | string (s : String)
  | array (items : List Json)
  | object (members : List (String × Json))

namespace Json

/-- The characters that may stand between tokens. -/
def isSpace (c : Char) : Bool :=
  c = ' ' || c = '\t' || c = '\n' || c = '\r'

/-! ### Numbers -/

/-- The exponent of a numeral. -/
structure Exponent where
  mark : Char
  sign : List Char
  digits : List Char
  isMark : mark = 'e' ∨ mark = 'E'
  isSign : sign = [] ∨ sign = ['+'] ∨ sign = ['-']
  nonempty : digits ≠ []
  allDigits : ∀ c ∈ digits, Text.isDigit c = true

/-- The number that an exponent stands for. -/
def Exponent.value (e : Exponent) : Int :=
  if e.sign = ['-'] then -Text.digitsValue e.digits else Text.digitsValue e.digits

/-- A numeral. -/
structure Numeral where
  negative : Bool
  /-- The digits before the point. -/
  whole : List Char
  /-- The digits after the point; if there are none, there is no point. -/
  fraction : List Char
  exponent : Option Exponent
  nonempty : whole ≠ []
  allDigits : ∀ c ∈ whole, Text.isDigit c = true
  /-- Only zero begins with a zero. -/
  leading : whole.head? = some '0' → whole = ['0']
  fractionDigits : ∀ c ∈ fraction, Text.isDigit c = true

namespace Numeral

/-- The sign of a numeral. -/
def signText (n : Numeral) : List Char :=
  if n.negative then ['-'] else []

/-- The point and the digits after it. -/
def fractionText (n : Numeral) : List Char :=
  if n.fraction = [] then [] else '.' :: n.fraction

/-- The exponent, with its mark and its sign. -/
def exponentText (n : Numeral) : List Char :=
  n.exponent.elim [] fun e => e.mark :: (e.sign ++ e.digits)

/-- The numeral as it is written. -/
def text (n : Numeral) : List Char :=
  n.signText ++ (n.whole ++ (n.fractionText ++ n.exponentText))

/-- The number that a numeral stands for. -/
def value (n : Numeral) : Rat :=
  let places : Int := n.exponent.elim 0 Exponent.value - n.fraction.length
  (if n.negative then -1 else 1) * (Text.digitsValue (n.whole ++ n.fraction) : Rat) * 10 ^ places

/-- The characters that numerals are made of. -/
def IsPart (c : Char) : Prop :=
  Text.isDigit c = true ∨ c ∈ ['-', '+', '.', 'e', 'E']

instance {c : Char} : Decidable (IsPart c) :=
  inferInstanceAs (Decidable (_ ∨ _))

end Numeral

/-! ### Strings -/

/-- The character that a letter stands for after a backslash. -/
def escaped? : Char → Option Char
  | '"' => some '"'
  | '\\' => some '\\'
  | '/' => some '/'
  | 'b' => some '\x08'
  | 'f' => some '\x0c'
  | 'n' => some '\n'
  | 'r' => some '\r'
  | 't' => some '\t'
  | _ => none

/-- The value of a hexadecimal digit. -/
def hexDigit? (c : Char) : Option Nat :=
  if '0' ≤ c ∧ c ≤ '9' then some (c.toNat - '0'.toNat)
  else if 'a' ≤ c ∧ c ≤ 'f' then some (c.toNat - 'a'.toNat + 10)
  else if 'A' ≤ c ∧ c ≤ 'F' then some (c.toNat - 'A'.toNat + 10)
  else none

/-- The code unit that four hexadecimal digits stand for. -/
def codeUnit? (a b c d : Char) : Option Nat := do
  return (((← hexDigit? a) * 16 + (← hexDigit? b)) * 16 + (← hexDigit? c)) * 16 + (← hexDigit? d)

/-- The first of two code units that together stand for a character. -/
def IsHigh (n : Nat) : Prop :=
  0xd800 ≤ n ∧ n < 0xdc00

/-- The second of two code units that together stand for a character. -/
def IsLow (n : Nat) : Prop :=
  0xdc00 ≤ n ∧ n < 0xe000

/-- The character that two code units stand for together. -/
def paired (high low : Nat) : Char :=
  .ofNat (0x10000 + (high - 0xd800) * 0x400 + (low - 0xdc00))

/-- The characters begin with the rest of a string, up to the quotation mark at its end: what the
string holds from here on, and the characters after it. -/
inductive ReadsText : List Char → List Char → List Char → Prop where
  | close {t : List Char} : ReadsText ('"' :: t) [] t
  /-- A character may stand for itself, but not a quotation mark, a backslash or a control
  character. -/
  | plain {c : Char} {l s t : List Char} (visible : ' ' ≤ c) (unquoted : c ≠ '"')
      (unescaped : c ≠ '\\') (rest : ReadsText l s t) : ReadsText (c :: l) (c :: s) t
  | escape {e c : Char} {l s t : List Char} (means : escaped? e = some c)
      (rest : ReadsText l s t) : ReadsText ('\\' :: e :: l) (c :: s) t
  | unit {a b c d : Char} {n : Nat} {l s t : List Char} (means : codeUnit? a b c d = some n)
      (single : ¬IsHigh n ∧ ¬IsLow n) (rest : ReadsText l s t) :
      ReadsText ('\\' :: 'u' :: a :: b :: c :: d :: l) (.ofNat n :: s) t
  | pair {a b c d a' b' c' d' : Char} {high low : Nat} {l s t : List Char}
      (first : codeUnit? a b c d = some high) (second : codeUnit? a' b' c' d' = some low)
      (isHigh : IsHigh high) (isLow : IsLow low) (rest : ReadsText l s t) :
      ReadsText ('\\' :: 'u' :: a :: b :: c :: d :: '\\' :: 'u' :: a' :: b' :: c' :: d' :: l)
        (paired high low :: s) t

/-! ### Values -/

/-- What a text is made of. -/
inductive Phrase where
  | value (v : Json)
  /-- A structural character. -/
  | mark (c : Char)
  /-- The items of an array, up to the bracket at its end. -/
  | items (vs : List Json)
  /-- The name of a member. -/
  | key (name : String)
  /-- The members of an object, up to the brace at its end. -/
  | members (ms : List (String × Json))

/-- The characters begin with the phrase, after which `t` is left. -/
inductive Reads : List Char → Phrase → List Char → Prop where
  | space {c : Char} {l t : List Char} {p : Phrase} (between : isSpace c = true)
      (rest : Reads l p t) : Reads (c :: l) p t
  | literalNull {t : List Char} : Reads ('n' :: 'u' :: 'l' :: 'l' :: t) (.value .null) t
  | literalTrue {t : List Char} : Reads ('t' :: 'r' :: 'u' :: 'e' :: t) (.value (.bool true)) t
  | literalFalse {t : List Char} :
      Reads ('f' :: 'a' :: 'l' :: 's' :: 'e' :: t) (.value (.bool false)) t
  /-- A numeral goes as far as it can; what follows a value begins with no part of a numeral. -/
  | number {l t : List Char} (n : Numeral) (written : l = n.text ++ t)
      (ends : ∀ c ∈ t.head?, ¬Numeral.IsPart c) : Reads l (.value (.number n.value)) t
  | string {l s t : List Char} (text : ReadsText l s t) :
      Reads ('"' :: l) (.value (.string (.ofList s))) t
  | emptyArray {l t : List Char} (close : Reads l (.mark ']') t) :
      Reads ('[' :: l) (.value (.array [])) t
  | array {l t : List Char} {vs : List Json} (items : Reads l (.items vs) t) :
      Reads ('[' :: l) (.value (.array vs)) t
  | emptyObject {l t : List Char} (close : Reads l (.mark '\x7d') t) :
      Reads ('\x7b' :: l) (.value (.object [])) t
  | object {l t : List Char} {ms : List (String × Json)} (members : Reads l (.members ms) t) :
      Reads ('\x7b' :: l) (.value (.object ms)) t
  | mark {c : Char} {t : List Char} : Reads (c :: t) (.mark c) t
  | lastItem {l m t : List Char} {v : Json} (item : Reads l (.value v) m)
      (close : Reads m (.mark ']') t) : Reads l (.items [v]) t
  | nextItem {l m n t : List Char} {v : Json} {vs : List Json} (item : Reads l (.value v) m)
      (comma : Reads m (.mark ',') n) (rest : Reads n (.items vs) t) : Reads l (.items (v :: vs)) t
  | key {l s t : List Char} (text : ReadsText l s t) : Reads ('"' :: l) (.key (.ofList s)) t
  | lastMember {l m n o t : List Char} {name : String} {v : Json} (key : Reads l (.key name) m)
      (colon : Reads m (.mark ':') n) (value : Reads n (.value v) o)
      (close : Reads o (.mark '\x7d') t) : Reads l (.members [(name, v)]) t
  | nextMember {l m n o q t : List Char} {name : String} {v : Json} {ms : List (String × Json)}
      (key : Reads l (.key name) m) (colon : Reads m (.mark ':') n) (value : Reads n (.value v) o)
      (comma : Reads o (.mark ',') q) (rest : Reads q (.members ms) t) :
      Reads l (.members ((name, v) :: ms)) t

/-- The text is a JSON text that stands for the value. -/
def Denotes (text : String) (v : Json) : Prop :=
  ∃ t, Reads text.toList (.value v) t ∧ ∀ c ∈ t, isSpace c = true

end Json

end ForwardChaining
