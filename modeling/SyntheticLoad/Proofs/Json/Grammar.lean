import SyntheticLoad.Json.Reader

/-!
# The grammar of JSON

Which texts stand for which documents, said without a reader: a text of the grammar is put
together from the texts of its parts, with blanks around each of its tokens
(`Json.Document`). A string may be written in many ways, as each of its characters may
stand for itself or be escaped (`CharText`); a number is its token, so it is written in one
way only. A lone surrogate is no character, and a text with the escape of one stands for no
document.

The grammar says nothing of how a text is read. A document has many texts; that a text has
at most one document is a theorem (`Document.unique`).
-/

namespace SyntheticLoad.Json

/-! ### Tokens -/

/-- Any number of blanks. -/
def Blanks (cs : List Char) : Prop := ∀ c ∈ cs, c = ' ' ∨ c = '\t' ∨ c = '\n' ∨ c = '\r'

/-- At least one digit, and nothing else. -/
def DigitsText (cs : List Char) : Prop := cs ≠ [] ∧ ∀ c ∈ cs, c.isDigit

/-- The whole part of a number: digits, of which the first is a zero only if it is the only
    one. -/
inductive WholeText : List Char → Prop
  | zero : WholeText ['0']
  | digits {c : Char} {cs : List Char} :
    c.isDigit → c ≠ '0' → (∀ d ∈ cs, d.isDigit) → WholeText (c :: cs)

/-- The decimals of a number, if it has any. -/
inductive DecimalsText : List Char → Prop
  | none : DecimalsText []
  | point {ds : List Char} : DigitsText ds → DecimalsText ('.' :: ds)

/-- The sign of an exponent. -/
inductive PowerSign : List Char → Prop
  | none : PowerSign []
  | plus : PowerSign ['+']
  | minus : PowerSign ['-']

/-- The exponent of a number, if it has one. -/
inductive ExponentText : List Char → Prop
  | none : ExponentText []
  | power {e : Char} {sign ds : List Char} :
    e = 'e' ∨ e = 'E' → PowerSign sign → DigitsText ds → ExponentText (e :: (sign ++ ds))

/-- A number without its sign. -/
inductive UnsignedText : List Char → Prop
  | mk {whole decimals exponent : List Char} :
    WholeText whole → DecimalsText decimals → ExponentText exponent →
    UnsignedText (whole ++ decimals ++ exponent)

/-- The token of a number. -/
inductive NumberText : List Char → Prop
  | positive {token : List Char} : UnsignedText token → NumberText token
  | negative {token : List Char} : UnsignedText token → NumberText ('-' :: token)

/-- The texts that stand for a character inside of a string. -/
inductive CharText : Char → List Char → Prop
  /-- The character itself. -/
  | plain {c : Char} : 0x20 ≤ c.toNat → c ≠ '"' → c ≠ '\\' → CharText c [c]
  /-- An escape of one letter. -/
  | letter {e c : Char} : letterEscape? e = some c → CharText c ['\\', e]
  /-- An escape of four hexadecimal digits. -/
  | unit {a b c d : Char} {n : Nat} :
    hexQuad? a b c d = some n → isHighSurrogate n = false → isLowSurrogate n = false →
    CharText (Char.ofNat n) ['\\', 'u', a, b, c, d]
  /-- The escapes of two surrogates. -/
  | pair {a b c d a' b' c' d' : Char} {n m : Nat} :
    hexQuad? a b c d = some n → isHighSurrogate n = true →
    hexQuad? a' b' c' d' = some m → isLowSurrogate m = true →
    CharText (joinSurrogates n m) ['\\', 'u', a, b, c, d, '\\', 'u', a', b', c', d']

/-- The texts that stand for a string between its quotes. -/
inductive StringText : List Char → List Char → Prop
  | nil : StringText [] []
  | cons {c : Char} {cs w ws : List Char} :
    CharText c w → StringText cs ws → StringText (c :: cs) (w ++ ws)

/-! ### Documents -/

mutual

/-- The texts of a value. -/
inductive ValueText : Json → List Char → Prop
  | null : ValueText .null ['n', 'u', 'l', 'l']
  | yes : ValueText (.bool true) ['t', 'r', 'u', 'e']
  | no : ValueText (.bool false) ['f', 'a', 'l', 's', 'e']
  | number {token : List Char} :
    NumberText token → ValueText (.number (String.ofList token)) token
  | text {cs body : List Char} :
    StringText cs body → ValueText (.text (String.ofList cs)) ('"' :: (body ++ ['"']))
  | emptyArray {blanks : List Char} :
    Blanks blanks → ValueText (.array []) ('[' :: (blanks ++ [']']))
  | array {items : List Json} {body : List Char} :
    ItemsText items body → ValueText (.array items) ('[' :: (body ++ [']']))
  | emptyObject {blanks : List Char} :
    Blanks blanks → ValueText (.object []) ('\x7b' :: (blanks ++ ['\x7d']))
  | object {members : List (String × Json)} {body : List Char} :
    MembersText members body → ValueText (.object members) ('\x7b' :: (body ++ ['\x7d']))

/-- The texts of a value with blanks around it. -/
inductive Document : Json → List Char → Prop
  | mk {j : Json} {before value after : List Char} :
    Blanks before → ValueText j value → Blanks after → Document j (before ++ value ++ after)

/-- The texts of the items of an array, of which there is at least one. -/
inductive ItemsText : List Json → List Char → Prop
  | last {j : Json} {item : List Char} : Document j item → ItemsText [j] item
  | more {j : Json} {js : List Json} {item items : List Char} :
    Document j item → ItemsText js items → ItemsText (j :: js) (item ++ ',' :: items)

/-- The texts of a member of an object. -/
inductive MemberText : String × Json → List Char → Prop
  | mk {key body before after value : List Char} {j : Json} :
    Blanks before → StringText key body → Blanks after → Document j value →
    MemberText (String.ofList key, j)
      (before ++ '"' :: (body ++ '"' :: (after ++ ':' :: value)))

/-- The texts of the members of an object, of which there is at least one. -/
inductive MembersText : List (String × Json) → List Char → Prop
  | last {m : String × Json} {member : List Char} : MemberText m member → MembersText [m] member
  | more {m : String × Json} {ms : List (String × Json)} {member members : List Char} :
    MemberText m member → MembersText ms members →
    MembersText (m :: ms) (member ++ ',' :: members)

end

end SyntheticLoad.Json
