import SyntheticLoad.Text.Numeral

/-!
# Punycode

A text as ASCII: first its ASCII characters and a hyphen, then the others in
increasing order, each as the distance from the one before, counted in places of
the text. A distance is a numeral in base 36 whose last digit is told by a
threshold, and the thresholds follow the distances seen so far (`Bias`).
-/

namespace SyntheticLoad.Text.Punycode

/-- The character of a digit below 36. -/
def digitOf (d : Nat) : Char := if d < 26 then Char.ofNat (97 + d) else Char.ofNat (22 + d)

/-- The value of a digit. -/
def valueOf? (c : Char) : Option Nat :=
  if 'a' ≤ c ∧ c ≤ 'z' then some (c.toNat - 97)
  else if 'A' ≤ c ∧ c ≤ 'Z' then some (c.toNat - 65)
  else if '0' ≤ c ∧ c ≤ '9' then some (c.toNat - 22)
  else none

/-- The threshold of a digit: the first digit below it is the last one. -/
def threshold (bias position : Nat) : Nat :=
  let k := 36 * (position + 1)
  if k ≤ bias + 1 then 1 else if bias + 26 ≤ k then 26 else k - bias

/-- How often a distance is divided by 35 before it is small, and what is left. -/
def shrink (delta : Nat) : Nat × Nat :=
  if 455 < delta then
    let (times, rest) := shrink (delta / 35)
    (times + 1, rest)
  else
    (0, delta)

/-- The bias after a distance; `count` characters are placed by then. -/
def adapt (delta count : Nat) (isFirst : Bool) : Nat :=
  let delta := if isFirst then delta / 700 else delta / 2
  let (times, rest) := shrink (delta + delta / count)
  36 * times + 36 * rest / (rest + 38)

/-- The numeral of a distance, from a position on; at most `fuel` digits. -/
def encodeDistance (bias : Nat) : Nat → Nat → Nat → List Char
  | 0, _, _ => []
  | fuel + 1, position, q =>
    let t := threshold bias position
    if q < t then
      [digitOf q]
    else
      digitOf (t + (q - t) % (36 - t)) ::
        encodeDistance bias fuel (position + 1) ((q - t) / (36 - t))

/-- What a writer keeps: the distance since the last character, the bias, and how
    many characters are placed. -/
structure Progress where
  delta : Nat
  bias : Nat
  placed : Nat

/-- Writes the places of one character, going once through the text. -/
def encodePlaces (m ascii : Nat) : Progress → List Nat → Progress × List Char
  | p, [] => (p, [])
  | p, c :: cs =>
    if c < m then
      encodePlaces m ascii { p with delta := p.delta + 1 } cs
    else if c = m then
      let digits := encodeDistance p.bias (p.delta + 1) 0 p.delta
      let bias := adapt p.delta (p.placed + 1) (p.placed = ascii)
      let (p, rest) := encodePlaces m ascii ⟨0, bias, p.placed + 1⟩ cs
      (p, digits ++ rest)
    else
      encodePlaces m ascii p cs

/-- Writes the characters of an increasing list; `n` is the last one written. -/
def encodeRest (text : List Nat) (ascii : Nat) : Progress → Nat → List Nat → List Char
  | _, _, [] => []
  | p, n, m :: ms =>
    let p := { p with delta := p.delta + (m - n) * (p.placed + 1) }
    let (p, out) := encodePlaces m ascii p text
    out ++ encodeRest text ascii { p with delta := p.delta + 1 } (m + 1) ms

/-- A text as ASCII. -/
def encode (cs : List Char) : List Char :=
  let plain := cs.filter fun c => c.toNat < 128
  let codes := cs.map Char.toNat
  let others := (codes.filter (128 ≤ ·)).eraseDups.mergeSort
  plain ++ (if plain.isEmpty then [] else ['-']) ++
    encodeRest codes plain.length ⟨0, 72, plain.length⟩ 128 others

/-- Reads the numeral of a distance: its value and what follows. -/
def decodeDistance (bias : Nat) : Nat → Nat → Nat → List Char → Option (Nat × List Char)
  | _, _, _, [] => none
  | position, weight, i, c :: cs => do
    let d ← valueOf? c
    let i := i + d * weight
    let t := threshold bias position
    if d < t then some (i, cs) else decodeDistance bias (position + 1) (weight * (36 - t)) i cs

/-- Reads the distances, each of which puts one character into the text; there are at
    most `fuel` of them. -/
def decodeRest : Nat → List Nat → Nat → Nat → Nat → Bool → List Char → Option (List Nat)
  | _, text, _, _, _, _, [] => some text
  | 0, _, _, _, _, _, _ :: _ => none
  | fuel + 1, text, n, i, bias, isFirst, cs => do
    let (distance, rest) ← decodeDistance bias 0 1 0 cs
    let count := text.length + 1
    let n := n + (i + distance) / count
    let place := (i + distance) % count
    if n < 0x110000 ∧ ¬(0xD800 ≤ n ∧ n < 0xE000) then
      decodeRest fuel (text.insertIdx place n) n (place + 1) (adapt distance count isFirst) false
        rest
    else
      none

/-- The ASCII characters in front of the last hyphen, and what follows it. -/
def cutLastHyphen (cs : List Char) : List Char × List Char :=
  let tail := (cs.reverse.takeWhile (· ≠ '-')).reverse
  (cs.take (cs.length - tail.length - 1), tail)

/-- The text that an ASCII text stands for. -/
def decode (cs : List Char) : Option (List Char) :=
  let (plain, tail) := cutLastHyphen cs
  if plain.all fun c => c.toNat < 128 then
    (decodeRest cs.length (plain.map Char.toNat) 128 0 72 true tail).map (·.map Char.ofNat)
  else
    none

end SyntheticLoad.Text.Punycode
