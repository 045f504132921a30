/-!
# ChaCha blocks

The block function of ChaCha, with twelve rounds. A block is a square of sixteen
words; the quarter round mixes the four words of a column, and a double round
mixes the columns and then the diagonals. Diagonals are columns of the block
whose rows are turned by their own number (`Block.diagonals`), so one function
serves both halves.
-/

namespace SyntheticLoad.Random.ChaCha

/-- The bits of `w`, turned left by `n` places. -/
def rotateLeft (w : UInt32) (n : UInt32) : UInt32 :=
  (w <<< n) ||| (w >>> (32 - n))

/-- Four words, one of each row of a block. -/
structure Column where
  a : UInt32
  b : UInt32
  c : UInt32
  d : UInt32
  deriving DecidableEq, Repr

/-- The quarter round: addition, exclusive or and rotation by 16, 12, 8 and 7. -/
def Column.quarterRound (x : Column) : Column :=
  let a := x.a + x.b
  let d := rotateLeft (x.d ^^^ a) 16
  let c := x.c + d
  let b := rotateLeft (x.b ^^^ c) 12
  let a := a + b
  let d := rotateLeft (d ^^^ a) 8
  let c := c + d
  let b := rotateLeft (b ^^^ c) 7
  ⟨a, b, c, d⟩

/-- The four columns of a block. -/
structure Block where
  c0 : Column
  c1 : Column
  c2 : Column
  c3 : Column
  deriving DecidableEq, Repr

namespace Block

/-- The diagonals of a block as columns: row `i` is turned left by `i`. -/
def diagonals (s : Block) : Block where
  c0 := ⟨s.c0.a, s.c1.b, s.c2.c, s.c3.d⟩
  c1 := ⟨s.c1.a, s.c2.b, s.c3.c, s.c0.d⟩
  c2 := ⟨s.c2.a, s.c3.b, s.c0.c, s.c1.d⟩
  c3 := ⟨s.c3.a, s.c0.b, s.c1.c, s.c2.d⟩

/-- The block with these diagonals: row `i` is turned right by `i`. -/
def ofDiagonals (s : Block) : Block where
  c0 := ⟨s.c0.a, s.c3.b, s.c2.c, s.c1.d⟩
  c1 := ⟨s.c1.a, s.c0.b, s.c3.c, s.c2.d⟩
  c2 := ⟨s.c2.a, s.c1.b, s.c0.c, s.c3.d⟩
  c3 := ⟨s.c3.a, s.c2.b, s.c1.c, s.c0.d⟩

/-- The quarter round of every column. -/
def columnRound (s : Block) : Block :=
  ⟨s.c0.quarterRound, s.c1.quarterRound, s.c2.quarterRound, s.c3.quarterRound⟩

/-- A column round, then a diagonal round. -/
def doubleRound (s : Block) : Block :=
  s.columnRound.diagonals.columnRound.ofDiagonals

/-- `n` double rounds. -/
def rounds (s : Block) : Nat → Block
  | 0 => s
  | n + 1 => rounds s.doubleRound n

/-- The words of a block, row by row. -/
def words (s : Block) : List UInt32 :=
  [s.c0.a, s.c1.a, s.c2.a, s.c3.a, s.c0.b, s.c1.b, s.c2.b, s.c3.b,
    s.c0.c, s.c1.c, s.c2.c, s.c3.c, s.c0.d, s.c1.d, s.c2.d, s.c3.d]

end Block

/-- A key of eight words. -/
structure Key where
  k0 : UInt32
  k1 : UInt32
  k2 : UInt32
  k3 : UInt32
  k4 : UInt32
  k5 : UInt32
  k6 : UInt32
  k7 : UInt32
  deriving DecidableEq, Repr

/-- The block that enters the rounds: four constants, the key, the number of the
    block as 64 bits with the low word first, and two zeros. -/
def initialBlock (k : Key) (counter : UInt64) : Block where
  c0 := ⟨0x61707865, k.k0, k.k4, counter.toUInt32⟩
  c1 := ⟨0x3320646e, k.k1, k.k5, (counter >>> 32).toUInt32⟩
  c2 := ⟨0x79622d32, k.k2, k.k6, 0⟩
  c3 := ⟨0x6b206574, k.k3, k.k7, 0⟩

/-- The words of block `counter` of the keystream under `k`: six double rounds,
    and the sum with the block that entered them. -/
def blockWords (k : Key) (counter : UInt64) : List UInt32 :=
  let start := initialBlock k counter
  List.zipWith (· + ·) (start.rounds 6).words start.words

end SyntheticLoad.Random.ChaCha
