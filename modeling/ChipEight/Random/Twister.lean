/-!
# The Mersenne Twister

The generator MT19937: 624 words of thirty-two bits, renewed all at once when
they have been used up, each word tempered as it is handed out. A seed of any
size is cut into words and stirred into the state.
-/

namespace ChipEight.Random

/-- The state of a generator and how many of its words have been handed out. -/
structure Twister where
  words : Array UInt32
  used : Nat

namespace Twister

/-- Words in a state. -/
def size : Nat := 624

/-- The distance over which words are combined. -/
def shift : Nat := 397

/-- A word that has been combined with its own high bits. -/
def stir (w : UInt32) : UInt32 := w ^^^ (w >>> 30)

/-- The state grown from a single word. -/
def ofWord (seed : UInt32) : Array UInt32 :=
  (List.range (size - 1)).foldl
    (fun ws i => ws.push (stir (ws.getD i 0) * 1812433253 + UInt32.ofNat (i + 1)))
    #[seed]

/-- The state behind the place that follows `i`, the first word being a copy of
the last when the end is passed. -/
def wrap (ws : Array UInt32) (i : Nat) : Array UInt32 × Nat :=
  if i + 1 < size then (ws, i + 1)
  else (ws.setIfInBounds 0 (ws.getD (size - 1) 0), 1)

/-- One round of mixing a key in; `j` walks round the key. -/
def mixKey (key : Array UInt32) : Nat → Array UInt32 → Nat → Nat → Array UInt32 × Nat
  | 0, ws, i, _ => (ws, i)
  | rounds + 1, ws, i, j =>
      let w := (ws.getD i 0 ^^^ stir (ws.getD (i - 1) 0) * 1664525) + key.getD j 0
        + UInt32.ofNat j
      let (ws, i) := wrap (ws.setIfInBounds i w) i
      mixKey key rounds ws i (if j + 1 < key.size then j + 1 else 0)

/-- The rounds after the key, which spread it over the whole state. -/
def spread : Nat → Array UInt32 → Nat → Array UInt32
  | 0, ws, _ => ws
  | rounds + 1, ws, i =>
      let w := (ws.getD i 0 ^^^ stir (ws.getD (i - 1) 0) * 1566083941) - UInt32.ofNat i
      let (ws, i) := wrap (ws.setIfInBounds i w) i
      spread rounds ws i

/-- The state for a key of words. -/
def ofKey (key : Array UInt32) : Twister :=
  let (ws, i) := mixKey key (max size key.size) (ofWord 19650218) 1 0
  let ws := spread (size - 1) ws i
  { words := ws.setIfInBounds 0 0x80000000, used := size }

/-- A number's words, least significant first; zero has one word. -/
def keyWords (n : Nat) : List UInt32 :=
  if n < 4294967296 then [UInt32.ofNat n]
  else UInt32.ofNat (n % 4294967296) :: keyWords (n / 4294967296)
termination_by n

/-- The generator for a seed, whose sign does not matter. -/
def ofSeed (seed : Int) : Twister := ofKey (keyWords seed.natAbs).toArray

/-- All words renewed, each in its place. -/
def renew (ws : Array UInt32) : Array UInt32 :=
  (List.range size).foldl
    (fun ws i =>
      let y := (ws.getD i 0 &&& 0x80000000) ||| (ws.getD ((i + 1) % size) 0 &&& 0x7FFFFFFF)
      let w := ws.getD ((i + shift) % size) 0 ^^^ (y >>> 1)
      ws.setIfInBounds i (if y &&& 1 = 1 then w ^^^ 0x9908B0DF else w))
    ws

/-- The scrambling of a word as it is handed out. -/
def temper (w : UInt32) : UInt32 :=
  let w := w ^^^ (w >>> 11)
  let w := w ^^^ ((w <<< 7) &&& 0x9D2C5680)
  let w := w ^^^ ((w <<< 15) &&& 0xEFC60000)
  w ^^^ (w >>> 18)

/-- The next word. -/
def next (t : Twister) : UInt32 × Twister :=
  if t.used < size then (temper (t.words.getD t.used 0), { t with used := t.used + 1 })
  else
    let words := renew t.words
    (temper (words.getD 0 0), { words := words, used := 1 })

/-- The first nine-bit number below 256, among at most so many. -/
def byteWithin : Nat → Twister → UInt8 × Twister
  | 0, t => (0, t)
  | tries + 1, t =>
      let (w, t) := t.next
      let r := w >>> 23
      if r < 256 then (r.toUInt8, t) else byteWithin tries t

/-- A byte, drawn by throwing away nine-bit numbers that are too great. -/
def byte (t : Twister) : UInt8 × Twister := byteWithin 4096 t

end Twister

end ChipEight.Random
