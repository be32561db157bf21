/-!
# UTF-8

Bytes are lists of `UInt8`. A byte sequence is cut into *pieces*: each is one well-formed character
or one maximal ill-formed part. Strict decoding asks for characters only; lossy decoding shows every
ill-formed part as one U+FFFD.

Results:
* `rest_length_le`: taking a piece never makes the rest longer, so `pieces` ends.
* `pieces_nil`, `pieces_cons`: the two equations by which `pieces` is computed.
-/

namespace DataStaging

/-- The contents of a file, or what a program wrote. -/
abbrev Bytes := List UInt8

namespace Utf8

/-- A byte that continues a character. -/
def isTrail (b : UInt8) : Bool := 0x80 ≤ b && b ≤ 0xBF

/-- The range of second bytes that may follow the lead `b` of a character of three or four bytes:
    the ends of the range keep out overlong forms, surrogates and values past U+10FFFF. -/
def secondRange (b : UInt8) : UInt8 × UInt8 :=
  if b = 0xE0 then (0xA0, 0xBF)
  else if b = 0xED then (0x80, 0x9F)
  else if b = 0xF0 then (0x90, 0xBF)
  else if b = 0xF4 then (0x80, 0x8F)
  else (0x80, 0xBF)

/-- Whether `c` may be the second byte after the lead `b`. -/
def isSecond (b c : UInt8) : Bool := (secondRange b).1 ≤ c && c ≤ (secondRange b).2

/-- The low six bits of a trailing byte. -/
def low (b : UInt8) : Nat := b.toNat % 64

/-- The piece that starts with `b`, and what follows it. `none` is a maximal ill-formed part. -/
def takePiece (b : UInt8) (rest : Bytes) : Option Char × Bytes :=
  if b < 0x80 then (some (Char.ofNat b.toNat), rest)
  else if 0xC2 ≤ b && b ≤ 0xDF then
    match rest with
    | c :: r =>
      if isTrail c then (some (Char.ofNat (b.toNat % 32 * 64 + low c)), r) else (none, rest)
    | [] => (none, [])
  else if 0xE0 ≤ b && b ≤ 0xEF then
    match rest with
    | c :: r =>
      if isSecond b c then
        match r with
        | d :: r' =>
          if isTrail d then
            (some (Char.ofNat (b.toNat % 16 * 4096 + low c * 64 + low d)), r')
          else (none, r)
        | [] => (none, [])
      else (none, rest)
    | [] => (none, [])
  else if 0xF0 ≤ b && b ≤ 0xF4 then
    match rest with
    | c :: r =>
      if isSecond b c then
        match r with
        | d :: r' =>
          if isTrail d then
            match r' with
            | e :: r'' =>
              if isTrail e then
                (some (Char.ofNat
                  (b.toNat % 8 * 262144 + low c * 4096 + low d * 64 + low e)), r'')
              else (none, r')
            | [] => (none, [])
          else (none, r)
        | [] => (none, [])
      else (none, rest)
    | [] => (none, [])
  else (none, rest)

theorem rest_length_le (b : UInt8) (rest : Bytes) : (takePiece b rest).2.length ≤ rest.length := by
  unfold takePiece
  repeat' split
  all_goals simp_all
  all_goals omega

/-- The pieces of a byte sequence, in order. -/
def pieces : Bytes → List (Option Char)
  | [] => []
  | b :: rest => (takePiece b rest).1 :: pieces (takePiece b rest).2
termination_by bytes => bytes.length
decreasing_by
  have := rest_length_le b rest
  simp only [List.length_cons]
  omega

theorem pieces_nil : pieces [] = [] := by rw [pieces]

theorem pieces_cons (b : UInt8) (rest : Bytes) :
    pieces (b :: rest) = (takePiece b rest).1 :: pieces (takePiece b rest).2 := by rw [pieces]

/-- U+FFFD, shown in place of an ill-formed part. -/
def replacement : Char := Char.ofNat 0xFFFD

/-- The characters of a byte sequence with every ill-formed part replaced. -/
def lossyChars (bytes : Bytes) : List Char := (pieces bytes).map (·.getD replacement)

/-- The text of a byte sequence with every ill-formed part replaced. -/
def decodeLossy (bytes : Bytes) : String := String.ofList (lossyChars bytes)

/-- The text of a byte sequence, if all of it is well formed. -/
def decode? (bytes : Bytes) : Option String := ((pieces bytes).mapM id).map String.ofList

/-- The bytes of one code point; a surrogate is written like any other three-byte value. -/
def encodePoint (n : Nat) : Bytes :=
  if n < 0x80 then [UInt8.ofNat n]
  else if n < 0x800 then [UInt8.ofNat (0xC0 + n / 64), UInt8.ofNat (0x80 + n % 64)]
  else if n < 0x10000 then
    [UInt8.ofNat (0xE0 + n / 4096), UInt8.ofNat (0x80 + n / 64 % 64), UInt8.ofNat (0x80 + n % 64)]
  else
    [UInt8.ofNat (0xF0 + n / 262144), UInt8.ofNat (0x80 + n / 4096 % 64),
      UInt8.ofNat (0x80 + n / 64 % 64), UInt8.ofNat (0x80 + n % 64)]

/-- The bytes of a list of characters. -/
def encodeChars (cs : List Char) : Bytes := cs.flatMap (fun c => encodePoint c.toNat)

/-- The bytes of a text. -/
def encode (s : String) : Bytes := encodeChars s.toList

end Utf8

end DataStaging
