/-!
# Bytes that are read as text

A sequence of bytes need not be valid UTF-8. `decode` reads it as a sequence of pieces: the
characters it holds and, one by one, the bytes that are part of none.
-/

namespace PayloadGen.Text

/-- A sequence of bytes. -/
abbrev Bytes := List UInt8

/-- The UTF-8 encoding of a text. -/
def utf8 (s : String) : Bytes :=
  s.toUTF8.toList

/-- What stands at one place of a byte sequence. -/
inductive Piece where
  /-- A character, encoded as the standard asks. -/
  | char (c : Char)
  /-- A byte that is part of no encoded character. -/
  | stray (b : UInt8)

/-- The bytes that a piece stands for. -/
def Piece.bytes : Piece → Bytes
  | .char c => String.utf8EncodeChar c
  | .stray b => [b]

/-- Is the byte one that continues an encoded character? -/
def isContinuation (b : UInt8) : Bool :=
  0x80 ≤ b && b ≤ 0xBF

/-- The second byte that may follow the first byte of a character of three or four bytes: shorter
encodings, surrogates and values past the last code point are excluded here. -/
def secondByteFits (b c : UInt8) : Bool :=
  if b == 0xE0 then 0xA0 ≤ c && c ≤ 0xBF
  else if b == 0xED then 0x80 ≤ c && c ≤ 0x9F
  else if b == 0xF0 then 0x90 ≤ c && c ≤ 0xBF
  else if b == 0xF4 then 0x80 ≤ c && c ≤ 0x8F
  else isContinuation c

/-- The low six bits of a continuation byte. -/
def low6 (b : UInt8) : Nat :=
  b.toNat % 64

/-- The character or the stray byte at the front of a byte sequence, and the rest. -/
def nextPiece (b : UInt8) (r : Bytes) : Piece × Bytes :=
  if b < 0x80 then (.char (Char.ofNat b.toNat), r)
  else match r with
    | [] => (.stray b, r)
    | c :: r₂ =>
      if 0xC2 ≤ b && b ≤ 0xDF && isContinuation c then
        (.char (Char.ofNat (b.toNat % 32 * 64 + low6 c)), r₂)
      else match r₂ with
        | [] => (.stray b, r)
        | d :: r₃ =>
          if 0xE0 ≤ b && b ≤ 0xEF && secondByteFits b c && isContinuation d then
            (.char (Char.ofNat ((b.toNat % 16 * 64 + low6 c) * 64 + low6 d)), r₃)
          else match r₃ with
            | [] => (.stray b, r)
            | e :: r₄ =>
              if 0xF0 ≤ b && b ≤ 0xF4 && secondByteFits b c && isContinuation d &&
                  isContinuation e then
                (.char (Char.ofNat (((b.toNat % 8 * 64 + low6 c) * 64 + low6 d) * 64 + low6 e)), r₄)
              else (.stray b, r)

theorem nextPiece_length (b : UInt8) (r : Bytes) : (nextPiece b r).2.length ≤ r.length := by
  unfold nextPiece
  repeat' split
  all_goals simp
  all_goals omega

/-- The characters and stray bytes of a byte sequence, in order. -/
def decode : Bytes → List Piece
  | [] => []
  | b :: r => (nextPiece b r).1 :: decode (nextPiece b r).2
termination_by s => s.length
decreasing_by
  have := nextPiece_length b r
  simp only [List.length_cons]
  omega

/-- The character that stands for a byte that is part of no character. -/
def replacement : Char := '\ufffd'

/-- A piece as a character. -/
def Piece.toChar : Piece → Char
  | .char c => c
  | .stray _ => replacement

/-- The text of a byte sequence, every stray byte replaced. -/
def lossy (s : Bytes) : String :=
  String.ofList ((decode s).map Piece.toChar)

/-- A piece that is a character. -/
def Piece.toChar? : Piece → Option Char
  | .char c => some c
  | .stray _ => none

/-- The text of a byte sequence that is valid UTF-8. -/
def ofUtf8? (s : Bytes) : Option String :=
  ((decode s).mapM Piece.toChar?).map String.ofList

end PayloadGen.Text
