import Mathlib.Data.List.Basic
import Mathlib.Data.String.Basic
import PayloadGen.Text.Utf8

/-!
# Texts as bytes, and back

The bytes of a text are those of its characters, one after the other (`utf8_eq_flatMap`), and
reading them gives the characters back (`decode_utf8_append`). So a text is read back from its bytes
unchanged (`lossy_utf8`). Of other bytes none is lost when they are read (`flatMap_bytes_decode`),
and ASCII characters are read where they stand (`mem_lossy_iff_of_ascii`). Texts are in the order of
their bytes (`utf8_lt_iff`).
-/

namespace PayloadGen.Text

/-! ## The bytes of a text -/

theorem toList_eq_data (bytes : ByteArray) : bytes.toList = bytes.data.toList := by
  have hloop : ∀ i r, ByteArray.toList.loop bytes i r = r.reverse ++ bytes.data.toList.drop i := by
    intro i r
    induction i, r using ByteArray.toList.loop.induct bytes with
    | case1 i r hi ih =>
      rw [ByteArray.toList.loop, if_pos hi, ih, List.reverse_cons, List.append_assoc,
        List.drop_eq_getElem_cons (show i < bytes.data.toList.length by simpa using hi)]
      simp [ByteArray.get!, hi]
    | case2 i r hi =>
      rw [ByteArray.toList.loop, if_neg hi, List.drop_of_length_le (by simpa using hi),
        List.append_nil]
  exact hloop 0 []

theorem utf8_eq_flatMap (s : String) : utf8 s = s.toList.flatMap String.utf8EncodeChar := by
  have hbytes : s.toUTF8 = (s.toList.flatMap String.utf8EncodeChar).toByteArray := by
    conv_lhs => rw [← String.ofList_toList (s := s)]
    rfl
  rw [utf8, hbytes, toList_eq_data, List.data_toByteArray]

@[simp] theorem utf8_empty : utf8 "" = [] := by
  simp [utf8_eq_flatMap]

@[simp] theorem utf8_append (s t : String) : utf8 (s ++ t) = utf8 s ++ utf8 t := by
  simp only [utf8_eq_flatMap, String.toList_append, List.flatMap_append]

/-! ## Reading one character -/

theorem toNat_byte {n : Nat} (h : n < 256) : (UInt8.ofNat n).toNat = n := by
  simpa using h

theorem utf8EncodeChar_of_ascii {c : Char} (h : c.toNat < 0x80) :
    String.utf8EncodeChar c = [UInt8.ofNat c.toNat] :=
  if_pos (Nat.le_of_lt_succ h)

/-- A byte of a longer character is none of the ASCII ones. -/
theorem toNat_eq_of_mem_utf8EncodeChar {c : Char} {b : UInt8} (h : b ∈ String.utf8EncodeChar c)
    (hb : b.toNat < 0x80) : b.toNat = c.toNat := by
  unfold String.utf8EncodeChar at h
  dsimp only at h
  have hc : c.toNat = c.val.toNat := rfl
  split at h
  · rw [List.mem_singleton.1 h, toNat_byte (by omega), hc]
  split at h
  · simp only [List.mem_cons, List.not_mem_nil, or_false] at h
    obtain rfl | rfl := h <;> rw [toNat_byte (by omega)] at hb <;> omega
  split at h
  · simp only [List.mem_cons, List.not_mem_nil, or_false] at h
    obtain rfl | rfl | rfl := h <;> rw [toNat_byte (by omega)] at hb <;> omega
  · simp only [List.mem_cons, List.not_mem_nil, or_false] at h
    obtain rfl | rfl | rfl | rfl := h <;> rw [toNat_byte (by omega)] at hb <;> omega

theorem isContinuation_byte {n : Nat} (h : n < 64) :
    isContinuation (UInt8.ofNat (n + 0x80)) = true := by
  simp only [isContinuation, UInt8.le_iff_toNat_le, toNat_byte (show n + 0x80 < 256 by omega),
    UInt8.reduceToNat, Bool.and_eq_true, decide_eq_true_eq]
  omega

theorem low6_byte {n : Nat} (h : n < 64) : low6 (UInt8.ofNat (n + 0x80)) = n := by
  rw [low6, toNat_byte (by omega)]
  omega

/-- The second byte fits unless the encoding is too long, or that of a surrogate or of a value past
the last code point. -/
theorem secondByteFits_byte {a b : Nat} (ha : a < 256) (hb : b < 64) (hthree : a = 0xE0 → 32 ≤ b)
    (hsurrogate : a = 0xED → b < 32) (hfour : a = 0xF0 → 16 ≤ b) (hlast : a = 0xF4 → b < 16) :
    secondByteFits (UInt8.ofNat a) (UInt8.ofNat (b + 0x80)) = true := by
  have hwithin (low high : Nat) (h : low ≤ b + 0x80 ∧ b + 0x80 ≤ high) :
      (decide (low ≤ b + 0x80) && decide (b + 0x80 ≤ high)) = true := by simpa using h
  simp only [secondByteFits, isContinuation_byte hb, beq_iff_eq, ← UInt8.toNat_inj,
    UInt8.le_iff_toNat_le, toNat_byte ha, toNat_byte (show b + 0x80 < 256 by omega),
    UInt8.reduceToNat]
  split
  · exact hwithin _ _ (by omega)
  split
  · exact hwithin _ _ (by omega)
  split
  · exact hwithin _ _ (by omega)
  split
  · exact hwithin _ _ (by omega)
  · rfl

variable {a b c e : Nat} (rest : Bytes)

theorem nextPiece_one (ha : a < 0x80) :
    nextPiece (UInt8.ofNat a) rest = (.char (Char.ofNat a), rest) := by
  simp only [nextPiece, UInt8.lt_iff_toNat_lt, toNat_byte (show a < 256 by omega),
    UInt8.reduceToNat]
  rw [if_pos ha]

theorem nextPiece_two (ha : 2 ≤ a) (ha' : a < 32) (hb : b < 64) :
    nextPiece (UInt8.ofNat (a + 0xC0)) (UInt8.ofNat (b + 0x80) :: rest) =
      (.char (Char.ofNat (a * 64 + b)), rest) := by
  have hlow : (a + 0xC0) % 32 = a := by omega
  simp only [nextPiece, isContinuation_byte, low6_byte, hb, UInt8.lt_iff_toNat_lt,
    UInt8.le_iff_toNat_le, toNat_byte (show a + 0xC0 < 256 by omega), UInt8.reduceToNat, hlow,
    Bool.and_true, Bool.and_eq_true, decide_eq_true_eq]
  rw [if_neg (by omega), if_pos (by omega)]

theorem nextPiece_three (ha : a < 16) (hb : b < 64) (hc : c < 64) (hlong : a = 0 → 32 ≤ b)
    (hsurrogate : a = 13 → b < 32) :
    nextPiece (UInt8.ofNat (a + 0xE0)) (UInt8.ofNat (b + 0x80) :: UInt8.ofNat (c + 0x80) :: rest) =
      (.char (Char.ofNat ((a * 64 + b) * 64 + c)), rest) := by
  have hfits : secondByteFits (UInt8.ofNat (a + 0xE0)) (UInt8.ofNat (b + 0x80)) = true :=
    secondByteFits_byte (by omega) hb (by omega) (by omega) (by omega) (by omega)
  have hlow : (a + 0xE0) % 16 = a := by omega
  simp only [nextPiece, hfits, isContinuation_byte, low6_byte, hb, hc, UInt8.lt_iff_toNat_lt,
    UInt8.le_iff_toNat_le, toNat_byte (show a + 0xE0 < 256 by omega), UInt8.reduceToNat, hlow,
    Bool.and_true, Bool.and_eq_true, decide_eq_true_eq]
  rw [if_neg (by omega), if_neg (by omega), if_pos (by omega)]

theorem nextPiece_four (ha : a < 5) (hb : b < 64) (hc : c < 64) (he : e < 64)
    (hlong : a = 0 → 16 ≤ b) (hlast : a = 4 → b < 16) :
    nextPiece (UInt8.ofNat (a + 0xF0))
        (UInt8.ofNat (b + 0x80) :: UInt8.ofNat (c + 0x80) :: UInt8.ofNat (e + 0x80) :: rest) =
      (.char (Char.ofNat (((a * 64 + b) * 64 + c) * 64 + e)), rest) := by
  have hfits : secondByteFits (UInt8.ofNat (a + 0xF0)) (UInt8.ofNat (b + 0x80)) = true :=
    secondByteFits_byte (by omega) hb (by omega) (by omega) (by omega) (by omega)
  have hlow : (a + 0xF0) % 8 = a := by omega
  simp only [nextPiece, hfits, isContinuation_byte, low6_byte, hb, hc, he, UInt8.lt_iff_toNat_lt,
    UInt8.le_iff_toNat_le, toNat_byte (show a + 0xF0 < 256 by omega), UInt8.reduceToNat, hlow,
    Bool.and_true, Bool.and_eq_true, decide_eq_true_eq]
  rw [if_neg (by omega), if_neg (by omega), if_neg (by omega), if_pos (by omega)]

/-! ## Reading texts -/

/-- The bytes of a character are read as that character, whatever follows. -/
theorem decode_utf8EncodeChar (x : Char) :
    decode (String.utf8EncodeChar x ++ rest) = .char x :: decode rest := by
  have hx : Char.ofNat x.val.toNat = x := Char.ofNat_toNat x
  have hvalid : x.val.toNat < 0xD800 ∨ 0xDFFF < x.val.toNat ∧ x.val.toNat < 0x110000 := x.valid
  unfold String.utf8EncodeChar
  dsimp only
  split
  · rw [List.singleton_append, decode, nextPiece_one rest (by omega), hx]
  split
  · have hsum : x.val.toNat / 64 % 32 * 64 + x.val.toNat % 64 = x.val.toNat := by omega
    rw [List.cons_append, List.singleton_append, decode,
      nextPiece_two rest (by omega) (by omega) (by omega), hsum, hx]
  split
  · have hsum : (x.val.toNat / 4096 % 16 * 64 + x.val.toNat / 64 % 64) * 64 + x.val.toNat % 64 =
        x.val.toNat := by
      omega
    rw [List.cons_append, List.cons_append, List.singleton_append, decode,
      nextPiece_three rest (by omega) (by omega) (by omega) (by omega) (by omega), hsum, hx]
  · have hsum :
        ((x.val.toNat / 262144 % 8 * 64 + x.val.toNat / 4096 % 64) * 64 +
          x.val.toNat / 64 % 64) * 64 + x.val.toNat % 64 = x.val.toNat := by
      omega
    rw [List.cons_append, List.cons_append, List.cons_append, List.singleton_append, decode,
      nextPiece_four rest (by omega) (by omega) (by omega) (by omega) (by omega) (by omega),
      hsum, hx]

theorem decode_utf8_append (s : String) :
    decode (utf8 s ++ rest) = s.toList.map .char ++ decode rest := by
  rw [utf8_eq_flatMap]
  induction s.toList with
  | nil => rfl
  | cons c cs ih =>
    rw [List.flatMap_cons, List.append_assoc, decode_utf8EncodeChar, ih, List.map_cons,
      List.cons_append]

theorem decode_utf8 (s : String) : decode (utf8 s) = s.toList.map .char := by
  have hnil : decode [] = [] := by simp [decode]
  rw [← List.append_nil (utf8 s), decode_utf8_append, hnil, List.append_nil]

/-- The bytes of a text are read as that text, whatever follows. -/
theorem lossy_utf8_append (s : String) : lossy (utf8 s ++ rest) = s ++ lossy rest := by
  have hchar : Piece.toChar ∘ Piece.char = id := rfl
  rw [lossy, decode_utf8_append, List.map_append, List.map_map, hchar, List.map_id,
    String.ofList_append, String.ofList_toList, lossy]

/-- A text is read back from its bytes unchanged. -/
@[simp] theorem lossy_utf8 (s : String) : lossy (utf8 s) = s := by
  have hnil : lossy [] = "" := by simp [lossy, decode]
  rw [← List.append_nil (utf8 s), lossy_utf8_append, hnil, String.append_empty]

theorem utf8_inj {s t : String} : utf8 s = utf8 t ↔ s = t :=
  ⟨fun h => by simpa using congrArg lossy h, congrArg utf8⟩

/-! ## Reading any bytes -/

theorem toNat_ofNat {n : Nat} (h : n.isValidChar) : (Char.ofNat n).toNat = n := by
  have hofNat : Char.ofNat n = Char.ofNatAux n h := dif_pos h
  rw [hofNat]
  rfl

theorem byte_eq {n : Nat} {b : UInt8} (h : n = b.toNat) : UInt8.ofNat n = b := by
  rw [h, UInt8.ofNat_toNat]

theorem bounds_of_isContinuation {b : UInt8} (h : isContinuation b = true) :
    0x80 ≤ b.toNat ∧ b.toNat ≤ 0xBF := by
  simpa [isContinuation, UInt8.le_iff_toNat_le] using h

theorem bounds_of_secondByteFits {b c : UInt8} (h : secondByteFits b c = true) :
    0x80 ≤ c.toNat ∧ c.toNat ≤ 0xBF ∧ (b.toNat = 0xE0 → 0xA0 ≤ c.toNat) ∧
      (b.toNat = 0xED → c.toNat ≤ 0x9F) ∧ (b.toNat = 0xF0 → 0x90 ≤ c.toNat) ∧
      (b.toNat = 0xF4 → c.toNat ≤ 0x8F) := by
  simp only [secondByteFits, isContinuation, beq_iff_eq, ← UInt8.toNat_inj, UInt8.le_iff_toNat_le,
    UInt8.reduceToNat] at h
  grind

theorem utf8EncodeChar_two {b c : UInt8} (h : (0xC2 ≤ b && b ≤ 0xDF && isContinuation c) = true) :
    String.utf8EncodeChar (Char.ofNat (b.toNat % 32 * 64 + low6 c)) = [b, c] := by
  simp only [Bool.and_eq_true, decide_eq_true_eq, UInt8.le_iff_toNat_le, UInt8.reduceToNat] at h
  obtain ⟨hb, hc⟩ := h
  have hc := bounds_of_isContinuation hc
  have hvalue : (Char.ofNat (b.toNat % 32 * 64 + low6 c)).val.toNat =
      b.toNat % 32 * 64 + c.toNat % 64 :=
    toNat_ofNat (.inl (by unfold low6; omega))
  unfold String.utf8EncodeChar
  dsimp only
  rw [hvalue, if_neg (by omega), if_pos (by omega), byte_eq (b := b) (by omega),
    byte_eq (b := c) (by omega)]

theorem utf8EncodeChar_three {b c d : UInt8}
    (h : (0xE0 ≤ b && b ≤ 0xEF && secondByteFits b c && isContinuation d) = true) :
    String.utf8EncodeChar (Char.ofNat ((b.toNat % 16 * 64 + low6 c) * 64 + low6 d)) =
      [b, c, d] := by
  simp only [Bool.and_eq_true, decide_eq_true_eq, UInt8.le_iff_toNat_le, UInt8.reduceToNat] at h
  obtain ⟨⟨hb, hc⟩, hd⟩ := h
  have hc := bounds_of_secondByteFits hc
  have hd := bounds_of_isContinuation hd
  have hvalue : (Char.ofNat ((b.toNat % 16 * 64 + low6 c) * 64 + low6 d)).val.toNat =
      (b.toNat % 16 * 64 + c.toNat % 64) * 64 + d.toNat % 64 := by
    refine toNat_ofNat ?_
    show _ < 0xD800 ∨ 0xDFFF < _ ∧ _ < 0x110000
    unfold low6
    omega
  unfold String.utf8EncodeChar
  dsimp only
  rw [hvalue, if_neg (by omega), if_neg (by omega), if_pos (by omega), byte_eq (b := b) (by omega),
    byte_eq (b := c) (by omega), byte_eq (b := d) (by omega)]

theorem utf8EncodeChar_four {b c d e : UInt8}
    (h : (0xF0 ≤ b && b ≤ 0xF4 && secondByteFits b c && isContinuation d && isContinuation e) =
      true) :
    String.utf8EncodeChar (Char.ofNat (((b.toNat % 8 * 64 + low6 c) * 64 + low6 d) * 64 + low6 e)) =
      [b, c, d, e] := by
  simp only [Bool.and_eq_true, decide_eq_true_eq, UInt8.le_iff_toNat_le, UInt8.reduceToNat] at h
  obtain ⟨⟨⟨hb, hc⟩, hd⟩, he⟩ := h
  have hc := bounds_of_secondByteFits hc
  have hd := bounds_of_isContinuation hd
  have he := bounds_of_isContinuation he
  have hvalue : (Char.ofNat (((b.toNat % 8 * 64 + low6 c) * 64 + low6 d) * 64 + low6 e)).val.toNat =
      ((b.toNat % 8 * 64 + c.toNat % 64) * 64 + d.toNat % 64) * 64 + e.toNat % 64 := by
    refine toNat_ofNat ?_
    show _ < 0xD800 ∨ 0xDFFF < _ ∧ _ < 0x110000
    unfold low6
    omega
  unfold String.utf8EncodeChar
  dsimp only
  rw [hvalue, if_neg (by omega), if_neg (by omega), if_neg (by omega), byte_eq (b := b) (by omega),
    byte_eq (b := c) (by omega), byte_eq (b := d) (by omega), byte_eq (b := e) (by omega)]

/-- The piece at the front has the bytes that are taken from the front. -/
theorem bytes_nextPiece (b : UInt8) (r : Bytes) :
    (nextPiece b r).1.bytes ++ (nextPiece b r).2 = b :: r := by
  unfold nextPiece
  split
  · rename_i hb
    have hb : b.toNat < 0x80 := hb
    have hvalue : (Char.ofNat b.toNat).toNat = b.toNat := toNat_ofNat (.inl (by omega))
    rw [Piece.bytes, utf8EncodeChar_of_ascii (by omega), hvalue, UInt8.ofNat_toNat]
    rfl
  split
  · rfl
  split
  · rename_i h
    rw [Piece.bytes, utf8EncodeChar_two h]
    rfl
  split
  · rfl
  split
  · rename_i h
    rw [Piece.bytes, utf8EncodeChar_three h]
    rfl
  split
  · rfl
  split
  · rename_i h
    rw [Piece.bytes, utf8EncodeChar_four h]
    rfl
  · rfl

/-- The pieces hold all bytes, in order. -/
theorem flatMap_bytes_decode (s : Bytes) : (decode s).flatMap Piece.bytes = s := by
  induction s using decode.induct with
  | case1 => simp [decode]
  | case2 b r ih => rw [decode, List.flatMap_cons, ih, bytes_nextPiece]

theorem le_of_stray_mem_decode {s : Bytes} {b : UInt8} (h : .stray b ∈ decode s) :
    0x80 ≤ b.toNat := by
  have hnext (x : UInt8) (r : Bytes) (hx : (nextPiece x r).1 = .stray b) : 0x80 ≤ b.toNat := by
    by_contra hb
    have hbytes := bytes_nextPiece x r
    rw [hx, Piece.bytes, List.singleton_append] at hbytes
    obtain rfl := (List.cons.inj hbytes).1
    have hone := nextPiece_one r (Nat.not_le.1 hb)
    rw [UInt8.ofNat_toNat] at hone
    rw [hone] at hx
    cases hx
  induction s using decode.induct with
  | case1 => simp [decode] at h
  | case2 x r ih =>
    rw [decode] at h
    rcases List.mem_cons.1 h with h | h
    · exact hnext x r h.symm
    · exact ih h

/-- An ASCII character is read exactly where its byte stands. -/
theorem mem_lossy_iff_of_ascii {c : Char} (hc : c.toNat < 0x80) {s : Bytes} :
    c ∈ (lossy s).toList ↔ UInt8.ofNat c.toNat ∈ s := by
  have hpiece (p : Piece) (hp : p ∈ decode s) : p.toChar = c ↔ UInt8.ofNat c.toNat ∈ p.bytes := by
    have hbyte : (UInt8.ofNat c.toNat).toNat = c.toNat := toNat_byte (by omega)
    cases p with
    | char d =>
      refine ⟨?_, fun h => ?_⟩
      · rintro rfl
        rw [Piece.bytes, show String.utf8EncodeChar d = _ from utf8EncodeChar_of_ascii hc]
        exact List.mem_singleton_self _
      · have hd := toNat_eq_of_mem_utf8EncodeChar h (by rwa [hbyte])
        exact Char.toNat_inj.1 (hd.symm.trans hbyte)
    | stray b =>
      have hb := le_of_stray_mem_decode hp
      refine ⟨?_, fun h => ?_⟩
      · rintro rfl
        exact absurd (show replacement.toNat < 0x80 from hc) (by decide)
      · rw [← List.mem_singleton.1 h] at hb
        omega
  conv_rhs => rw [← flatMap_bytes_decode s]
  rw [lossy, String.toList_ofList, List.mem_map, List.mem_flatMap]
  exact exists_congr fun p => and_congr_right (hpiece p)

/-! ## Where characters begin -/

theorem nextPiece_of_isContinuation {b : UInt8} (h : isContinuation b = true) (r : Bytes) :
    nextPiece b r = (.stray b, r) := by
  have hb := bounds_of_isContinuation h
  unfold nextPiece
  simp only [UInt8.lt_iff_toNat_lt, UInt8.le_iff_toNat_le, UInt8.reduceToNat]
  repeat' split
  all_goals grind

/-- No text begins inside a character. -/
theorem utf8_ne_cons_of_isContinuation {b : UInt8} (h : isContinuation b = true) (r : Bytes)
    (t : String) : utf8 t ≠ b :: r := by
  intro heq
  have hdecode := decode_utf8 t
  rw [heq, decode, nextPiece_of_isContinuation h] at hdecode
  have hmem : Piece.stray b ∈ t.toList.map .char := hdecode ▸ List.mem_cons_self
  obtain ⟨c, -, hc⟩ := List.mem_map.1 hmem
  cases hc

/-- What follows the bytes of a text in the bytes of a text is a text. -/
theorem exists_utf8_of_append {s t : String} {r : Bytes} (h : utf8 s ++ r = utf8 t) :
    ∃ u, t = s ++ u ∧ r = utf8 u := by
  refine ⟨lossy r, ?_, ?_⟩
  · rw [← lossy_utf8_append, h, lossy_utf8]
  · have ht : t = s ++ lossy r := by rw [← lossy_utf8_append, h, lossy_utf8]
    rw [ht, utf8_append] at h
    exact List.append_cancel_left h

/-- The second byte of a character that is not ASCII continues it. -/
theorem exists_utf8EncodeChar_of_not_ascii {c : Char} (h : ¬ c.toNat < 0x80) :
    ∃ a b r, String.utf8EncodeChar c = a :: b :: r ∧ isContinuation b = true := by
  have hc : ¬ c.val.toNat ≤ 127 := fun hle => h (Nat.lt_succ_of_le hle)
  unfold String.utf8EncodeChar
  dsimp only
  rw [if_neg hc]
  split
  · exact ⟨_, _, _, rfl, isContinuation_byte (by omega)⟩
  split <;> exact ⟨_, _, _, rfl, isContinuation_byte (by omega)⟩

/-! ## The order of bytes -/

theorem cons_lt_cons_byte {a b : Nat} (ha : a < 256) (hb : b < 256) {r s : Bytes} :
    UInt8.ofNat a :: r < UInt8.ofNat b :: s ↔ a < b ∨ a = b ∧ r < s := by
  rw [List.cons_lt_cons_iff, UInt8.lt_iff_toNat_lt, ← UInt8.toNat_inj, toNat_byte ha, toNat_byte hb]

/-- The bytes of a smaller character come first, whatever follows. -/
theorem utf8EncodeChar_append_lt {c d : Char} (h : c < d) (r s : Bytes) :
    String.utf8EncodeChar c ++ r < String.utf8EncodeChar d ++ s := by
  have hcd : c.val.toNat < d.val.toNat := h
  have hd : d.val.toNat < 0x110000 := by
    have hvalid : d.val.toNat < 0xD800 ∨ 0xDFFF < d.val.toNat ∧ d.val.toNat < 0x110000 := d.valid
    omega
  unfold String.utf8EncodeChar
  dsimp only
  generalize c.val.toNat = m at hcd
  generalize d.val.toNat = n at hcd hd
  by_cases hm : 0xFFFF < m
  -- two characters of four bytes are compared digit by digit, to the base 64
  · have hdigits {k : Nat} (hk : k < 0x110000) :
        k = ((k / 262144 % 8 * 64 + k / 4096 % 64) * 64 + k / 64 % 64) * 64 + k % 64 := by omega
    have hmdigits := hdigits (hcd.trans hd)
    have hndigits := hdigits hd
    simp (disch := omega) only [if_neg, List.cons_append, cons_lt_cons_byte]
    omega
  · repeat' split
    all_goals simp (disch := omega) only [List.cons_append, cons_lt_cons_byte]
    all_goals omega

theorem utf8_lt_of_lt {a b : String} (h : a < b) : utf8 a < utf8 b := by
  rw [utf8_eq_flatMap, utf8_eq_flatMap]
  have h : a.toList < b.toList := h
  generalize a.toList = cs at h
  generalize b.toList = ds at h
  induction h with
  | @nil d ds =>
    obtain ⟨x, y, hxy⟩ := List.exists_cons_of_ne_nil (String.utf8EncodeChar_ne_nil (c := d))
    rw [List.flatMap_nil, List.flatMap_cons, hxy]
    exact List.nil_lt_cons _ _
  | rel hlt => exact utf8EncodeChar_append_lt hlt _ _
  | cons _ ih =>
    rw [List.flatMap_cons, List.flatMap_cons]
    exact List.append_left_lt ih

/-- Texts are in the order of their bytes. -/
theorem utf8_lt_iff {a b : String} : utf8 a < utf8 b ↔ a < b := by
  refine ⟨fun h => ?_, utf8_lt_of_lt⟩
  rcases lt_trichotomy a b with hab | rfl | hba
  · exact hab
  · exact absurd h (List.lt_irrefl _)
  · exact absurd (utf8_lt_of_lt hba) (List.lt_asymm h)

end PayloadGen.Text
