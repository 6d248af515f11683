/-!
# Cutting and joining text

Scanners of this library work on lists of characters. This module holds the cuts that several of
them share: runs between separators (`runs`), trimming, and replacement of a word (`replaceAll`).
The pieces between single separators are those of `List.splitOn`.
-/

namespace PayloadGen.Text

/-- White space, by the Unicode property of that name. -/
def isSpace (c : Char) : Bool :=
  let n := c.toNat
  (9 ≤ n && n ≤ 13) || n == 32 || n == 0x85 || n == 0xA0 || n == 0x1680 ||
    (0x2000 ≤ n && n ≤ 0x200A) || n == 0x2028 || n == 0x2029 || n == 0x202F || n == 0x205F ||
    n == 0x3000

/-- The ASCII letters. -/
def isAsciiLetter (c : Char) : Bool :=
  ('a' ≤ c && c ≤ 'z') || ('A' ≤ c && c ≤ 'Z')

/-- The ASCII digits. -/
def isAsciiDigit (c : Char) : Bool :=
  '0' ≤ c && c ≤ '9'

/-- The maximal runs of characters that are no separators. No run is empty. -/
def runs {α : Type} (sep : α → Bool) : List α → List (List α)
  | [] => []
  | [c] => if sep c then [] else [[c]]
  | c :: d :: r =>
    if sep c then runs sep (d :: r)
    else if sep d then [c] :: runs sep (d :: r)
    else match runs sep (d :: r) with
      | [] => [[c]]
      | w :: ws => (c :: w) :: ws

/-- A character that is no separator goes to the front of the first piece. -/
theorem splitOn_cons_of_ne {sep c : Char} (h : c ≠ sep) (r : List Char) :
    ∃ w ws, r.splitOn sep = w :: ws ∧ (c :: r).splitOn sep = (c :: w) :: ws := by
  obtain ⟨w, ws, hr⟩ := List.exists_cons_of_ne_nil (List.splitOn_ne_nil sep r)
  exact ⟨w, ws, hr, by simp [List.splitOn_cons_eq_if_modifyHead, h, hr]⟩

@[simp] theorem splitOn_cons_self (sep : Char) (r : List Char) :
    (sep :: r).splitOn sep = [] :: r.splitOn sep := by
  simp [List.splitOn_cons_eq_if_modifyHead]

theorem not_mem_of_mem_splitOn {sep : Char} {s w : List Char} (h : w ∈ s.splitOn sep) :
    sep ∉ w := by
  induction s generalizing w with
  | nil => simp_all
  | cons c r ih =>
    by_cases hc : c = sep
    · rw [hc, splitOn_cons_self] at h
      rcases List.mem_cons.1 h with rfl | h
      · simp
      · exact ih h
    · obtain ⟨v, vs, hr, hcr⟩ := splitOn_cons_of_ne hc r
      rw [hcr] at h
      rw [hr] at ih
      rcases List.mem_cons.1 h with rfl | h
      · simpa [Ne.symm hc] using ih List.mem_cons_self
      · exact ih (List.mem_cons_of_mem _ h)

theorem mem_of_mem_splitOn {sep c : Char} {s w : List Char} (hw : w ∈ s.splitOn sep) (hc : c ∈ w) :
    c ∈ s := by
  induction s generalizing w with
  | nil => simp_all
  | cons x r ih =>
    by_cases hx : x = sep
    · rw [hx, splitOn_cons_self] at hw
      rcases List.mem_cons.1 hw with rfl | hw
      · cases hc
      · exact List.mem_cons_of_mem _ (ih hw hc)
    · obtain ⟨v, vs, hr, hxr⟩ := splitOn_cons_of_ne hx r
      rw [hxr] at hw
      rw [hr] at ih
      rcases List.mem_cons.1 hw with rfl | hw
      · rcases List.mem_cons.1 hc with rfl | hc
        · exact List.mem_cons_self
        · exact List.mem_cons_of_mem _ (ih List.mem_cons_self hc)
      · exact List.mem_cons_of_mem _ (ih (List.mem_cons_of_mem _ hw) hc)

/-- The text without the longest tail of characters of a class. -/
def trimRightWhere (p : Char → Bool) (s : List Char) : List Char :=
  (s.reverse.dropWhile p).reverse

/-- The text without the characters of a class at either end. -/
def trimWhere (p : Char → Bool) (s : List Char) : List Char :=
  trimRightWhere p (s.dropWhile p)

/-- The text without white space at either end. -/
def trim (s : String) : String :=
  String.ofList (trimWhere isSpace s.toList)

/-- Every occurrence of a word, from the left and without overlap, replaced. -/
def replaceAll (old new : List Char) : List Char → List Char
  | [] => []
  | c :: r =>
    if old.isPrefixOf (c :: r) then new ++ replaceAll old new (r.drop (old.length - 1))
    else c :: replaceAll old new r
termination_by s => s.length
decreasing_by
  all_goals simp only [List.length_drop, List.length_cons]; omega

/-- `replaceAll` on strings. -/
def replace (s old new : String) : String :=
  String.ofList (replaceAll old.toList new.toList s.toList)

/-- Does the word occur in the text? -/
def occursIn (word : List Char) : List Char → Bool
  | [] => word.isEmpty
  | c :: r => word.isPrefixOf (c :: r) || occursIn word r

/-- What follows the last `sep`, or the whole text if there is none. -/
def afterLast (sep : Char) (s : List Char) : List Char :=
  (s.reverse.takeWhile (· != sep)).reverse

/-- The text before and after the first `sep`, if it has one. -/
def cut? (sep : Char) (s : List Char) : Option (List Char × List Char) :=
  match s.dropWhile (· != sep) with
  | [] => none
  | _ :: r => some (s.takeWhile (· != sep), r)

/-- Does the text begin with the word? -/
def startsWith (s word : String) : Bool :=
  word.toList.isPrefixOf s.toList

/-- Does the text end with the word? -/
def endsWith (s word : String) : Bool :=
  word.toList.isSuffixOf s.toList

/-- A whole number in decimal. -/
def ofInt (n : Int) : String :=
  match n with
  | .ofNat k => String.ofList (Nat.toDigits 10 k)
  | .negSucc k => String.ofList ('-' :: Nat.toDigits 10 (k + 1))

/-- The lower-case hexadecimal digit of a number below 16. -/
def hexDigit (n : Nat) : Char :=
  if n < 10 then Char.ofNat (48 + n) else Char.ofNat (87 + n)

/-- A number as `width` hexadecimal digits, the high ones dropped if there are more. -/
def hex : (width : Nat) → (n : Nat) → List Char
  | 0, _ => []
  | w + 1, n => hex w (n / 16) ++ [hexDigit (n % 16)]

/-- The value of a hexadecimal digit. -/
def hexValue? (c : Char) : Option Nat :=
  if isAsciiDigit c then some (c.toNat - 48)
  else if 'a' ≤ c && c ≤ 'f' then some (c.toNat - 87)
  else if 'A' ≤ c && c ≤ 'F' then some (c.toNat - 55)
  else none

/-- The value of a list of decimal digits. -/
def decimalValue (ds : List Char) : Nat :=
  ds.foldl (fun n c => 10 * n + (c.toNat - 48)) 0

end PayloadGen.Text
