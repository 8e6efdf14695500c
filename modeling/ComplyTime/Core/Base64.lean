import Mathlib.Data.List.GetD
import Mathlib.Data.List.Nodup
import Mathlib.Data.Nat.Init

/-!
# Base64

Three bytes are four digits of an alphabet of 64 characters; a last group of
one or two bytes is padded.  Decoding skips line breaks, accepts padding only
at the end and ignores the bits that the padding leaves over.
-/

namespace ComplyTime.Base64

structure Encoding where
  digits : List Char
  length_digits : digits.length = 64
  nodup_digits : digits.Nodup
  pad_not_digit : '=' ∉ digits
  newline_not_digit : '\n' ∉ digits
  return_not_digit : '\r' ∉ digits

/-- The letters and digits that all alphabets begin with. -/
def alphanumerics : List Char :=
  ['A', 'B', 'C', 'D', 'E', 'F', 'G', 'H', 'I', 'J', 'K', 'L', 'M', 'N', 'O',
   'P', 'Q', 'R', 'S', 'T', 'U', 'V', 'W', 'X', 'Y', 'Z', 'a', 'b', 'c', 'd',
   'e', 'f', 'g', 'h', 'i', 'j', 'k', 'l', 'm', 'n', 'o', 'p', 'q', 'r', 's',
   't', 'u', 'v', 'w', 'x', 'y', 'z', '0', '1', '2', '3', '4', '5', '6', '7',
   '8', '9']

/-- `base64.StdEncoding`. -/
def stdEncoding : Encoding where
  digits := alphanumerics ++ ['+', '/']
  length_digits := by decide
  nodup_digits := by decide
  pad_not_digit := by decide
  newline_not_digit := by decide
  return_not_digit := by decide

/-- `base64.URLEncoding`. -/
def urlEncoding : Encoding where
  digits := alphanumerics ++ ['-', '_']
  length_digits := by decide
  nodup_digits := by decide
  pad_not_digit := by decide
  newline_not_digit := by decide
  return_not_digit := by decide

variable (encoding : Encoding)

def digit (value : ℕ) : Char := encoding.digits.getD (value % 64) '='

def digitValue (character : Char) : Option ℕ :=
  if character ∈ encoding.digits then
    some (encoding.digits.idxOf character)
  else none

theorem digit_mem (value : ℕ) : digit encoding value ∈ encoding.digits := by
  have hbound : value % 64 < encoding.digits.length := by
    rw [encoding.length_digits]
    exact Nat.mod_lt value (by decide)
  rw [digit, List.getD_eq_getElem _ _ hbound]
  exact List.getElem_mem hbound

@[simp]
theorem digitValue_digit (value : ℕ) :
    digitValue encoding (digit encoding value) = some (value % 64) := by
  have hbound : value % 64 < encoding.digits.length := by
    rw [encoding.length_digits]
    exact Nat.mod_lt value (by decide)
  rw [digitValue, if_pos (digit_mem encoding value), digit,
    List.getD_eq_getElem _ _ hbound,
    encoding.nodup_digits.idxOf_getElem _ hbound]

theorem digit_ne_pad (value : ℕ) : digit encoding value ≠ '=' := by
  intro hpad
  exact encoding.pad_not_digit (hpad ▸ digit_mem encoding value)

/-! ## Groups -/

def word (first second third : UInt8) : ℕ :=
  first.toNat * 65536 + second.toNat * 256 + third.toNat

def encodeBytes : List UInt8 → List Char
  | first :: second :: third :: bytes =>
    let bits := word first second third
    digit encoding (bits / 262144) :: digit encoding (bits / 4096) ::
      digit encoding (bits / 64) :: digit encoding bits :: encodeBytes bytes
  | [first, second] =>
    let bits := word first second 0
    [digit encoding (bits / 262144), digit encoding (bits / 4096),
      digit encoding (bits / 64), '=']
  | [first] =>
    let bits := word first 0 0
    [digit encoding (bits / 262144), digit encoding (bits / 4096), '=', '=']
  | [] => []

def combine (first second third fourth : ℕ) : ℕ :=
  first * 262144 + second * 4096 + third * 64 + fourth

def decodeDigits : List Char → Option (List UInt8)
  | [] => some []
  | first :: second :: third :: fourth :: rest =>
    match digitValue encoding first, digitValue encoding second with
    | some high, some low =>
      if third = '=' then
        if fourth = '=' ∧ rest = [] then
          some [UInt8.ofNat (combine high low 0 0 / 65536)]
        else none
      else match digitValue encoding third with
      | none => none
      | some middle =>
        if fourth = '=' then
          if rest = [] then
            let bits := combine high low middle 0
            some [UInt8.ofNat (bits / 65536), UInt8.ofNat (bits / 256)]
          else none
        else match digitValue encoding fourth with
        | none => none
        | some last =>
          let bits := combine high low middle last
          (decodeDigits rest).map fun bytes =>
            UInt8.ofNat (bits / 65536) :: UInt8.ofNat (bits / 256) ::
              UInt8.ofNat bits :: bytes
    | _, _ => none
  | _ => none

theorem word_lt (first second third : UInt8) :
    word first second third < 16777216 := by
  have hfirst := first.toNat_lt
  have hsecond := second.toNat_lt
  have hthird := third.toNat_lt
  unfold word
  omega

theorem combine_split {bits : ℕ} (hbound : bits < 16777216) :
    combine (bits / 262144 % 64) (bits / 4096 % 64) (bits / 64 % 64)
      (bits % 64) = bits := by
  unfold combine
  omega

theorem ofNat_word_first (first second third : UInt8) :
    UInt8.ofNat (word first second third / 65536) = first := by
  have hsecond := second.toNat_lt
  have hthird := third.toNat_lt
  have hvalue : word first second third / 65536 = first.toNat := by
    unfold word
    omega
  rw [hvalue, UInt8.ofNat_toNat]

theorem ofNat_word_second (first second third : UInt8) :
    UInt8.ofNat (word first second third / 256) = second := by
  have hsecond := second.toNat_lt
  have hthird := third.toNat_lt
  apply UInt8.toNat_inj.mp
  rw [UInt8.toNat_ofNat']
  unfold word
  omega

theorem ofNat_word_third (first second third : UInt8) :
    UInt8.ofNat (word first second third) = third := by
  have hthird := third.toNat_lt
  apply UInt8.toNat_inj.mp
  rw [UInt8.toNat_ofNat']
  unfold word
  omega

theorem decodeDigits_encodeBytes (bytes : List UInt8) :
    decodeDigits encoding (encodeBytes encoding bytes) = some bytes := by
  induction bytes using encodeBytes.induct with
  | case1 first second third bytes ih =>
    have hcombine := combine_split (word_lt first second third)
    simp only [encodeBytes, decodeDigits, digitValue_digit, digit_ne_pad,
      if_false, ih, hcombine, Option.map_some, ofNat_word_first,
      ofNat_word_second, ofNat_word_third]
  | case2 first second =>
    have hcombine := combine_split (word_lt first second 0)
    have hlast : word first second 0 % 64 = 0 := by
      change (first.toNat * 65536 + second.toNat * 256 + 0) % 64 = 0
      omega
    rw [hlast] at hcombine
    simp only [encodeBytes, decodeDigits, digitValue_digit, digit_ne_pad,
      if_false, if_true, hcombine, ofNat_word_first, ofNat_word_second]
  | case3 first =>
    have hcombine := combine_split (word_lt first 0 0)
    have hlast : word first 0 0 % 64 = 0 := by
      change (first.toNat * 65536 + 0 * 256 + 0) % 64 = 0
      omega
    have hthird : word first 0 0 / 64 % 64 = 0 := by
      change (first.toNat * 65536 + 0 * 256 + 0) / 64 % 64 = 0
      omega
    rw [hlast, hthird] at hcombine
    simp only [encodeBytes, decodeDigits, digitValue_digit, if_true,
      and_self, hcombine, ofNat_word_first]
  | case4 => rfl

/-! ## Texts -/

def encodeToString (bytes : List UInt8) : String :=
  String.ofList (encodeBytes encoding bytes)

def isLineBreak (character : Char) : Bool :=
  character == '\n' || character == '\r'

def decodeString (content : String) : Option (List UInt8) :=
  decodeDigits encoding
    (content.toList.filter fun character => !isLineBreak character)

section

variable {bytes : List UInt8} {character : Char}
  (hmem : character ∈ encodeBytes encoding bytes)

include hmem

theorem mem_encodeBytes :
    character ∈ encoding.digits ∨ character = '=' := by
  induction bytes using encodeBytes.induct with
  | case1 first second third bytes ih =>
    simp only [encodeBytes, List.mem_cons] at hmem
    rcases hmem with rfl | rfl | rfl | rfl | hrest
    · exact .inl (digit_mem encoding _)
    · exact .inl (digit_mem encoding _)
    · exact .inl (digit_mem encoding _)
    · exact .inl (digit_mem encoding _)
    · exact ih hrest
  | case2 first second =>
    simp only [encodeBytes, List.mem_cons, List.not_mem_nil, or_false] at hmem
    rcases hmem with rfl | rfl | rfl | rfl
    · exact .inl (digit_mem encoding _)
    · exact .inl (digit_mem encoding _)
    · exact .inl (digit_mem encoding _)
    · exact .inr rfl
  | case3 first =>
    simp only [encodeBytes, List.mem_cons, List.not_mem_nil, or_false] at hmem
    rcases hmem with rfl | rfl | rfl | rfl
    · exact .inl (digit_mem encoding _)
    · exact .inl (digit_mem encoding _)
    · exact .inr rfl
    · exact .inr rfl
  | case4 => cases hmem

theorem not_isLineBreak_of_mem :
    isLineBreak character = false := by
  simp only [isLineBreak, Bool.or_eq_false_iff, beq_eq_false_iff_ne]
  rcases mem_encodeBytes encoding hmem with hdigit | rfl
  · constructor
    · intro hbreak
      exact encoding.newline_not_digit (hbreak ▸ hdigit)
    · intro hbreak
      exact encoding.return_not_digit (hbreak ▸ hdigit)
  · decide

end

@[simp]
theorem decodeString_encodeToString (bytes : List UInt8) :
    decodeString encoding (encodeToString encoding bytes) = some bytes := by
  have hfilter : (encodeBytes encoding bytes).filter
      (fun character => !isLineBreak character) =
        encodeBytes encoding bytes := by
    apply List.filter_eq_self.mpr
    intro character hmem
    rw [not_isLineBreak_of_mem encoding hmem]
    rfl
  rw [decodeString, encodeToString, String.toList_ofList, hfilter,
    decodeDigits_encodeBytes]

end ComplyTime.Base64
