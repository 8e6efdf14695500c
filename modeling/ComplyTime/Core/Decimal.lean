import Mathlib.Data.Nat.Digits.Lemmas

/-!
# Decimal texts of 64-bit integers

`FormatInt` in base ten writes an optional minus sign and the digits, most
significant first.  `ParseInt` accepts a sign and digits; it returns zero with
a syntax error, and the nearest representable value with a range error.  The
digits are read one by one, so whichever error comes first is reported.
-/

namespace ComplyTime.Decimal

inductive NumError
  | invalidSyntax
  | outOfRange
  deriving DecidableEq, Repr

def digitByte (digit : ℕ) : UInt8 := UInt8.ofNat (48 + digit)

def isDigit (byte : UInt8) : Bool := decide (48 ≤ byte.toNat ∧ byte.toNat ≤ 57)

def digitValue (byte : UInt8) : ℕ := byte.toNat - 48

/-- `strconv.FormatUint` in base ten. -/
def formatUint (value : ℕ) : List UInt8 :=
  if value = 0 then [digitByte 0]
  else (Nat.digits 10 value).reverse.map digitByte

/-- `strconv.FormatInt` in base ten. -/
def formatInt (value : Int64) : List UInt8 :=
  if value.toInt < 0 then 45 :: formatUint value.toInt.natAbs
  else formatUint value.toInt.natAbs

/-- Read digits onto an accumulator below `2 ^ 64`. -/
def parseDigits : ℕ → List UInt8 → Except NumError ℕ
  | value, [] => .ok value
  | value, byte :: rest =>
    if isDigit byte then
      if value * 10 + digitValue byte < 2 ^ 64 then
        parseDigits (value * 10 + digitValue byte) rest
      else .error .outOfRange
    else .error .invalidSyntax

/-- `strconv.ParseUint` in base ten with 64 bits. -/
def parseUint (text : List UInt8) : Except NumError ℕ :=
  if text = [] then .error .invalidSyntax else parseDigits 0 text

/-- The value and the error of a magnitude under a sign. -/
def signed (negative : Bool) (magnitude : ℕ) : Int64 × Option NumError :=
  if negative then
    if 2 ^ 63 < magnitude then (Int64.minValue, some .outOfRange)
    else (Int64.ofInt (-magnitude), none)
  else if 2 ^ 63 ≤ magnitude then (Int64.maxValue, some .outOfRange)
  else (Int64.ofInt magnitude, none)

/-- The magnitude under a sign, where an overflow counts as the largest one. -/
def parseSigned (negative : Bool) (digits : List UInt8) :
    Int64 × Option NumError :=
  match parseUint digits with
  | .error .invalidSyntax => (0, some .invalidSyntax)
  | .error .outOfRange => signed negative (2 ^ 64 - 1)
  | .ok magnitude => signed negative magnitude

/-- `strconv.ParseInt` in base ten with 64 bits. -/
def parseInt : List UInt8 → Int64 × Option NumError
  | [] => (0, some .invalidSyntax)
  | byte :: rest =>
    if byte = 43 then parseSigned false rest
    else if byte = 45 then parseSigned true rest
    else parseSigned false (byte :: rest)

/-! ## Digits -/

variable {value : ℕ} {digit : ℕ}

theorem formatUint_of_ne_zero (hvalue : value ≠ 0) :
    formatUint value = (Nat.digits 10 value).reverse.map digitByte :=
  if_neg hvalue

theorem formatUint_of_lt (hvalue : value < 10) :
    formatUint value = [digitByte value] := by
  by_cases hzero : value = 0
  · subst hzero
    rfl
  · rw [formatUint_of_ne_zero hzero, Nat.digits_of_lt 10 value hzero hvalue]
    rfl

theorem formatUint_of_le (hvalue : 10 ≤ value) :
    formatUint value = formatUint (value / 10) ++ [digitByte (value % 10)] := by
  have htenth : value / 10 ≠ 0 := by omega
  rw [formatUint_of_ne_zero (by omega), formatUint_of_ne_zero htenth,
    Nat.digits_def' (by decide) (by omega), List.reverse_cons,
    List.map_append]
  rfl

/-! ## The round trip -/

theorem toNat_digitByte (hdigit : digit < 10) :
    (digitByte digit).toNat = 48 + digit := by
  rw [digitByte, UInt8.toNat_ofNat']
  omega

theorem isDigit_digitByte (hdigit : digit < 10) :
    isDigit (digitByte digit) = true := by
  rw [isDigit, decide_eq_true_eq, toNat_digitByte hdigit]
  omega

theorem digitValue_digitByte (hdigit : digit < 10) :
    digitValue (digitByte digit) = digit := by
  rw [digitValue, toNat_digitByte hdigit, Nat.add_sub_cancel_left]

/-- The number the digits denote after the ones already read. -/
def readDigits (value : ℕ) (digits : List ℕ) : ℕ :=
  digits.foldl (fun value digit => value * 10 + digit) value

theorem le_readDigits (value : ℕ) (digits : List ℕ) :
    value ≤ readDigits value digits := by
  induction digits generalizing value with
  | nil => exact Nat.le_refl value
  | cons digit digits ih =>
    calc value ≤ value * 10 + digit := by omega
      _ ≤ readDigits (value * 10 + digit) digits := ih _

theorem parseDigits_map (value : ℕ) (digits : List ℕ)
    (hdigits : ∀ digit ∈ digits, digit < 10)
    (hbound : readDigits value digits < 2 ^ 64) :
    parseDigits value (digits.map digitByte) =
      .ok (readDigits value digits) := by
  induction digits generalizing value with
  | nil => rfl
  | cons digit digits ih =>
    have hdigit := hdigits digit List.mem_cons_self
    have hnext : value * 10 + digit < 2 ^ 64 :=
      (le_readDigits (value * 10 + digit) digits).trans_lt hbound
    rw [List.map_cons, parseDigits, isDigit_digitByte hdigit,
      digitValue_digitByte hdigit, if_pos rfl, if_pos hnext]
    exact ih _ (List.forall_mem_of_forall_mem_cons hdigits)
      hbound

theorem readDigits_reverse_digits (value : ℕ) :
    readDigits 0 (Nat.digits 10 value).reverse = value := by
  rw [readDigits, List.foldl_reverse]
  calc (Nat.digits 10 value).foldr (fun digit value => value * 10 + digit) 0
      = Nat.ofDigits 10 (Nat.digits 10 value) := by
        rw [Nat.ofDigits_eq_foldr]
        congr 1
        funext digit value
        simp only [Nat.cast_id]
        omega
    _ = value := Nat.ofDigits_digits 10 value

theorem formatUint_eq_cons (value : ℕ) :
    ∃ digit rest, digit < 10 ∧ formatUint value = digitByte digit :: rest := by
  unfold formatUint
  split
  · exact ⟨0, [], by decide, rfl⟩
  · rename_i hvalue
    have hne : (Nat.digits 10 value).reverse ≠ [] := by
      simpa [Nat.digits_eq_nil_iff_eq_zero] using hvalue
    obtain ⟨digit, rest, hcons⟩ := List.exists_cons_of_ne_nil hne
    refine ⟨digit, rest.map digitByte, ?_, by rw [hcons, List.map_cons]⟩
    apply Nat.digits_lt_base (by decide : 1 < 10)
    rw [← List.mem_reverse, hcons]
    exact List.mem_cons_self

theorem parseUint_formatUint (hbound : value < 2 ^ 64) :
    parseUint (formatUint value) = .ok value := by
  obtain ⟨digit, rest, _, hcons⟩ := formatUint_eq_cons value
  rw [parseUint, if_neg (by simp [hcons]), formatUint]
  split
  · rename_i hzero
    rw [hzero]
    rfl
  · have hread := readDigits_reverse_digits value
    rw [parseDigits_map _ _ (by
      intro digit hmem
      exact Nat.digits_lt_base (by decide : 1 < 10)
        (List.mem_reverse.mp hmem)) (hread.symm ▸ hbound), hread]

theorem formatInt_ofNat (hvalue : value < 2 ^ 63) :
    formatInt (Int64.ofNat value) = formatUint value := by
  have htoInt : (Int64.ofNat value).toInt = value :=
    Int64.toInt_ofNat_of_lt hvalue
  rw [formatInt, htoInt, if_neg (by omega), Int.natAbs_natCast]

theorem parseInt_formatInt (value : Int64) :
    parseInt (formatInt value) = (value, none) := by
  have hlow := value.le_toInt
  have hhigh := value.toInt_lt
  have hmagnitude : value.toInt.natAbs < 2 ^ 64 := by omega
  unfold formatInt
  split
  · rename_i hnegative
    have hvalue : (-(value.toInt.natAbs : ℤ)) = value.toInt := by omega
    rw [parseInt, if_neg (by decide), if_pos rfl, parseSigned,
      parseUint_formatUint hmagnitude]
    simp only [signed, if_true]
    rw [if_neg (by omega), hvalue, Int64.ofInt_toInt]
  · rename_i hnonneg
    have hvalue : (value.toInt.natAbs : ℤ) = value.toInt := by omega
    obtain ⟨digit, rest, hdigit, hcons⟩ := formatUint_eq_cons value.toInt.natAbs
    have hbyte := toNat_digitByte hdigit
    have hplus : digitByte digit ≠ 43 := by
      intro heq
      rw [heq] at hbyte
      have hcode : (43 : UInt8).toNat = 43 := rfl
      omega
    have hminus : digitByte digit ≠ 45 := by
      intro heq
      rw [heq] at hbyte
      have hcode : (45 : UInt8).toNat = 45 := rfl
      omega
    rw [hcons, parseInt, if_neg hplus, if_neg hminus, ← hcons, parseSigned,
      parseUint_formatUint hmagnitude]
    simp only [signed, Bool.false_eq_true, if_false]
    rw [if_neg (by omega), hvalue, Int64.ofInt_toInt]

end ComplyTime.Decimal
