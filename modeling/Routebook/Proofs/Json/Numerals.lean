import Routebook.Json.Reader
import Routebook.Json.Writer

namespace Routebook
namespace Json

/-!
# Numbers and their texts

The text of a number is a numeral: digits, a point with more digits, an exponent.  The reader
takes a numeral apart where the writer put it together, so that reading never fails; what may
change is the number, because the reader rounds a real number twice.  `reread?` is the number
that the text of a number reads as.  Integers are read exactly.
-/

/-! ## Digits -/

/-- One digit at least, and nothing else. -/
structure AreDigits (text : List Char) : Prop where
  nonempty : text ≠ []
  digit : ∀ c ∈ text, Text.isDigit c = true

/-- The digits end where the text goes on. -/
def StopsDigits (rest : List Char) : Prop :=
  ∀ c, rest.head? = some c → Text.isDigit c = false

theorem takeWhile_digits {digits rest : List Char} (digit : ∀ c ∈ digits, Text.isDigit c = true)
    (stops : StopsDigits rest) : (digits ++ rest).takeWhile Text.isDigit = digits := by
  rw [List.takeWhile_append_of_pos digit]
  cases rest with
  | nil => exact List.append_nil _
  | cons c others => rw [List.takeWhile_cons_of_neg (by simp [stops c rfl]), List.append_nil]

theorem dropWhile_digits {digits rest : List Char} (digit : ∀ c ∈ digits, Text.isDigit c = true)
    (stops : StopsDigits rest) : (digits ++ rest).dropWhile Text.isDigit = rest := by
  rw [List.dropWhile_append_of_pos digit]
  cases rest with
  | nil => rfl
  | cons c others => exact List.dropWhile_cons_of_neg (by simp [stops c rfl])

theorem isDigit_of_mem_decimalDigits {n : Nat} {c : Char} (member : c ∈ decimalDigits n) :
    Text.isDigit c = true := by
  have core : c.isDigit = true := Nat.isDigit_of_mem_toDigits (by decide) (by decide) member
  simp only [Char.isDigit, Bool.and_eq_true, decide_eq_true_eq, ge_iff_le, UInt32.le_iff_toNat_le]
    at core
  simp only [Text.isDigit, Bool.and_eq_true, decide_eq_true_eq]
  exact core

theorem areDigits_decimalDigits (n : Nat) : AreDigits (decimalDigits n) where
  nonempty := Nat.toDigits_ne_nil
  digit _ member := isDigit_of_mem_decimalDigits member

/-- The digits of a positive number do not begin with a zero. -/
theorem head?_decimalDigits {n : Nat} (positive : n ≠ 0) :
    (decimalDigits n).head? ≠ some '0' := by
  induction n using Nat.strongRecOn with
  | ind n inductionHypothesis =>
    unfold decimalDigits at inductionHypothesis ⊢
    rw [Nat.toDigits_eq_if (by decide)]
    split
    next small =>
      intro begins
      have code := congrArg Char.toNat (Option.some.inj begins)
      rw [Nat.toNat_digitChar_of_lt_ten small] at code
      have zero : '0'.toNat = 48 := rfl
      omega
    next large =>
      have first := inductionHypothesis (n / 10) (by omega) (by omega)
      rcases List.exists_cons_of_ne_nil (@Nat.toDigits_ne_nil (n / 10) 10) with ⟨c, others, digits⟩
      rw [digits] at first ⊢
      exact first

/-- A zero in front stands alone. -/
theorem eq_zero_of_head?_decimalDigits {n : Nat} (begins : (decimalDigits n).head? = some '0') :
    n = 0 := by
  cases n with
  | zero => rfl
  | succ n => exact absurd begins (head?_decimalDigits (Nat.succ_ne_zero n))

theorem digitsValue_decimalDigits (n : Nat) : digitsValue (decimalDigits n) = n := by
  have value : Nat.ofDigitChars 10 (decimalDigits n) 0 = n := Nat.ofDigitChars_ten_toDigits
  have step : (fun (value : Nat) (c : Char) => value * 10 + Text.digitValue c) =
      fun value c => 10 * value + (c.toNat - '0'.toNat) := by
    funext value c
    rw [Nat.mul_comm]
    rfl
  rw [digitsValue, step]
  exact value

/-- Digits only add to a significand. -/
theorem le_foldl_digits (significand : Nat) (digits : List Char) :
    significand ≤ digits.foldl (fun value c => value * 10 + Text.digitValue c) significand := by
  induction digits generalizing significand with
  | nil => exact Nat.le_refl _
  | cons c rest inductionHypothesis =>
    have next := inductionHypothesis (significand * 10 + Text.digitValue c)
    rw [List.foldl_cons]
    omega

/-- Digits are gathered to the last one when their value fits. -/
theorem gather_of_le {significand : Nat} {digits : List Char}
    (fits : digits.foldl (fun value c => value * 10 + Text.digitValue c) significand ≤
      maxSignificand) :
    gather significand digits =
      (digits.foldl (fun value c => value * 10 + Text.digitValue c) significand, []) := by
  induction digits generalizing significand with
  | nil => rfl
  | cons c rest inductionHypothesis =>
    rw [List.foldl_cons] at fits ⊢
    have next : ¬ maxSignificand < significand * 10 + Text.digitValue c :=
      Nat.not_lt.mpr (Nat.le_trans (le_foldl_digits _ rest) fits)
    rw [gather]
    simp only [if_neg next]
    exact inductionHypothesis fits

theorem gather_decimalDigits {n : Nat} (fits : n ≤ maxSignificand) :
    gather 0 (decimalDigits n) = (n, []) := by
  have value := digitsValue_decimalDigits n
  rw [digitsValue] at value
  rw [gather_of_le (by rw [value]; exact fits), value]

/-! ## Numerals -/

namespace Numeral

/-- A point and digits, if there are any. -/
def fractionText (fraction : Option (List Char)) : List Char :=
  fraction.elim [] fun digits => '.' :: digits

/-- The letter of an exponent, its sign and its digits, if there is one.  An exponent that is
not negative has a plus sign. -/
def exponentText (exponent : Option (Bool × List Char)) : List Char :=
  exponent.elim [] fun part => 'e' :: (if part.1 then '-' else '+') :: part.2

/-- The text of a numeral. -/
def text (numeral : Numeral) : List Char :=
  (if numeral.negative then ['-'] else []) ++
    (numeral.whole ++ (fractionText numeral.fraction ++ exponentText numeral.exponent))

/-- Every part has digits, and the integer part begins with no zero in front of others. -/
structure Valid (numeral : Numeral) : Prop where
  whole : AreDigits numeral.whole
  leading : numeral.whole.head? = some '0' → numeral.whole = ['0']
  fraction : ∀ digits, numeral.fraction = some digits → AreDigits digits
  exponent : ∀ part, numeral.exponent = some part → AreDigits part.2

end Numeral

/-- Where the text of a number may end: at the end of everything, or in front of what stands
behind an item or a field. -/
def Closes (rest : List Char) : Prop :=
  ∀ c, rest.head? = some c → c = ',' ∨ c = ']' ∨ c = '}'

theorem closes_nil : Closes [] := fun _ begins => by cases begins

theorem closes_cons {c : Char} (mark : c = ',' ∨ c = ']' ∨ c = '}') (rest : List Char) :
    Closes (c :: rest) := by
  intro first begins
  rw [← Option.some.inj begins]
  exact mark

theorem readWhole_append {whole rest : List Char} (digits : AreDigits whole)
    (leading : whole.head? = some '0' → whole = ['0']) (stops : StopsDigits rest) :
    readWhole (whole ++ rest) = some (whole, rest) := by
  simp only [readWhole, takeWhile_digits digits.digit stops, dropWhile_digits digits.digit stops]
  split
  next => exact absurd rfl digits.nonempty
  next => rfl
  next others notAlone =>
    exact absurd (List.cons.inj (leading rfl)).2 notAlone
  next => rfl

theorem readDigits_append {digits rest : List Char} (are : AreDigits digits)
    (stops : StopsDigits rest) : readDigits (digits ++ rest) = some (digits, rest) := by
  unfold readDigits
  rw [takeWhile_digits are.digit stops, dropWhile_digits are.digit stops]
  simp [are.nonempty]

theorem Closes.ne {rest : List Char} (closes : Closes rest) {c : Char}
    (inside : c ≠ ',' ∧ c ≠ ']' ∧ c ≠ '}') : rest.head? ≠ some c := by
  intro begins
  rcases closes c begins with same | same | same
  · exact inside.1 same
  · exact inside.2.1 same
  · exact inside.2.2 same

theorem Closes.stopsDigits {rest : List Char} (closes : Closes rest) : StopsDigits rest := by
  intro c begins
  rcases closes c begins with rfl | rfl | rfl <;> rfl

/-- An exponent begins with its letter, and without one the text goes on. -/
theorem head?_exponentText (exponent : Option (Bool × List Char)) (rest : List Char) :
    (Numeral.exponentText exponent ++ rest).head? = some 'e' ∨
      Numeral.exponentText exponent ++ rest = rest := by
  cases exponent with
  | none => exact Or.inr rfl
  | some part => exact Or.inl rfl

theorem stopsDigits_exponentText (exponent : Option (Bool × List Char)) {rest : List Char}
    (stops : StopsDigits rest) : StopsDigits (Numeral.exponentText exponent ++ rest) := by
  intro c begins
  rcases head?_exponentText exponent rest with letter | same
  · rw [letter] at begins
    rw [← Option.some.inj begins]
    rfl
  · exact stops c (same ▸ begins)

theorem stopsDigits_fractionText (fraction : Option (List Char)) {rest : List Char}
    (stops : StopsDigits rest) : StopsDigits (Numeral.fractionText fraction ++ rest) := by
  cases fraction with
  | none => exact stops
  | some digits =>
    intro c begins
    rw [← Option.some.inj begins]
    rfl

theorem readFraction_fractionText {fraction : Option (List Char)}
    (are : ∀ digits, fraction = some digits → AreDigits digits) {rest : List Char}
    (stops : StopsDigits rest) (apart : rest.head? ≠ some '.') :
    readFraction (Numeral.fractionText fraction ++ rest) = some (fraction, rest) := by
  cases fraction with
  | none =>
    unfold readFraction
    split
    next pointed => exact absurd (congrArg List.head? pointed) apart
    next => rfl
  | some digits =>
    have read := readDigits_append (are digits rfl) stops
    rw [Numeral.fractionText, Option.elim_some, List.cons_append, readFraction, read]
    rfl

theorem readExponent_exponentText {exponent : Option (Bool × List Char)}
    (are : ∀ part, exponent = some part → AreDigits part.2) {rest : List Char}
    (closes : Closes rest) :
    readExponent (Numeral.exponentText exponent ++ rest) = some (exponent, rest) := by
  cases exponent with
  | none =>
    unfold readExponent
    split
    next small => exact absurd (congrArg List.head? small) (closes.ne (by decide))
    next capital => exact absurd (congrArg List.head? capital) (closes.ne (by decide))
    next => rfl
  | some part =>
    obtain ⟨downwards, digits⟩ := part
    have read := readDigits_append (are _ rfl) closes.stopsDigits
    rw [Numeral.exponentText, Option.elim_some]
    cases downwards <;>
      simp only [List.cons_append, readExponent, read, Option.map_some, Bool.false_eq_true, if_true,
        if_false]

/-- The sign of a number is taken off before its digits are read. -/
theorem readNumeral_sign (negative : Bool) {text : List Char} (unsigned : text.head? ≠ some '-') :
    readNumeral ((if negative then ['-'] else []) ++ text) =
      (readWhole text).bind fun (whole, rest) =>
        (readFraction rest).bind fun (fraction, rest) =>
          (readExponent rest).bind fun (exponent, rest) =>
            some (⟨negative, whole, fraction, exponent⟩, rest) := by
  cases negative with
  | true => rfl
  | false =>
    have sign : (text.head? == some '-') = false := beq_eq_false_iff_ne.mpr unsigned
    simp only [readNumeral, Bool.false_eq_true, if_false, List.nil_append, sign]
    rfl

/-- The text of a numeral is read as the numeral. -/
theorem readNumeral_text {numeral : Numeral} (valid : numeral.Valid) {rest : List Char}
    (closes : Closes rest) : readNumeral (numeral.text ++ rest) = some (numeral, rest) := by
  obtain ⟨negative, whole, fraction, exponent⟩ := numeral
  have stops : StopsDigits (Numeral.exponentText exponent ++ rest) :=
    stopsDigits_exponentText exponent closes.stopsDigits
  have noPoint : (Numeral.exponentText exponent ++ rest).head? ≠ some '.' := by
    rcases head?_exponentText exponent rest with letter | same
    · rw [letter]
      decide
    · rw [same]
      exact closes.ne (by decide)
  have unsigned : (whole ++ (Numeral.fractionText fraction ++
      (Numeral.exponentText exponent ++ rest))).head? ≠ some '-' := by
    rcases List.exists_cons_of_ne_nil valid.whole.nonempty with ⟨first, others, digits⟩
    have digit := valid.whole.digit first (digits ▸ List.mem_cons_self)
    have begins : whole = first :: others := digits
    rw [begins]
    rintro ⟨⟩
    cases digit
  have atWhole := readWhole_append valid.whole valid.leading
    (stopsDigits_fractionText fraction stops)
  have atFraction := readFraction_fractionText valid.fraction stops noPoint
  have atExponent := readExponent_exponentText valid.exponent closes
  have shape : Numeral.text ⟨negative, whole, fraction, exponent⟩ ++ rest =
      (if negative then ['-'] else []) ++
        (whole ++ (Numeral.fractionText fraction ++ (Numeral.exponentText exponent ++ rest))) := by
    simp only [Numeral.text, List.append_assoc]
  rw [shape, readNumeral_sign negative unsigned]
  simp only [atWhole, atFraction, atExponent, Option.bind_some]

/-! ## Numbers -/

/-- The numeral of an integer. -/
def integerNumeral (value : Int) : Numeral :=
  ⟨decide (value < 0), decimalDigits value.natAbs, none, none⟩

theorem text_integerNumeral (value : Int) : (integerNumeral value).text = integerText value := by
  by_cases negative : value < 0 <;>
    simp [integerNumeral, Numeral.text, Numeral.fractionText, Numeral.exponentText, integerText,
      negative]

theorem valid_integerNumeral (value : Int) : (integerNumeral value).Valid where
  whole := areDigits_decimalDigits _
  leading begins := by
    show decimalDigits value.natAbs = ['0']
    rw [eq_zero_of_head?_decimalDigits begins]
    rfl
  fraction _ given := by cases given
  exponent _ given := by cases given

/-- An integer of 64 bits is read as itself. -/
theorem number_integerNumeral {value : Int}
    (inRange : -0x8000000000000000 ≤ value ∧ value < 0x10000000000000000) :
    (integerNumeral value).number = some (.integer value inRange) := by
  have fits : value.natAbs ≤ maxSignificand := by
    unfold maxSignificand
    omega
  have same :
      (if decide (value < 0) = true then -(value.natAbs : Int) else value.natAbs) = value := by
    by_cases negative : value < 0
    · simp only [negative, decide_true, if_true]
      omega
    · simp only [negative, decide_false, Bool.false_eq_true, if_false]
      omega
  have notMinusZero : ¬ (decide (value < 0) = true ∧ value.natAbs = 0) := by
    rintro ⟨negative, zero⟩
    have below := of_decide_eq_true negative
    omega
  simp only [Numeral.number, integerNumeral, gather_decimalDigits fits, ofWhole, same]
  rw [dif_pos ⟨inRange, notMinusZero⟩]

/-! ## Real numbers -/

/-- What is nearest to the value of an interval lies in the interval. -/
theorem holds_of_nearest? {interval : RoundingInterval} {n : Nat}
    (found : interval.nearest? = some n) : interval.holds n = true := by
  simp only [RoundingInterval.nearest?] at found
  split at found
  next lower upper =>
    rw [← Option.some.inj found]
    split
    next => exact lower
    next => exact upper
  next lower _ => exact Option.some.inj found ▸ lower
  next _ upper => exact Option.some.inj found ▸ upper
  next => cases found

/-- An interval of positive reals does not hold zero. -/
theorem not_holds_zero {interval : RoundingInterval} (positive : 0 < interval.low) :
    interval.holds 0 = false := by
  have below : ¬ interval.low ≤ 0 := Nat.not_le.mpr positive
  simp only [RoundingInterval.holds, Nat.zero_mul]
  split
  next => simp [below]
  next => simp

/-- A search on ever finer grids ends with a positive integer, or with no exponent. -/
theorem search_digits (fuel : Nat) {interval : RoundingInterval} (positive : 0 < interval.low)
    (exponent : Int) :
    (interval.search exponent fuel).digits = 0 → (interval.search exponent fuel).exponent = 0 := by
  induction fuel generalizing exponent with
  | zero => exact fun _ => rfl
  | succ fuel inductionHypothesis =>
    unfold RoundingInterval.search
    have scaled : 0 < (interval.scaleDown exponent).low :=
      Nat.mul_pos positive (Nat.pow_pos (by decide))
    split
    next n found =>
      intro zero
      have held := holds_of_nearest? found
      rw [show n = 0 from zero, not_holds_zero scaled] at held
      cases held
    next => exact inductionHypothesis (exponent - 1)

theorem stripZeros_digits (fuel : Nat) {value : Decimal}
    (normal : value.digits = 0 → value.exponent = 0) :
    (value.stripZeros fuel).digits = 0 → (value.stripZeros fuel).exponent = 0 := by
  induction fuel generalizing value with
  | zero => exact normal
  | succ fuel inductionHypothesis =>
    unfold Decimal.stripZeros
    split
    next divisible =>
      apply inductionHypothesis
      intro zero
      simp only at zero
      omega
    next => exact normal

/-- The least real that rounds to a positive number is positive. -/
theorem low_pos {x : Binary64} (nonzero : x.significand ≠ 0) : 0 < (RoundingInterval.of x).low := by
  have unit : 0 < Nat.pow 2 x.scale.toNat := Nat.pow_pos (by decide)
  have value : 4 * Nat.pow 2 x.scale.toNat ≤ 4 * x.significand * Nat.pow 2 x.scale.toNat :=
    Nat.mul_le_mul_right _ (by omega)
  simp only [RoundingInterval.of]
  split <;> omega

theorem shortest_digits (x : Binary64) : x.shortest.digits = 0 → x.shortest.exponent = 0 := by
  unfold Binary64.shortest
  split
  next => exact fun _ => rfl
  next nonzero => exact stripZeros_digits 18 (search_digits 18 (low_pos nonzero) _)

theorem isDigit_of_mem_zeros {count : Nat} {c : Char} (member : c ∈ List.replicate count '0') :
    Text.isDigit c = true := by
  rw [List.eq_of_mem_replicate member]
  rfl

theorem areDigits_zero : AreDigits ['0'] :=
  ⟨List.cons_ne_nil _ _, fun _ member => isDigit_of_mem_zeros (List.mem_replicate.mpr
    ⟨Nat.one_ne_zero, List.mem_singleton.mp member⟩)⟩

theorem AreDigits.append {digits more : List Char} (are : AreDigits digits)
    (digit : ∀ c ∈ more, Text.isDigit c = true) : AreDigits (digits ++ more) where
  nonempty := List.append_ne_nil_of_left_ne_nil are.nonempty more
  digit c member := (List.mem_append.mp member).elim (are.digit c) (digit c)

theorem AreDigits.prepend {digits front : List Char} (are : AreDigits digits)
    (digit : ∀ c ∈ front, Text.isDigit c = true) : AreDigits (front ++ digits) where
  nonempty := List.append_ne_nil_of_right_ne_nil front are.nonempty
  digit c member := (List.mem_append.mp member).elim (digit c) (are.digit c)

/-- The text of a number that is written positionally is a numeral. -/
theorem exists_positional {digits : List Char} (are : AreDigits digits) {exponent : Int}
    (leading : digits.head? = some '0' → digits = ['0'] ∧ exponent = 0) (negative : Bool) :
    ∃ numeral : Numeral, numeral.Valid ∧
      numeral.text =
        (if negative then ['-'] else []) ++ NumberStyle.positional digits exponent := by
  rcases List.exists_cons_of_ne_nil are.nonempty with ⟨first, others, rfl⟩
  unfold NumberStyle.positional
  by_cases upwards : 0 ≤ exponent
  · -- The integer part has the digits in front of the point, filled up with zeros.  Only the
    -- number zero has a zero in front, and it has no exponent.
    let count := exponent.toNat
    let whole := first :: others.take count ++ List.replicate (count - others.length) '0'
    let fraction := if (others.drop count).isEmpty then ['0'] else others.drop count
    have taken : AreDigits (first :: others.take count) :=
      ⟨List.cons_ne_nil _ _, fun c member =>
        are.digit c (List.mem_of_mem_take (show c ∈ (first :: others).take (count + 1) from member))⟩
    refine ⟨⟨negative, whole, some fraction, none⟩,
      ⟨taken.append fun _ => isDigit_of_mem_zeros, ?_, ?_, ?_⟩, ?_⟩
    · intro begins
      rcases leading begins with ⟨alone, rfl⟩
      rcases List.cons.inj alone with ⟨rfl, rfl⟩
      rfl
    · rintro _ ⟨⟩
      simp only [fraction, List.isEmpty_iff]
      split
      next => exact areDigits_zero
      next held =>
        exact ⟨held, fun c member =>
          are.digit c (List.mem_cons_of_mem _ (List.mem_of_mem_drop member))⟩
    · rintro _ ⟨⟩
    · rw [if_pos upwards]
      simp [Numeral.text, Numeral.fractionText, Numeral.exponentText, whole, fraction, count]
  · let zeros := List.replicate ((-exponent).toNat - 1) '0'
    refine ⟨⟨negative, ['0'], some (zeros ++ first :: others), none⟩,
      ⟨areDigits_zero, fun _ => rfl, ?_, ?_⟩, ?_⟩
    · rintro _ ⟨⟩
      exact are.prepend fun _ => isDigit_of_mem_zeros
    · rintro _ ⟨⟩
    · rw [if_neg upwards]
      simp [Numeral.text, Numeral.fractionText, Numeral.exponentText, zeros]

/-- The text of a number that is written with an exponent is a numeral. -/
theorem exists_exponential {digits : List Char} (are : AreDigits digits) (exponent : Int)
    (negative : Bool) :
    ∃ numeral : Numeral, numeral.Valid ∧
      numeral.text =
        (if negative then ['-'] else []) ++ numberStyle.exponential digits exponent := by
  rcases List.exists_cons_of_ne_nil are.nonempty with ⟨first, others, rfl⟩
  have single : ∀ c ∈ [first], Text.isDigit c = true := fun c member =>
    are.digit c (List.mem_singleton.mp member ▸ List.mem_cons_self)
  refine ⟨⟨negative, [first], if others.isEmpty then none else some others,
    some (decide (exponent < 0), decimalDigits exponent.natAbs)⟩,
    ⟨⟨List.cons_ne_nil _ _, single⟩, fun begins => ?_, ?_, ?_⟩, ?_⟩
  · rw [Option.some.inj begins]
  · intro written given
    split at given
    next => cases given
    next held =>
      rw [← Option.some.inj given]
      exact ⟨fun empty => held (List.isEmpty_iff.mpr empty), fun c member =>
        are.digit c (List.mem_cons_of_mem _ member)⟩
  · rintro _ ⟨⟩
    exact areDigits_decimalDigits _
  · by_cases downwards : exponent < 0 <;> cases others <;>
      simp [Numeral.text, Numeral.fractionText, Numeral.exponentText, NumberStyle.exponential,
        numberStyle, downwards]

/-- The text of every number is a numeral. -/
theorem exists_numeral (number : Number) :
    ∃ numeral : Numeral, numeral.Valid ∧ numeral.text = numberText number := by
  cases number with
  | integer value _ => exact ⟨_, valid_integerNumeral value, text_integerNumeral value⟩
  | real x =>
    let digits := decimalDigits x.shortest.digits
    let exponent := x.shortest.exponent + (digits.length : Int) - 1
    have are : AreDigits digits := areDigits_decimalDigits _
    -- Without this a number such as `0 * 10 ^ 3` would be written with four zeros in front of
    -- the point, which no reader accepts.
    have leading : digits.head? = some '0' → digits = ['0'] ∧ exponent = 0 := by
      intro begins
      have zero : x.shortest.digits = 0 := eq_zero_of_head?_decimalDigits begins
      have alone : digits = ['0'] := congrArg decimalDigits zero
      refine ⟨alone, ?_⟩
      simp only [exponent, alone, shortest_digits x zero]
      rfl
    have sign : numberText (.real x) = (if x.negative then ['-'] else []) ++
        (if numberStyle.leastPositional ≤ exponent && exponent < numberStyle.firstExponential then
          NumberStyle.positional digits exponent
        else numberStyle.exponential digits exponent) := by
      simp only [numberText, NumberStyle.write]
      cases x.negative <;> rfl
    rw [sign]
    by_cases positional :
        (numberStyle.leastPositional ≤ exponent && exponent < numberStyle.firstExponential) = true
    · rw [if_pos positional]
      exact exists_positional are leading x.negative
    · rw [if_neg positional]
      exact exists_exponential are exponent x.negative

/-- A number is written with digits, signs, a point and a letter. -/
theorem mem_numberText {number : Number} {c : Char} (member : c ∈ numberText number) :
    Text.isDigit c = true ∨ c ∈ ['-', '+', '.', 'e'] := by
  rcases exists_numeral number with ⟨numeral, valid, same⟩
  rw [← same, Numeral.text, List.mem_append, List.mem_append, List.mem_append] at member
  rcases member with sign | whole | fraction | exponent
  · split at sign
    next => exact Or.inr (List.mem_cons.mpr (Or.inl (List.mem_singleton.mp sign)))
    next => cases sign
  · exact Or.inl (valid.whole.digit c whole)
  · cases given : numeral.fraction with
    | none =>
      rw [given] at fraction
      cases fraction
    | some digits =>
      rw [given, Numeral.fractionText, Option.elim_some, List.mem_cons] at fraction
      rcases fraction with rfl | digit
      · exact Or.inr (by decide)
      · exact Or.inl ((valid.fraction digits given).digit c digit)
  · cases given : numeral.exponent with
    | none =>
      rw [given] at exponent
      cases exponent
    | some part =>
      rw [given, Numeral.exponentText, Option.elim_some, List.mem_cons, List.mem_cons] at exponent
      rcases exponent with rfl | rfl | digit
      · exact Or.inr (by decide)
      · exact Or.inr (by split <;> decide)
      · exact Or.inl ((valid.exponent part given).digit c digit)

/-- A number begins with its sign or a digit. -/
theorem numberText_begins (number : Number) :
    ∃ c others, numberText number = c :: others ∧ (Text.isDigit c = true ∨ c = '-') := by
  rcases exists_numeral number with ⟨numeral, valid, same⟩
  rcases List.exists_cons_of_ne_nil valid.whole.nonempty with ⟨first, others, digits⟩
  have digit : Text.isDigit first = true := valid.whole.digit first (digits ▸ List.mem_cons_self)
  rw [← same, Numeral.text, digits]
  cases numeral.negative with
  | true => exact ⟨'-', _, rfl, Or.inr rfl⟩
  | false => exact ⟨first, _, rfl, Or.inl digit⟩

/-! ## Reading back -/

/-- The number that the text of a number reads as, if it is within range. -/
def reread? (number : Number) : Option Number :=
  (readNumeral (numberText number)).bind fun read => read.1.number

/-- The text of a number is taken in as far as it goes. -/
theorem readNumeral_numberText (number : Number) {rest : List Char} (closes : Closes rest) :
    ∃ numeral : Numeral, readNumeral (numberText number ++ rest) = some (numeral, rest) ∧
      numeral.number = reread? number := by
  rcases exists_numeral number with ⟨numeral, valid, same⟩
  refine ⟨numeral, same ▸ readNumeral_text valid closes, ?_⟩
  have alone := readNumeral_text valid closes_nil
  rw [List.append_nil, same] at alone
  rw [reread?, alone]
  rfl

/-- Integers are read exactly. -/
theorem reread?_integer {value : Int}
    (inRange : -0x8000000000000000 ≤ value ∧ value < 0x10000000000000000) :
    reread? (.integer value inRange) = some (.integer value inRange) := by
  have read := readNumeral_text (valid_integerNumeral value) closes_nil
  rw [List.append_nil, text_integerNumeral] at read
  rw [reread?, numberText, read]
  exact number_integerNumeral inRange

end Json
end Routebook
