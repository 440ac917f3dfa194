import FlowLogic.Json.Printer
import FlowLogic.Number.Numeral
import FlowLogic.Proofs.Number.Rounding
import FlowLogic.Proofs.Text.Pieces

/-!
Numbers read back from the numerals they are written as.  A written number is a numeral with ASCII
digits; an integer has neither point nor power of ten, and a float has one of them.
-/

namespace FlowLogic

namespace Decimal

theorem inBase_eq_foldr (base : Nat) (digits : List Nat) :
    inBase base digits = digits.foldr (fun digit rest => digit + base * rest) 0 := by
  induction digits with
  | nil => rfl
  | cons digit rest ih => rw [inBase, ih, List.foldr_cons]

theorem digitsValue_eq_ofDigitChars (digits : List Char) :
    digitsValue digits = Nat.ofDigitChars 10 digits 0 := by
  rw [digitsValue_eq_inBase, inBase_eq_foldr, List.foldr_map, List.foldr_reverse,
    Nat.ofDigitChars_eq_foldl]
  simp only [digitValue, Nat.add_comm]

theorem digitsValue_append (digits others : List Char) :
    digitsValue (digits ++ others) =
      digitsValue digits * 10 ^ others.length + digitsValue others := by
  simp only [digitsValue_eq_ofDigitChars, Nat.ofDigitChars_append]
  rw [Nat.ofDigitChars_eq_ofDigitChars_zero, Nat.mul_comm]

@[simp] theorem digitsValue_zeros (count : Nat) : digitsValue (zeros count) = 0 := by
  simp [digitsValue_eq_ofDigitChars, zeros]

@[simp] theorem digitsValue_digitChars (n : Nat) : digitsValue (digitChars n) = n := by
  simp [digitsValue_eq_ofDigitChars, digitChars]

theorem isAsciiDigit_of_mem_digitChars {n : Nat} {c : Char} (member : c ∈ digitChars n) :
    Text.isAsciiDigit c = true := by
  have digit := Nat.isDigit_of_mem_toDigits (by decide) (by decide) member
  exact digit

theorem digitChars_ne_nil (n : Nat) : digitChars n ≠ [] := Nat.toDigits_ne_nil

end Decimal

namespace Numeral

def fractionChars : Option (List Char) → List Char
  | none => []
  | some digits => '.' :: digits

def powerChars : Option (Bool × List Char) → List Char
  | none => []
  | some (negative, digits) => 'e' :: (if negative then '-' else '+') :: digits

/-- The text of a numeral, with a sign only if it is negative and with a sign on every power. -/
def chars (n : Numeral) : List Char :=
  (if n.negative then ['-'] else []) ++
    (n.whole ++ (fractionChars n.fraction ++ powerChars n.power))

def IsRun (digits : List Char) : Prop := ∀ c ∈ digits, Text.isAsciiDigit c = true

theorem IsRun.append {digits others : List Char} (run : IsRun digits) (runOthers : IsRun others) :
    IsRun (digits ++ others) :=
  fun c member => (List.mem_append.mp member).elim (run c) (runOthers c)

theorem IsRun.all {digits : List Char} (run : IsRun digits) : digits.all Text.isAsciiDigit = true :=
  List.all_eq_true.mpr run

theorem IsRun.isScriptDigit {digits : List Char} (run : IsRun digits) :
    ∀ c ∈ digits, Text.isScriptDigit c = true :=
  fun c member => Text.isScriptDigit_of_isAsciiDigit (run c member)

/-- All digits are ASCII digits, with some before the point and in the power of ten. -/
structure Plain (n : Numeral) : Prop where
  filled : n.whole ≠ []
  whole : IsRun n.whole
  fraction : IsRun (n.fraction.getD [])
  power : ∀ negative digits, n.power = some (negative, digits) → digits ≠ [] ∧ IsRun digits

variable {n : Numeral}

theorem Plain.hasValue (plain : n.Plain) : n.hasValue = true := by
  have power : ((n.power.map Prod.snd).getD []).all Text.isAsciiDigit = true := by
    cases present : n.power with
    | none => rfl
    | some power => exact (plain.power power.1 power.2 present).2.all
  simp only [Numeral.hasValue, plain.whole.all, plain.fraction.all, power, Bool.and_self]

theorem readPower_powerChars {power : Option (Bool × List Char)}
    (plain : ∀ negative digits, power = some (negative, digits) → digits ≠ [] ∧ IsRun digits) :
    readPower (powerChars power) = some power := by
  match power with
  | none => rfl
  | some (negative, digits) =>
      obtain ⟨filled, run⟩ := plain negative digits rfl
      have signed : readSign ((if negative then '-' else '+') :: digits) = (negative, digits) := by
        cases negative <;> rfl
      have script : digits.all Text.isScriptDigit = true := List.all_eq_true.mpr run.isScriptDigit
      simp [powerChars, readPower, signed, script, filled]

theorem stopsAt_powerChars (power : Option (Bool × List Char)) :
    Text.StopsAt Text.isScriptDigit (powerChars power) := by
  match power with
  | none => exact Text.stopsAt_nil _
  | some (negative, digits) => exact Text.stopsAt_cons.mpr (by decide)

theorem readSign_of_digit {digits rest : List Char} (filled : digits ≠ []) (run : IsRun digits) :
    readSign (digits ++ rest) = (false, digits ++ rest) := by
  cases digits with
  | nil => exact absurd rfl filled
  | cons c digits =>
      have digit := run c List.mem_cons_self
      unfold readSign
      split
      next same =>
        cases same
        cases digit
      next same =>
        cases same
        cases digit
      next => rfl

theorem Plain.read?_chars (plain : n.Plain) : read? n.chars = some n := by
  obtain ⟨negative, whole, fraction, power⟩ := n
  have signed : readSign (chars ⟨negative, whole, fraction, power⟩) =
      (negative, whole ++ (fractionChars fraction ++ powerChars power)) := by
    cases negative with
    | true => rfl
    | false =>
        have unsigned : ∀ rest, readSign (whole ++ rest) = (false, whole ++ rest) :=
          fun _ => readSign_of_digit plain.filled plain.whole
        exact unsigned _
  have read : readPower (powerChars power) = some power := readPower_powerChars plain.power
  have filled : whole.isEmpty = false := List.isEmpty_eq_false_iff.mpr plain.filled
  have stops : Text.StopsAt Text.isScriptDigit (fractionChars fraction ++ powerChars power) := by
    cases fraction with
    | none => exact stopsAt_powerChars power
    | some digits => exact Text.stopsAt_cons.mpr (by decide)
  unfold read?
  simp only [signed, Text.takeWhile_run plain.whole.isScriptDigit stops,
    Text.dropWhile_run plain.whole.isScriptDigit stops]
  cases fraction with
  | some digits =>
      have within := plain.fraction.isScriptDigit
      simp only [Option.getD_some] at within
      simp only [fractionChars, List.cons_append,
        Text.takeWhile_run within (stopsAt_powerChars power),
        Text.dropWhile_run within (stopsAt_powerChars power), read, filled, Bool.false_and]
      rfl
  | none =>
      simp only [fractionChars, List.nil_append, filled, Bool.false_eq_true, if_false]
      split
      next noPoint =>
        match power with
        | none => cases noPoint
        | some (_, _) => cases noPoint
      next => rw [read, Option.map_some]

def isPart (c : Char) : Bool :=
  Text.isAsciiDigit c || c == '-' || c == '+' || c == '.' || c == 'e'

theorem IsRun.isPart {digits : List Char} (run : IsRun digits) :
    ∀ c ∈ digits, isPart c = true := by
  intro c member
  simp [Numeral.isPart, run c member]

theorem Plain.isPart_of_mem (plain : n.Plain) : ∀ c ∈ n.chars, isPart c = true := by
  obtain ⟨negative, whole, fraction, power⟩ := n
  intro c member
  simp only [chars, List.mem_append] at member
  rcases member with inSign | inWhole | inFraction | inPower
  · cases negative with
    | true =>
        obtain rfl := List.mem_singleton.mp inSign
        rfl
    | false => cases inSign
  · exact plain.whole.isPart c inWhole
  · match fraction with
    | some digits =>
        rcases List.mem_cons.mp inFraction with rfl | inDigits
        · rfl
        · exact plain.fraction.isPart c inDigits
  · match power with
    | some (negative, digits) =>
        obtain ⟨_, run⟩ := plain.power negative digits rfl
        rcases List.mem_cons.mp inPower with rfl | inRest
        · rfl
        · rcases List.mem_cons.mp inRest with rfl | inDigits
          · cases negative <;> rfl
          · exact run.isPart c inDigits

def isLoosePart (c : Char) : Bool :=
  Text.isScriptDigit c || ['-', '+', '.', 'e', 'E'].contains c

theorem mem_readSign {cs : List Char} {c : Char} (member : c ∈ cs) :
    isLoosePart c = true ∨ c ∈ (readSign cs).2 := by
  unfold readSign
  split
  next =>
    rcases List.mem_cons.mp member with rfl | inRest
    · exact .inl rfl
    · exact .inr inRest
  next =>
    rcases List.mem_cons.mp member with rfl | inRest
    · exact .inl rfl
    · exact .inr inRest
  next => exact .inr member

theorem isLoosePart_of_digit {c : Char} (digit : Text.isScriptDigit c = true) :
    isLoosePart c = true := by
  simp [isLoosePart, digit]

theorem isLoosePart_of_readPower {cs : List Char} {power : Option (Bool × List Char)}
    (read : readPower cs = some power) : ∀ c ∈ cs, isLoosePart c = true := by
  cases cs with
  | nil => simp
  | cons first rest =>
      simp only [readPower] at read
      split at read
      next marker =>
        split at read
        next digits =>
          simp only [Bool.and_eq_true, List.all_eq_true] at digits
          intro c member
          rcases List.mem_cons.mp member with rfl | inRest
          · rcases marker with rfl | rfl <;> rfl
          · rcases mem_readSign inRest with sign | inDigits
            · exact sign
            · exact isLoosePart_of_digit (digits.2 c inDigits)
        next => cases read
      next => cases read

theorem isLoosePart_of_read? {cs : List Char} (read : read? cs = some n) :
    ∀ c ∈ cs, isLoosePart c = true := by
  intro c member
  rcases mem_readSign member with sign | inUnsigned
  · exact sign
  · unfold read? at read
    dsimp only at read
    generalize (readSign cs).2 = unsigned at *
    rw [← List.takeWhile_append_dropWhile (p := Text.isScriptDigit) (l := unsigned),
      List.mem_append] at inUnsigned
    rcases inUnsigned with inWhole | later
    · exact isLoosePart_of_digit (List.mem_takeWhile_imp inWhole)
    · split at read
      next rest pointed =>
        rw [pointed] at later
        split at read
        next => cases read
        next =>
          obtain ⟨_, readRest, _⟩ := Option.map_eq_some_iff.mp read
          rcases List.mem_cons.mp later with rfl | inRest
          · rfl
          · rw [← List.takeWhile_append_dropWhile (p := Text.isScriptDigit) (l := rest),
              List.mem_append] at inRest
            rcases inRest with inFraction | inPower
            · exact isLoosePart_of_digit (List.mem_takeWhile_imp inFraction)
            · exact isLoosePart_of_readPower readRest c inPower
      next =>
        split at read
        next => cases read
        next =>
          obtain ⟨_, readRest, _⟩ := Option.map_eq_some_iff.mp read
          exact isLoosePart_of_readPower readRest c later

end Numeral

namespace Decimal

open Numeral

@[simp] theorem digitsValue_nil : digitsValue [] = 0 := rfl

@[simp] theorem length_zeros (count : Nat) : (zeros count).length = count :=
  List.length_replicate

theorem isRun_zeros (count : Nat) : IsRun (zeros count) := by
  intro c member
  rw [List.eq_of_mem_replicate member]
  rfl

theorem isRun_digitChars (n : Nat) : IsRun (digitChars n) :=
  fun _ member => isAsciiDigit_of_mem_digitChars member

theorem magnitude_eq_of_shift {d e : Decimal} (count : Nat)
    (digits : d.digits = e.digits * 10 ^ count) (exponent : e.exponent = d.exponent + count) :
    d.magnitude = e.magnitude := by
  have powers : (10 : ℚ) ^ e.exponent = 10 ^ count * 10 ^ d.exponent := by
    rw [exponent, zpow_add₀ (by norm_num), zpow_natCast, mul_comm]
  rw [magnitude, magnitude, powers, digits, Nat.cast_mul, Nat.cast_pow, mul_assoc]
  norm_num

def ofSignificant (digits : List Char) (leading : Int) : Decimal :=
  ⟨false, digitsValue digits, leading - digits.length + 1⟩

theorem exists_zeros (digits : List Char) :
    ∃ count, digits = (digits.reverse.dropWhile (· == '0')).reverse ++ zeros count := by
  refine ⟨(digits.reverse.takeWhile (· == '0')).length, ?_⟩
  have dropped : digits.reverse.takeWhile (· == '0') =
      zeros (digits.reverse.takeWhile (· == '0')).length := by
    apply List.eq_replicate_of_mem
    intro c member
    simpa using List.mem_takeWhile_imp member
  have parts : digits.reverse.takeWhile (· == '0') ++ digits.reverse.dropWhile (· == '0') =
      digits.reverse := List.takeWhile_append_dropWhile
  rw [dropped] at parts
  simpa [zeros] using (congrArg List.reverse parts).symm

theorem significant_spec {d : Decimal} (filled : d.digits ≠ 0) :
    d.significant.1 ≠ [] ∧ IsRun d.significant.1 ∧
      (ofSignificant d.significant.1 d.significant.2).magnitude = d.magnitude := by
  obtain ⟨count, whole⟩ := exists_zeros (digitChars d.digits)
  have value := digitsValue_digitChars d.digits
  have length := congrArg List.length whole
  have run := isRun_digitChars d.digits
  simp only [significant]
  generalize ((digitChars d.digits).reverse.dropWhile (· == '0')).reverse = kept at *
  rw [whole, digitsValue_append, digitsValue_zeros, length_zeros, Nat.add_zero] at value
  rw [List.length_append, length_zeros] at length
  refine ⟨?_, ?_, ?_⟩
  · rintro rfl
    rw [digitsValue_nil, Nat.zero_mul] at value
    exact filled value.symm
  · intro c member
    apply run c
    rw [whole]
    exact List.mem_append_left _ member
  · symm
    apply magnitude_eq_of_shift count value.symm
    simp only [ofSignificant]
    omega

/-- A numeral with a point or a power of ten, for the given text and decimal. -/
def WrittenAs (text : List Char) (d : Decimal) : Prop :=
  ∃ n : Numeral, n.Plain ∧ n.negative = false ∧ n.toInt? = none ∧ n.chars = text ∧
    n.decimal.magnitude = d.magnitude

theorem WrittenAs.congr {text : List Char} {d e : Decimal} (written : WrittenAs text d)
    (same : d.magnitude = e.magnitude) : WrittenAs text e := by
  obtain ⟨n, plain, unsigned, broken, spelled, magnitude⟩ := written
  exact ⟨n, plain, unsigned, broken, spelled, magnitude.trans same⟩

theorem writtenAs_pointed {whole fraction : List Char} (filled : whole ≠ []) (run : IsRun whole)
    (runFraction : IsRun fraction) :
    WrittenAs (whole ++ '.' :: fraction)
      ⟨false, digitsValue (whole ++ fraction), -fraction.length⟩ := by
  refine ⟨⟨false, whole, some fraction, none⟩, ⟨filled, run, runFraction, ?_⟩, rfl, rfl, ?_, ?_⟩
  · intro _ _ absent
    cases absent
  · simp [Numeral.chars, fractionChars, powerChars]
  · simp [Numeral.decimal]

theorem writtenAs_scaled {first : Char} {fraction : Option (List Char)}
    (run : IsRun (first :: fraction.getD [])) (leading : Int) :
    WrittenAs (first :: fractionChars fraction ++ ['e', if leading < 0 then '-' else '+'] ++
        digitChars leading.natAbs)
      (ofSignificant (first :: fraction.getD []) leading) := by
  obtain ⟨digit, digits⟩ := List.forall_mem_cons.mp run
  have signed : (if decide (leading < 0) = true then -(leading.natAbs : Int)
      else leading.natAbs) = leading := by
    simp only [decide_eq_true_eq]
    omega
  refine ⟨⟨false, [first], fraction, some (decide (leading < 0), digitChars leading.natAbs)⟩,
    ⟨List.cons_ne_nil _ _, by simpa [IsRun] using digit, digits, ?_⟩, rfl, ?_, ?_, ?_⟩
  · rintro _ _ ⟨⟩
    exact ⟨digitChars_ne_nil _, isRun_digitChars _⟩
  · cases fraction <;> rfl
  · simp [Numeral.chars, powerChars]
  · have exponent : leading - ((fraction.getD []).length : Int) =
        leading - (first :: fraction.getD []).length + 1 := by
      rw [List.length_cons]
      omega
    simp only [Numeral.decimal, digitsValue_digitChars, signed, exponent]
    rfl

theorem writtenAs_positional {digits : List Char} (filled : digits ≠ []) (run : IsRun digits)
    (leading : Int) :
    WrittenAs (positional digits leading) (ofSignificant digits leading) := by
  unfold positional
  split
  next small =>
    have zero : IsRun ['0'] := by simp [IsRun, Text.isAsciiDigit]
    have written := writtenAs_pointed (List.cons_ne_nil _ _) zero
      ((isRun_zeros (-leading - 1).toNat).append run)
    have value : digitsValue (['0'] ++ (zeros (-leading - 1).toNat ++ digits)) =
        digitsValue digits := by
      have first : digitsValue ['0'] = 0 := rfl
      rw [digitsValue_append, digitsValue_append, digitsValue_zeros, first]
      omega
    have exponent : -((zeros (-leading - 1).toNat ++ digits).length : Int) =
        leading - digits.length + 1 := by
      rw [List.length_append, length_zeros]
      omega
    rw [value, exponent] at written
    exact written
  next large =>
    dsimp only
    split
    next short =>
      have written := writtenAs_pointed (List.append_ne_nil_of_left_ne_nil filled _)
        (run.append (isRun_zeros (leading.toNat + 1 - digits.length))) (isRun_zeros 1)
      apply WrittenAs.congr written
      apply magnitude_eq_of_shift (leading.toNat + 1 - digits.length + 1)
      · simp only [digitsValue_append, digitsValue_zeros, length_zeros, ofSignificant]
        rw [Nat.add_zero, Nat.add_zero, Nat.pow_add, Nat.mul_assoc]
      · simp only [ofSignificant, length_zeros]
        omega
    next long =>
      have parts := List.take_append_drop (leading.toNat + 1) digits
      have kept : digits.take (leading.toNat + 1) ≠ [] := by
        simpa using filled
      have early : IsRun (digits.take (leading.toNat + 1)) :=
        fun c member => run c (List.mem_of_mem_take member)
      have late : IsRun (digits.drop (leading.toNat + 1)) :=
        fun c member => run c (List.mem_of_mem_drop member)
      have written := writtenAs_pointed kept early late
      have exponent : -((digits.drop (leading.toNat + 1)).length : Int) =
          leading - digits.length + 1 := by
        rw [List.length_drop]
        omega
      rw [parts, exponent] at written
      exact written

theorem writtenAs_scientific {digits : List Char} (filled : digits ≠ []) (run : IsRun digits)
    (leading : Int) :
    WrittenAs (scientific digits leading) (ofSignificant digits leading) := by
  match digits with
  | [first] =>
      have written : WrittenAs (first :: fractionChars none ++ _ ++ _) _ :=
        writtenAs_scaled run leading
      exact written
  | first :: second :: rest =>
      have written : WrittenAs (first :: fractionChars (some (second :: rest)) ++ _ ++ _) _ :=
        writtenAs_scaled run leading
      exact written

theorem writtenAs_floatChars (d : Decimal) : WrittenAs d.floatChars d := by
  unfold floatChars
  split
  next empty =>
    have zero : IsRun ['0'] := by simp [IsRun, Text.isAsciiDigit]
    apply (writtenAs_pointed (List.cons_ne_nil _ _) zero zero).congr
    have none : digitsValue (['0'] ++ ['0']) = 0 := rfl
    simp only [magnitude, empty, none, Nat.cast_zero, zero_mul]
  next filled =>
    obtain ⟨kept, run, magnitude⟩ := significant_spec filled
    dsimp only
    split
    next => exact (writtenAs_positional kept run _).congr magnitude
    next => exact (writtenAs_scientific kept run _).congr magnitude

end Decimal

theorem Numeral.toInt?_signed {n : Numeral} (broken : n.toInt? = none) (negative : Bool) :
    ({ n with negative := negative } : Numeral).toInt? = none := by
  obtain ⟨_, whole, fraction, power⟩ := n
  match fraction, power with
  | none, none => simpa [toInt?, hasValue] using broken
  | some _, _ => rfl
  | none, some _ => rfl

theorem Finite64.exists_chars (x : Finite64) :
    ∃ n : Numeral, n.Plain ∧ n.toInt? = none ∧ n.chars = x.chars ∧
      n.decimal.toBinary64 = .finite x := by
  have text : x.chars = (if x.negative then ['-'] else []) ++ (shortest x.units).floatChars := by
    unfold chars
    split <;> simp
  have read := toBinary64_shortest x
  rw [text]
  generalize shortest x.units = d at read
  obtain ⟨n, plain, unsigned, broken, spelled, magnitude⟩ := Decimal.writtenAs_floatChars d
  refine ⟨{ n with negative := x.negative },
    ⟨plain.filled, plain.whole, plain.fraction, plain.power⟩,
    Numeral.toInt?_signed broken x.negative, ?_, ?_⟩
  · have bare : n.whole ++ (Numeral.fractionChars n.fraction ++ Numeral.powerChars n.power) =
        d.floatChars := by
      simpa [Numeral.chars, unsigned] using spelled
    simp only [Numeral.chars, bare]
  · rw [← read]
    exact Decimal.toBinary64_congr rfl magnitude

def Numeral.ofInt (value : Int) : Numeral :=
  ⟨decide (value < 0), Decimal.digitChars value.natAbs, none, none⟩

theorem Numeral.ofInt_plain (value : Int) : (ofInt value).Plain where
  filled := Decimal.digitChars_ne_nil _
  whole := Decimal.isRun_digitChars _
  fraction := by simp [ofInt, IsRun]
  power := by rintro _ _ ⟨⟩

theorem Numeral.toInt?_ofInt (value : Int) : (ofInt value).toInt? = some value := by
  have plain := (ofInt_plain value).hasValue
  simp only [toInt?, ofInt, Decimal.digitsValue_digitChars] at plain ⊢
  rw [if_pos plain]
  simp only [decide_eq_true_eq, Option.some.injEq]
  omega

theorem Numeral.chars_ofInt (value : Int) : (ofInt value).chars = intChars value := by
  simp only [chars, ofInt, fractionChars, powerChars, intChars, decide_eq_true_eq]
  split <;> simp

end FlowLogic
