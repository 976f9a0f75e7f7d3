/-
  Ecocredit.Decimal — the decimal engine under the keeper and the genesis validator:
  regen's `types/math` (`Dec`, `NewDecFromString`, `NewNonNegativeFixedDecFromString`,
  `SafeSubBalance`, `SafeAddBalance`, `Dec.String`) and `GetNonNegativeFixedDecs` of
  `x/ecocredit/server/utils`. None of them is in the repository's sources; they are
  modelled from the spec (§4.1, §6): amounts at rest are base-10 strings with no
  exponent, parsed into exact fixed-point values, and arithmetic is exact.

  A `Dec` is a coefficient and a count of fractional digits (apd's exponent, negated),
  so `"10.00"` is `⟨1000, 2⟩`: the count is what `NumDecimalPlaces` reads and what
  the precision check compares. Sums and differences keep the larger count.

  Proved:
  - `newDecFromString_string`: printing and parsing round-trip exactly, for every
    value, negative ones included; hence `fixedDec_string`: a non-negative value with
    at most `p` fractional digits prints to a string that parses at precision `p`.
  - `val_add`, `val_sub`: arithmetic is exact on the rational values.
  - `safeSubBalance_ok`: `SafeSubBalance` succeeds exactly when the result is not
    negative, and then it is the difference.
-/

import Mathlib.Algebra.Order.Field.Basic
import Mathlib.Data.List.Basic
import Mathlib.Data.List.Forall2
import Mathlib.Data.Nat.Digits
import Mathlib.Data.Rat.Cast.Order
import Mathlib.Tactic.Ring
import Mathlib.Tactic.Linarith

namespace Ecocredit

/-! ## Errors -/

/-- The error kinds the modelled code raises: cosmos-sdk's registered errors, the
    ORM's, ecocredit's own, and the decimal engine's (spec §7). -/
inductive Code where
  | invalidRequest
  | notFound
  | invalidType
  | invalidCoins
  | insufficientCredits
  | ormNotFound
  | plain
  | invalidAmount
  | precisionExceeded
  | insufficientBalance
  | maxLimit
  deriving DecidableEq, Repr

structure Err where
  code : Code
  msg : String
  deriving DecidableEq, Repr

/-! ## Values -/

/-- Modelled from the spec: regen's `math.Dec`, an exact decimal with no exponent
    notation; `exp` is the number of fractional digits. -/
structure Dec where
  coeff : Int
  exp : Nat
  deriving DecidableEq, Repr

namespace Dec

/-- `NewDecFromInt64(0)`. -/
def zero : Dec := ⟨0, 0⟩

def val (x : Dec) : ℚ := x.coeff / 10 ^ x.exp

def isZero (x : Dec) : Bool := x.coeff == 0

def isNegative (x : Dec) : Bool := x.coeff < 0

def numDecimalPlaces (x : Dec) : Nat := x.exp

def neg (x : Dec) : Dec := ⟨-x.coeff, x.exp⟩

/-- `Add`: exact, at the larger number of fractional digits. -/
def add (x y : Dec) : Dec :=
  ⟨x.coeff * 10 ^ (max x.exp y.exp - x.exp) + y.coeff * 10 ^ (max x.exp y.exp - y.exp), max x.exp y.exp⟩

/-- `Sub`: exact, and negative when `y` exceeds `x`. -/
def sub (x y : Dec) : Dec :=
  ⟨x.coeff * 10 ^ (max x.exp y.exp - x.exp) - y.coeff * 10 ^ (max x.exp y.exp - y.exp), max x.exp y.exp⟩

/-- `Cmp`: by value, `-1`, `0` or `1`, comparing the coefficients at the larger number of
    fractional digits. -/
def cmp (x y : Dec) : Int :=
  let a := x.coeff * 10 ^ (max x.exp y.exp - x.exp)
  let b := y.coeff * 10 ^ (max x.exp y.exp - y.exp)
  if a < b then -1 else if a = b then 0 else 1

end Dec

/-! ## Strings -/

def isDigits (cs : List Char) : Bool := !cs.isEmpty && cs.all Char.isDigit

/-- The value of a run of decimal digits, most significant first. -/
def digitsVal (cs : List Char) : Nat := cs.foldl (fun n c => n * 10 + (c.toNat - '0'.toNat)) 0

/-- Digits, optionally a point and more digits. -/
def parseUnsigned (cs : List Char) : Option Dec :=
  match cs.span (· ≠ '.') with
  | (i, []) => if isDigits i then some ⟨digitsVal i, 0⟩ else none
  | (i, _ :: f) => if isDigits i && isDigits f then some ⟨digitsVal (i ++ f), f.length⟩ else none

def parseDec : List Char → Option Dec
  | '-' :: cs => (parseUnsigned cs).map Dec.neg
  | cs => parseUnsigned cs

/-- Modelled from the spec: `NewDecFromString` (apd's `NewFromString`), restricted to
    the plain notation amounts are stored in. -/
def newDecFromString (s : String) : Except Err Dec :=
  match parseDec s.toList with
  | some d => .ok d
  | none => .error ⟨.invalidAmount, s ++ " is not a valid decimal"⟩

/-- The digits of `x`'s coefficient, padded with zeros to more than `exp` digits. -/
def paddedDigits (x : Dec) : List Char :=
  let ds := Nat.toDigits 10 x.coeff.natAbs
  List.replicate (x.exp + 1 - ds.length) '0' ++ ds

/-- The padded digits with the point `exp` digits from the right: apd's `Text('f')`. -/
def unsignedChars (x : Dec) : List Char :=
  let ds := paddedDigits x
  if x.exp = 0 then ds else ds.take (ds.length - x.exp) ++ '.' :: ds.drop (ds.length - x.exp)

/-- Modelled from the spec: `Dec.String`. -/
def Dec.string (x : Dec) : String :=
  ⟨if x.coeff < 0 then '-' :: unsignedChars x else unsignedChars x⟩

/-- Modelled from the spec: `NewNonNegativeDecFromString`. -/
def newNonNegativeDecFromString (s : String) : Except Err Dec :=
  match newDecFromString s with
  | .ok d => if d.isNegative then .error ⟨.invalidAmount, "expected a non-negative decimal, got " ++ s⟩ else .ok d
  | .error e => .error e

/-- Modelled from the spec: `NewNonNegativeFixedDecFromString`. -/
def newNonNegativeFixedDecFromString (s : String) (max : Nat) : Except Err Dec :=
  match newNonNegativeDecFromString s with
  | .ok d =>
    if d.numDecimalPlaces > max then
      .error ⟨.precisionExceeded, s ++ " exceeds maximum decimal places: " ++ toString max⟩
    else .ok d
  | .error e => .error e

/-- Modelled from the spec: `GetNonNegativeFixedDecs`, each string at `precision`,
    failing at the first that does not parse. -/
def getNonNegativeFixedDecs (precision : Nat) (decs : List String) : Except Err (List Dec) :=
  decs.mapM (newNonNegativeFixedDecFromString · precision)

/-- Modelled from the spec: `SafeSubBalance`, the only subtraction that refuses a
    negative result. -/
def safeSubBalance (x y : Dec) : Except Err Dec :=
  let z := x.sub y
  if z.isNegative then .error ⟨.insufficientBalance, "insufficient funds"⟩ else .ok z

/-- Modelled from the spec: `SafeAddBalance`, an addition of two non-negative values. -/
def safeAddBalance (x y : Dec) : Except Err Dec :=
  if x.isNegative || y.isNegative then
    .error ⟨.invalidAmount, "AddBalance() requires two non-negative Dec parameters"⟩
  else .ok (x.add y)

/-- The numeric value of a stored amount; one that does not parse (the empty string
    among them) counts as zero. -/
def amount (s : String) : ℚ :=
  match newDecFromString s with
  | .ok d => d.val
  | .error _ => 0

/-- The numeric value of a stored amount, when it parses. -/
def decValue (s : String) : Option ℚ :=
  match newDecFromString s with
  | .ok d => some d.val
  | .error _ => none

/-- A string `GetNonNegativeFixedDecs` accepts at precision `p`. -/
def fixedDec (p : Nat) (s : String) : Prop := ∃ d, newNonNegativeFixedDecFromString s p = .ok d

/-! ## Printing and parsing -/

theorem digitChar_digit : ∀ k < 10, (Nat.digitChar k).isDigit ∧ (Nat.digitChar k).toNat - '0'.toNat = k := by
  decide

theorem foldl_digits (l : List Char) (a : Nat) :
    l.foldl (fun n c => n * 10 + (c.toNat - '0'.toNat)) a = a * 10 ^ l.length + digitsVal l := by
  induction l generalizing a with
  | nil => simp [digitsVal]
  | cons c l ih =>
    simp only [List.foldl_cons, digitsVal, List.length_cons] at *
    rw [ih, ih (0 * 10 + _)]
    ring

theorem digitsVal_append (l₁ l₂ : List Char) :
    digitsVal (l₁ ++ l₂) = digitsVal l₁ * 10 ^ l₂.length + digitsVal l₂ := by
  rw [digitsVal, List.foldl_append, foldl_digits]
  rfl

theorem digitsVal_zeros (k : Nat) (l : List Char) : digitsVal (List.replicate k '0' ++ l) = digitsVal l := by
  have : digitsVal (List.replicate k '0') = 0 := by
    induction k with
    | zero => rfl
    | succ k ih => rw [List.replicate_succ', digitsVal_append, ih]; rfl
  simp [digitsVal_append, this]

theorem digitsVal_singleton (c : Char) : digitsVal [c] = c.toNat - '0'.toNat := by
  simp [digitsVal]

theorem toDigitsCore_spec (fuel n : Nat) (acc : List Char) (h : n < fuel) :
    ∃ pre, Nat.toDigitsCore 10 fuel n acc = pre ++ acc ∧ isDigits pre ∧ digitsVal pre = n := by
  induction fuel generalizing n acc with
  | zero => omega
  | succ fuel ih =>
    obtain ⟨hd, hv⟩ := digitChar_digit (n % 10) (Nat.mod_lt _ (by omega))
    simp only [Nat.toDigitsCore]
    split
    · refine ⟨[Nat.digitChar (n % 10)], rfl, by simp [isDigits, hd], ?_⟩
      rw [digitsVal_singleton, hv]; omega
    · obtain ⟨pre, e, hp, hpv⟩ := ih (n / 10) (Nat.digitChar (n % 10) :: acc) (by omega)
      refine ⟨pre ++ [Nat.digitChar (n % 10)], by simp [e], ?_, ?_⟩
      · simp_all [isDigits]
      · rw [digitsVal_append, hpv, digitsVal_singleton, hv, List.length_singleton]; omega

theorem toDigits_spec (n : Nat) : isDigits (Nat.toDigits 10 n) ∧ digitsVal (Nat.toDigits 10 n) = n := by
  obtain ⟨pre, e, hp, hv⟩ := toDigitsCore_spec (n + 1) n [] (by omega)
  simp only [Nat.toDigits, e, List.append_nil]
  exact ⟨hp, hv⟩

theorem isDigits_iff {cs : List Char} : isDigits cs ↔ cs ≠ [] ∧ ∀ c ∈ cs, c.isDigit := by
  simp [isDigits, List.isEmpty_iff]

theorem ne_point_of_isDigit {c : Char} (h : c.isDigit) : c ≠ '.' := by
  rintro rfl; exact absurd h (by decide)

theorem paddedDigits_spec (x : Dec) :
    isDigits (paddedDigits x) ∧ digitsVal (paddedDigits x) = x.coeff.natAbs ∧
      x.exp + 1 ≤ (paddedDigits x).length := by
  obtain ⟨hd, hv⟩ := toDigits_spec x.coeff.natAbs
  rw [isDigits_iff] at hd ⊢
  refine ⟨⟨by simp [paddedDigits, hd.1], fun c hc => ?_⟩, by rw [paddedDigits, digitsVal_zeros, hv],
    by simp [paddedDigits]; omega⟩
  rcases List.mem_append.1 hc with hc | hc
  · rw [List.eq_of_mem_replicate hc]; rfl
  · exact hd.2 c hc

theorem parseUnsigned_unsignedChars (x : Dec) :
    parseUnsigned (unsignedChars x) = some ⟨x.coeff.natAbs, x.exp⟩ := by
  obtain ⟨hd, hv, hl⟩ := paddedDigits_spec x
  simp only [unsignedChars]
  generalize paddedDigits x = ds at hd hv hl
  have hne : ∀ c ∈ ds, (!decide (c = '.')) = true := fun c hc => by
    simpa using ne_point_of_isDigit ((isDigits_iff.1 hd).2 c hc)
  split
  · rename_i h0
    simp [parseUnsigned, List.span_eq_take_drop, List.takeWhile_eq_self_iff.2 hne,
      List.dropWhile_eq_nil_iff.2 hne, hd, hv, h0]
  · rename_i h0
    have hall := (isDigits_iff.1 hd).2
    have ht : isDigits (ds.take (ds.length - x.exp)) := isDigits_iff.2
      ⟨by simpa using ⟨by omega, by rintro rfl; simp at hl⟩, fun c hc => hall c (List.mem_of_mem_take hc)⟩
    have hdr : isDigits (ds.drop (ds.length - x.exp)) := isDigits_iff.2
      ⟨by simp; omega, fun c hc => hall c (List.mem_of_mem_drop hc)⟩
    have hp : ∀ c ∈ ds.take (ds.length - x.exp), (!decide (c = '.')) = true :=
      fun c hc => hne c (List.mem_of_mem_take hc)
    simp [parseUnsigned, List.span_eq_take_drop, List.takeWhile_append_of_pos hp,
      List.dropWhile_append_of_pos hp, ht, hdr, hv]
    omega

theorem unsignedChars_cons (x : Dec) : ∃ c cs, unsignedChars x = c :: cs ∧ c.isDigit := by
  obtain ⟨hd, -, hl⟩ := paddedDigits_spec x
  simp only [unsignedChars]
  generalize paddedDigits x = ds at hd hl
  obtain ⟨hne, hall⟩ := isDigits_iff.1 hd
  obtain ⟨c, cs, rfl⟩ := List.exists_cons_of_ne_nil hne
  have hc := hall c (List.mem_cons_self _ _)
  split
  · exact ⟨c, cs, rfl, hc⟩
  · obtain ⟨k, hk⟩ : ∃ k, (c :: cs).length - x.exp = k + 1 := ⟨_, (Nat.succ_pred_eq_of_pos (by omega)).symm⟩
    exact ⟨c, _, by rw [hk]; rfl, hc⟩

theorem parseDec_of_isDigit {c : Char} (hc : c.isDigit) (cs : List Char) :
    parseDec (c :: cs) = parseUnsigned (c :: cs) := by
  have : c ≠ '-' := by rintro rfl; exact absurd hc (by decide)
  simp [parseDec, this]

theorem parseDec_string (x : Dec) : parseDec x.string.toList = some x := by
  obtain ⟨c, cs, hu, hc⟩ := unsignedChars_cons x
  have hp := parseUnsigned_unsignedChars x
  simp only [Dec.string, String.toList]
  split
  · simp only [parseDec, hp, Option.map_some', Dec.neg]
    congr; omega
  · rw [hu, parseDec_of_isDigit hc, ← hu, hp]
    congr; omega

/-- Printing and parsing round-trip exactly. -/
theorem newDecFromString_string (x : Dec) : newDecFromString x.string = .ok x := by
  rw [newDecFromString, parseDec_string]

/-! ## Arithmetic -/

namespace Dec

theorem ten_pow_pos (n : Nat) : (0 : ℚ) < 10 ^ n := by positivity

/-- Scaling a coefficient to more fractional digits keeps the value. -/
theorem scale_val (c : Int) {e e' : Nat} (h : e ≤ e') :
    ((c * 10 ^ (e' - e) : Int) : ℚ) / 10 ^ e' = (c : ℚ) / 10 ^ e := by
  rw [div_eq_div_iff (ten_pow_pos _).ne' (ten_pow_pos _).ne']
  push_cast
  rw [mul_assoc, ← pow_add, Nat.sub_add_cancel h]

@[simp] theorem val_add (x y : Dec) : (x.add y).val = x.val + y.val := by
  simp only [val, add, Int.cast_add]
  rw [add_div, scale_val _ (le_max_left _ _), scale_val _ (le_max_right _ _)]

@[simp] theorem val_sub (x y : Dec) : (x.sub y).val = x.val - y.val := by
  simp only [val, sub, Int.cast_sub]
  rw [sub_div, scale_val _ (le_max_left _ _), scale_val _ (le_max_right _ _)]

@[simp] theorem exp_add (x y : Dec) : (x.add y).exp = max x.exp y.exp := rfl

@[simp] theorem exp_sub (x y : Dec) : (x.sub y).exp = max x.exp y.exp := rfl

theorem val_neg_iff (x : Dec) : x.val < 0 ↔ x.coeff < 0 := by
  have h := ten_pow_pos x.exp
  constructor
  · intro hv
    by_contra hc
    have : (0 : ℚ) ≤ x.coeff := by exact_mod_cast not_lt.1 hc
    exact absurd (div_nonneg this h.le) (not_le.2 hv)
  · intro hc
    exact div_neg_of_neg_of_pos (by exact_mod_cast hc) h

@[simp] theorem isNegative_iff (x : Dec) : x.isNegative = true ↔ x.val < 0 := by
  simp [isNegative, val_neg_iff]

theorem isZero_iff (x : Dec) : x.isZero = true ↔ x.val = 0 := by
  simp [isZero, val, (ten_pow_pos x.exp).ne']

theorem cmp_eq_zero (x y : Dec) : x.cmp y = 0 ↔ x.val = y.val := by
  have h : x.cmp y = 0 ↔ (x.sub y).isZero = true := by
    simp only [cmp, sub, isZero, beq_iff_eq, sub_eq_zero]
    split_ifs with h1 h2
    · exact iff_of_false (by simp) (ne_of_lt h1)
    · exact iff_of_true rfl h2
    · exact iff_of_false (by simp) h2
  rw [h, isZero_iff, val_sub, sub_eq_zero]

end Dec

theorem safeSubBalance_ok {x y z : Dec} : safeSubBalance x y = .ok z ↔ y.val ≤ x.val ∧ z = x.sub y := by
  by_cases h : x.val < y.val
  · have : (x.sub y).isNegative = true := by simp; linarith
    simp [safeSubBalance, this, not_le.2 h]
  · have : (x.sub y).isNegative = false := by
      rw [Bool.eq_false_iff, ne_eq, Dec.isNegative_iff, Dec.val_sub]; linarith
    simp [safeSubBalance, this, not_lt.1 h, eq_comm]

theorem safeAddBalance_ok {x y z : Dec} : safeAddBalance x y = .ok z ↔ 0 ≤ x.val ∧ 0 ≤ y.val ∧ z = x.add y := by
  by_cases hx : x.val < 0
  · simp [safeAddBalance, hx]
  by_cases hy : y.val < 0
  · simp [safeAddBalance, hy]
  · simp only [safeAddBalance, Bool.or_eq_true, Dec.isNegative_iff, hx, hy, or_self, if_false, Except.ok.injEq]
    exact ⟨fun h => ⟨not_lt.1 hx, not_lt.1 hy, h.symm⟩, fun h => h.2.2.symm⟩

/-! ## Fixed-precision parsing -/

theorem newNonNegativeDecFromString_ok {s : String} {d : Dec} :
    newNonNegativeDecFromString s = .ok d ↔ newDecFromString s = .ok d ∧ 0 ≤ d.val := by
  unfold newNonNegativeDecFromString
  cases newDecFromString s with
  | error e => simp
  | ok d' =>
    by_cases hn : d'.val < 0
    · simp only [Dec.isNegative_iff, hn, if_true, reduceCtorEq, Except.ok.injEq, false_iff, not_and]
      rintro rfl; linarith
    · simp only [Dec.isNegative_iff, hn, if_false, Except.ok.injEq]
      exact ⟨fun h => ⟨h, h ▸ not_lt.1 hn⟩, fun h => h.1⟩

theorem newNonNegativeFixedDecFromString_ok {s : String} {p : Nat} {d : Dec} :
    newNonNegativeFixedDecFromString s p = .ok d ↔ newDecFromString s = .ok d ∧ 0 ≤ d.val ∧ d.exp ≤ p := by
  unfold newNonNegativeFixedDecFromString
  rw [← and_assoc, ← newNonNegativeDecFromString_ok]
  cases newNonNegativeDecFromString s with
  | error e => simp
  | ok d' =>
    by_cases hp : d'.exp ≤ p
    · simp only [Dec.numDecimalPlaces, gt_iff_lt, not_lt.2 hp, if_false, Except.ok.injEq]
      exact ⟨fun h => ⟨h, h ▸ hp⟩, fun h => h.1⟩
    · simp only [Dec.numDecimalPlaces, gt_iff_lt, not_le.1 hp, if_true, reduceCtorEq, Except.ok.injEq,
        false_iff, not_and]
      rintro rfl; exact hp

theorem fixed_nonneg {s : String} {p : Nat} {d : Dec} (h : newNonNegativeFixedDecFromString s p = .ok d) :
    0 ≤ d.val :=
  (newNonNegativeFixedDecFromString_ok.1 h).2.1

/-- A non-negative value with at most `p` fractional digits prints to a string that
    parses back to it at precision `p`. -/
theorem fixedDec_string {x : Dec} {p : Nat} (hx : 0 ≤ x.val) (hp : x.exp ≤ p) :
    newNonNegativeFixedDecFromString x.string p = .ok x :=
  newNonNegativeFixedDecFromString_ok.2 ⟨newDecFromString_string x, hx, hp⟩

theorem amount_of_ok {s : String} {d : Dec} (h : newDecFromString s = .ok d) : amount s = d.val := by
  simp [amount, h]

@[simp] theorem amount_string (x : Dec) : amount x.string = x.val := amount_of_ok (newDecFromString_string x)

theorem amount_empty : amount "" = 0 := rfl

theorem amount_zero : amount "0" = 0 := by
  rw [amount_of_ok (show newDecFromString "0" = .ok ⟨0, 0⟩ from rfl)]; simp [Dec.val]

theorem decValue_of_ok {s : String} {d : Dec} (h : newDecFromString s = .ok d) : decValue s = some d.val := by
  simp [decValue, h]

theorem decValue_of_fixed {s : String} {p : Nat} {d : Dec} (h : newNonNegativeFixedDecFromString s p = .ok d) :
    decValue s = some d.val :=
  decValue_of_ok (newNonNegativeFixedDecFromString_ok.1 h).1

@[simp] theorem decValue_string (x : Dec) : decValue x.string = some x.val := decValue_of_ok (newDecFromString_string x)

theorem amount_of_fixed {s : String} {p : Nat} {d : Dec} (h : newNonNegativeFixedDecFromString s p = .ok d) :
    amount s = d.val :=
  amount_of_ok (newNonNegativeFixedDecFromString_ok.1 h).1

theorem getNonNegativeFixedDecs_ok {p : Nat} {l : List String} {ds : List Dec} :
    getNonNegativeFixedDecs p l = .ok ds ↔
      List.Forall₂ (fun s d => newNonNegativeFixedDecFromString s p = .ok d) l ds := by
  rw [getNonNegativeFixedDecs]
  induction l generalizing ds with
  | nil => rw [List.mapM_nil]; cases ds <;> simp [pure, Except.pure]
  | cons s l ih =>
    rw [List.mapM_cons]
    cases h : newNonNegativeFixedDecFromString s p with
    | error e => cases ds <;> simp [h, bind, Except.bind]
    | ok d =>
      cases hl : l.mapM (newNonNegativeFixedDecFromString · p) with
      | error e =>
        have : ∀ ds' : List Dec, ¬ List.Forall₂ (fun s d => newNonNegativeFixedDecFromString s p = .ok d) l ds' :=
          fun ds' hf => by rw [ih.2 hf] at hl; cases hl
        cases ds <;> simp [bind, Except.bind, this]
      | ok ds' =>
        cases ds <;> simp only [bind, Except.bind, pure, Except.pure, Except.ok.injEq, reduceCtorEq,
          List.forall₂_nil_right_iff, List.forall₂_cons, h, ← ih, hl, List.cons.injEq]

end Ecocredit
