import Mathlib.Data.List.Lex
import Mathlib.Data.List.Sort
import RiverGang.Lib.Dict
import RiverGang.Lib.Encoding

/-!
# JSON as text

`json.dumps` and `json.loads` of the standard library. What is written is ASCII; what is read is a value, a
`JSONDecodeError` or another exception. The recursion limit of the interpreter is left out.

* `scanString_encode`, `scanNumber_decimalInt`, `scanNumber_float`: a token that was written is read off the front of a
  text; `readBack`: so is a value.
* `decode_dumps`, and from there `loads_dumps` and `loadsBytes_dumps`: what was written is read, up to what `normal` says.
  A surrogate pair in two code points is read as the one character, a float as its `repr`, and the entries come in the
  order in which they were written.
* `normal_of_plain`: the values that come back as they were.
* `scanValue_fuel`: reading never runs out of fuel.
-/

namespace Py

open Coop

/-- Induction over a value, its items and the values of its entries. -/
theorem Json.ind {P : Json → Prop} (null : P .null) (bool : ∀ b, P (.bool b)) (int : ∀ n, P (.int n))
    (float : ∀ text, P (.float text)) (str : ∀ s, P (.str s)) (arr : ∀ l, (∀ v ∈ l, P v) → P (.arr l))
    (obj : ∀ entries, (∀ p ∈ entries, P p.2) → P (.obj entries)) (v : Json) : P v :=
  @Json.rec P (fun l => ∀ v ∈ l, P v) (fun entries => ∀ p ∈ entries, P p.2) (fun p => P p.2) null bool int float str arr obj
    (by simp) (fun _ _ hv hl => List.forall_mem_cons.2 ⟨hv, hl⟩) (by simp)
    (fun _ _ hp hl => List.forall_mem_cons.2 ⟨hp, hl⟩) (fun _ _ hv => hv) v

namespace JsonText

/-! ## Numbers -/

def isDigit (c : CodePoint) : Bool := 48 ≤ c.val && c.val ≤ 57

/-- The digits in front of a text, and the rest. -/
def spanDigits (s : Str) : Str × Str := (s.takeWhile isDigit, s.dropWhile isDigit)

/-- The value of digits. -/
def ofDigits (ds : Str) : Nat := ds.foldl (fun n c => 10 * n + (c.val - 48)) 0

/-- Digits without a leading zero. -/
def scanNat : Str → Option (Str × Str)
  | [] => none
  | c :: s =>
    if c = 48 then some ([48], s)
    else if isDigit c then some (c :: (spanDigits s).1, (spanDigits s).2)
    else none

/-- A point with digits after it. -/
def scanFraction : Str → Str × Str
  | c :: d :: s => if c = 46 && isDigit d then (46 :: d :: (spanDigits s).1, (spanDigits s).2) else ([], c :: d :: s)
  | s => ([], s)

def scanSign : Str → Str × Str
  | c :: s => if c = 43 || c = 45 then ([c], s) else ([], c :: s)
  | [] => ([], [])

/-- An `e` with a sign or none and digits after it. -/
def scanExponent : Str → Str × Str
  | [] => ([], [])
  | c :: s =>
    let (sign, s₁) := scanSign s
    let (ds, s₂) := spanDigits s₁
    if (c = 101 || c = 69) && !ds.isEmpty then (c :: sign ++ ds, s₂) else ([], c :: s)

/-- `sys.get_int_max_str_digits()` -/
def MAX_STR_DIGITS : Nat := 4300

/-- What reading raises. -/
inductive LoadError
  /-- `JSONDecodeError`, with its `msg` -/
  | malformed (msg : Str)
  /-- another exception -/
  | raised (msg : Str)

/-- What is read off the front of a text, and the rest. -/
abbrev Scan (α : Type) := Except LoadError (α × Str)

/-- `int(digits)` -/
def readInt (negative : Bool) (ds : Str) : Except LoadError Json :=
  if ds.length ≤ MAX_STR_DIGITS then .ok (.int (if negative then -(ofDigits ds : Int) else ofDigits ds))
  else .error (.raised (py "Exceeds the limit (4300 digits) for integer string conversion: value has " ++
    decimal ds.length ++ py " digits; use sys.set_int_max_str_digits() to increase the limit"))

def expectingValue : LoadError := .malformed (py "Expecting value")

/-- A number after its sign. -/
def scanUnsigned (negative : Bool) (s : Str) : Scan Json :=
  match scanNat s with
  | none => .error expectingValue
  | some (ds, s₁) =>
    let (fraction, s₂) := scanFraction s₁
    let (exponent, s₃) := scanExponent s₂
    if fraction.isEmpty && exponent.isEmpty then (readInt negative ds).map (·, s₁)
    else .ok (.float ((if negative then [45] else []) ++ ds ++ fraction ++ exponent), s₃)

def scanNumber : Str → Scan Json
  | [] => .error expectingValue
  | c :: s => if c = 45 then scanUnsigned true s else scanUnsigned false (c :: s)

/-- What comes after digits is none. -/
def NoDigit (rest : Str) : Prop := ∀ c ∈ rest.head?, isDigit c = false

/-- What comes after a number does not go on with it. -/
def Stops (rest : Str) : Prop := ∀ c ∈ rest.head?, isDigit c = false ∧ c ≠ 46 ∧ c ≠ 101 ∧ c ≠ 69

theorem Stops.noDigit {rest : Str} (h : Stops rest) : NoDigit rest := fun c hc => (h c hc).1

theorem spanDigits_append {ds rest : Str} (hds : ∀ c ∈ ds, isDigit c = true) (hrest : NoDigit rest) :
    spanDigits (ds ++ rest) = (ds, rest) := by
  have hnone : rest.takeWhile isDigit = [] ∧ rest.dropWhile isDigit = rest := by
    cases rest with
    | nil => exact ⟨rfl, rfl⟩
    | cons c rest =>
      have hc := hrest c rfl
      simp [hc]
  rw [spanDigits, List.takeWhile_append_of_pos hds, List.dropWhile_append_of_pos hds, hnone.1, hnone.2, List.append_nil]

theorem scanFraction_of_stops {rest : Str} (h : Stops rest) : scanFraction rest = ([], rest) := by
  cases rest with
  | nil => rfl
  | cons c rest =>
    have hc := (h c rfl).2.1
    cases rest with
    | nil => rfl
    | cons d rest => simp [scanFraction, hc]

theorem scanExponent_of_stops {rest : Str} (h : Stops rest) : scanExponent rest = ([], rest) := by
  cases rest with
  | nil => rfl
  | cons c rest =>
    have hc := (h c rfl).2.2
    simp [scanExponent, hc]

/-! ### Integers -/

theorem isDigit_digit (n : Nat) : isDigit (digit n) = true := by
  have hv := digit_val n
  simp only [isDigit, Bool.and_eq_true, decide_eq_true_eq]
  omega

theorem isDigit_padded {c : CodePoint} : ∀ {w n : Nat}, c ∈ padded w n → isDigit c = true
  | w + 1, n, h => by
    rw [padded, List.mem_append, List.mem_singleton] at h
    rcases h with h | rfl
    · exact isDigit_padded h
    · exact isDigit_digit n

theorem ofDigits_concat (ds : Str) (c : CodePoint) : ofDigits (ds ++ [c]) = 10 * ofDigits ds + (c.val - 48) := by
  simp [ofDigits]

theorem ofDigits_padded : ∀ {w n : Nat}, n < 10 ^ w → ofDigits (padded w n) = n
  | 0, n, h => by
    rw [Nat.pow_zero] at h
    rw [Nat.lt_one_iff.1 h]
    rfl
  | w + 1, n, h => by
    rw [Nat.pow_succ] at h
    have ih : ofDigits (padded w (n / 10)) = n / 10 := ofDigits_padded (by omega)
    rw [padded, ofDigits_concat, ih, digit_val]
    omega

theorem width_spec : ∀ {fuel n : Nat}, n ≤ fuel → ∃ k, width fuel n = k + 1 ∧ n < 10 ^ (k + 1) ∧ (n = 0 ∨ 10 ^ k ≤ n)
  | 0, n, h => ⟨0, rfl, by omega, .inl (by omega)⟩
  | fuel + 1, n, h => by
    unfold width
    split
    · exact ⟨0, rfl, by omega, by omega⟩
    · obtain ⟨k, hk, hlt, hle⟩ : ∃ k, width fuel (n / 10) = k + 1 ∧ n / 10 < 10 ^ (k + 1) ∧
          (n / 10 = 0 ∨ 10 ^ k ≤ n / 10) := width_spec (by omega)
      refine ⟨k + 1, by rw [hk], ?_, .inr ?_⟩
      · rw [Nat.pow_succ]
        omega
      · rw [Nat.pow_succ]
        omega

/-- The first digit of a number is no zero. -/
theorem padded_head : ∀ {k n : Nat}, 10 ^ k ≤ n → n < 10 ^ (k + 1) →
    ∃ d ds, padded (k + 1) n = d :: ds ∧ d ≠ 48
  | 0, n, hle, hlt => by
    refine ⟨digit n, [], rfl, fun h => ?_⟩
    have hv := digit_val n
    rw [h] at hv
    have h48 : (48 : CodePoint).val = 48 := rfl
    omega
  | k + 1, n, hle, hlt => by
    rw [Nat.pow_succ] at hle hlt
    obtain ⟨d, ds, hd, hne⟩ : ∃ d ds, padded (k + 1) (n / 10) = d :: ds ∧ d ≠ 48 := padded_head (by omega) (by omega)
    exact ⟨d, ds ++ [digit n], by rw [padded, hd, List.cons_append], hne⟩

theorem ofDigits_decimal (n : Nat) : ofDigits (decimal n) = n := by
  obtain ⟨k, hk, hlt, -⟩ := width_spec (Nat.le_refl n)
  rw [decimal, hk, ofDigits_padded hlt]

theorem isDigit_decimal {n : Nat} {c : CodePoint} (h : c ∈ decimal n) : isDigit c = true := isDigit_padded h

theorem decimal_head (n : Nat) : ∃ d ds, decimal n = d :: ds ∧ (d = 48 → ds = []) := by
  obtain ⟨k, hk, hlt, rfl | hle⟩ := width_spec (Nat.le_refl n)
  · exact ⟨48, [], rfl, fun _ => rfl⟩
  · obtain ⟨d, ds, hd, hne⟩ := padded_head hle hlt
    exact ⟨d, ds, by rw [decimal, hk, hd], fun h => absurd h hne⟩

theorem scanNat_decimal (n : Nat) {rest : Str} (h : NoDigit rest) :
    scanNat (decimal n ++ rest) = some (decimal n, rest) := by
  obtain ⟨d, ds, hd, hzero⟩ := decimal_head n
  have hdigits : ∀ c ∈ d :: ds, isDigit c = true := by
    intro c hc
    rw [← hd] at hc
    exact isDigit_decimal hc
  rw [hd, List.cons_append, scanNat]
  split
  · rename_i hz
    rw [hzero hz, hz, List.nil_append]
  · rw [if_pos (hdigits d (by simp)), spanDigits_append (fun c hc => hdigits c (by simp [hc])) h]

/-- The digits of an integer. -/
def digitCount (n : Int) : Nat := (decimal n.natAbs).length

/-- **An integer**, read off the front. -/
theorem scanNumber_decimalInt {n : Int} (hn : digitCount n ≤ MAX_STR_DIGITS) {rest : Str} (h : Stops rest) :
    scanNumber (decimalInt n ++ rest) = .ok (.int n, rest) := by
  have hunsigned : ∀ {m : Nat} (negative : Bool), (decimal m).length ≤ MAX_STR_DIGITS →
      scanUnsigned negative (decimal m ++ rest) = .ok (.int (if negative then -(m : Int) else m), rest) := by
    intro m negative hm
    simp only [scanUnsigned, scanNat_decimal m h.noDigit, scanFraction_of_stops h, scanExponent_of_stops h,
      List.isEmpty_nil, Bool.and_true, if_true, readInt, if_pos hm, ofDigits_decimal]
    rfl
  cases n with
  | ofNat m =>
    obtain ⟨d, ds, hd, -⟩ := decimal_head m
    have hne : d ≠ 45 := by
      rintro rfl
      have hdigit : isDigit 45 = true := isDigit_decimal (n := m) (by rw [hd]; simp)
      simp [isDigit] at hdigit
    have hm := hunsigned (m := m) false hn
    rw [decimalInt]
    rw [hd, List.cons_append] at hm ⊢
    rw [scanNumber, if_neg hne, hm]
    rfl
  | negSucc m =>
    have hm := hunsigned (m := m + 1) true hn
    change scanNumber (45 :: (decimal (m + 1) ++ rest)) = _
    rw [scanNumber, if_pos rfl, hm]
    rfl

/-! ### Floats -/

/-- Digits of a number with a fraction or an exponent. -/
inductive IsFraction : Str → Prop
  | none : IsFraction []
  | some {d : CodePoint} {ds : Str} : (∀ c ∈ d :: ds, isDigit c = true) → IsFraction (46 :: d :: ds)

inductive IsExponent : Str → Prop
  | none : IsExponent []
  | some {c d : CodePoint} {sign ds : Str} : c = 101 ∨ c = 69 → sign = [] ∨ sign = [43] ∨ sign = [45] →
      (∀ c ∈ d :: ds, isDigit c = true) → IsExponent (c :: sign ++ d :: ds)

/-- What is read as a float. -/
inductive FloatToken : Str → Prop
  | nan : FloatToken (py "NaN")
  | infinity : FloatToken (py "Infinity")
  | negInfinity : FloatToken (py "-Infinity")
  | number {n : Nat} {fraction exponent : Str} (negative : Bool) : IsFraction fraction → IsExponent exponent →
      fraction ++ exponent ≠ [] →
      FloatToken ((if negative then [45] else []) ++ decimal n ++ fraction ++ exponent)

theorem scanSign_append {sign : Str} (hsign : sign = [] ∨ sign = [43] ∨ sign = [45]) {d : CodePoint} {s : Str}
    (hd : isDigit d = true) : scanSign (sign ++ d :: s) = (sign, d :: s) := by
  have hne : d ≠ 43 ∧ d ≠ 45 := by
    constructor <;> (rintro rfl; simp [isDigit] at hd)
  rcases hsign with rfl | rfl | rfl
  · simp [scanSign, hne]
  · simp [scanSign]
  · simp [scanSign]

/-- After the digits of a number. -/
theorem scanExponent_append {exponent : Str} (he : IsExponent exponent) {rest : Str} (h : Stops rest) :
    scanExponent (exponent ++ rest) = (exponent, rest) := by
  cases he with
  | none => exact scanExponent_of_stops h
  | @some c d sign ds hc hsign hds =>
    have hspan := spanDigits_append hds h.noDigit
    rw [List.cons_append] at hspan
    have hscan := scanSign_append hsign (s := ds ++ rest) (hds d (by simp))
    rw [List.append_assoc, List.cons_append, List.cons_append, scanExponent, List.cons_append, hscan]
    simp only [hspan]
    rw [if_pos (by simp [hc])]
    simp

theorem IsExponent.append_head {exponent rest : Str} (he : IsExponent exponent) (h : Stops rest) :
    ∀ c ∈ (exponent ++ rest).head?, isDigit c = false ∧ c ≠ 46 := by
  cases he with
  | none => exact fun c hc => ⟨(h c hc).1, (h c hc).2.1⟩
  | some hc _ _ =>
    intro c hmem
    cases Option.mem_def.1 hmem
    rcases hc with rfl | rfl <;> decide

theorem scanFraction_append {fraction : Str} (hf : IsFraction fraction) {rest : Str}
    (h : ∀ c ∈ rest.head?, isDigit c = false ∧ c ≠ 46) : scanFraction (fraction ++ rest) = (fraction, rest) := by
  cases hf with
  | none =>
    cases rest with
    | nil => rfl
    | cons c rest =>
      have hc := (h c rfl).2
      cases rest with
      | nil => rfl
      | cons d rest => simp [scanFraction, hc]
  | @some d ds hds =>
    have hspan : spanDigits (ds ++ rest) = (ds, rest) :=
      spanDigits_append (fun c hc => hds c (by simp [hc])) fun c hc => (h c hc).1
    simp [scanFraction, hds d (by simp), hspan]

theorem scanUnsigned_float {n : Nat} {fraction exponent : Str} (negative : Bool) (hf : IsFraction fraction)
    (he : IsExponent exponent) (hne : fraction ++ exponent ≠ []) {rest : Str} (h : Stops rest) :
    scanUnsigned negative (decimal n ++ fraction ++ exponent ++ rest) =
      .ok (.float ((if negative then [45] else []) ++ decimal n ++ fraction ++ exponent), rest) := by
  have hhead := he.append_head h
  have hdigits : NoDigit (fraction ++ (exponent ++ rest)) := by
    cases hf with
    | none => exact fun c hc => (hhead c hc).1
    | some _ =>
      intro c hc
      cases Option.mem_def.1 hc
      rfl
  have hempty : (fraction.isEmpty && exponent.isEmpty) = false := by
    simpa [List.append_eq_nil_iff] using hne
  rw [List.append_assoc, List.append_assoc]
  simp only [scanUnsigned, scanNat_decimal n hdigits, scanFraction_append hf hhead, scanExponent_append he h, hempty,
    Bool.false_eq_true, if_false]

/-! ## Strings -/

def isHigh (c : CodePoint) : Bool := 0xD800 ≤ c.val && c.val ≤ 0xDBFF

def isLow (c : CodePoint) : Bool := 0xDC00 ≤ c.val && c.val ≤ 0xDFFF

/-- The character of a surrogate pair. -/
def ofPair (h l : CodePoint) : CodePoint := Fin.ofNat 0x110000 (0x10000 + (h.val - 0xD800) * 0x400 + (l.val - 0xDC00))

def hexDigit (n : Nat) : CodePoint := Fin.ofNat 0x110000 (if n < 10 then 48 + n else 87 + n)

/-- `\uXXXX` -/
def unicodeEscape (n : Nat) : Str :=
  [92, 117, hexDigit (n / 4096 % 16), hexDigit (n / 256 % 16), hexDigit (n / 16 % 16), hexDigit (n % 16)]

/-- `ensure_ascii` -/
def escapeChar (c : CodePoint) : Str :=
  if c = 34 then [92, 34] else if c = 92 then [92, 92] else if c = 10 then [92, 110] else if c = 13 then [92, 114]
  else if c = 9 then [92, 116] else if c = 12 then [92, 102] else if c = 8 then [92, 98]
  else if 32 ≤ c.val && c.val ≤ 126 then [c]
  else if c.val < 0x10000 then unicodeEscape c.val
  else unicodeEscape (0xD800 + (c.val - 0x10000) / 0x400) ++ unicodeEscape (0xDC00 + (c.val - 0x10000) % 0x400)

def encodeString (s : Str) : Str := 34 :: s.flatMap escapeChar ++ [34]

def hexVal (c : CodePoint) : Option Nat :=
  if isDigit c then some (c.val - 48)
  else if 97 ≤ c.val && c.val ≤ 102 then some (c.val - 87)
  else if 65 ≤ c.val && c.val ≤ 70 then some (c.val - 55)
  else none

def hex4 (a b c d : CodePoint) : Option Nat := do
  let a ← hexVal a
  let b ← hexVal b
  let c ← hexVal c
  let d ← hexVal d
  pure (a * 4096 + b * 256 + c * 16 + d)

/-- What stands after a backslash. -/
def unescape (c : CodePoint) : Option CodePoint :=
  if c = 34 || c = 92 || c = 47 then some c
  else if c = 98 then some 8 else if c = 102 then some 12 else if c = 110 then some 10 else if c = 114 then some 13
  else if c = 116 then some 9 else none

/-- The code units of a string, and which of them were written as `\uXXXX`. -/
abbrev Units := List (CodePoint × Bool)

def unterminated : LoadError := .malformed (py "Unterminated string starting at")

def invalidUnicodeEscape : LoadError := .malformed (py "Invalid \\uXXXX escape")

/-- The units up to the closing quote. -/
def scanUnits : Str → Scan Units
  | [] => .error unterminated
  | c :: s =>
    if c = 34 then .ok ([], s)
    else if c = 92 then
      match s with
      | [] => .error unterminated
      | e :: s =>
        if e = 117 then
          match s with
          | a :: b :: c :: d :: s =>
            if s.isEmpty then .error invalidUnicodeEscape
            else
              match hex4 a b c d with
              | some n => (scanUnits s).map fun r => ((Fin.ofNat 0x110000 n, true) :: r.1, r.2)
              | none => .error invalidUnicodeEscape
          | _ => .error invalidUnicodeEscape
        else
          match unescape e with
          | some c => (scanUnits s).map fun r => ((c, false) :: r.1, r.2)
          | none => .error (.malformed (py "Invalid \\escape"))
    else if c.val < 32 then .error (.malformed (py "Invalid control character at"))
    else (scanUnits s).map fun r => ((c, false) :: r.1, r.2)

/-- Two escapes in a row may be a surrogate pair. -/
def joinUnits : Units → Str
  | [] => []
  | [u] => [u.1]
  | u :: v :: us =>
    if u.2 && v.2 && isHigh u.1 && isLow v.1 then ofPair u.1 v.1 :: joinUnits us else u.1 :: joinUnits (v :: us)

/-- A string after its opening quote. -/
def scanString (s : Str) : Scan Str := (scanUnits s).map fun r => (joinUnits r.1, r.2)

/-- The pairs of surrogates of a string, joined. -/
def joinPairs : Str → Str
  | [] => []
  | [c] => [c]
  | c :: d :: s => if isHigh c && isLow d then ofPair c d :: joinPairs s else c :: joinPairs (d :: s)

/-- The units that a character is written as. -/
def units (c : CodePoint) : Units :=
  if c.val < 0x10000 then [(c, !(escapeChar c).length < 6)]
  else [(Fin.ofNat 0x110000 (0xD800 + (c.val - 0x10000) / 0x400), true),
    (Fin.ofNat 0x110000 (0xDC00 + (c.val - 0x10000) % 0x400), true)]

theorem hexVal_hexDigit : ∀ n < 16, hexVal (hexDigit n) = some n := by decide

theorem hex4_hexDigit {n : Nat} (h : n < 0x10000) :
    hex4 (hexDigit (n / 4096 % 16)) (hexDigit (n / 256 % 16)) (hexDigit (n / 16 % 16)) (hexDigit (n % 16)) = some n := by
  simp only [hex4, hexVal_hexDigit _ (Nat.mod_lt _ (by decide : 0 < 16)), Option.bind_eq_bind, Option.bind_some,
    Option.pure_def, Option.some.injEq]
  omega

theorem scanUnits_quote (s : Str) : scanUnits (34 :: s) = .ok ([], s) := by
  rw [scanUnits.eq_def]
  rfl

theorem scanUnits_plain {c : CodePoint} (s : Str) (h34 : c ≠ 34) (h92 : c ≠ 92) (h : 32 ≤ c.val) :
    scanUnits (c :: s) = (scanUnits s).map fun r => ((c, false) :: r.1, r.2) := by
  rw [scanUnits.eq_def]
  dsimp only
  rw [if_neg h34, if_neg h92, if_neg (by omega)]

theorem scanUnits_short {c e : CodePoint} (s : Str) (he : e ≠ 117) (hu : unescape e = some c) :
    scanUnits (92 :: e :: s) = (scanUnits s).map fun r => ((c, false) :: r.1, r.2) := by
  rw [scanUnits.eq_def]
  simp [he, hu]

theorem scanUnits_unicodeEscape {n : Nat} (h : n < 0x10000) {s : Str} (hs : s ≠ []) :
    scanUnits (unicodeEscape n ++ s) = (scanUnits s).map fun r => ((Fin.ofNat 0x110000 n, true) :: r.1, r.2) := by
  have hne : s.isEmpty = false := by simpa using hs
  simp only [unicodeEscape, List.cons_append, List.nil_append]
  rw [scanUnits.eq_def]
  simp [hne, hex4_hexDigit h]

/-- **A character**, read off the front of a string. -/
theorem scanUnits_escapeChar (c : CodePoint) {s : Str} (hs : s ≠ []) :
    scanUnits (escapeChar c ++ s) = (scanUnits s).map fun r => (units c ++ r.1, r.2) := by
  have hshort : ∀ {e : CodePoint}, e ≠ 117 → unescape e = some c → c.val < 0x10000 → escapeChar c = [92, e] →
      scanUnits (escapeChar c ++ s) = (scanUnits s).map fun r => (units c ++ r.1, r.2) := by
    intro e he hu hc hesc
    have hunits : units c = [(c, false)] := by rw [units, if_pos hc, hesc]; rfl
    rw [hesc, hunits]
    exact scanUnits_short s he hu
  by_cases h34 : c = 34
  · subst h34
    exact hshort (e := 34) (by decide) rfl (by decide) rfl
  by_cases h92 : c = 92
  · subst h92
    exact hshort (e := 92) (by decide) rfl (by decide) rfl
  by_cases h10 : c = 10
  · subst h10
    exact hshort (e := 110) (by decide) rfl (by decide) rfl
  by_cases h13 : c = 13
  · subst h13
    exact hshort (e := 114) (by decide) rfl (by decide) rfl
  by_cases h9 : c = 9
  · subst h9
    exact hshort (e := 116) (by decide) rfl (by decide) rfl
  by_cases h12 : c = 12
  · subst h12
    exact hshort (e := 102) (by decide) rfl (by decide) rfl
  by_cases h8 : c = 8
  · subst h8
    exact hshort (e := 98) (by decide) rfl (by decide) rfl
  have hlt := c.isLt
  by_cases hprint : 32 ≤ c.val ∧ c.val ≤ 126
  · have hesc : escapeChar c = [c] := by simp [escapeChar, h34, h92, h10, h13, h9, h12, h8, hprint]
    have hunits : units c = [(c, false)] := by rw [units, if_pos (by omega), hesc]; rfl
    rw [hesc, hunits]
    exact scanUnits_plain s h34 h92 hprint.1
  · by_cases hbmp : c.val < 0x10000
    · have hesc : escapeChar c = unicodeEscape c.val := by
        simp [escapeChar, h34, h92, h10, h13, h9, h12, h8, hprint, hbmp]
      have hunits : units c = [(c, true)] := by rw [units, if_pos hbmp, hesc]; rfl
      have hc : Fin.ofNat 0x110000 c.val = c := Fin.ext (Nat.mod_eq_of_lt c.isLt)
      rw [hesc, hunits, scanUnits_unicodeEscape hbmp hs, hc]
      rfl
    · have hesc : escapeChar c = unicodeEscape (0xD800 + (c.val - 0x10000) / 0x400) ++
          unicodeEscape (0xDC00 + (c.val - 0x10000) % 0x400) := by
        simp [escapeChar, h34, h92, h10, h13, h9, h12, h8, hprint, hbmp]
      rw [hesc, units, if_neg hbmp, List.append_assoc, scanUnits_unicodeEscape (by omega) (by simp [unicodeEscape]),
        scanUnits_unicodeEscape (by omega) hs]
      cases scanUnits s <;> rfl

theorem scanUnits_encode (rest : Str) : ∀ s : Str,
    scanUnits (s.flatMap escapeChar ++ 34 :: rest) = .ok (s.flatMap units, rest)
  | [] => scanUnits_quote rest
  | c :: s => by
    rw [List.flatMap_cons, List.append_assoc, scanUnits_escapeChar c (by simp), scanUnits_encode rest s]
    rfl

/-! ### Surrogates -/

theorem joinUnits_cons {u : CodePoint × Bool} {us : Units} (h : isHigh u.1 = false) :
    joinUnits (u :: us) = u.1 :: joinUnits us := by
  cases us with
  | nil => rfl
  | cons v us => simp [joinUnits, h]

theorem joinUnits_pair {u v : CodePoint × Bool} {us : Units}
    (h : (u.2 && v.2 && isHigh u.1 && isLow v.1) = false) : joinUnits (u :: v :: us) = u.1 :: joinUnits (v :: us) := by
  rw [joinUnits, h]
  rfl

/-- A character outside the basic plane is written as two halves. -/
theorem halves (c : CodePoint) (h : 0x10000 ≤ c.val) :
    isHigh (Fin.ofNat 0x110000 (0xD800 + (c.val - 0x10000) / 0x400)) = true ∧
    isLow (Fin.ofNat 0x110000 (0xDC00 + (c.val - 0x10000) % 0x400)) = true ∧
    ofPair (Fin.ofNat 0x110000 (0xD800 + (c.val - 0x10000) / 0x400))
      (Fin.ofNat 0x110000 (0xDC00 + (c.val - 0x10000) % 0x400)) = c := by
  have hc := c.isLt
  have hhigh : (Fin.ofNat 0x110000 (0xD800 + (c.val - 0x10000) / 0x400)).val = 0xD800 + (c.val - 0x10000) / 0x400 :=
    Nat.mod_eq_of_lt (by omega)
  have hlow : (Fin.ofNat 0x110000 (0xDC00 + (c.val - 0x10000) % 0x400)).val = 0xDC00 + (c.val - 0x10000) % 0x400 :=
    Nat.mod_eq_of_lt (by omega)
  refine ⟨?_, ?_, ?_⟩
  · simp only [isHigh, hhigh, Bool.and_eq_true, decide_eq_true_eq]
    omega
  · simp only [isLow, hlow, Bool.and_eq_true, decide_eq_true_eq]
    omega
  · rw [ofPair, hhigh, hlow]
    have hval : 0x10000 + (0xD800 + (c.val - 0x10000) / 0x400 - 0xD800) * 0x400 +
        (0xDC00 + (c.val - 0x10000) % 0x400 - 0xDC00) = c.val := by omega
    rw [hval]
    exact Fin.ext (Nat.mod_eq_of_lt hc)

theorem isHigh_eq_false {c : CodePoint} (h : 0x10000 ≤ c.val) : isHigh c = false := by
  simp only [isHigh, Bool.and_eq_false_iff, decide_eq_false_iff_not]
  omega

/-- A surrogate is written as an escape. -/
theorem units_surrogate {c : CodePoint} (h : isHigh c = true ∨ isLow c = true) : units c = [(c, true)] := by
  simp only [isHigh, isLow, Bool.and_eq_true, decide_eq_true_eq] at h
  have hlt : c.val < 0x10000 := by omega
  have hne : ∀ n : Nat, n < 0xD800 → c ≠ Fin.ofNat 0x110000 n := by
    intro n hn he
    have hv := congrArg Fin.val he
    have hn' : (Fin.ofNat 0x110000 n).val = n := Nat.mod_eq_of_lt (by omega)
    omega
  have hesc : escapeChar c = unicodeEscape c.val := by
    have hprint : ¬ (32 ≤ c.val ∧ c.val ≤ 126) := by omega
    simp only [escapeChar, show c ≠ 34 from hne 34 (by omega), show c ≠ 92 from hne 92 (by omega),
      show c ≠ 10 from hne 10 (by omega), show c ≠ 13 from hne 13 (by omega), show c ≠ 9 from hne 9 (by omega),
      show c ≠ 12 from hne 12 (by omega), show c ≠ 8 from hne 8 (by omega), if_false, Bool.and_eq_true,
      decide_eq_true_eq, hprint, hlt, if_true]
  rw [units, if_pos hlt, hesc]
  rfl

theorem units_of_lt {c : CodePoint} (h : c.val < 0x10000) : ∃ b, units c = [(c, b)] := ⟨_, by rw [units, if_pos h]⟩

/-- A unit before a character that is no second half. -/
theorem joinUnits_cons_units (u : CodePoint × Bool) {d : CodePoint} (hd : isLow d = false) (s : Str) :
    joinUnits (u :: (d :: s).flatMap units) = u.1 :: joinUnits ((d :: s).flatMap units) := by
  rw [List.flatMap_cons]
  by_cases hbig : 0x10000 ≤ d.val
  · -- the first half of a pair is no second half
    have hhigh := (halves d hbig).1
    have hlow : isLow (Fin.ofNat 0x110000 (0xD800 + (d.val - 0x10000) / 0x400)) = false := by
      simp only [isHigh, Bool.and_eq_true, decide_eq_true_eq] at hhigh
      simp only [isLow, Bool.and_eq_false_iff, decide_eq_false_iff_not]
      omega
    rw [units, if_neg (by omega), List.cons_append]
    exact joinUnits_pair (by rw [hlow, Bool.and_false])
  · obtain ⟨b, hunits⟩ := units_of_lt (Nat.lt_of_not_le hbig)
    rw [hunits, List.cons_append]
    exact joinUnits_pair (by rw [hd, Bool.and_false])

theorem joinPairs_cons {c : CodePoint} (h : isHigh c = false) (s : Str) : joinPairs (c :: s) = c :: joinPairs s := by
  cases s with
  | nil => rfl
  | cons d s => simp [joinPairs, h]

/-- What a string that was written is read as. -/
theorem joinUnits_units : ∀ s : Str, joinUnits (s.flatMap units) = joinPairs s
  | [] => rfl
  | c :: s => by
    have ih := joinUnits_units s
    by_cases hbig : 0x10000 ≤ c.val
    · obtain ⟨hhigh, hlow, hpair⟩ := halves c hbig
      rw [List.flatMap_cons, units, if_neg (by omega), List.cons_append, List.cons_append, List.nil_append, joinUnits,
        hhigh, hlow, hpair, ih, joinPairs_cons (isHigh_eq_false hbig)]
      rfl
    cases hc : isHigh c with
    | false =>
      obtain ⟨b, hunits⟩ := units_of_lt (Nat.lt_of_not_le hbig)
      rw [List.flatMap_cons, hunits, List.cons_append, List.nil_append, joinUnits_cons hc, ih, joinPairs_cons hc]
    | true =>
      rw [List.flatMap_cons, units_surrogate (.inl hc), List.cons_append, List.nil_append]
      cases s with
      | nil => rfl
      | cons d s =>
        cases hd : isLow d with
        | true =>
          have ihtail := joinUnits_units s
          rw [List.flatMap_cons, units_surrogate (.inr hd), List.cons_append, List.nil_append, joinUnits, hc, hd, ihtail,
            joinPairs, hc, hd]
          rfl
        | false =>
          rw [joinUnits_cons_units _ hd, ih, joinPairs, hc, hd]
          rfl

/-- **A string**, read off the front. -/
theorem scanString_encode (s rest : Str) : scanString (s.flatMap escapeChar ++ 34 :: rest) = .ok (joinPairs s, rest) := by
  rw [scanString, scanUnits_encode, Except.map, joinUnits_units]

/-- No two code points of the string are a surrogate pair. -/
def NoPairs : Str → Prop
  | [] => True
  | [_] => True
  | c :: d :: s => (isHigh c && isLow d) = false ∧ NoPairs (d :: s)

theorem joinPairs_eq_self : ∀ {s : Str}, NoPairs s → joinPairs s = s
  | [], _ => rfl
  | [_], _ => rfl
  | c :: d :: s, h => by
    have ih := joinPairs_eq_self h.2
    rw [joinPairs, h.1, ih]
    rfl

/-! ## Writing -/

/-- `float.__repr__` of the float that a text is read as; `json` writes `NaN`, `Infinity` and `-Infinity`. -/
class Floats where
  repr : Str → Str
  token : ∀ text, FloatToken (repr text)

def isWhite (c : CodePoint) : Bool := c = 32 || c = 9 || c = 10 || c = 13

/-- The `separators` and `sort_keys` of `json.dumps`. -/
structure Style where
  itemSeparator : Str
  keySeparator : Str
  sortKeys : Bool
  item : ∃ space, itemSeparator = 44 :: space ∧ ∀ c ∈ space, c = 32
  key : ∃ space, keySeparator = 58 :: space ∧ ∀ c ∈ space, c = 32

/-- `separators=(",", ":")` -/
def compact : Style where
  itemSeparator := py ","
  keySeparator := py ":"
  sortKeys := false
  item := ⟨[], rfl, by simp⟩
  key := ⟨[], rfl, by simp⟩

/-- `sort_keys=True` -/
def sortedKeys : Style where
  itemSeparator := py ", "
  keySeparator := py ": "
  sortKeys := true
  item := ⟨[32], rfl, by simp⟩
  key := ⟨[32], rfl, by simp⟩

/-- The entries of the dict that pairs make: a key keeps its first place and its last value. -/
def dictEntries {α : Type} (pairs : List (Str × α)) : List (Str × α) :=
  pairs.foldl (fun d p => Dict.insertEntry p.1 p.2 d) []

/-- The entries in the order in which they are written. -/
def arrange {α : Type} (sort : Bool) (entries : List (Str × α)) : List (Str × α) :=
  if sort then entries.insertionSort fun p q => p.1 ≤ q.1 else entries

/-- The results, if all are there; else the first error. -/
def collect {ε α : Type} : List (Except ε α) → Except ε (List α)
  | [] => .ok []
  | x :: l =>
    match x with
    | .error e => .error e
    | .ok a => (collect l).map (a :: ·)

section Encode

variable [Floats] (σ : Style)

/-- An entry of an object, with its value as it is written. -/
def entryText (p : Str × Except BuiltinError Str) : Except BuiltinError Str :=
  p.2.map fun t => encodeString p.1 ++ (σ.keySeparator ++ t)

mutual

def encode : Json → Except BuiltinError Str
  | .null => .ok (py "null")
  | .bool b => .ok (if b then py "true" else py "false")
  | .int n =>
    if digitCount n ≤ MAX_STR_DIGITS then .ok (decimalInt n)
    else .error (.valueError (py "Exceeds the limit (4300 digits) for integer string conversion; use sys.set_int_max_str_digits() to increase the limit"))
  | .float text => .ok (Floats.repr text)
  | .str s => .ok (encodeString s)
  | .arr l => (collect (encodeItems l)).map fun ts => 91 :: join σ.itemSeparator ts ++ [93]
  | .obj entries =>
    (collect ((arrange σ.sortKeys (dictEntries (encodeValues entries))).map (entryText σ))).map fun ts =>
      123 :: join σ.itemSeparator ts ++ [125]

def encodeItems : List Json → List (Except BuiltinError Str)
  | [] => []
  | v :: l => encode v :: encodeItems l

def encodeValues : List (Str × Json) → List (Str × Except BuiltinError Str)
  | [] => []
  | (key, v) :: entries => (key, encode v) :: encodeValues entries

end

/-- `json.dumps` -/
def dumps (v : Json) : Except BuiltinError Str := encode σ v

end Encode

/-! ## Reading -/

def skip (s : Str) : Str := s.dropWhile isWhite

/-- The words of JSON, and those of JavaScript that `json` reads too. -/
def words : List (Str × Json) :=
  [(py "null", .null), (py "true", .bool true), (py "false", .bool false), (py "NaN", .float (py "NaN")),
    (py "Infinity", .float (py "Infinity")), (py "-Infinity", .float (py "-Infinity"))]

def scanWord (s : Str) : Option (Json × Str) :=
  words.findSome? fun p => if p.1.isPrefixOf s then some (p.2, s.drop p.1.length) else none

def expectingComma : LoadError := .malformed (py "Expecting ',' delimiter")

def expectingName : LoadError := .malformed (py "Expecting property name enclosed in double quotes")

def expectingColon : LoadError := .malformed (py "Expecting ':' delimiter")

/-- A key, the colon and what is around it. -/
def scanKey : Str → Scan Str
  | [] => .error expectingName
  | c :: s =>
    if c = 34 then
      (scanString s).bind fun r =>
        match skip r.2 with
        | [] => .error expectingColon
        | c :: s => if c = 58 then .ok (r.1, skip s) else .error expectingColon
    else .error expectingName

mutual

/-- A value; a text takes at most twice its length of fuel. -/
def scanValue : Nat → Str → Scan Json
  | 0, _ => .error expectingValue
  | _ + 1, [] => .error expectingValue
  | fuel + 1, c :: s =>
    if c = 34 then (scanString s).map fun r => (.str r.1, r.2)
    else if c = 123 then
      match skip s with
      | [] => .error expectingName
      | d :: s' => if d = 125 then .ok (.obj [], s') else (scanEntries fuel (d :: s')).map fun r => (.obj r.1, r.2)
    else if c = 91 then
      match skip s with
      | [] => .error expectingValue
      | d :: s' => if d = 93 then .ok (.arr [], s') else (scanItems fuel (d :: s')).map fun r => (.arr r.1, r.2)
    else
      match scanWord (c :: s) with
      | some r => .ok r
      | none => scanNumber (c :: s)

/-- The items up to the closing bracket. -/
def scanItems : Nat → Str → Scan (List Json)
  | 0, _ => .error expectingValue
  | fuel + 1, s =>
    (scanValue fuel s).bind fun r =>
      match skip r.2 with
      | [] => .error expectingComma
      | c :: s =>
        if c = 93 then .ok ([r.1], s)
        else if c = 44 then (scanItems fuel (skip s)).map fun r' => (r.1 :: r'.1, r'.2)
        else .error expectingComma

/-- The entries up to the closing brace. -/
def scanEntries : Nat → Str → Scan (List (Str × Json))
  | 0, _ => .error expectingName
  | fuel + 1, s =>
    (scanKey s).bind fun k =>
      (scanValue fuel k.2).bind fun r =>
        match skip r.2 with
        | [] => .error expectingComma
        | c :: s =>
          if c = 125 then .ok ([(k.1, r.1)], s)
          else if c = 44 then (scanEntries fuel (skip s)).map fun r' => ((k.1, r.1) :: r'.1, r'.2)
          else .error expectingComma

end

/-- `JSONDecoder().decode` -/
def decode (s : Str) : Except LoadError Json :=
  (scanValue (2 * s.length + 1) (skip s)).bind fun r =>
    if (skip r.2).isEmpty then .ok r.1 else .error (.malformed (py "Extra data"))

/-- `json.loads` of a string. -/
def loads (s : Str) : Except LoadError Json :=
  if s.head? = some 0xFEFF then .error (.malformed (py "Unexpected UTF-8 BOM (decode using utf-8-sig)")) else decode s

/-- What `json.detect_encoding` tells apart. -/
inductive Encoding
  | utf32
  | utf16
  | utf8Sig
  | utf16be
  | utf32be
  | utf16le
  | utf32le
  | utf8
  deriving DecidableEq

/-- `json.detect_encoding`: a byte order mark, or where the zeros are. -/
def detectEncoding (b : List UInt8) : Encoding :=
  if [0, 0, 0xFE, 0xFF] <+: b ∨ [0xFF, 0xFE, 0, 0] <+: b then .utf32
  else if [0xFE, 0xFF] <+: b ∨ [0xFF, 0xFE] <+: b then .utf16
  else if [0xEF, 0xBB, 0xBF] <+: b then .utf8Sig
  else
    match b with
    | a :: b :: c :: d :: _ =>
      if a = 0 then if b ≠ 0 then .utf16be else .utf32be
      else if b = 0 then if c ≠ 0 ∨ d ≠ 0 then .utf16le else .utf32le
      else .utf8
    | [a, b] => if a = 0 then .utf16be else if b = 0 then .utf16le else .utf8
    | _ => .utf8

/-- The codecs besides UTF-8, and the text of a `UnicodeDecodeError`. -/
class Codecs where
  wide : Encoding → List UInt8 → Option Str
  decodeError : List UInt8 → Str

/-- `json.loads` of bytes. -/
def loadsBytes [Codecs] (b : List UInt8) : Except LoadError Json :=
  match (match detectEncoding b with
    | .utf8 => decodeUtf8 b
    | .utf8Sig => decodeUtf8 (b.drop 3)
    | e => Codecs.wide e b) with
  | some s => decode s
  | none => .error (.raised (Codecs.decodeError b))

/-! ## What was written is read -/

section Normal

variable [Floats] (σ : Style)

mutual

/-- The value that is read where a value was written. -/
def normal : Json → Json
  | .null => .null
  | .bool b => .bool b
  | .int n => .int n
  | .float text => .float (Floats.repr text)
  | .str s => .str (joinPairs s)
  | .arr l => .arr (normalItems l)
  | .obj entries =>
    .obj ((arrange σ.sortKeys (dictEntries (normalValues entries))).map fun p => (joinPairs p.1, p.2))

def normalItems : List Json → List Json
  | [] => []
  | v :: l => normal v :: normalItems l

def normalValues : List (Str × Json) → List (Str × Json)
  | [] => []
  | (key, v) :: entries => (key, normal v) :: normalValues entries

end

end Normal

/-! ### Words and numbers -/

theorem skip_cons {c : CodePoint} (h : isWhite c = false) (s : Str) : skip (c :: s) = c :: s := by simp [skip, h]

theorem skip_append {space : Str} (h : ∀ c ∈ space, c = 32) (s : Str) : skip (space ++ s) = skip s := by
  apply List.dropWhile_append_of_pos
  intro c hc
  rw [h c hc]
  rfl

/-- What is no number: the head of a word. -/
theorem scanWord_of_head {c : CodePoint} {s : Str} (h : ∀ p ∈ words, p.1.isPrefixOf (c :: s) = false) :
    scanWord (c :: s) = none := by
  rw [scanWord, List.findSome?_eq_none_iff]
  intro p hp
  rw [h p hp]
  rfl

theorem isDigit_ne {c : CodePoint} (h : isDigit c = true) (e : CodePoint) (he : isDigit e = false) : c ≠ e := by
  rintro rfl
  rw [h] at he
  cases he

theorem isPrefixOf_cons_of_ne {c d : CodePoint} (h : c ≠ d) (s t : Str) : (d :: t).isPrefixOf (c :: s) = false := by
  simp [List.isPrefixOf, Ne.symm h]

theorem scanWord_of_digit {c : CodePoint} (h : isDigit c = true) (s : Str) : scanWord (c :: s) = none := by
  apply scanWord_of_head
  intro p hp
  simp only [words, List.mem_cons, List.not_mem_nil, or_false] at hp
  rcases hp with rfl | rfl | rfl | rfl | rfl | rfl
  · exact isPrefixOf_cons_of_ne (isDigit_ne h 110 rfl) s (py "ull")
  · exact isPrefixOf_cons_of_ne (isDigit_ne h 116 rfl) s (py "rue")
  · exact isPrefixOf_cons_of_ne (isDigit_ne h 102 rfl) s (py "alse")
  · exact isPrefixOf_cons_of_ne (isDigit_ne h 78 rfl) s (py "aN")
  · exact isPrefixOf_cons_of_ne (isDigit_ne h 73 rfl) s (py "nfinity")
  · exact isPrefixOf_cons_of_ne (isDigit_ne h 45 rfl) s (py "Infinity")

theorem scanWord_of_minus {c : CodePoint} (h : isDigit c = true) (s : Str) : scanWord (45 :: c :: s) = none := by
  apply scanWord_of_head
  intro p hp
  simp only [words, List.mem_cons, List.not_mem_nil, or_false] at hp
  rcases hp with rfl | rfl | rfl | rfl | rfl | rfl
  iterate 5 rfl
  have hno : (py "Infinity").isPrefixOf (c :: s) = false :=
    isPrefixOf_cons_of_ne (isDigit_ne h 73 rfl) s (py "nfinity")
  exact hno

/-- A digit, or a minus and a digit. -/
def NumberHead (s : Str) : Prop := ∃ c u, isDigit c = true ∧ (s = c :: u ∨ s = 45 :: c :: u)

theorem NumberHead.append {s : Str} (h : NumberHead s) (t : Str) : NumberHead (s ++ t) := by
  obtain ⟨c, u, hc, rfl | rfl⟩ := h
  · exact ⟨c, u ++ t, hc, .inl rfl⟩
  · exact ⟨c, u ++ t, hc, .inr rfl⟩

theorem numberHead_decimal (n : Nat) (negative : Bool) (u : Str) :
    NumberHead ((if negative then [45] else []) ++ decimal n ++ u) := by
  obtain ⟨d, ds, hd, -⟩ := decimal_head n
  have hdigit : isDigit d = true := isDigit_decimal (n := n) (by rw [hd]; simp)
  rw [hd]
  cases negative with
  | false => exact ⟨d, ds ++ u, hdigit, .inl rfl⟩
  | true => exact ⟨d, ds ++ u, hdigit, .inr rfl⟩

theorem numberHead_decimalInt (n : Int) : NumberHead (decimalInt n) := by
  cases n with
  | ofNat m =>
    have h := numberHead_decimal m false []
    rwa [List.append_nil] at h
  | negSucc m =>
    have h := numberHead_decimal (m + 1) true []
    rwa [List.append_nil] at h

theorem scanValue_number {s : Str} (h : NumberHead s) (fuel : Nat) : scanValue (fuel + 1) s = scanNumber s := by
  obtain ⟨c, u, hc, rfl | rfl⟩ := h
  · have hword := scanWord_of_digit hc u
    rw [scanValue, if_neg (isDigit_ne hc 34 rfl), if_neg (isDigit_ne hc 123 rfl),
      if_neg (isDigit_ne hc 91 rfl), hword]
  · have hword := scanWord_of_minus hc u
    rw [scanValue, if_neg (by decide), if_neg (by decide), if_neg (by decide), hword]

/-- **A float**, read off the front. -/
theorem scanNumber_float {n : Nat} {fraction exponent : Str} (negative : Bool) (hf : IsFraction fraction)
    (he : IsExponent exponent) (hne : fraction ++ exponent ≠ []) {rest : Str} (h : Stops rest) :
    scanNumber ((if negative then [45] else []) ++ decimal n ++ fraction ++ exponent ++ rest) =
      .ok (.float ((if negative then [45] else []) ++ decimal n ++ fraction ++ exponent), rest) := by
  have hscan := scanUnsigned_float (n := n) negative hf he hne h
  cases negative with
  | true =>
    change scanNumber (45 :: (decimal n ++ fraction ++ exponent ++ rest)) = _
    rw [scanNumber, if_pos rfl, hscan]
  | false =>
    obtain ⟨d, ds, hd, -⟩ := decimal_head n
    have hdigit : isDigit d = true := isDigit_decimal (n := n) (by rw [hd]; simp)
    simp only [Bool.false_eq_true, if_false, List.nil_append] at hscan ⊢
    rw [hd] at hscan ⊢
    simp only [List.cons_append] at hscan ⊢
    rw [scanNumber, if_neg (isDigit_ne hdigit 45 rfl), hscan]

/-! ### Values -/

/-- What comes after a value in a text. -/
theorem stops_cons {c : CodePoint} (h : c = 44 ∨ c = 93 ∨ c = 125) (s : Str) : Stops (c :: s) := by
  intro d hd
  cases Option.mem_def.1 hd
  rcases h with rfl | rfl | rfl <;> decide

theorem stops_nil : Stops [] := by
  intro c hc
  cases hc

theorem NumberHead.head {t : Str} (h : NumberHead t) : ∃ c u, t = c :: u ∧ isWhite c = false ∧ c ≠ 93 ∧ c ≠ 125 := by
  obtain ⟨c, u, hc, rfl | rfl⟩ := h
  · refine ⟨c, u, rfl, ?_, isDigit_ne hc 93 rfl, isDigit_ne hc 125 rfl⟩
    simp only [isWhite, Bool.or_eq_false_iff, decide_eq_false_iff_not]
    exact ⟨⟨⟨isDigit_ne hc 32 rfl, isDigit_ne hc 9 rfl⟩, isDigit_ne hc 10 rfl⟩,
      isDigit_ne hc 13 rfl⟩
  · exact ⟨45, c :: u, rfl, by decide, by decide, by decide⟩

section ReadBack

variable [Floats] {σ : Style}

/-- A text in which a value was written. -/
structure ReadBack (σ : Style) (v : Json) (t : Str) : Prop where
  head : ∃ c u, t = c :: u ∧ isWhite c = false ∧ c ≠ 93 ∧ c ≠ 125
  scan : ∀ fuel rest, t.length ≤ fuel → Stops rest → scanValue fuel (t ++ rest) = .ok (normal σ v, rest)

/-- It is enough to look at fuel for one step. -/
theorem ReadBack.of_succ {v : Json} {t : Str} (head : ∃ c u, t = c :: u ∧ isWhite c = false ∧ c ≠ 93 ∧ c ≠ 125)
    (scan : ∀ fuel rest, t.length ≤ fuel + 1 → Stops rest → scanValue (fuel + 1) (t ++ rest) = .ok (normal σ v, rest)) :
    ReadBack σ v t := by
  refine ⟨head, fun fuel rest hf hrest => ?_⟩
  obtain ⟨c, u, rfl, -⟩ := head
  obtain ⟨f, rfl⟩ : ∃ f, fuel = f + 1 := ⟨fuel - 1, by rw [List.length_cons] at hf; omega⟩
  exact scan f rest hf hrest

theorem readBack_int {n : Int} (hn : digitCount n ≤ MAX_STR_DIGITS) : ReadBack σ (.int n) (decimalInt n) := by
  have hhead := numberHead_decimalInt n
  refine .of_succ hhead.head fun fuel rest _ hrest => ?_
  rw [scanValue_number (hhead.append rest), scanNumber_decimalInt hn hrest, normal]

theorem readBack_float (text : Str) : ReadBack σ (.float text) (Floats.repr text) := by
  have htoken := Floats.token text
  have hnormal : normal σ (.float text) = .float (Floats.repr text) := by rw [normal]
  revert htoken hnormal
  generalize Floats.repr text = t
  intro htoken hnormal
  cases htoken with
  | nan => exact .of_succ ⟨78, py "aN", rfl, by decide, by decide, by decide⟩ fun _ _ _ _ => by rw [hnormal]; rfl
  | infinity => exact .of_succ ⟨73, py "nfinity", rfl, by decide, by decide, by decide⟩ fun _ _ _ _ => by rw [hnormal]; rfl
  | negInfinity =>
    exact .of_succ ⟨45, py "Infinity", rfl, by decide, by decide, by decide⟩ fun _ _ _ _ => by rw [hnormal]; rfl
  | @number n fraction exponent negative hf he hne =>
    have hhead := (numberHead_decimal n negative fraction).append exponent
    refine .of_succ hhead.head fun fuel rest _ hrest => ?_
    rw [scanValue_number (hhead.append rest), scanNumber_float negative hf he hne hrest, hnormal]

theorem readBack_str (s : Str) : ReadBack σ (.str s) (encodeString s) := by
  refine .of_succ ⟨34, _, rfl, by decide, by decide, by decide⟩ fun fuel rest _ _ => ?_
  change scanValue (fuel + 1) (34 :: (s.flatMap escapeChar ++ [34] ++ rest)) = _
  rw [scanValue, if_pos rfl, List.append_assoc]
  change (scanString (s.flatMap escapeChar ++ 34 :: rest)).map _ = _
  rw [scanString_encode, normal]
  rfl

/-! ### Lists and objects -/

omit [Floats] in
theorem collect_eq_ok {ε α : Type} : ∀ {l : List (Except ε α)} {ts : List α}, collect l = .ok ts → l = ts.map .ok
  | [], ts, h => by
    cases h
    rfl
  | .error e :: l, ts, h => by cases h
  | .ok a :: l, ts, h => by
      change (collect l).map (a :: ·) = .ok ts at h
      cases hl : collect l with
      | error e =>
        rw [hl] at h
        cases h
      | ok us =>
        rw [hl] at h
        cases h
        rw [collect_eq_ok hl, List.map_cons]

/-- The first text of a join stands in front. -/
theorem ReadBack.join_head {v : Json} {t : Str} (h : ReadBack σ v t) (ts : List Str) (s : Str) :
    ∃ c u, join σ.itemSeparator (t :: ts) ++ s = c :: u ∧ isWhite c = false ∧ c ≠ 93 ∧ c ≠ 125 := by
  obtain ⟨c, u, rfl, hc⟩ := h.head
  cases ts with
  | nil => exact ⟨c, u ++ s, rfl, hc⟩
  | cons t' ts => exact ⟨c, u ++ σ.itemSeparator ++ join σ.itemSeparator (t' :: ts) ++ s, rfl, hc⟩

/-- The items of a list, up to its bracket. -/
theorem scanItems_join {vs : List Json} {ts : List Str} (h : List.Forall₂ (ReadBack σ) vs ts) (hne : ts ≠ []) (rest : Str) :
    ∀ fuel, (join σ.itemSeparator ts).length < fuel →
      scanItems fuel (join σ.itemSeparator ts ++ 93 :: rest) = .ok (normalItems σ vs, rest) := by
  induction h with
  | nil => exact absurd rfl hne
  | @cons v t vs ts hv hrest ih =>
    intro fuel hf
    obtain ⟨f, rfl⟩ : ∃ f, fuel = f + 1 := ⟨fuel - 1, by omega⟩
    cases hrest with
    | nil =>
      rw [join] at hf ⊢
      rw [scanItems, hv.scan f _ (by omega) (stops_cons (by simp) rest)]
      simp only [Except.bind, skip_cons (show isWhite 93 = false from rfl), if_true, normalItems]
    | @cons v' t' vs ts hv' hrest =>
      obtain ⟨space, hsep, hspace⟩ := σ.item
      obtain ⟨c, u, hu, hc, -⟩ := hv'.join_head ts (93 :: rest)
      have hlong : 1 ≤ t.length := by
        obtain ⟨c, u, rfl, -⟩ := hv.head
        simp
      simp only [join, hsep, List.length_append, List.length_cons] at hf
      have ih := ih (by simp) f (by rw [hsep]; omega)
      have htext : join σ.itemSeparator (t :: t' :: ts) ++ 93 :: rest =
          t ++ 44 :: (space ++ (join σ.itemSeparator (t' :: ts) ++ 93 :: rest)) := by
        simp [join, hsep]
      have hskip : skip (space ++ (join σ.itemSeparator (t' :: ts) ++ 93 :: rest)) =
          join σ.itemSeparator (t' :: ts) ++ 93 :: rest := by
        rw [skip_append hspace, hu, skip_cons hc]
      rw [htext, scanItems, hv.scan f _ (by omega) (stops_cons (by simp) _)]
      simp only [Except.bind, skip_cons (show isWhite 44 = false from rfl), hskip, ih, Except.map, normalItems,
        show (44 : CodePoint) ≠ 93 by decide, if_false, if_true]

/-- An entry of an object as it was written. -/
def EntryBack (σ : Style) (p : Str × Json) (t : Str) : Prop :=
  ∃ u, ReadBack σ p.2 u ∧ t = encodeString p.1 ++ (σ.keySeparator ++ u)

theorem EntryBack.head {p : Str × Json} {t : Str} (h : EntryBack σ p t) : ∃ u, t = 34 :: u := by
  obtain ⟨u, -, rfl⟩ := h
  exact ⟨_, rfl⟩

/-- A key, up to its value. -/
theorem scanKey_encode {v : Json} {u : Str} (h : ReadBack σ v u) (key rest : Str) :
    scanKey (encodeString key ++ (σ.keySeparator ++ u) ++ rest) = .ok (joinPairs key, u ++ rest) := by
  obtain ⟨space, hsep, hspace⟩ := σ.key
  obtain ⟨c, u', hu, hc, -⟩ := h.head
  have htext : encodeString key ++ (σ.keySeparator ++ u) ++ rest =
      34 :: (key.flatMap escapeChar ++ 34 :: 58 :: (space ++ (u ++ rest))) := by
    simp [encodeString, hsep]
  have hskip : skip (space ++ (u ++ rest)) = u ++ rest := by
    rw [skip_append hspace, hu, List.cons_append, skip_cons hc]
  rw [htext, scanKey, if_pos rfl, scanString_encode]
  simp only [Except.bind, skip_cons (show isWhite 58 = false from rfl), if_true, hskip]

/-- The entries of an object, up to its brace. -/
theorem scanEntries_join {es : List (Str × Json)} {ts : List Str} (h : List.Forall₂ (EntryBack σ) es ts) (hne : ts ≠ [])
    (rest : Str) : ∀ fuel, (join σ.itemSeparator ts).length < fuel →
      scanEntries fuel (join σ.itemSeparator ts ++ 125 :: rest) =
        .ok (es.map fun p => (joinPairs p.1, normal σ p.2), rest) := by
  induction h with
  | nil => exact absurd rfl hne
  | @cons p t es ts hp hrest ih =>
    intro fuel hf
    obtain ⟨f, rfl⟩ : ∃ f, fuel = f + 1 := ⟨fuel - 1, by omega⟩
    obtain ⟨u, hu, rfl⟩ := hp
    cases hrest with
    | nil =>
      rw [join] at hf ⊢
      simp only [List.length_append] at hf
      rw [scanEntries, scanKey_encode hu]
      simp only [Except.bind]
      rw [hu.scan f _ (by omega) (stops_cons (by simp) rest)]
      simp only [skip_cons (show isWhite 125 = false from rfl), if_true, List.map_cons, List.map_nil]
    | @cons p' t' es ts hp' hrest =>
      obtain ⟨space, hsep, hspace⟩ := σ.item
      obtain ⟨w, rfl⟩ := hp'.head
      simp only [join, hsep, List.length_append, List.length_cons, encodeString] at hf
      have ih := ih (by simp) f (by rw [hsep]; omega)
      have htext : join σ.itemSeparator ((encodeString p.1 ++ (σ.keySeparator ++ u)) :: (34 :: w) :: ts) ++ 125 :: rest =
          encodeString p.1 ++ (σ.keySeparator ++ u) ++
            44 :: (space ++ (join σ.itemSeparator ((34 :: w) :: ts) ++ 125 :: rest)) := by
        simp [join, hsep]
      have hskip : skip (space ++ (join σ.itemSeparator ((34 :: w) :: ts) ++ 125 :: rest)) =
          join σ.itemSeparator ((34 :: w) :: ts) ++ 125 :: rest := by
        rw [skip_append hspace]
        cases ts <;> exact skip_cons rfl _
      rw [htext, scanEntries, scanKey_encode hu]
      simp only [Except.bind]
      rw [hu.scan f _ (by omega) (stops_cons (by simp) _)]
      simp only [skip_cons (show isWhite 44 = false from rfl), hskip, ih, Except.map, List.map_cons,
        show (44 : CodePoint) ≠ 125 by decide, if_false, if_true]

omit [Floats] in
/-- Results that are all there, one for each element. -/
theorem forall₂_of_map {ε α β : Type} {f : α → Except ε β} {R : α → β → Prop} : ∀ {l : List α} {ts : List β},
    l.map f = ts.map .ok → (∀ x ∈ l, ∀ t, f x = .ok t → R x t) → List.Forall₂ R l ts
  | [], [], _, _ => .nil
  | [], _ :: _, h, _ => by cases h
  | _ :: _, [], h, _ => by cases h
  | x :: l, t :: ts, h, hR => by
    rw [List.map_cons, List.map_cons, List.cons.injEq] at h
    exact .cons (hR x List.mem_cons_self t h.1) (forall₂_of_map h.2 fun y hy => hR y (List.mem_cons_of_mem _ hy))

theorem encodeItems_eq : ∀ l : List Json, encodeItems σ l = l.map (encode σ)
  | [] => by rw [encodeItems, List.map_nil]
  | v :: l => by rw [encodeItems, encodeItems_eq l, List.map_cons]

theorem encodeValues_eq : ∀ entries : List (Str × Json),
    encodeValues σ entries = entries.map fun p => (p.1, encode σ p.2)
  | [] => by rw [encodeValues, List.map_nil]
  | (key, v) :: entries => by rw [encodeValues, encodeValues_eq entries, List.map_cons]

theorem normalItems_eq : ∀ l : List Json, normalItems σ l = l.map (normal σ)
  | [] => by rw [normalItems, List.map_nil]
  | v :: l => by rw [normalItems, normalItems_eq l, List.map_cons]

theorem normalValues_eq : ∀ entries : List (Str × Json),
    normalValues σ entries = entries.map fun p => (p.1, normal σ p.2)
  | [] => by rw [normalValues, List.map_nil]
  | (key, v) :: entries => by rw [normalValues, normalValues_eq entries, List.map_cons]

omit [Floats] in
theorem insertEntry_map {α β : Type} (f : α → β) (key : Str) (v : α) : ∀ l : List (Str × α),
    Dict.insertEntry key (f v) (l.map fun p => (p.1, f p.2)) = (Dict.insertEntry key v l).map fun p => (p.1, f p.2)
  | [] => rfl
  | p :: l => by
    rw [List.map_cons, Dict.insertEntry, Dict.insertEntry]
    split
    · rfl
    · rw [insertEntry_map f key v l, List.map_cons]

omit [Floats] in
theorem dictEntries_map {α β : Type} (f : α → β) (l : List (Str × α)) :
    dictEntries (l.map fun p => (p.1, f p.2)) = (dictEntries l).map fun p => (p.1, f p.2) := by
  have hfold : ∀ (l d : List (Str × α)),
      (l.map fun p => (p.1, f p.2)).foldl (fun d p => Dict.insertEntry p.1 p.2 d) (d.map fun p => (p.1, f p.2)) =
        (l.foldl (fun d p => Dict.insertEntry p.1 p.2 d) d).map fun p => (p.1, f p.2) := by
    intro l
    induction l with
    | nil => exact fun _ => rfl
    | cons p l ih =>
      intro d
      rw [List.map_cons, List.foldl_cons, List.foldl_cons, ← ih, ← insertEntry_map]
  exact hfold l []

omit [Floats] in
theorem arrange_map {α β : Type} (f : α → β) (sort : Bool) (l : List (Str × α)) :
    arrange sort (l.map fun p => (p.1, f p.2)) = (arrange sort l).map fun p => (p.1, f p.2) := by
  cases sort with
  | false => rfl
  | true =>
    simp only [arrange, if_true]
    exact (List.map_insertionSort (fun p q : Str × α => p.1 ≤ q.1) (fun p q : Str × β => p.1 ≤ q.1)
      (fun p => (p.1, f p.2)) l fun _ _ _ _ => Iff.rfl).symm

omit [Floats] in
theorem mem_insertEntry {α : Type} {key : Str} {v : α} {p : Str × α} : ∀ {l : List (Str × α)},
    p ∈ Dict.insertEntry key v l → p = (key, v) ∨ p ∈ l
  | [], h => .inl (List.mem_singleton.1 h)
  | q :: l, h => by
    rw [Dict.insertEntry] at h
    split at h
    · rcases List.mem_cons.1 h with rfl | h
      · exact .inl rfl
      · exact .inr (List.mem_cons_of_mem _ h)
    · rcases List.mem_cons.1 h with rfl | h
      · exact .inr List.mem_cons_self
      · exact (mem_insertEntry h).imp_right (List.mem_cons_of_mem _)

omit [Floats] in
theorem mem_dictEntries {α : Type} {p : Str × α} {l : List (Str × α)} (h : p ∈ dictEntries l) : p ∈ l := by
  have hfold : ∀ {l d : List (Str × α)}, p ∈ l.foldl (fun d q => Dict.insertEntry q.1 q.2 d) d → p ∈ d ∨ p ∈ l := by
    intro l
    induction l with
    | nil => exact fun h => .inl h
    | cons q l ih =>
      intro d h
      rcases ih h with h | h
      · rcases mem_insertEntry h with rfl | h
        · exact .inr List.mem_cons_self
        · exact .inl h
      · exact .inr (List.mem_cons_of_mem _ h)
  exact (hfold h).resolve_left (by simp)

omit [Floats] in
theorem mem_arrange {α : Type} {sort : Bool} {p : Str × α} {l : List (Str × α)} (h : p ∈ arrange sort l) : p ∈ l := by
  cases sort with
  | false => exact h
  | true => exact (List.mem_insertionSort _).1 h

/-- The entries of an object in the order in which they are written. -/
def written (σ : Style) (entries : List (Str × Json)) : List (Str × Json) := arrange σ.sortKeys (dictEntries entries)

theorem encode_obj (entries : List (Str × Json)) : encode σ (.obj entries) =
    (collect ((written σ entries).map fun p => entryText σ (p.1, encode σ p.2))).map fun ts =>
      123 :: join σ.itemSeparator ts ++ [125] := by
  rw [encode, encodeValues_eq, dictEntries_map, arrange_map, List.map_map]
  rfl

theorem normal_obj (entries : List (Str × Json)) : normal σ (.obj entries) =
    .obj ((written σ entries).map fun p => (joinPairs p.1, normal σ p.2)) := by
  rw [normal, normalValues_eq, dictEntries_map, arrange_map, List.map_map]
  rfl

omit [Floats] in
theorem map_eq_ok {ε α β : Type} {f : α → β} {x : Except ε α} {b : β} (h : x.map f = .ok b) :
    ∃ a, x = .ok a ∧ f a = b := by
  cases x with
  | error e => cases h
  | ok a => exact ⟨a, rfl, Except.ok.inj h⟩

/-- A list whose items are read back. -/
theorem readBack_arr {l : List Json} (hl : ∀ v ∈ l, ∀ t, encode σ v = .ok t → ReadBack σ v t) {t : Str}
    (h : encode σ (.arr l) = .ok t) : ReadBack σ (.arr l) t := by
  rw [encode, encodeItems_eq] at h
  obtain ⟨ts, hts, rfl⟩ := map_eq_ok h
  have hback := forall₂_of_map (collect_eq_ok hts) hl
  refine .of_succ ⟨91, _, rfl, by decide, by decide, by decide⟩ fun fuel rest hf _ => ?_
  have htext : 91 :: join σ.itemSeparator ts ++ [93] ++ rest = 91 :: (join σ.itemSeparator ts ++ 93 :: rest) := by simp
  rw [htext, scanValue, if_neg (by decide), if_neg (by decide), if_pos rfl, normal]
  cases hback with
  | nil =>
    rw [join, List.nil_append, skip_cons rfl]
    simp only [if_true, normalItems]
  | @cons v t l ts hv hrest =>
    obtain ⟨c, u, hu, hc, hne, -⟩ := hv.join_head ts (93 :: rest)
    simp only [List.length_append, List.length_cons] at hf
    have hitems := scanItems_join (.cons hv hrest) (by simp) rest fuel (by omega)
    rw [hu] at hitems
    rw [hu, skip_cons hc]
    simp only [if_neg hne, hitems]
    rfl

/-- An object whose values are read back. -/
theorem readBack_obj {entries : List (Str × Json)} (he : ∀ p ∈ entries, ∀ t, encode σ p.2 = .ok t → ReadBack σ p.2 t)
    {t : Str} (h : encode σ (.obj entries) = .ok t) : ReadBack σ (.obj entries) t := by
  rw [encode_obj] at h
  obtain ⟨ts, hts, rfl⟩ := map_eq_ok h
  have hback : List.Forall₂ (EntryBack σ) (written σ entries) ts := by
    refine forall₂_of_map (collect_eq_ok hts) fun p hp t ht => ?_
    obtain ⟨u, hu, rfl⟩ := map_eq_ok ht
    exact ⟨u, he p (mem_dictEntries (mem_arrange hp)) u hu, rfl⟩
  refine .of_succ ⟨123, _, rfl, by decide, by decide, by decide⟩ fun fuel rest hf _ => ?_
  have htext : 123 :: join σ.itemSeparator ts ++ [125] ++ rest = 123 :: (join σ.itemSeparator ts ++ 125 :: rest) := by simp
  rw [htext, scanValue, if_neg (by decide), if_pos rfl, normal_obj]
  generalize written σ entries = es at *
  cases hback with
  | nil =>
    rw [join, List.nil_append, skip_cons rfl]
    simp only [if_true, List.map_nil]
  | @cons p t es ts hp hrest =>
    obtain ⟨w, rfl⟩ := hp.head
    simp only [List.length_append, List.length_cons] at hf
    have hentries := scanEntries_join (.cons hp hrest) (by simp) rest fuel (by omega)
    obtain ⟨u, hu⟩ : ∃ u, join σ.itemSeparator ((34 :: w) :: ts) ++ 125 :: rest = 34 :: u := by
      cases ts <;> exact ⟨_, rfl⟩
    rw [hu] at hentries
    rw [hu, skip_cons rfl]
    simp only [show (34 : CodePoint) ≠ 125 by decide, if_false, hentries]
    rfl

/-- **A value**, read off the front of a text. -/
theorem readBack (v : Json) : ∀ t, encode σ v = .ok t → ReadBack σ v t := by
  induction v using Json.ind with
  | null =>
    intro t h
    rw [encode] at h
    cases h
    exact .of_succ ⟨110, _, rfl, by decide, by decide, by decide⟩ fun _ _ _ _ => by rw [normal]; rfl
  | bool b =>
    intro t h
    rw [encode] at h
    cases h
    cases b with
    | false => exact .of_succ ⟨102, _, rfl, by decide, by decide, by decide⟩ fun _ _ _ _ => by rw [normal]; rfl
    | true => exact .of_succ ⟨116, _, rfl, by decide, by decide, by decide⟩ fun _ _ _ _ => by rw [normal]; rfl
  | int n =>
    intro t h
    rw [encode] at h
    split at h
    · rename_i hn
      cases h
      exact readBack_int hn
    · cases h
  | float text =>
    intro t h
    rw [encode] at h
    cases h
    exact readBack_float text
  | str s =>
    intro t h
    rw [encode] at h
    cases h
    exact readBack_str s
  | arr l ih => exact fun t h => readBack_arr ih h
  | obj entries ih => exact fun t h => readBack_obj ih h

/-- **What was written is read**, up to its normal form. -/
theorem decode_dumps {v : Json} {t : Str} (h : dumps σ v = .ok t) : decode t = .ok (normal σ v) := by
  have hback := readBack v t h
  obtain ⟨c, u, rfl, hc, -⟩ := hback.head
  have hscan := hback.scan (2 * (c :: u).length + 1) [] (by omega) stops_nil
  rw [List.append_nil] at hscan
  rw [decode, skip_cons hc, hscan]
  rfl

end ReadBack

/-! ### What comes back as it was -/

theorem insertEntry_of_not_mem {α : Type} {key : Str} {v : α} : ∀ {l : List (Str × α)}, key ∉ l.map Prod.fst →
    Dict.insertEntry key v l = l ++ [(key, v)]
  | [], _ => rfl
  | p :: l, h => by
    rw [List.map_cons, List.mem_cons, not_or] at h
    rw [Dict.insertEntry, if_neg (Ne.symm h.1), insertEntry_of_not_mem h.2, List.cons_append]

theorem dictEntries_eq_self {α : Type} {l : List (Str × α)} (h : (l.map Prod.fst).Nodup) : dictEntries l = l := by
  have hfold : ∀ (l d : List (Str × α)), ((d ++ l).map Prod.fst).Nodup →
      l.foldl (fun d p => Dict.insertEntry p.1 p.2 d) d = d ++ l := by
    intro l
    induction l with
    | nil => exact fun d _ => (List.append_nil d).symm
    | cons p l ih =>
      intro d hd
      have hp : p.1 ∉ d.map Prod.fst := by
        rw [List.map_append, List.map_cons] at hd
        intro hm
        exact (List.nodup_append.1 hd).2.2 p.1 hm p.1 List.mem_cons_self rfl
      rw [List.foldl_cons, insertEntry_of_not_mem hp, ih _ (by simpa using hd), List.append_assoc]
      rfl
  exact hfold l [] h

section Plain

variable [Floats]

/-- The Python values without surrogate pairs whose floats are written as they are; where keys are sorted, they are in
order. -/
inductive Plain (σ : Style) : Json → Prop
  | null : Plain σ .null
  | bool (b : Bool) : Plain σ (.bool b)
  | int (n : Int) : Plain σ (.int n)
  | float {text : Str} : Floats.repr text = text → Plain σ (.float text)
  | str {s : Str} : NoPairs s → Plain σ (.str s)
  | arr {l : List Json} : (∀ v ∈ l, Plain σ v) → Plain σ (.arr l)
  | obj {entries : List (Str × Json)} : (entries.map Prod.fst).Nodup →
      (σ.sortKeys = true → entries.Pairwise fun p q => p.1 ≤ q.1) → (∀ p ∈ entries, NoPairs p.1) →
      (∀ p ∈ entries, Plain σ p.2) → Plain σ (.obj entries)

omit [Floats] in
theorem written_eq_self {σ : Style} {entries : List (Str × Json)} (h : (entries.map Prod.fst).Nodup)
    (hsort : σ.sortKeys = true → entries.Pairwise fun p q => p.1 ≤ q.1) : written σ entries = entries := by
  rw [written, dictEntries_eq_self h, arrange]
  split
  · rename_i hs
    exact (hsort hs).insertionSort_eq
  · rfl

theorem normal_of_plain {σ : Style} {v : Json} (h : Plain σ v) : normal σ v = v := by
  induction h with
  | null => rw [normal]
  | bool b => rw [normal]
  | int n => rw [normal]
  | float h => rw [normal, h]
  | str h => rw [normal, joinPairs_eq_self h]
  | arr _ ih =>
    rw [normal, normalItems_eq]
    exact congrArg Json.arr (List.map_congr_left ih |>.trans (List.map_id _))
  | obj hnodup hsort hkeys _ ih =>
    rw [normal_obj, written_eq_self hnodup hsort]
    refine congrArg Json.obj ((List.map_congr_left fun p hp => ?_).trans (List.map_id _))
    rw [joinPairs_eq_self (hkeys p hp), ih p hp]
    rfl

end Plain

/-! ### What is written is ASCII -/

def Printable (c : CodePoint) : Bool := 32 ≤ c.val && c.val ≤ 126

theorem printable_of_isDigit {c : CodePoint} (h : isDigit c = true) : Printable c = true := by
  simp only [isDigit, Printable, Bool.and_eq_true, decide_eq_true_eq] at h ⊢
  omega

theorem printable_hexDigit : ∀ n < 16, Printable (hexDigit n) = true := by decide

theorem printable_unicodeEscape (n : Nat) : ∀ c ∈ unicodeEscape n, Printable c = true := by
  have hhex : ∀ m : Nat, Printable (hexDigit (m % 16)) = true := fun m => printable_hexDigit _ (Nat.mod_lt m (by decide))
  intro c hc
  simp only [unicodeEscape, List.mem_cons, List.not_mem_nil, or_false] at hc
  rcases hc with rfl | rfl | rfl | rfl | rfl | rfl
  · rfl
  · rfl
  all_goals exact hhex _

theorem printable_escapeChar (c : CodePoint) : ∀ d ∈ escapeChar c, Printable d = true := by
  have hshort : ∀ e : CodePoint, Printable e = true → ∀ d ∈ [92, e], Printable d = true := by
    intro e he d hd
    simp only [List.mem_cons, List.not_mem_nil, or_false] at hd
    rcases hd with rfl | rfl
    · rfl
    · exact he
  unfold escapeChar
  split_ifs with _ _ _ _ _ _ _ hprint _
  iterate 7 exact hshort _ rfl
  · intro d hd
    rw [List.mem_singleton.1 hd]
    exact hprint
  · exact printable_unicodeEscape _
  · intro d hd
    rcases List.mem_append.1 hd with hd | hd <;> exact printable_unicodeEscape _ d hd

theorem printable_encodeString (s : Str) : ∀ c ∈ encodeString s, Printable c = true := by
  intro c hc
  simp only [encodeString, List.mem_append, List.mem_cons, List.not_mem_nil, or_false, List.mem_flatMap] at hc
  rcases hc with (rfl | ⟨d, -, hc⟩) | rfl
  · rfl
  · exact printable_escapeChar d c hc
  · rfl

theorem printable_decimalInt (n : Int) : ∀ c ∈ decimalInt n, Printable c = true := by
  intro c hc
  cases n with
  | ofNat m => exact printable_of_isDigit (isDigit_decimal hc)
  | negSucc m =>
    rcases List.mem_append.1 hc with hc | hc
    · rw [List.mem_singleton.1 hc]
      rfl
    · exact printable_of_isDigit (isDigit_decimal hc)

theorem FloatToken.printable {t : Str} (h : FloatToken t) : ∀ c ∈ t, Printable c = true := by
  cases h with
  | nan => exact List.all_eq_true.1 rfl
  | infinity => exact List.all_eq_true.1 rfl
  | negInfinity => exact List.all_eq_true.1 rfl
  | @number n fraction exponent negative hf he _ =>
    intro c hc
    simp only [List.mem_append] at hc
    rcases hc with ((hc | hc) | hc) | hc
    · cases negative with
      | false => cases hc
      | true =>
        rw [List.mem_singleton.1 hc]
        rfl
    · exact printable_of_isDigit (isDigit_decimal hc)
    · cases hf with
      | none => cases hc
      | some hds =>
        rcases List.mem_cons.1 hc with rfl | hc
        · rfl
        · exact printable_of_isDigit (hds c hc)
    · cases he with
      | none => cases hc
      | some hletter hsign hds =>
        rcases List.mem_append.1 hc with hc | hc
        · rcases List.mem_cons.1 hc with rfl | hc
          · rcases hletter with rfl | rfl <;> rfl
          · rcases hsign with rfl | rfl | rfl
            · cases hc
            · rw [List.mem_singleton.1 hc]
              rfl
            · rw [List.mem_singleton.1 hc]
              rfl
        · exact printable_of_isDigit (hds c hc)

theorem printable_join {sep : Str} (hsep : ∀ c ∈ sep, Printable c = true) : ∀ {ts : List Str},
    (∀ t ∈ ts, ∀ c ∈ t, Printable c = true) → ∀ c ∈ join sep ts, Printable c = true
  | [], _, c, hc => by cases hc
  | [t], h, c, hc => h t (by simp) c hc
  | t :: t' :: ts, h, c, hc => by
    rw [join, List.mem_append, List.mem_append] at hc
    rcases hc with (hc | hc) | hc
    · exact h t (by simp) c hc
    · exact hsep c hc
    · exact printable_join hsep (fun u hu => h u (List.mem_cons_of_mem _ hu)) c hc

theorem printable_separator {sep space : Str} {d : CodePoint} (hd : Printable d = true) (hsep : sep = d :: space)
    (hspace : ∀ c ∈ space, c = 32) : ∀ c ∈ sep, Printable c = true := by
  intro c hc
  rw [hsep] at hc
  rcases List.mem_cons.1 hc with rfl | hc
  · exact hd
  · rw [hspace c hc]
    rfl

section Printable

variable [Floats] {σ : Style}

omit [Floats] in
theorem Style.printable_item (σ : Style) : ∀ c ∈ σ.itemSeparator, Printable c = true := by
  obtain ⟨space, hsep, hspace⟩ := σ.item
  exact printable_separator rfl hsep hspace

omit [Floats] in
theorem Style.printable_key (σ : Style) : ∀ c ∈ σ.keySeparator, Printable c = true := by
  obtain ⟨space, hsep, hspace⟩ := σ.key
  exact printable_separator rfl hsep hspace

omit [Floats] in
/-- Between brackets or braces. -/
theorem printable_between {a b : CodePoint} (ha : Printable a = true) (hb : Printable b = true) {ts : List Str}
    (h : ∀ t ∈ ts, ∀ c ∈ t, Printable c = true) : ∀ c ∈ a :: join σ.itemSeparator ts ++ [b], Printable c = true := by
  intro c hc
  rcases List.mem_append.1 hc with hc | hc
  · rcases List.mem_cons.1 hc with rfl | hc
    · exact ha
    · exact printable_join σ.printable_item h c hc
  · rw [List.mem_singleton.1 hc]
    exact hb

theorem printable_encode (v : Json) : ∀ t, encode σ v = .ok t → ∀ c ∈ t, Printable c = true := by
  induction v using Json.ind with
  | null =>
    intro t h
    rw [encode] at h
    cases h
    exact List.all_eq_true.1 rfl
  | bool b =>
    intro t h
    rw [encode] at h
    cases h
    cases b <;> exact List.all_eq_true.1 rfl
  | int n =>
    intro t h
    rw [encode] at h
    split at h
    · cases h
      exact printable_decimalInt n
    · cases h
  | float text =>
    intro t h
    rw [encode] at h
    cases h
    exact (Floats.token text).printable
  | str s =>
    intro t h
    rw [encode] at h
    cases h
    exact printable_encodeString s
  | arr l ih =>
    intro t h
    rw [encode, encodeItems_eq] at h
    obtain ⟨ts, hts, rfl⟩ := map_eq_ok h
    refine printable_between rfl rfl fun u hu => ?_
    have hmem : .ok u ∈ l.map (encode σ) := by
      rw [collect_eq_ok hts]
      exact List.mem_map_of_mem hu
    obtain ⟨v, hv, he⟩ := List.mem_map.1 hmem
    exact ih v hv u he
  | obj entries ih =>
    intro t h
    rw [encode_obj] at h
    obtain ⟨ts, hts, rfl⟩ := map_eq_ok h
    refine printable_between rfl rfl fun u hu => ?_
    have hmem : .ok u ∈ (written σ entries).map fun p => entryText σ (p.1, encode σ p.2) := by
      rw [collect_eq_ok hts]
      exact List.mem_map_of_mem hu
    obtain ⟨p, hp, he⟩ := List.mem_map.1 hmem
    obtain ⟨w, hw, rfl⟩ := map_eq_ok he
    intro c hc
    rw [List.mem_append, List.mem_append] at hc
    rcases hc with hc | hc | hc
    · exact printable_encodeString p.1 c hc
    · exact σ.printable_key c hc
    · exact ih p (mem_dictEntries (mem_arrange hp)) w hw c hc

theorem loads_dumps {v : Json} {t : Str} (h : dumps σ v = .ok t) : loads t = .ok (normal σ v) := by
  have hbom : t.head? ≠ some 0xFEFF := by
    intro he
    have hprint := printable_encode v t h 0xFEFF (List.mem_of_mem_head? he)
    cases hprint
  rw [loads, if_neg hbom, decode_dumps h]

omit [Floats] in
theorem encodeUtf8_ascii : ∀ {t : Str}, (∀ c ∈ t, c.val < 0x80) → encodeUtf8 t = .ok (t.map fun c => .ofNat c.val)
  | [], _ => rfl
  | c :: t, h => by
    have hc := h c List.mem_cons_self
    have hplain : isSurrogate c = false := by
      simp only [isSurrogate, Bool.and_eq_false_iff, decide_eq_false_iff_not]
      omega
    have hbytes : utf8Bytes c = [.ofNat c.val] := by
      unfold utf8Bytes
      dsimp only
      rw [if_pos hc]
    rw [encodeUtf8, hplain, encodeUtf8_ascii fun d hd => h d (List.mem_cons_of_mem _ hd), hbytes]
    rfl

omit [Floats] in
theorem ascii_of_printable {t : Str} (h : ∀ c ∈ t, Printable c = true) : ∀ c ∈ t, c.val < 0x80 := by
  intro c hc
  have hc := h c hc
  simp only [Printable, Bool.and_eq_true, decide_eq_true_eq] at hc
  omega

omit [Floats] in
/-- Plain ASCII is read as UTF-8. -/
theorem detectEncoding_printable {t : Str} (h : ∀ c ∈ t, Printable c = true) :
    detectEncoding (t.map fun c => .ofNat c.val) = .utf8 := by
  have hne : ∀ b ∈ t.map fun c => UInt8.ofNat c.val, b ≠ 0 ∧ b ≠ 0xFE ∧ b ≠ 0xFF ∧ b ≠ 0xEF := by
    intro b hb
    obtain ⟨c, hc, rfl⟩ := List.mem_map.1 hb
    have hc := h c hc
    simp only [Printable, Bool.and_eq_true, decide_eq_true_eq] at hc
    have hval : (UInt8.ofNat c.val).toNat = c.val := toNat_ofNat (by omega)
    refine ⟨?_, ?_, ?_, ?_⟩ <;>
    · intro heq
      rw [heq] at hval
      change _ = c.val at hval
      simp at hval
      omega
  generalize (t.map fun c => UInt8.ofNat c.val) = b at hne
  -- so no mark begins there
  have hmark : ∀ {a : UInt8} {l : List UInt8}, a :: l <+: b → a ≠ 0 ∧ a ≠ 0xFE ∧ a ≠ 0xFF ∧ a ≠ 0xEF :=
    fun hp => hne _ (hp.subset List.mem_cons_self)
  unfold detectEncoding
  rw [if_neg, if_neg, if_neg]
  · split
    · rename_i a b' _ _ _
      rw [if_neg (hne a (by simp)).1, if_neg (hne b' (by simp)).1]
    · rename_i a b'
      rw [if_neg (hne a (by simp)).1, if_neg (hne b' (by simp)).1]
    · rfl
  · exact fun hp => (hmark hp).2.2.2 rfl
  · exact fun hp => hp.elim (fun hp => (hmark hp).2.1 rfl) fun hp => (hmark hp).2.2.1 rfl
  · exact fun hp => hp.elim (fun hp => (hmark hp).1 rfl) fun hp => (hmark hp).2.2.1 rfl

/-- **And from its bytes.** -/
theorem loadsBytes_dumps [Codecs] {v : Json} {t : Str} (h : dumps σ v = .ok t) :
    loadsBytes (t.map fun c => .ofNat c.val) = .ok (normal σ v) := by
  have hprint := printable_encode v t h
  rw [loadsBytes, detectEncoding_printable hprint]
  dsimp only
  rw [decodeUtf8_encodeUtf8 (encodeUtf8_ascii (ascii_of_printable hprint))]
  exact decode_dumps h

end Printable

/-! ## The fuel -/

/-- What is left of a text is shorter. -/
def Shortens {α : Type} (s : Str) (x : Scan α) : Prop := ∀ a r, x = .ok (a, r) → r.length < s.length

theorem Shortens.error {α : Type} {s : Str} {e : LoadError} : Shortens s (.error e : Scan α) := by
  intro a r h
  cases h

theorem Shortens.ok {α : Type} {s r : Str} {a : α} (h : r.length < s.length) : Shortens s (.ok (a, r)) := by
  intro a' r' he
  cases he
  exact h

theorem Shortens.map {α β : Type} {s s' : Str} {x : Scan α} (h : Shortens s' x) (hs : s'.length ≤ s.length)
    (f : α × Str → β) : Shortens s (x.map fun r => (f r, r.2)) := by
  intro b r he
  obtain ⟨⟨a, r'⟩, hx, hr⟩ := map_eq_ok he
  cases hr
  have hlt := h a r' hx
  dsimp only
  omega

theorem Shortens.bind {α β : Type} {s s' : Str} {x : Scan α} (h : Shortens s' x) (hs : s'.length ≤ s.length)
    {f : α × Str → Scan β} (hf : ∀ a r, x = .ok (a, r) → Shortens r (f (a, r))) : Shortens s (x.bind f) := by
  intro b r he
  cases hx : x with
  | error e =>
    rw [hx] at he
    cases he
  | ok p =>
    obtain ⟨a, r'⟩ := p
    rw [hx] at he
    have hlt := h a r' hx
    have hlt' := hf a r' hx b r he
    omega

theorem length_skip_le (s : Str) : (skip s).length ≤ s.length := (List.dropWhile_sublist _).length_le

theorem shortens_scanUnits (s : Str) : Shortens s (scanUnits s) := by
  fun_induction scanUnits s <;> first
    | exact .error
    | exact .ok (by simp)
    | exact Shortens.map (by assumption) (by simp; omega) _
    | exact Shortens.map (by assumption) (by simp) _

theorem shortens_scanString (s : Str) : Shortens s (scanString s) := (shortens_scanUnits s).map (Nat.le_refl _) _

theorem shortens_scanKey (s : Str) : Shortens s (scanKey s) := by
  fun_cases scanKey s with
  | case1 => exact .error
  | case2 s =>
    refine (shortens_scanString s).bind (by simp) fun key r _ => ?_
    dsimp only
    have hskip := length_skip_le r
    split
    · exact .error
    · rename_i d u hu
      have hu' := length_skip_le u
      rw [hu, List.length_cons] at hskip
      split
      · exact .ok (by omega)
      · exact .error
  | case3 => exact .error

theorem length_spanDigits_le (s : Str) : (spanDigits s).2.length ≤ s.length := (List.dropWhile_sublist _).length_le

theorem length_scanFraction_le (s : Str) : (scanFraction s).2.length ≤ s.length := by
  fun_cases scanFraction s with
  | case1 c d s =>
    have hle := length_spanDigits_le s
    simp only [List.length_cons]
    omega
  | case2 => exact Nat.le_refl _
  | case3 => exact Nat.le_refl _

theorem length_scanSign_le (s : Str) : (scanSign s).2.length ≤ s.length := by
  fun_cases scanSign s <;> simp

theorem length_scanExponent_le (s : Str) : (scanExponent s).2.length ≤ s.length := by
  cases s with
  | nil => exact Nat.le_refl _
  | cons c s =>
    have hsign := length_scanSign_le s
    have hdigits := length_spanDigits_le (scanSign s).2
    rw [scanExponent]
    dsimp only
    split
    · simp only [List.length_cons]
      omega
    · exact Nat.le_refl _

theorem scanNat_rest {s ds r : Str} (h : scanNat s = some (ds, r)) : r.length < s.length := by
  cases s with
  | nil => cases h
  | cons c s =>
    rw [scanNat] at h
    split at h
    · cases h
      simp
    · split at h
      · cases h
        have hle := length_spanDigits_le s
        rw [List.length_cons]
        omega
      · cases h

theorem shortens_scanUnsigned (negative : Bool) (s : Str) : Shortens s (scanUnsigned negative s) := by
  rw [scanUnsigned]
  cases hs : scanNat s with
  | none => exact .error
  | some p =>
    obtain ⟨ds, r⟩ := p
    have hrest := scanNat_rest hs
    have hfraction := length_scanFraction_le r
    have hexponent := length_scanExponent_le (scanFraction r).2
    dsimp only
    split
    · intro v r' h
      obtain ⟨v', -, hr⟩ := map_eq_ok h
      cases hr
      exact hrest
    · exact .ok (by omega)

theorem shortens_scanNumber (s : Str) : Shortens s (scanNumber s) := by
  cases s with
  | nil => exact .error
  | cons c s =>
    rw [scanNumber]
    split
    · intro v r h
      have hlt := shortens_scanUnsigned true s v r h
      rw [List.length_cons]
      omega
    · exact shortens_scanUnsigned false _

theorem scanWord_rest {c : CodePoint} {s : Str} {r : Json × Str} (h : scanWord (c :: s) = some r) :
    r.2.length < (c :: s).length := by
  rw [scanWord] at h
  obtain ⟨p, hp, he⟩ := List.exists_of_findSome?_eq_some h
  split at he
  · cases he
    have hlong : 0 < p.1.length := by
      revert hp
      simp only [words, List.mem_cons, List.not_mem_nil, or_false]
      rintro (rfl | rfl | rfl | rfl | rfl | rfl) <;> decide
    rw [List.length_drop, List.length_cons]
    omega
  · cases he

/-- What a value leaves of a text, for any fuel. -/
theorem shortens_scan : ∀ fuel,
    (∀ s, Shortens s (scanValue fuel s)) ∧ (∀ s, Shortens s (scanItems fuel s)) ∧ ∀ s, Shortens s (scanEntries fuel s)
  | 0 => ⟨fun _ => .error, fun _ => .error, fun _ => .error⟩
  | fuel + 1 => by
    obtain ⟨hvalue, hitems, hentries⟩ := shortens_scan fuel
    refine ⟨fun s => ?_, fun s => ?_, fun s => ?_⟩
    · cases s with
      | nil => exact .error
      | cons c s =>
        have hskip := length_skip_le s
        rw [scanValue]
        split
        · exact (shortens_scanString s).map (by simp) _
        split
        · split
          · exact .error
          · rename_i d u hu
            rw [hu, List.length_cons] at hskip
            split
            · exact .ok (by rw [List.length_cons]; omega)
            · exact (hentries _).map (by simp only [List.length_cons]; omega) _
        split
        · split
          · exact .error
          · rename_i d u hu
            rw [hu, List.length_cons] at hskip
            split
            · exact .ok (by rw [List.length_cons]; omega)
            · exact (hitems _).map (by simp only [List.length_cons]; omega) _
        split
        · rename_i r hr
          exact .ok (scanWord_rest hr)
        · exact shortens_scanNumber _
    · rw [scanItems]
      refine (hvalue s).bind (Nat.le_refl _) fun v r _ => ?_
      have hskip := length_skip_le r
      dsimp only
      split
      · exact .error
      · rename_i d u hu
        have hu' := length_skip_le u
        rw [hu, List.length_cons] at hskip
        split
        · exact .ok (by omega)
        split
        · exact (hitems _).map (by omega) _
        · exact .error
    · rw [scanEntries]
      refine (shortens_scanKey s).bind (Nat.le_refl _) fun key r _ => (hvalue r).bind (Nat.le_refl _) fun v r _ => ?_
      have hskip := length_skip_le r
      dsimp only
      split
      · exact .error
      · rename_i d u hu
        have hu' := length_skip_le u
        rw [hu, List.length_cons] at hskip
        split
        · exact .ok (by omega)
        split
        · exact (hentries _).map (by omega) _
        · exact .error

theorem bind_congr_ok {α β : Type} {x : Scan α} {f g : α × Str → Scan β} (h : ∀ a r, x = .ok (a, r) → f (a, r) = g (a, r)) :
    x.bind f = x.bind g := by
  cases hx : x with
  | error e => rfl
  | ok p => exact h p.1 p.2 hx

/-- One more step of fuel changes nothing where there is enough. -/
theorem scan_succ : ∀ fuel,
    (∀ s : Str, 2 * s.length < fuel → scanValue (fuel + 1) s = scanValue fuel s) ∧
    (∀ s : Str, 2 * s.length + 1 < fuel → scanItems (fuel + 1) s = scanItems fuel s) ∧
    ∀ s : Str, 2 * s.length + 1 < fuel → scanEntries (fuel + 1) s = scanEntries fuel s
  | 0 => ⟨fun _ h => absurd h (by omega), fun _ h => absurd h (by omega), fun _ h => absurd h (by omega)⟩
  | fuel + 1 => by
    obtain ⟨hvalue, hitems, hentries⟩ := scan_succ fuel
    obtain ⟨hshort, -, -⟩ := shortens_scan fuel
    refine ⟨fun s hs => ?_, fun s hs => ?_, fun s hs => ?_⟩
    · cases s with
      | nil => rfl
      | cons c s =>
        have hskip := length_skip_le s
        rw [List.length_cons] at hs
        rw [scanValue, scanValue]
        cases hu : skip s with
        | nil => rfl
        | cons d u =>
          rw [hu, List.length_cons] at hskip
          dsimp only
          rw [hentries (d :: u) (by rw [List.length_cons]; omega), hitems (d :: u) (by rw [List.length_cons]; omega)]
    · rw [scanItems, scanItems, hvalue s (by omega)]
      apply bind_congr_ok
      intro v r hv
      have hr := hshort s v r hv
      have hskip := length_skip_le r
      dsimp only
      cases hu : skip r with
      | nil => rfl
      | cons d u =>
        have hu' := length_skip_le u
        rw [hu, List.length_cons] at hskip
        dsimp only
        rw [hitems (skip u) (by omega)]
    · rw [scanEntries, scanEntries]
      apply bind_congr_ok
      intro key t ht
      have ht' := shortens_scanKey s key t ht
      rw [hvalue t (by omega)]
      apply bind_congr_ok
      intro v r hv
      have hr := hshort t v r hv
      have hskip := length_skip_le r
      dsimp only
      cases hu : skip r with
      | nil => rfl
      | cons d u =>
        have hu' := length_skip_le u
        rw [hu, List.length_cons] at hskip
        dsimp only
        rw [hentries (skip u) (by omega)]

/-- Twice the length of a text is enough. -/
theorem scanValue_fuel {s : Str} {fuel : Nat} (h : 2 * s.length < fuel) :
    scanValue fuel s = scanValue (2 * s.length + 1) s := by
  induction h with
  | refl => rfl
  | step h ih => rw [(scan_succ _).1 s h, ih]

end JsonText

end Py
