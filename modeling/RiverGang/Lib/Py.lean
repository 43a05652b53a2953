import Mathlib.Algebra.Group.Int.Defs
import Mathlib.Algebra.Group.Nat.Defs

/-!
# Python values

The parts of Python's built-in types that programs compute with: strings as sequences of code points (lone surrogates
included), their UTF-8 encoding, integers as floats, and dates with an optional offset.

* **Strings**: `strip`, `join`, `contains`, `decimal`; `encodeUtf8` fails exactly on lone surrogates (`encodeUtf8_ok_iff`).
* **Floats**: only which integers have one (`FloatFits`).
* **Dates**: comparing a naive with an aware one fails (`DateTime.lt`), and `isoformat` is plain ASCII
  (`encodable_isoformat`).
* **JSON**: decoded values, with the accessors that programs use on them; what their conversions take from floats,
  Unicode or the grammar of JSON is a parameter (`Builtins`).
-/

namespace Py

/-- A code point; unlike a `Char` it can be a surrogate. -/
abbrev CodePoint := Fin 0x110000

instance CodePoint.neZero : @NeZero Nat Zero.ofOfNat0 0x110000 := ⟨by decide⟩

/-- Python's `str`. -/
abbrev Str := List CodePoint

instance Str.lawfulBEq : LawfulBEq Str := inferInstanceAs (LawfulBEq (List CodePoint))

/-- The string of a literal. -/
def py (s : String) : Str := s.toList.map fun c => Fin.ofNat 0x110000 c.toNat

/-- The exceptions of Python's own types, with their text. -/
inductive BuiltinError
  | typeError (msg : Str)
  | valueError (msg : Str)
  | overflowError (msg : Str)
  | unicodeEncodeError (msg : Str)

/-! ## Strings -/

/-- `str.isspace` of one code point. -/
def isSpace (c : CodePoint) : Bool :=
  (9 ≤ c.val && c.val ≤ 13) || (28 ≤ c.val && c.val ≤ 32) || c.val == 0x85 || c.val == 0xA0 || c.val == 0x1680 ||
    (0x2000 ≤ c.val && c.val ≤ 0x200A) || c.val == 0x2028 || c.val == 0x2029 || c.val == 0x202F || c.val == 0x205F ||
    c.val == 0x3000

/-- `s.strip()` -/
def strip (s : Str) : Str := ((s.dropWhile isSpace).reverse.dropWhile isSpace).reverse

/-- `sep.join(parts)` -/
def join (sep : Str) : List Str → Str
  | [] => []
  | [s] => s
  | s :: t :: l => s ++ sep ++ join sep (t :: l)

theorem join_eq_intercalate (sep : Str) : ∀ l : List Str, join sep l = sep.intercalate l
  | [] => rfl
  | [s] => by simp [join]
  | s :: t :: l => by
    rw [join, join_eq_intercalate sep (t :: l), List.intercalate_cons_cons, List.append_assoc]

/-- `sub in s` -/
def contains (sub : Str) : Str → Bool
  | [] => sub.isEmpty
  | c :: s => sub.isPrefixOf (c :: s) || contains sub s

/-- `s.replace(c, t)` of a single character. -/
def replaceChar (c : CodePoint) (t s : Str) : Str := s.flatMap fun d => if d = c then t else [d]

/-- What depends on Unicode's tables. -/
class Unicode where
  /-- `s.lower()` -/
  lower : Str → Str

export Unicode (lower)

/-- The tables as far as ASCII goes. -/
@[reducible] def asciiTables : Unicode where
  lower s := s.map fun c => if 65 ≤ c.val ∧ c.val ≤ 90 then c + 32 else c

def digit (n : Nat) : CodePoint := Fin.ofNat 0x110000 (48 + n % 10)

/-- `n` in decimal, with exactly `width` digits. -/
def padded : Nat → Nat → Str
  | 0, _ => []
  | width + 1, n => padded width (n / 10) ++ [digit n]

/-- The number of decimal digits of `n`, given enough fuel. -/
def width : Nat → Nat → Nat
  | 0, _ => 1
  | fuel + 1, n => if n < 10 then 1 else width fuel (n / 10) + 1

/-- `str(n)` of a natural number. -/
def decimal (n : Nat) : Str := padded (width n n) n

/-- `str(n)` -/
def decimalInt : Int → Str
  | .ofNat n => decimal n
  | .negSucc n => py "-" ++ decimal (n + 1)

/-! ## UTF-8 -/

def isSurrogate (c : CodePoint) : Bool := 0xD800 ≤ c.val && c.val ≤ 0xDFFF

/-- No lone surrogate: what UTF-8 can encode. -/
def Utf8Encodable (s : Str) : Prop := ∀ c ∈ s, isSurrogate c = false

instance (s : Str) : Decidable (Utf8Encodable s) := inferInstanceAs (Decidable (∀ c ∈ s, isSurrogate c = false))

def utf8Bytes (c : CodePoint) : List UInt8 :=
  let n := c.val
  if n < 0x80 then [.ofNat n]
  else if n < 0x800 then [.ofNat (0xC0 + n / 0x40), .ofNat (0x80 + n % 0x40)]
  else if n < 0x10000 then [.ofNat (0xE0 + n / 0x1000), .ofNat (0x80 + n / 0x40 % 0x40), .ofNat (0x80 + n % 0x40)]
  else [.ofNat (0xF0 + n / 0x40000), .ofNat (0x80 + n / 0x1000 % 0x40), .ofNat (0x80 + n / 0x40 % 0x40),
    .ofNat (0x80 + n % 0x40)]

/-- `s.encode("utf-8")` -/
def encodeUtf8 : Str → Except BuiltinError (List UInt8)
  | [] => .ok []
  | c :: s =>
    if isSurrogate c then .error (.unicodeEncodeError (py "surrogates not allowed"))
    else (encodeUtf8 s).map (utf8Bytes c ++ ·)

/-- What can be encoded is what has no lone surrogate. -/
theorem encodeUtf8_ok_iff : ∀ {s : Str}, (∃ b, encodeUtf8 s = .ok b) ↔ Utf8Encodable s
  | [] => by simp [encodeUtf8, Utf8Encodable]
  | c :: s => by
    have ih := encodeUtf8_ok_iff (s := s)
    unfold encodeUtf8
    cases hc : isSurrogate c with
    | true => simp [Utf8Encodable, hc]
    | false =>
      have hcons : Utf8Encodable (c :: s) ↔ Utf8Encodable s := by simp [Utf8Encodable, hc]
      rw [hcons, ← ih]
      cases encodeUtf8 s with
      | ok b => simp [Except.map]
      | error e => simp [Except.map]

theorem encodable_append {s t : Str} : Utf8Encodable (s ++ t) ↔ Utf8Encodable s ∧ Utf8Encodable t := by
  simp only [Utf8Encodable, List.mem_append]
  exact ⟨fun h => ⟨fun c hc => h c (.inl hc), fun c hc => h c (.inr hc)⟩,
    fun h c hc => hc.elim (h.1 c) (h.2 c)⟩

theorem encodable_nil : Utf8Encodable [] := by simp [Utf8Encodable]

/-- A literal has no surrogates. -/
theorem encodable_py (s : String) : Utf8Encodable (py s) := by
  intro c hc
  obtain ⟨ch, -, rfl⟩ := List.mem_map.1 hc
  have hv : ch.toNat < 0xD800 ∨ 0xDFFF < ch.toNat ∧ ch.toNat < 0x110000 := ch.valid
  have hn : (Fin.ofNat 0x110000 ch.toNat).val = ch.toNat := Nat.mod_eq_of_lt (by omega)
  simp only [isSurrogate, hn, Bool.and_eq_false_iff, decide_eq_false_iff_not]
  omega

/-- A join can be encoded when its parts and the separator can. -/
theorem encodable_join {sep : Str} (hs : Utf8Encodable sep) : ∀ {l : List Str}, (∀ s ∈ l, Utf8Encodable s) →
    Utf8Encodable (join sep l)
  | [], _ => encodable_nil
  | [s], h => h s (by simp)
  | s :: t :: l, h => by
    have ih : Utf8Encodable (join sep (t :: l)) := encodable_join hs fun u hu => h u (by simp at hu ⊢; exact .inr hu)
    exact encodable_append.2 ⟨encodable_append.2 ⟨h s (by simp), hs⟩, ih⟩

/-- And only then, up to the separator. -/
theorem encodable_of_join {sep : Str} : ∀ {l : List Str}, Utf8Encodable (join sep l) → ∀ s ∈ l, Utf8Encodable s
  | [s], h, t, ht => by
    rw [List.mem_singleton.1 ht]
    exact h
  | s :: t :: l, h, u, hu => by
    have h' := encodable_append.1 h
    rcases List.mem_cons.1 hu with rfl | hu
    · exact (encodable_append.1 h'.1).1
    · exact encodable_of_join h'.2 u hu

/-! ## Floats -/

/-- The least integer that rounds to no finite double. -/
def FLOAT_BOUND : Int := 2 ^ 1024 - 2 ^ 970

/-- `n` converts to a float. -/
def FloatFits (n : Int) : Prop := -FLOAT_BOUND < n ∧ n < FLOAT_BOUND

instance (n : Int) : Decidable (FloatFits n) := inferInstanceAs (Decidable (_ ∧ _))

/-! ## Dates -/

/-- An instant: microseconds from the start of the year 1, UTC. -/
abbrev Instant := Int

/-- `datetime.max` as an instant. -/
def MAX_INSTANT : Instant := 3652059 * 86400000000 - 1

/-- A `datetime`: microseconds on its own clock from the start of the year 1, and the clock's offset if it has one. -/
structure DateTime where
  wall : Int
  utcoffset : Option Int
  deriving DecidableEq

namespace DateTime

def aware (d : DateTime) : Bool := d.utcoffset.isSome

/-- `datetime.max.replace(tzinfo=UTC)` -/
def maxUtc : DateTime := ⟨MAX_INSTANT, some 0⟩

/-- `a == b`: a naive date equals no aware one. -/
def eq (a b : DateTime) : Bool :=
  match a.utcoffset, b.utcoffset with
  | none, none => a.wall == b.wall
  | some s, some t => a.wall - s == b.wall - t
  | _, _ => false

/-- `a < b` -/
def lt (a b : DateTime) : Except BuiltinError Bool :=
  match a.utcoffset, b.utcoffset with
  | none, none => .ok (a.wall < b.wall)
  | some s, some t => .ok (a.wall - s < b.wall - t)
  | _, _ => .error (.typeError (py "can't compare offset-naive and offset-aware datetimes"))

theorem lt_ok {a b : DateTime} (h : a.aware = b.aware) : ∃ r, a.lt b = .ok r := by
  unfold aware at h
  unfold lt
  cases ha : a.utcoffset <;> cases hb : b.utcoffset <;> simp_all

/-! ### The ISO form -/

def isLeap (y : Nat) : Bool := y % 4 == 0 && (y % 100 != 0 || y % 400 == 0)

/-- The days before the year `y`. -/
def daysBeforeYear (y : Nat) : Nat := (y - 1) * 365 + (y - 1) / 4 - (y - 1) / 100 + (y - 1) / 400

def daysInMonth (y m : Nat) : Nat :=
  if m = 2 then (if isLeap y then 29 else 28) else if m = 4 ∨ m = 6 ∨ m = 9 ∨ m = 11 then 30 else 31

/-- The month and day of the `n`-th day (from 0) of the months from `m` on. -/
def monthDay (y : Nat) : Nat → Nat → Nat → Nat × Nat
  | 0, m, n => (m, n + 1)
  | fuel + 1, m, n => if n < daysInMonth y m then (m, n + 1) else monthDay y fuel (m + 1) (n - daysInMonth y m)

/-- Year, month and day of a day counted from 0. -/
def ymd (days : Nat) : Nat × Nat × Nat :=
  let guess := days / 366 + 1
  let y := ((List.range 30).map (guess + ·)).foldl (fun y y' => if daysBeforeYear y' ≤ days then y' else y) guess
  (y, monthDay y 11 1 (days - daysBeforeYear y))

/-- `[+-]HH:MM[:SS[.ffffff]]` -/
def formatOffset (off : Int) : Str :=
  let us := off.natAbs
  let seconds := us / 1000000
  py (if off < 0 then "-" else "+") ++ padded 2 (seconds / 3600) ++ py ":" ++ padded 2 (seconds / 60 % 60) ++
    (if us % 60000000 = 0 then [] else py ":" ++ padded 2 (seconds % 60) ++
      (if us % 1000000 = 0 then [] else py "." ++ padded 6 (us % 1000000)))

/-- `d.isoformat()` -/
def isoformat (d : DateTime) : Str :=
  let us := d.wall.toNat
  let date := ymd (us / 86400000000)
  let seconds := us / 1000000 % 86400
  padded 4 date.1 ++ py "-" ++ padded 2 date.2.1 ++ py "-" ++ padded 2 date.2.2 ++ py "T" ++
    padded 2 (seconds / 3600) ++ py ":" ++ padded 2 (seconds / 60 % 60) ++ py ":" ++ padded 2 (seconds % 60) ++
    (if us % 1000000 = 0 then [] else py "." ++ padded 6 (us % 1000000)) ++
    (d.utcoffset.elim [] formatOffset)

example : isoformat ⟨(719162 + 19782) * 86400000000 + 3661000001, some 7200000000⟩ =
    py "2024-02-29T01:01:01.000001+02:00" := by decide +kernel

theorem encodable_padded : ∀ w n : Nat, Utf8Encodable (padded w n)
  | 0, _ => encodable_nil
  | w + 1, n => by
    refine encodable_append.2 ⟨encodable_padded w _, ?_⟩
    have hd : (digit n).val = 48 + n % 10 := Nat.mod_eq_of_lt (by omega)
    intro c hc
    rw [List.mem_singleton.1 hc]
    simp only [isSurrogate, hd, Bool.and_eq_false_iff, decide_eq_false_iff_not]
    omega

theorem encodable_formatOffset (off : Int) : Utf8Encodable (formatOffset off) := by
  unfold formatOffset
  refine encodable_append.2 ⟨?_, ?_⟩
  · simp only [encodable_append, encodable_padded, encodable_py, and_self]
  · split
    · exact encodable_nil
    · refine encodable_append.2 ⟨by simp only [encodable_append, encodable_padded, encodable_py, and_self], ?_⟩
      split
      · exact encodable_nil
      · simp only [encodable_append, encodable_padded, encodable_py, and_self]

theorem encodable_isoformat (d : DateTime) : Utf8Encodable d.isoformat := by
  unfold isoformat
  refine encodable_append.2 ⟨encodable_append.2 ⟨?_, ?_⟩, ?_⟩
  · simp only [encodable_append, encodable_padded, encodable_py, and_self]
  · split
    · exact encodable_nil
    · simp only [encodable_append, encodable_padded, encodable_py, and_self]
  · cases d.utcoffset with
    | none => exact encodable_nil
    | some off => exact encodable_formatOffset off

end DateTime

/-! ## JSON -/

/-- A decoded JSON value; a number with a fraction or an exponent is kept as its text. -/
inductive Json
  | null
  | bool (b : Bool)
  | int (n : Int)
  | float (text : Str)
  | str (s : Str)
  | arr (l : List Json)
  | obj (entries : List (Str × Json))

/-- A decoded JSON object: its entries. -/
abbrev Payload := List (Str × Json)

namespace Json

/-- `d.get(key)` of a decoded object: the last entry of a repeated key counts. -/
def get? (entries : List (Str × Json)) (key : Str) : Option Json :=
  (entries.reverse.find? fun p => p.1 = key).map Prod.snd

/-- `value if isinstance(value, str) else None` -/
def str? : Json → Option Str
  | .str s => some s
  | _ => none

/-- `isinstance(value, int)`, where a `bool` is one too. -/
def int? : Json → Option Int
  | .int n => some n
  | .bool b => some (if b then 1 else 0)
  | _ => none

/-- `value if isinstance(value, dict) else None` -/
def obj? : Json → Option (List (Str × Json))
  | .obj entries => some entries
  | _ => none

/-- `type(value).__name__` -/
def typeName : Json → Str
  | .null => py "NoneType"
  | .bool _ => py "bool"
  | .int _ => py "int"
  | .float _ => py "float"
  | .str _ => py "str"
  | .arr _ => py "list"
  | .obj _ => py "dict"

end Json

/-- What a string read as JSON comes to; an exception other than `JSONDecodeError` is kept as its text. -/
inductive Loaded
  | value (v : Json)
  | malformed
  | failed (msg : Str)

/-- What depends on the digits of floats, on Unicode's tables or on the grammar of JSON. -/
class Builtins where
  /-- `repr(value)` -/
  repr : Json → Str
  /-- `x == n` of a float -/
  floatEq : Str → Int → Bool
  /-- `bool(x)` of a float -/
  floatTruth : Str → Bool
  /-- `int(x)` of a float -/
  floatInt : Str → Except BuiltinError Int
  /-- `int(s)` of a string -/
  strInt : Str → Except BuiltinError Int
  /-- `json.loads(s)` -/
  loads : Str → Loaded
  /-- `json.dumps(value, sort_keys=True)` -/
  dumps : Json → Str

/-- Built-ins for samples: integers and plain strings as Python has them, the rest left out. -/
@[reducible] def sampleBuiltins : Builtins where
  repr v :=
    match v with
    | .int n => decimalInt n
    | .str s => py "'" ++ s ++ py "'"
    | _ => py "None"
  floatEq _ _ := false
  floatTruth _ := true
  floatInt _ := .ok 0
  strInt _ := .error (.valueError (py "invalid literal for int() with base 10"))
  loads _ := .malformed
  dumps _ := []

namespace Json

variable [Builtins]

/-- `bool(value)` -/
def truthy : Json → Bool
  | .null => false
  | .bool b => b
  | .int n => n != 0
  | .float text => Builtins.floatTruth text
  | .str s => !s.isEmpty
  | .arr l => !l.isEmpty
  | .obj entries => !entries.isEmpty

/-- `str(value)` -/
def toStr : Json → Str
  | .str s => s
  | v => Builtins.repr v

/-- `value == n` -/
def eqInt (v : Json) (n : Int) : Bool :=
  match v with
  | .float text => Builtins.floatEq text n
  | v => v.int? == some n

/-- `int(value)` -/
def toInt (v : Json) : Except BuiltinError Int :=
  match v with
  | .bool b => .ok (if b then 1 else 0)
  | .int n => .ok n
  | .float text => Builtins.floatInt text
  | .str s => Builtins.strInt s
  | v => .error (.typeError (py "int() argument must be a string, a bytes-like object or a real number, not '" ++
      v.typeName ++ py "'"))

end Json

end Py
