import Mathlib.Data.List.Basic
import RiverGang.Lib.Py

/-!
# What can be read back

Encodings that keep what they encode: texts from their UTF-8 (`encodeUtf8_inj`, and `decodeUtf8` reads them back), the
parts of a join from a separator that none of them contains (`join_inj`), numbers from their digits (`padded_inj`), and
dates from their ISO form (`DateTime.isoformat_inj`), as long as they are dates that Python has.
-/

namespace Py

/-! ## UTF-8 -/

theorem toNat_ofNat {n : Nat} (h : n < 256) : (UInt8.ofNat n).toNat = n := by
  rw [UInt8.toNat_ofNat']
  exact Nat.mod_eq_of_lt h

/-- The bytes of a code point, as numbers. -/
theorem map_utf8Bytes (c : CodePoint) : (utf8Bytes c).map UInt8.toNat =
    if c.val < 0x80 then [c.val]
    else if c.val < 0x800 then [0xC0 + c.val / 0x40, 0x80 + c.val % 0x40]
    else if c.val < 0x10000 then [0xE0 + c.val / 0x1000, 0x80 + c.val / 0x40 % 0x40, 0x80 + c.val % 0x40]
    else [0xF0 + c.val / 0x40000, 0x80 + c.val / 0x1000 % 0x40, 0x80 + c.val / 0x40 % 0x40, 0x80 + c.val % 0x40] := by
  have hc := c.isLt
  unfold utf8Bytes
  dsimp only
  split_ifs <;> simp (disch := omega) only [List.map_cons, List.map_nil, toNat_ofNat]

/-- The first byte says how many follow: a code point is read back from the front. -/
theorem utf8Bytes_append_inj {c d : CodePoint} {r r' : List UInt8} (h : utf8Bytes c ++ r = utf8Bytes d ++ r') :
    c = d ∧ r = r' := by
  have hm := congrArg (List.map UInt8.toNat) h
  rw [List.map_append, List.map_append, map_utf8Bytes, map_utf8Bytes] at hm
  have hc := c.isLt
  have hd := d.isLt
  have hcd : c = d := by
    apply Fin.ext
    -- sixteen pairs of shapes, most of them told apart by the first byte
    split_ifs at hm <;> simp only [List.cons_append, List.nil_append, List.cons.injEq] at hm <;> omega
  subst hcd
  exact ⟨rfl, List.append_cancel_left h⟩

theorem utf8Bytes_append_ne_nil (c : CodePoint) (r : List UInt8) : utf8Bytes c ++ r ≠ [] := by
  unfold utf8Bytes
  dsimp only
  split_ifs <;> simp

theorem encodeUtf8_cons {c : CodePoint} {s : Str} {b : List UInt8} (h : encodeUtf8 (c :: s) = .ok b) :
    ∃ b', encodeUtf8 s = .ok b' ∧ b = utf8Bytes c ++ b' := by
  unfold encodeUtf8 at h
  split at h
  · cases h
  · cases hs : encodeUtf8 s with
    | error e =>
      rw [hs] at h
      cases h
    | ok b' =>
      rw [hs] at h
      cases h
      exact ⟨b', rfl, rfl⟩

/-- Texts of the same bytes are the same. -/
theorem encodeUtf8_inj : ∀ {s t : Str} {b : List UInt8}, encodeUtf8 s = .ok b → encodeUtf8 t = .ok b → s = t
  | [], [], _, _, _ => rfl
  | [], d :: t, b, hs, ht => by
    cases hs
    obtain ⟨b', -, hb⟩ := encodeUtf8_cons ht
    exact absurd hb (utf8Bytes_append_ne_nil d b').symm
  | c :: s, [], b, hs, ht => by
    cases ht
    obtain ⟨b', -, hb⟩ := encodeUtf8_cons hs
    exact absurd hb (utf8Bytes_append_ne_nil c b').symm
  | c :: s, d :: t, b, hs, ht => by
    obtain ⟨b₁, h₁, rfl⟩ := encodeUtf8_cons hs
    obtain ⟨b₂, h₂, hb⟩ := encodeUtf8_cons ht
    obtain ⟨rfl, rfl⟩ := utf8Bytes_append_inj hb
    rw [encodeUtf8_inj h₁ h₂]

def isTail (b : UInt8) : Bool := 0x80 ≤ b.toNat && b.toNat < 0xC0

/-- `b.decode("utf-8", "surrogatepass")`; without a text it raises `UnicodeDecodeError`. -/
def decodeUtf8 : List UInt8 → Option Str
  | [] => some []
  | a :: s =>
    if a.toNat < 0x80 then (decodeUtf8 s).map (Fin.ofNat 0x110000 a.toNat :: ·)
    else
      match s with
      | [] => none
      | b :: s =>
        if 0xC2 ≤ a.toNat && a.toNat < 0xE0 && isTail b then
          (decodeUtf8 s).map (Fin.ofNat 0x110000 ((a.toNat - 0xC0) * 0x40 + (b.toNat - 0x80)) :: ·)
        else
          match s with
          | [] => none
          | c :: s =>
            let n := (a.toNat - 0xE0) * 0x1000 + (b.toNat - 0x80) * 0x40 + (c.toNat - 0x80)
            if 0xE0 ≤ a.toNat && a.toNat < 0xF0 && isTail b && isTail c && 0x800 ≤ n then
              (decodeUtf8 s).map (Fin.ofNat 0x110000 n :: ·)
            else
              match s with
              | [] => none
              | d :: s =>
                let n := (a.toNat - 0xF0) * 0x40000 + (b.toNat - 0x80) * 0x1000 + (c.toNat - 0x80) * 0x40 +
                  (d.toNat - 0x80)
                if 0xF0 ≤ a.toNat && isTail b && isTail c && isTail d && 0x10000 ≤ n && n < 0x110000 then
                  (decodeUtf8 s).map (Fin.ofNat 0x110000 n :: ·)
                else none

theorem isTail_ofNat {n : Nat} (h : 0x80 ≤ n ∧ n < 0xC0) : isTail (.ofNat n) = true := by
  simp only [isTail, toNat_ofNat (show n < 256 by omega), Bool.and_eq_true, decide_eq_true_eq]
  exact h

/-- A code point is read off the front. -/
theorem decodeUtf8_append (c : CodePoint) (s : List UInt8) :
    decodeUtf8 (utf8Bytes c ++ s) = (decodeUtf8 s).map (c :: ·) := by
  have hc := c.isLt
  have hval : ∀ {n : Nat}, n = c.val → Fin.ofNat 0x110000 n = c := by
    rintro n rfl
    exact Fin.ext (Nat.mod_eq_of_lt hc)
  unfold utf8Bytes
  dsimp only
  split_ifs with h₁ h₂ h₃
  · rw [List.cons_append, decodeUtf8.eq_def]
    simp (disch := omega) only [toNat_ofNat, h₁, if_true, List.nil_append, hval rfl]
  · rw [List.cons_append, List.cons_append, decodeUtf8.eq_def]
    dsimp only
    rw [toNat_ofNat (by omega), toNat_ofNat (by omega), if_neg (by omega), if_pos, hval (by omega), List.nil_append]
    simp only [Bool.and_eq_true, decide_eq_true_eq]
    exact ⟨by omega, isTail_ofNat (by omega)⟩
  · rw [List.cons_append, List.cons_append, List.cons_append, decodeUtf8.eq_def]
    dsimp only
    rw [toNat_ofNat (by omega), toNat_ofNat (by omega), toNat_ofNat (by omega), if_neg (by omega), if_neg, if_pos,
      hval (by omega), List.nil_append]
    · simp only [Bool.and_eq_true, decide_eq_true_eq]
      exact ⟨⟨⟨by omega, isTail_ofNat (by omega)⟩, isTail_ofNat (by omega)⟩, by omega⟩
    · simp only [Bool.and_eq_true, decide_eq_true_eq]
      omega
  · rw [List.cons_append, List.cons_append, List.cons_append, List.cons_append, decodeUtf8.eq_def]
    dsimp only
    rw [toNat_ofNat (by omega), toNat_ofNat (by omega), toNat_ofNat (by omega), toNat_ofNat (by omega), if_neg (by omega),
      if_neg, if_neg, if_pos, hval (by omega), List.nil_append]
    · simp only [Bool.and_eq_true, decide_eq_true_eq]
      exact ⟨⟨⟨⟨⟨by omega, isTail_ofNat (by omega)⟩, isTail_ofNat (by omega)⟩, isTail_ofNat (by omega)⟩, by omega⟩,
        by omega⟩
    · simp only [Bool.and_eq_true, decide_eq_true_eq]
      omega
    · simp only [Bool.and_eq_true, decide_eq_true_eq]
      omega

/-- **A text is decoded** from its bytes. -/
theorem decodeUtf8_encodeUtf8 : ∀ {s : Str} {b : List UInt8}, encodeUtf8 s = .ok b → decodeUtf8 b = some s
  | [], b, h => by
    cases h
    rfl
  | c :: s, b, h => by
    obtain ⟨b', hb', rfl⟩ := encodeUtf8_cons h
    rw [decodeUtf8_append, decodeUtf8_encodeUtf8 hb', Option.map_some]

/-! ## Joins -/

/-- The parts of a join are read back, where none contains the separator. -/
theorem join_inj {c : CodePoint} {l l' : List Str} (hl : ∀ s ∈ l, c ∉ s) (hl' : ∀ s ∈ l', c ∉ s) (hne : l ≠ [])
    (hne' : l' ≠ []) (h : join [c] l = join [c] l') : l = l' := by
  rw [join_eq_intercalate, join_eq_intercalate] at h
  rw [← List.splitOn_intercalate c hl hne, h, List.splitOn_intercalate c hl' hne']

/-- Records of one length are read back from their fields in a row. -/
theorem flatMap_inj {α β : Type} {f : α → List β} {n : Nat} (hn : 0 < n) (hlen : ∀ x, (f x).length = n) :
    ∀ {l l' : List α}, (∀ x ∈ l, ∀ y ∈ l', f x = f y → x = y) → l.flatMap f = l'.flatMap f → l = l'
  | [], [], _, _ => rfl
  | [], y :: l', _, h => by
    have hy := congrArg List.length h
    rw [List.flatMap_cons, List.length_append, hlen, List.flatMap_nil, List.length_nil] at hy
    omega
  | x :: l, [], _, h => by
    have hx := congrArg List.length h
    rw [List.flatMap_cons, List.length_append, hlen, List.flatMap_nil, List.length_nil] at hx
    omega
  | x :: l, y :: l', hf, h => by
    rw [List.flatMap_cons, List.flatMap_cons] at h
    obtain ⟨hxy, hl⟩ := List.append_inj h (by rw [hlen, hlen])
    have ih := flatMap_inj hn hlen (fun x hx y hy => hf x (List.mem_cons_of_mem _ hx) y (List.mem_cons_of_mem _ hy)) hl
    rw [hf x List.mem_cons_self y List.mem_cons_self hxy, ih]

/-! ## Digits -/

theorem length_padded : ∀ w n : Nat, (padded w n).length = w
  | 0, _ => rfl
  | w + 1, n => by
    unfold padded
    rw [List.length_append, length_padded, List.length_singleton]

theorem digit_val (n : Nat) : (digit n).val = 48 + n % 10 := Nat.mod_eq_of_lt (by omega)

/-- A number of at most `w` digits is read back from `w` digits. -/
theorem padded_inj : ∀ {w n m : Nat}, n < 10 ^ w → m < 10 ^ w → padded w n = padded w m → n = m
  | 0, n, m, hn, hm, _ => by
    rw [Nat.pow_zero] at hn hm
    omega
  | w + 1, n, m, hn, hm, h => by
    rw [Nat.pow_succ] at hn hm
    obtain ⟨h₁, h₂⟩ := List.append_inj h (by rw [length_padded, length_padded])
    have hq : n / 10 = m / 10 := padded_inj (by omega) (by omega) h₁
    have hd : (digit n).val = (digit m).val := by rw [List.singleton_inj.1 h₂]
    rw [digit_val, digit_val] at hd
    omega

/-- The same in front of something else. -/
theorem padded_append_inj {w n m : Nat} {s t : Str} (hn : n < 10 ^ w) (hm : m < 10 ^ w)
    (h : padded w n ++ s = padded w m ++ t) : n = m ∧ s = t := by
  obtain ⟨h₁, h₂⟩ := List.append_inj h (by rw [length_padded, length_padded])
  exact ⟨padded_inj hn hm h₁, h₂⟩

/-! ## Dates -/

namespace DateTime

/-- A date that Python has: from the year 1 to the year 9999, with an offset of less than a day. -/
structure Valid (d : DateTime) : Prop where
  nonneg : 0 ≤ d.wall
  le_max : d.wall ≤ MAX_INSTANT
  offset : ∀ off ∈ d.utcoffset, off.natAbs < 86400000000

/-! ### Days -/

/-- The last number from `guess` on, within `k` steps, at which `f` is at most `n`. -/
theorem foldl_last {f : Nat → Nat} {guess n : Nat} (hg : f guess ≤ n) : ∀ k, ∃ y,
    ((List.range k).map (guess + ·)).foldl (fun y y' => if f y' ≤ n then y' else y) guess = y ∧ f y ≤ n ∧ guess ≤ y ∧
      ∀ y', y < y' → y' < guess + k → n < f y'
  | 0 => ⟨guess, rfl, hg, Nat.le_refl _, fun y' h h' => by omega⟩
  | k + 1 => by
    obtain ⟨y, hy, hle, hgy, hlast⟩ := foldl_last hg k
    rw [List.range_succ, List.map_append, List.foldl_append, hy]
    simp only [List.map_cons, List.map_nil, List.foldl_cons, List.foldl_nil]
    split
    · rename_i hk
      exact ⟨_, rfl, hk, by omega, fun y' h h' => by omega⟩
    · rename_i hk
      refine ⟨_, rfl, hle, hgy, fun y' h h' => ?_⟩
      rcases Nat.lt_or_ge y' (guess + k) with h'' | h''
      · exact hlast y' h h''
      · have : y' = guess + k := by omega
        rw [this]
        omega

theorem daysBeforeYear_succ (y : Nat) : daysBeforeYear (y + 1) ≤ daysBeforeYear y + 366 := by
  -- every fourth century year is one that is divisible by 400
  have h : y / 400 = y / 100 / 4 := (Nat.div_div_eq_div_mul y 100 4).symm
  have h' : (y - 1) / 400 = (y - 1) / 100 / 4 := (Nat.div_div_eq_div_mul (y - 1) 100 4).symm
  have h4 : y / 4 ≤ (y - 1) / 4 + 1 := by omega
  have h100 : (y - 1) / 100 ≤ y / 100 ∧ y / 100 ≤ (y - 1) / 100 + 1 ∧ y / 100 ≤ y := by omega
  have h400 : y / 100 / 4 + (y - 1) / 100 ≤ (y - 1) / 100 / 4 + y / 100 := by omega
  unfold daysBeforeYear
  rw [Nat.add_sub_cancel, h, h']
  omega

/-- The year of a day is the one that it falls into. -/
theorem ymd_year {days : Nat} (h : days < 3652059) : (ymd days).1 < 10000 ∧ daysBeforeYear (ymd days).1 ≤ days ∧
    days < daysBeforeYear (ymd days).1 + 366 := by
  have hg : daysBeforeYear (days / 366 + 1) ≤ days := by
    unfold daysBeforeYear
    omega
  obtain ⟨y, hy, hle, hgy, hlast⟩ := foldl_last hg 30
  have hymd : (ymd days).1 = y := hy
  rw [hymd]
  have hlt : y < days / 366 + 30 := by
    by_contra hge
    unfold daysBeforeYear at hle
    omega
  have hnext : days < daysBeforeYear (y + 1) := by
    rcases Nat.lt_or_ge (y + 1) (days / 366 + 1 + 30) with h' | h'
    · exact hlast _ (by omega) h'
    · unfold daysBeforeYear
      omega
  have hstep := daysBeforeYear_succ y
  refine ⟨?_, hle, by omega⟩
  unfold daysBeforeYear at hle
  omega

theorem daysInMonth_bounds (y m : Nat) : 28 ≤ daysInMonth y m ∧ daysInMonth y m ≤ 31 := by
  unfold daysInMonth
  split_ifs <;> omega

theorem monthDay_month (y : Nat) : ∀ fuel m n : Nat, m ≤ (monthDay y fuel m n).1 ∧ (monthDay y fuel m n).1 ≤ m + fuel
  | 0, m, n => ⟨Nat.le_refl _, Nat.le_refl _⟩
  | fuel + 1, m, n => by
    unfold monthDay
    have ih := monthDay_month y fuel (m + 1) (n - daysInMonth y m)
    split
    · exact ⟨Nat.le_refl _, by omega⟩
    · omega

theorem monthDay_day {y : Nat} : ∀ {fuel m n : Nat}, n < 28 * fuel + 58 → (monthDay y fuel m n).2 < 100
  | 0, m, n, h => by
    unfold monthDay
    omega
  | fuel + 1, m, n, h => by
    have hm := daysInMonth_bounds y m
    unfold monthDay
    split
    · omega
    · exact monthDay_day (by omega)

/-- A day is read back from its month and the day in it. -/
theorem monthDay_inj {y : Nat} : ∀ {fuel m n n' : Nat}, monthDay y fuel m n = monthDay y fuel m n' → n = n'
  | 0, m, n, n', h => by
    have h2 : n + 1 = n' + 1 := congrArg Prod.snd h
    omega
  | fuel + 1, m, n, n', h => by
    have hlt := (monthDay_month y fuel (m + 1) (n - daysInMonth y m)).1
    have hlt' := (monthDay_month y fuel (m + 1) (n' - daysInMonth y m)).1
    unfold monthDay at h
    split at h <;> split at h
    · have h2 : n + 1 = n' + 1 := congrArg Prod.snd h
      omega
    · rw [← h] at hlt'
      omega
    · rw [h] at hlt
      omega
    · have ih := monthDay_inj h
      omega

/-- Year, month and day have four, two and two digits. -/
theorem ymd_bounds {days : Nat} (h : days < 3652059) :
    (ymd days).1 < 10 ^ 4 ∧ (ymd days).2.1 < 10 ^ 2 ∧ (ymd days).2.2 < 10 ^ 2 := by
  obtain ⟨hy, hle, hlt⟩ := ymd_year h
  have hm : (ymd days).2.1 ≤ 1 + 11 := (monthDay_month (ymd days).1 11 1 (days - daysBeforeYear (ymd days).1)).2
  have hd : (monthDay (ymd days).1 11 1 (days - daysBeforeYear (ymd days).1)).2 < 100 := monthDay_day (by omega)
  exact ⟨hy, by omega, hd⟩

theorem ymd_inj {days days' : Nat} (h : days < 3652059) (h' : days' < 3652059) (he : ymd days = ymd days') :
    days = days' := by
  have hy := ymd_year h
  have hy' := ymd_year h'
  have hyear : (ymd days).1 = (ymd days').1 := by rw [he]
  have hmd : (ymd days).2 = (ymd days').2 := by rw [he]
  rw [show (ymd days).2 = monthDay (ymd days).1 11 1 (days - daysBeforeYear (ymd days).1) from rfl,
    show (ymd days').2 = monthDay (ymd days').1 11 1 (days' - daysBeforeYear (ymd days').1) from rfl, hyear] at hmd
  have := monthDay_inj hmd
  rw [hyear] at hy
  omega

/-! ### The parts of the form -/

/-- `.ffffff`, if there are microseconds. -/
def fraction (us : Nat) : Str := if us % 1000000 = 0 then [] else py "." ++ padded 6 (us % 1000000)

/-- Where the fraction ends, no digit or point follows. -/
theorem fraction_append_inj {us us' : Nat} {s t : Str} (hs : s.head? ≠ (py ".").head?) (ht : t.head? ≠ (py ".").head?)
    (h : fraction us ++ s = fraction us' ++ t) : us % 1000000 = us' % 1000000 ∧ s = t := by
  unfold fraction at h
  split at h <;> split at h
  · exact ⟨by omega, h⟩
  · rw [List.nil_append] at h
    rw [h] at hs
    exact absurd rfl hs
  · rw [List.nil_append] at h
    rw [← h] at ht
    exact absurd rfl ht
  · rw [List.append_assoc, List.append_assoc] at h
    exact padded_append_inj (by omega) (by omega) (List.append_cancel_left h)

theorem formatOffset_eq (off : Int) : formatOffset off =
    py (if off < 0 then "-" else "+") ++ (padded 2 (off.natAbs / 1000000 / 3600) ++ (py ":" ++
      (padded 2 (off.natAbs / 1000000 / 60 % 60) ++ (if off.natAbs % 60000000 = 0 then [] else
        py ":" ++ (padded 2 (off.natAbs / 1000000 % 60) ++ fraction off.natAbs))))) := by
  simp only [formatOffset, fraction, List.append_assoc]

theorem div_hour (n : Nat) : n / 3600 = n / 60 / 60 := (Nat.div_div_eq_div_mul n 60 60).symm

theorem formatOffset_inj {off off' : Int} (h : off.natAbs < 86400000000) (h' : off'.natAbs < 86400000000)
    (he : formatOffset off = formatOffset off') : off = off' := by
  rw [formatOffset_eq, formatOffset_eq] at he
  obtain ⟨hsign, he⟩ := List.append_inj he (by split_ifs <;> rfl)
  have hsign : off < 0 ↔ off' < 0 := by
    by_cases h₁ : off < 0 <;> by_cases h₂ : off' < 0 <;> simp only [h₁, h₂, if_true, if_false] at hsign ⊢
    · exact absurd hsign (by decide)
    · exact absurd hsign (by decide)
  obtain ⟨hhour, he⟩ := padded_append_inj (by omega) (by omega) he
  obtain ⟨hminute, he⟩ := padded_append_inj (by omega) (by omega) (List.append_cancel_left he)
  rw [div_hour, div_hour] at hhour
  have habs : off.natAbs = off'.natAbs := by
    split at he <;> split at he
    · omega
    · cases he
    · cases he
    · obtain ⟨hsecond, he⟩ := padded_append_inj (by omega) (by omega) (List.append_cancel_left he)
      have hus : off.natAbs % 1000000 = off'.natAbs % 1000000 :=
        (fraction_append_inj (s := []) (t := []) nofun nofun (congrArg (· ++ []) he)).1
      omega
  omega

/-- A sign comes first. -/
theorem head?_offset (o : Option Int) : (o.elim [] formatOffset).head? ≠ (py ".").head? := by
  cases o with
  | none => nofun
  | some off =>
    have hminus : py "-" = [45] := by decide
    have hplus : py "+" = [43] := by decide
    have hpoint : py "." = [46] := by decide
    rw [Option.elim_some, formatOffset_eq, hpoint]
    split_ifs <;> simp [hminus, hplus]

theorem offset_inj {o o' : Option Int} (h : ∀ off ∈ o, off.natAbs < 86400000000)
    (h' : ∀ off ∈ o', off.natAbs < 86400000000) (he : o.elim [] formatOffset = o'.elim [] formatOffset) : o = o' := by
  have hne : ∀ off, formatOffset off ≠ [] := fun off hn => by
    rw [formatOffset_eq] at hn
    split_ifs at hn <;> cases hn
  cases o with
  | none =>
    cases o' with
    | none => rfl
    | some off' => exact absurd he.symm (hne off')
  | some off =>
    cases o' with
    | none => exact absurd he (hne off)
    | some off' => rw [formatOffset_inj (h off rfl) (h' off' rfl) he]

theorem isoformat_eq (d : DateTime) : d.isoformat =
    padded 4 (ymd (d.wall.toNat / 86400000000)).1 ++ (py "-" ++ (padded 2 (ymd (d.wall.toNat / 86400000000)).2.1 ++
      (py "-" ++ (padded 2 (ymd (d.wall.toNat / 86400000000)).2.2 ++ (py "T" ++
        (padded 2 (d.wall.toNat / 1000000 % 86400 / 3600) ++ (py ":" ++
          (padded 2 (d.wall.toNat / 1000000 % 86400 / 60 % 60) ++ (py ":" ++
            (padded 2 (d.wall.toNat / 1000000 % 86400 % 60) ++
              (fraction d.wall.toNat ++ d.utcoffset.elim [] formatOffset))))))))))) := by
  simp only [isoformat, fraction, List.append_assoc]

theorem isoformat_ne_nil (d : DateTime) : d.isoformat ≠ [] := by
  intro h
  have hl := congrArg List.length h
  rw [isoformat_eq, List.length_append, length_padded, List.length_nil] at hl
  omega

theorem ne_zero_of_mem_padded : ∀ {w n : Nat} {c : CodePoint}, c ∈ padded w n → c ≠ 0
  | w + 1, n, c, hc => by
    rcases List.mem_append.1 hc with hc | hc
    · exact ne_zero_of_mem_padded hc
    · rw [List.mem_singleton.1 hc]
      intro h0
      have hv : (digit n).val = 0 := by rw [h0]; rfl
      rw [digit_val] at hv
      omega

/-- There is no NUL in it. -/
theorem nul_not_mem_isoformat (d : DateTime) : (0 : CodePoint) ∉ d.isoformat := by
  have hp : ∀ w n, (0 : CodePoint) ∉ padded w n := fun w n h => ne_zero_of_mem_padded h rfl
  have hf : ∀ us, (0 : CodePoint) ∉ fraction us := fun us => by
    unfold fraction
    split_ifs
    · exact List.not_mem_nil
    · simp only [List.mem_append, hp, or_false]
      decide
  have h1 : (0 : CodePoint) ∉ py "-" ∧ (0 : CodePoint) ∉ py "+" ∧ (0 : CodePoint) ∉ py ":" ∧ (0 : CodePoint) ∉ py "T" := by
    decide
  have ho : (0 : CodePoint) ∉ d.utcoffset.elim [] formatOffset := by
    cases d.utcoffset with
    | none => exact List.not_mem_nil
    | some off =>
      rw [Option.elim_some, formatOffset_eq]
      split_ifs <;> simp only [List.mem_append, List.not_mem_nil, hp, hf, h1, or_false, not_false_eq_true]
  rw [isoformat_eq]
  simp only [List.mem_append, hp, hf, h1, ho, or_false, not_false_eq_true]

/-- **A date is read back** from its ISO form. -/
theorem isoformat_inj {d d' : DateTime} (h : d.Valid) (h' : d'.Valid) (he : d.isoformat = d'.isoformat) : d = d' := by
  obtain ⟨h0, hmax, hoff⟩ := h
  obtain ⟨h0', hmax', hoff'⟩ := h'
  have hle : d.wall ≤ 3652059 * 86400000000 - 1 := hmax
  have hle' : d'.wall ≤ 3652059 * 86400000000 - 1 := hmax'
  have hdays : d.wall.toNat / 86400000000 < 3652059 := by omega
  have hdays' : d'.wall.toNat / 86400000000 < 3652059 := by omega
  have hbounds := ymd_bounds hdays
  have hbounds' := ymd_bounds hdays'
  rw [isoformat_eq, isoformat_eq] at he
  obtain ⟨hy, he⟩ := padded_append_inj hbounds.1 hbounds'.1 he
  obtain ⟨hmo, he⟩ := padded_append_inj hbounds.2.1 hbounds'.2.1 (List.append_cancel_left he)
  obtain ⟨hd, he⟩ := padded_append_inj hbounds.2.2 hbounds'.2.2 (List.append_cancel_left he)
  obtain ⟨hhour, he⟩ := padded_append_inj (by omega) (by omega) (List.append_cancel_left he)
  obtain ⟨hminute, he⟩ := padded_append_inj (by omega) (by omega) (List.append_cancel_left he)
  obtain ⟨hsecond, he⟩ := padded_append_inj (by omega) (by omega) (List.append_cancel_left he)
  obtain ⟨hus, he⟩ := fraction_append_inj (head?_offset _) (head?_offset _) he
  rw [div_hour, div_hour] at hhour
  have hday := ymd_inj hdays hdays' (Prod.ext hy (Prod.ext hmo hd))
  have hwall : d.wall = d'.wall := by omega
  cases d with
  | mk wall o =>
  cases d' with
  | mk wall' o' =>
  rw [DateTime.mk.injEq]
  exact ⟨hwall, offset_inj hoff hoff' he⟩

end DateTime

end Py
