import Mathlib.Algebra.Group.Nat.Defs
import Mathlib.Data.List.Induction
import Mathlib.Data.List.TakeDrop
import Mathlib.Data.List.TakeWhile
import TargetAbi.Constant.Literal
import TargetAbi.Proofs.Result

/-!
# Numerals and their readers

The grammar of numerals: `Denotes base cs n` says that `cs` is one digit of the base or more and
that `n` is the number they denote, `UnsignedNumeral` allows a plus sign in front, and
`IntegerNumeral` a minus sign where the type is signed. The readers accept exactly these forms, as
long as the number stays in their range (`readNatural_eq_ok_iff`, `readInteger_eq_ok_iff`).

The digits that `hexFixed` writes are a numeral of base sixteen for the number modulo a power of
sixteen (`denotes_hexFixed`), all of them digits or capital letters; where the number has no more
digits they are its numeral after zeros (`hexFixed_eq_hexPadded`). Those that `decimalDigits` writes
denote the number itself (`denotes_decimalDigits`), without zeros in front.
-/

set_option autoImplicit false

namespace TargetAbi.Numeral

/-! ## The grammar -/

/-- `cs` is a numeral of the base, one digit or more, and `n` is the number that it denotes. -/
inductive Denotes (base : Nat) : List Char → Nat → Prop where
  | digit {c : Char} {d : Nat} : digitValue? base c = some d → Denotes base [c] d
  | snoc {cs : List Char} {n : Nat} {c : Char} {d : Nat} :
      Denotes base cs n → digitValue? base c = some d → Denotes base (cs ++ [c]) (n * base + d)

/-- A numeral with an optional plus sign in front. -/
inductive UnsignedNumeral (base : Nat) : List Char → Nat → Prop where
  | bare {cs : List Char} {n : Nat} : Denotes base cs n → UnsignedNumeral base cs n
  | plus {cs : List Char} {n : Nat} : Denotes base cs n → UnsignedNumeral base ('+' :: cs) n

/-- A decimal numeral with an optional sign in front; a minus sign needs a signed type. -/
inductive IntegerNumeral : Signedness → List Char → Int → Prop where
  | natural {s : Signedness} {cs : List Char} {n : Nat} :
      UnsignedNumeral 10 cs n → IntegerNumeral s cs n
  | negative {cs : List Char} {n : Nat} : Denotes 10 cs n → IntegerNumeral .signed ('-' :: cs) (-n)

/-! ## Digits -/

theorem isDigit_iff {base : Nat} {c : Char} :
    isDigit base c = true ↔ ∃ d, digitValue? base c = some d := by
  rw [isDigit, Option.isSome_iff_exists]

theorem not_isDigit_of_hexValue? {c : Char} (h : hexValue? c = none) (base : Nat) :
    isDigit base c = false := by
  simp [isDigit, digitValue?, h]

/-- Digits lie between the characters `0` and `f`. -/
theorem toNat_of_isDigit {base : Nat} {c : Char} (h : isDigit base c = true) :
    48 ≤ c.toNat ∧ c.toNat ≤ 102 := by
  have hle (a b : Char) : a ≤ b ↔ a.toNat ≤ b.toNat := Iff.rfl
  obtain ⟨d, hd⟩ := isDigit_iff.1 h
  obtain ⟨hhex, -⟩ := Option.filter_eq_some_iff.1 hd
  unfold hexValue? at hhex
  split at hhex
  · rename_i hc
    simp only [hle] at hc
    exact ⟨hc.1, Nat.le_trans hc.2 (by decide)⟩
  · split at hhex
    · rename_i hc
      simp only [hle] at hc
      exact ⟨Nat.le_trans (by decide) hc.1, hc.2⟩
    · split at hhex
      · rename_i hc
        simp only [hle] at hc
        exact ⟨Nat.le_trans (by decide) hc.1, Nat.le_trans hc.2 (by decide)⟩
      · cases hhex

/-- Decimal digits lie between the characters `0` and `9`. -/
theorem toNat_of_isDigit_ten {c : Char} (h : isDigit 10 c = true) :
    48 ≤ c.toNat ∧ c.toNat ≤ 57 := by
  have hle (a b : Char) : a ≤ b ↔ a.toNat ≤ b.toNat := Iff.rfl
  obtain ⟨d, hd⟩ := isDigit_iff.1 h
  obtain ⟨hhex, hlt⟩ := Option.filter_eq_some_iff.1 hd
  have hlt : d < 10 := of_decide_eq_true hlt
  unfold hexValue? at hhex
  split at hhex
  · rename_i hc
    exact ⟨(hle _ _).1 hc.1, (hle _ _).1 hc.2⟩
  · -- a letter is worth ten at least
    split at hhex
    · have := Option.some.inj hhex
      omega
    · split at hhex
      · have := Option.some.inj hhex
        omega
      · cases hhex

@[simp] theorem isDigit_plus (base : Nat) : isDigit base '+' = false :=
  not_isDigit_of_hexValue? (by decide) base

@[simp] theorem isDigit_minus (base : Nat) : isDigit base '-' = false :=
  not_isDigit_of_hexValue? (by decide) base

@[simp] theorem isDigit_underscore (base : Nat) : isDigit base '_' = false :=
  not_isDigit_of_hexValue? (by decide) base

theorem valueOf_concat (base : Nat) (cs : List Char) (c : Char) :
    valueOf base (cs ++ [c]) = valueOf base cs * base + (digitValue? base c).getD 0 := by
  simp [valueOf, List.foldl_append]

/-- A numeral is a non-empty list of digits, and its number is their value. -/
theorem denotes_iff {base : Nat} {cs : List Char} {n : Nat} :
    Denotes base cs n ↔ cs ≠ [] ∧ (∀ c ∈ cs, isDigit base c = true) ∧ valueOf base cs = n := by
  constructor
  · intro h
    induction h with
    | @digit c d hd =>
      refine ⟨by simp, ?_, ?_⟩
      · intro x hx
        rw [List.mem_singleton.1 hx]
        exact isDigit_iff.2 ⟨d, hd⟩
      · simp [valueOf, hd]
    | @snoc cs n c d _ hd ih =>
      obtain ⟨-, hdigits, hvalue⟩ := ih
      refine ⟨by simp, ?_, ?_⟩
      · intro x hx
        rcases List.mem_append.1 hx with hx | hx
        · exact hdigits x hx
        · rw [List.mem_singleton.1 hx]
          exact isDigit_iff.2 ⟨d, hd⟩
      · rw [valueOf_concat, hvalue, hd]
        rfl
  · rintro ⟨hne, hdigits, rfl⟩
    -- by induction on the last digit, as the value is built
    induction cs using List.reverseRecOn with
    | nil => exact absurd rfl hne
    | append_singleton cs c ih =>
      obtain ⟨d, hd⟩ := isDigit_iff.1 (hdigits c (by simp))
      have hcs : ∀ x ∈ cs, isDigit base x = true := fun x hx => hdigits x (by simp [hx])
      by_cases hnil : cs = []
      · subst hnil
        simpa [valueOf, hd] using Denotes.digit hd
      · have h := Denotes.snoc (ih hnil hcs) hd
        rwa [valueOf_concat, hd]

theorem Denotes.ne_nil {base : Nat} {cs : List Char} {n : Nat} (h : Denotes base cs n) :
    cs ≠ [] :=
  (denotes_iff.1 h).1

theorem Denotes.isDigit {base : Nat} {cs : List Char} {n : Nat} (h : Denotes base cs n) :
    ∀ c ∈ cs, Numeral.isDigit base c = true :=
  (denotes_iff.1 h).2.1

/-- Zeros at the end of a numeral multiply its number by a power of ten. -/
theorem Denotes.append_zeros {cs : List Char} {n : Nat} (h : Denotes 10 cs n) (k : Nat) :
    Denotes 10 (cs ++ List.replicate k '0') (n * 10 ^ k) := by
  induction k with
  | zero => simpa using h
  | succ k ih =>
    have hzero : digitValue? 10 '0' = some 0 := by decide
    have hnext := Denotes.snoc ih hzero
    rwa [List.append_assoc, ← List.replicate_succ', Nat.add_zero, Nat.mul_assoc,
      ← Nat.pow_succ] at hnext

/-- Zeros in front of a numeral do not change its number. -/
theorem Denotes.zeros_append {cs : List Char} {n : Nat} (h : Denotes 10 cs n) (k : Nat) :
    Denotes 10 (List.replicate k '0' ++ cs) n := by
  obtain ⟨hne, hdigits, hvalue⟩ := denotes_iff.1 h
  refine denotes_iff.2 ⟨by simp [hne], ?_, ?_⟩
  · intro c hc
    rcases List.mem_append.1 hc with hzero | hdigit
    · rw [List.eq_of_mem_replicate hzero]
      decide
    · exact hdigits c hdigit
  · induction k with
    | zero => exact hvalue
    | succ k ih => rwa [List.replicate_succ]

theorem not_denotes_cons {base : Nat} {c : Char} (hc : isDigit base c = false) (cs : List Char)
    (n : Nat) : ¬ Denotes base (c :: cs) n := by
  intro h
  have hdigit := h.isDigit c List.mem_cons_self
  rw [hc] at hdigit
  cases hdigit

/-! ## A text denotes one number at most -/

theorem Denotes.unique {base : Nat} {cs : List Char} {m n : Nat} (hm : Denotes base cs m)
    (hn : Denotes base cs n) : m = n := by
  obtain ⟨-, -, rfl⟩ := denotes_iff.1 hm
  obtain ⟨-, -, rfl⟩ := denotes_iff.1 hn
  rfl

theorem UnsignedNumeral.unique {base : Nat} {cs : List Char} {m n : Nat}
    (hm : UnsignedNumeral base cs m) (hn : UnsignedNumeral base cs n) : m = n := by
  cases hm with
  | bare hm =>
    cases hn with
    | bare hn => exact hm.unique hn
    | plus hn => exact absurd hm (not_denotes_cons (isDigit_plus base) _ m)
  | plus hm =>
    cases hn with
    | bare hn => exact absurd hn (not_denotes_cons (isDigit_plus base) _ n)
    | plus hn => exact hm.unique hn

theorem not_unsignedNumeral_minus {base : Nat} (cs : List Char) (n : Nat) :
    ¬ UnsignedNumeral base ('-' :: cs) n := by
  intro h
  cases h with
  | bare h => exact not_denotes_cons (isDigit_minus base) cs n h

theorem IntegerNumeral.unique {s : Signedness} {cs : List Char} {i j : Int}
    (hi : IntegerNumeral s cs i) (hj : IntegerNumeral s cs j) : i = j := by
  cases hi with
  | natural hi =>
    cases hj with
    | natural hj => rw [hi.unique hj]
    | negative hj => exact absurd hi (not_unsignedNumeral_minus _ _)
  | negative hi =>
    cases hj with
    | natural hj => exact absurd hj (not_unsignedNumeral_minus _ _)
    | negative hj => rw [hi.unique hj]

/-- A decimal numeral consists of signs and digits. -/
theorem IntegerNumeral.isSign_or_isDigit {s : Signedness} {cs : List Char} {i : Int}
    (h : IntegerNumeral s cs i) : ∀ c ∈ cs, c = '+' ∨ c = '-' ∨ Numeral.isDigit 10 c = true := by
  cases h with
  | natural h =>
    cases h with
    | bare h => exact fun c hc => Or.inr (Or.inr (h.isDigit c hc))
    | plus h =>
      intro c hc
      rcases List.mem_cons.1 hc with rfl | hdigit
      · exact Or.inl rfl
      · exact Or.inr (Or.inr (h.isDigit c hdigit))
  | negative h =>
    intro c hc
    rcases List.mem_cons.1 hc with rfl | hdigit
    · exact Or.inr (Or.inl rfl)
    · exact Or.inr (Or.inr (h.isDigit c hdigit))

/-- Without a signed type there is no minus sign. -/
theorem integerNumeral_unsigned_iff {cs : List Char} {i : Int} :
    IntegerNumeral .unsigned cs i ↔ ∃ n : Nat, UnsignedNumeral 10 cs n ∧ i = n := by
  constructor
  · intro h
    cases h with
    | natural h => exact ⟨_, h, rfl⟩
  · rintro ⟨n, h, rfl⟩
    exact .natural h

/-! ## Readers -/

section Readers

variable {base limit : Nat} {overflow : NumeralError} {cs : List Char}

theorem readDigits_eq_ok_iff {n : Nat} :
    readDigits base limit overflow cs = .ok n ↔
      (∀ c ∈ cs, isDigit base c = true) ∧ valueOf base cs = n ∧ n ≤ limit := by
  rw [readDigits, List.span_eq_takeWhile_dropWhile]
  constructor
  · intro h
    dsimp only at h
    split at h
    · cases h
    · rename_i hlimit
      split at h
      · cases h
      · rename_i hrest
        have hdrop : cs.dropWhile (isDigit base) = [] := not_not.1 hrest
        have hdigits := List.dropWhile_eq_nil_iff.1 hdrop
        have htake : cs.takeWhile (isDigit base) = cs := List.takeWhile_eq_self_iff.2 hdigits
        rw [htake] at h hlimit
        cases h
        exact ⟨hdigits, rfl, by omega⟩
  · rintro ⟨hdigits, rfl, hlimit⟩
    have htake : cs.takeWhile (isDigit base) = cs := List.takeWhile_eq_self_iff.2 hdigits
    have hdrop : cs.dropWhile (isDigit base) = [] := List.dropWhile_eq_nil_iff.2 hdigits
    simp [htake, hdrop, Nat.not_lt.2 hlimit]

/-- Digits after which nothing else is looked for are a numeral. -/
theorem readDigits_eq_ok_iff_denotes {n : Nat} (hne : cs ≠ []) :
    readDigits base limit overflow cs = .ok n ↔ Denotes base cs n ∧ n ≤ limit := by
  rw [readDigits_eq_ok_iff, denotes_iff]
  constructor
  · rintro ⟨hdigits, hvalue, hlimit⟩
    exact ⟨⟨hne, hdigits, hvalue⟩, hlimit⟩
  · rintro ⟨⟨-, hdigits, hvalue⟩, hlimit⟩
    exact ⟨hdigits, hvalue, hlimit⟩

theorem readNatural_plus (hne : cs ≠ []) :
    readNatural base limit ('+' :: cs) = readDigits base limit .tooLarge cs := by
  cases cs with
  | nil => exact absurd rfl hne
  | cons c cs => rfl

theorem readNatural_of_denotes {n : Nat} (h : Denotes base cs n) :
    readNatural base limit cs = readDigits base limit .tooLarge cs := by
  unfold readNatural
  split
  · exact absurd rfl h.ne_nil
  · exact absurd h (not_denotes_cons (isDigit_plus base) _ n)
  · exact absurd h (not_denotes_cons (isDigit_plus base) _ n)
  · rfl

/-- The reader of natural numbers accepts the numerals with an optional plus sign, up to its
limit. -/
theorem readNatural_eq_ok_iff {n : Nat} :
    readNatural base limit cs = .ok n ↔ UnsignedNumeral base cs n ∧ n ≤ limit := by
  constructor
  · intro h
    unfold readNatural at h
    split at h
    · cases h
    · cases h
    · rename_i body hbody
      -- a sign with nothing after it was refused before
      have hne : body ≠ [] := fun hnil => hbody (by rw [hnil])
      obtain ⟨hdenotes, hlimit⟩ := (readDigits_eq_ok_iff_denotes hne).1 h
      exact ⟨.plus hdenotes, hlimit⟩
    · rename_i hnil _ _
      obtain ⟨hdenotes, hlimit⟩ := (readDigits_eq_ok_iff_denotes hnil).1 h
      exact ⟨.bare hdenotes, hlimit⟩
  · rintro ⟨h, hlimit⟩
    cases h with
    | bare h =>
      rw [readNatural_of_denotes h, readDigits_eq_ok_iff_denotes h.ne_nil]
      exact ⟨h, hlimit⟩
    | plus h =>
      rw [readNatural_plus h.ne_nil, readDigits_eq_ok_iff_denotes h.ne_nil]
      exact ⟨h, hlimit⟩

variable {bound : Nat} {i : Int}

/-- The digits of a number that is not negative. -/
theorem map_ofNat_readDigits_eq_ok_iff (hbound : 0 < bound) (hne : cs ≠ []) :
    (readDigits 10 (bound - 1) .tooLarge cs).map Int.ofNat = .ok i ↔
      ∃ n : Nat, Denotes 10 cs n ∧ i = n ∧ i < bound := by
  rw [map_eq_ok_iff]
  constructor
  · rintro ⟨n, hread, rfl⟩
    obtain ⟨hdenotes, hlimit⟩ := (readDigits_eq_ok_iff_denotes hne).1 hread
    refine ⟨n, hdenotes, rfl, ?_⟩
    show (n : Int) < bound
    omega
  · rintro ⟨n, hdenotes, rfl, hlimit⟩
    exact ⟨n, (readDigits_eq_ok_iff_denotes hne).2 ⟨hdenotes, by omega⟩, rfl⟩

/-- The digits after a minus sign. -/
theorem map_neg_readDigits_eq_ok_iff (hne : cs ≠ []) :
    ((readDigits 10 bound .tooSmall cs).map fun (n : Nat) => -(n : Int)) = .ok i ↔
      ∃ n : Nat, Denotes 10 cs n ∧ i = -n ∧ -(bound : Int) ≤ i := by
  rw [map_eq_ok_iff]
  constructor
  · rintro ⟨n, hread, rfl⟩
    obtain ⟨hdenotes, hlimit⟩ := (readDigits_eq_ok_iff_denotes hne).1 hread
    exact ⟨n, hdenotes, rfl, by omega⟩
  · rintro ⟨n, hdenotes, rfl, hlimit⟩
    exact ⟨n, (readDigits_eq_ok_iff_denotes hne).2 ⟨hdenotes, by omega⟩, rfl⟩

theorem readInteger_plus (hne : cs ≠ []) :
    readInteger bound ('+' :: cs) = (readDigits 10 (bound - 1) .tooLarge cs).map Int.ofNat := by
  cases cs with
  | nil => exact absurd rfl hne
  | cons c cs => rfl

theorem readInteger_minus (hne : cs ≠ []) :
    readInteger bound ('-' :: cs) =
      (readDigits 10 bound .tooSmall cs).map fun (n : Nat) => -(n : Int) := by
  cases cs with
  | nil => exact absurd rfl hne
  | cons c cs => rfl

theorem readInteger_of_denotes {n : Nat} (h : Denotes 10 cs n) :
    readInteger bound cs = (readDigits 10 (bound - 1) .tooLarge cs).map Int.ofNat := by
  unfold readInteger
  split
  · exact absurd rfl h.ne_nil
  · exact absurd h (not_denotes_cons (isDigit_plus 10) _ n)
  · exact absurd h (not_denotes_cons (isDigit_minus 10) _ n)
  · exact absurd h (not_denotes_cons (isDigit_plus 10) _ n)
  · exact absurd h (not_denotes_cons (isDigit_minus 10) _ n)
  · rfl

/-- The reader of signed numbers accepts the numerals with an optional sign, from `-bound` up to
`bound`, which is the first number that is too large. -/
theorem readInteger_eq_ok_iff (hbound : 0 < bound) :
    readInteger bound cs = .ok i ↔
      IntegerNumeral .signed cs i ∧ -(bound : Int) ≤ i ∧ i < (bound : Int) := by
  constructor
  · intro h
    unfold readInteger at h
    split at h
    · cases h
    · cases h
    · cases h
    · rename_i body hbody
      have hne : body ≠ [] := fun hnil => hbody (by rw [hnil])
      obtain ⟨n, hdenotes, rfl, hmost⟩ := (map_ofNat_readDigits_eq_ok_iff hbound hne).1 h
      exact ⟨.natural (.plus hdenotes), by omega, hmost⟩
    · rename_i body hbody
      have hne : body ≠ [] := fun hnil => hbody (by rw [hnil])
      obtain ⟨n, hdenotes, rfl, hleast⟩ := (map_neg_readDigits_eq_ok_iff hne).1 h
      exact ⟨.negative hdenotes, hleast, by omega⟩
    · rename_i hnil _ _ _ _
      obtain ⟨n, hdenotes, rfl, hmost⟩ := (map_ofNat_readDigits_eq_ok_iff hbound hnil).1 h
      exact ⟨.natural (.bare hdenotes), by omega, hmost⟩
  · rintro ⟨h, hleast, hmost⟩
    cases h with
    | @natural _ _ n h =>
      cases h with
      | bare h =>
        rw [readInteger_of_denotes h, map_ofNat_readDigits_eq_ok_iff hbound h.ne_nil]
        exact ⟨n, h, rfl, hmost⟩
      | plus h =>
        rw [readInteger_plus h.ne_nil, map_ofNat_readDigits_eq_ok_iff hbound h.ne_nil]
        exact ⟨n, h, rfl, hmost⟩
    | @negative _ n h =>
      rw [readInteger_minus h.ne_nil, map_neg_readDigits_eq_ok_iff h.ne_nil]
      exact ⟨n, h, rfl, hleast⟩

end Readers

/-! ## Written digits -/

/-- The digits `0` to `9` and the letters `A` to `F`. -/
def IsUpperHexDigit (c : Char) : Prop := ('0' ≤ c ∧ c ≤ '9') ∨ ('A' ≤ c ∧ c ≤ 'F')

theorem digitValue?_hexDigit (n : Nat) : digitValue? 16 (hexDigit n) = some (n % 16) := by
  have hall : ∀ m < 16, digitValue? 16 (Nat.digitChar m).toUpper = some m := by decide
  exact hall (n % 16) (Nat.mod_lt n (by decide))

theorem isUpperHexDigit_hexDigit (n : Nat) : IsUpperHexDigit (hexDigit n) := by
  have hall : ∀ m < 16, ('0' ≤ (Nat.digitChar m).toUpper ∧ (Nat.digitChar m).toUpper ≤ '9') ∨
      ('A' ≤ (Nat.digitChar m).toUpper ∧ (Nat.digitChar m).toUpper ≤ 'F') := by decide
  exact hall (n % 16) (Nat.mod_lt n (by decide))

theorem exists_of_mem_hexFixed {c : Char} {width n : Nat} (h : c ∈ hexFixed width n) :
    ∃ m, c = hexDigit m := by
  induction width generalizing n with
  | zero => cases h
  | succ width ih =>
    rw [hexFixed] at h
    rcases List.mem_append.1 h with h | h
    · exact ih h
    · exact ⟨n, List.mem_singleton.1 h⟩

theorem valueOf_hexFixed (width n : Nat) : valueOf 16 (hexFixed width n) = n % 16 ^ width := by
  induction width generalizing n with
  | zero => rw [Nat.pow_zero, Nat.mod_one]; rfl
  | succ width ih =>
    rw [hexFixed, valueOf_concat, ih, digitValue?_hexDigit, Option.getD_some, Nat.pow_succ',
      Nat.mod_mul]
    omega

/-- The digits that are written denote the number modulo a power of the base. -/
theorem denotes_hexFixed {width : Nat} (hwidth : width ≠ 0) (n : Nat) :
    Denotes 16 (hexFixed width n) (n % 16 ^ width) := by
  refine denotes_iff.2 ⟨?_, ?_, valueOf_hexFixed width n⟩
  · intro hnil
    have hlength := length_hexFixed width n
    rw [hnil] at hlength
    exact hwidth hlength.symm
  · intro c hc
    obtain ⟨m, rfl⟩ := exists_of_mem_hexFixed hc
    exact isDigit_iff.2 ⟨_, digitValue?_hexDigit m⟩

theorem hexFixed_zero (width : Nat) : hexFixed width 0 = List.replicate width '0' := by
  induction width with
  | zero => rfl
  | succ width ih =>
    rw [hexFixed, Nat.zero_div, ih, List.replicate_succ']
    rfl

theorem hex_of_lt {n : Nat} (h : n < 16) : hex n = [hexDigit n] := by
  rw [hex, Nat.toDigits_of_lt_base h, hexDigit, Nat.mod_eq_of_lt h]
  rfl

theorem hex_of_le {n : Nat} (h : 16 ≤ n) : hex n = hex (n / 16) ++ [hexDigit n] := by
  rw [hex, Nat.toDigits_of_base_le (by decide) h, List.map_append]
  rfl

/-- The last digits of a number that has no more of them are its numeral after zeros. -/
theorem hexFixed_eq_hexPadded {width n : Nat} (hwidth : width ≠ 0) (h : n < 16 ^ width) :
    hexFixed width n = hexPadded width n := by
  unfold hexPadded
  induction width generalizing n with
  | zero => exact absurd rfl hwidth
  | succ width ih =>
    rw [hexFixed]
    by_cases hn : n < 16
    · have hzero : n / 16 = 0 := Nat.div_eq_of_lt hn
      rw [hzero, hexFixed_zero, hex_of_lt hn]
      rfl
    · have hle : 16 ≤ n := Nat.not_lt.1 hn
      rw [Nat.pow_succ] at h
      -- a number of two digits or more needs another digit in front of the last one
      have hfront : width ≠ 0 := by
        rintro rfl
        omega
      have hdiv : n / 16 < 16 ^ width := Nat.div_lt_of_lt_mul (by omega)
      rw [ih hfront hdiv, hex_of_le hle, List.length_append, List.length_singleton,
        Nat.add_sub_add_right, List.append_assoc]

theorem digitValue?_digitChar {n : Nat} (h : n < 10) :
    digitValue? 10 (Nat.digitChar n) = some n := by
  have hall : ∀ m : Fin 10, digitValue? 10 (Nat.digitChar m) = some m.val := by decide
  exact hall ⟨n, h⟩

/-- A number has as many decimal digits as the powers of ten around it tell. -/
theorem lt_pow_length_toDigits (n : Nat) : n < 10 ^ (Nat.toDigits 10 n).length :=
  (Nat.length_toDigits_le_iff (by decide) Nat.length_toDigits_pos).1 (le_refl _)

theorem pow_length_toDigits_le {n : Nat} (hn : n ≠ 0) :
    10 ^ ((Nat.toDigits 10 n).length - 1) ≤ n := by
  have hpos : 0 < (Nat.toDigits 10 n).length := Nat.length_toDigits_pos
  by_contra hlt
  by_cases hone : (Nat.toDigits 10 n).length = 1
  · rw [hone] at hlt
    omega
  · have hle := (Nat.length_toDigits_le_iff (n := n) (by decide : 1 < 10)
      (by omega : 0 < (Nat.toDigits 10 n).length - 1)).2 (Nat.not_le.1 hlt)
    omega

/-- The decimal digits of a number denote it. -/
theorem denotes_decimalDigits (n : Nat) : Denotes 10 (decimalDigits n) n := by
  unfold decimalDigits
  -- by induction on the number, which without its last digit is smaller
  induction n using Nat.strongRecOn with
  | ind n ih =>
    by_cases hn : n < 10
    · rw [Nat.toDigits_of_lt_base hn]
      exact .digit (digitValue?_digitChar hn)
    · have hsum : n / 10 * 10 + n % 10 = n := by omega
      have hlast : n % 10 < 10 := Nat.mod_lt n (by decide)
      have h := Denotes.snoc (ih (n / 10) (by omega)) (digitValue?_digitChar hlast)
      rw [hsum] at h
      rwa [Nat.toDigits_of_base_le (by decide) (by omega)]

/-- The decimal numeral of an integer denotes it; an unsigned type has no negative ones. -/
theorem integerNumeral_signedDecimal {s : Signedness} {i : Int} (h : s = .unsigned → 0 ≤ i) :
    IntegerNumeral s (signedDecimal i).toList i := by
  rw [signedDecimal, String.toList_ofList]
  split
  · rename_i hneg
    cases s with
    | unsigned => exact absurd hneg (by have := h rfl; omega)
    | signed =>
      have hi : i = -(i.natAbs : Int) := by omega
      have hnumeral := IntegerNumeral.negative (denotes_decimalDigits i.natAbs)
      rwa [← hi] at hnumeral
  · have hi : (i.natAbs : Int) = i := by omega
    have hnumeral : IntegerNumeral s _ _ := .natural (.bare (denotes_decimalDigits i.natAbs))
    rwa [hi] at hnumeral

/-- A decimal numeral does not start with a zero, unless it is that of zero. -/
theorem head?_decimalDigits {n : Nat} (hn : n ≠ 0) : (decimalDigits n).head? ≠ some '0' := by
  unfold decimalDigits
  induction n using Nat.strongRecOn with
  | ind n ih =>
    by_cases hlt : n < 10
    · rw [Nat.toDigits_of_lt_base hlt]
      have hall : ∀ m : Fin 10, m.val ≠ 0 → Nat.digitChar m ≠ '0' := by decide
      intro h
      exact hall ⟨n, hlt⟩ hn (Option.some.inj h)
    · have hrest := ih (n / 10) (by omega) (by omega)
      rw [Nat.toDigits_of_base_le (by decide) (by omega), List.head?_append, Ne,
        Option.or_eq_some_iff]
      rintro (hhead | ⟨hnone, -⟩)
      · exact hrest hhead
      · exact Nat.toDigits_ne_nil (List.head?_eq_none_iff.1 hnone)

end TargetAbi.Numeral
