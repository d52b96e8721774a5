import TargetAbi.Proofs.Layout.Size
import TargetAbi.Target

/-!
# Alignments fit sizes

The alignment of a type is computed without arithmetic and takes nothing from the facts of a target
but the alignment of the extended float (`alignmentBy_eq`, `alignmentOf_congr`). Where the layout of
the extended float is coherent (`ExtendedFloatLayout.IsCoherent`), the size of every type is a
positive multiple of its alignment, and the alignment is a power of two; the layouts of all
configurations are coherent (`alignment_coherent`).
-/

set_option autoImplicit false

namespace TargetAbi

/-- The alignment is a power of two, and the size a positive multiple of it. -/
structure IsAligned (alignment size : UInt32) : Prop where
  isPowerOfTwo : alignment.toNat.isPowerOfTwo
  dvd : alignment.toNat ∣ size.toNat
  size_pos : 0 < size.toNat

/-- An extended float is aligned, and two of them have a size that is a word of 32 bits. -/
structure ExtendedFloatLayout.IsCoherent (l : ExtendedFloatLayout) : Prop
    extends IsAligned l.alignment l.size where
  size_lt : l.size.toNat < 2 ^ 31

variable {alignment size : UInt32}

theorem IsAligned.one_le (h : IsAligned alignment size) : 1 ≤ alignment.toNat := by
  obtain ⟨k, hk⟩ := h.isPowerOfTwo
  rw [hk]
  exact Nat.one_le_two_pow

theorem IsAligned.exists_eq_mul (h : IsAligned alignment size) :
    ∃ n, 0 < n ∧ size.toNat = n * alignment.toNat := by
  obtain ⟨n, hn⟩ := h.dvd
  have hpos := h.size_pos
  rw [hn] at hpos
  exact ⟨n, Nat.pos_of_mul_pos_left hpos, by rw [hn, Nat.mul_comm]⟩

/-! ## What an alignment depends on -/

/-- The size in bytes, with the doubling of a storage size as a parameter. -/
def BasicType.sizeBy (double : UInt32 → Option UInt32) (t : BasicType) (real : UInt32) :
    Option UInt32 :=
  match t with
  | .float80 | .imaginary80 => some real
  | .complex80 => double real
  | t => some (t.naturalSize.getD real)

theorem BasicType.sizeBy_checkedDouble (t : BasicType) (real : UInt32) :
    t.sizeBy checkedDouble real = t.sizeWith real := by
  cases t <;> rfl

section

variable {c : Config} {facts other : AbiFacts} {t : BasicType}

/-- The alignment of a type, with the doubling of a storage size as a parameter. -/
def alignmentBy (double : UInt32 → Option UInt32) (c : Config) (facts : AbiFacts) (t : BasicType) :
    Option UInt32 :=
  match t with
  | .float80 | .imaginary80 | .complex80 => some facts.real.alignment
  | .complex32 => if c.os.isPosix then some 4 else t.sizeBy double facts.real.size
  | .int64 | .uns64 | .float64 | .imaginary64 | .complex64 =>
    if c.os.isPosix then some (if c.is64bit then 8 else 4) else t.sizeBy double facts.real.size
  | t => t.sizeBy double facts.real.size

theorem alignmentBy_checkedDouble (c : Config) (facts : AbiFacts) (t : BasicType) :
    alignmentBy BasicType.checkedDouble c facts t = alignmentOf? c facts t := by
  cases t <;> simp only [alignmentBy, alignmentOf?, BasicType.sizeBy_checkedDouble]

theorem alignmentOf_eq_iff : alignmentOf c facts t = alignment ↔
    alignmentOf? c facts t = some alignment := by
  constructor
  · rintro rfl
    exact (Option.some_get _).symm
  · exact Option.get_of_eq_some _

/-- Whatever doubling does, an alignment does not get to it. -/
theorem alignmentBy_eq (double : UInt32 → Option UInt32) (c : Config) (facts : AbiFacts)
    (t : BasicType) : alignmentBy double c facts t = some (alignmentOf c facts t) := by
  have hsame : alignmentBy double c facts t = alignmentBy BasicType.checkedDouble c facts t := by
    cases t <;> rfl
  rw [hsame, alignmentBy_checkedDouble]
  exact alignmentOf_eq_iff.1 rfl

theorem alignmentOf_of_naturalSize_eq_none (h : t.naturalSize = none) :
    alignmentOf c facts t = facts.real.alignment := by
  cases t
  case float80 | imaginary80 | complex80 => rfl
  all_goals cases h

/-- Two targets with the same alignment of the extended float have the same alignments. -/
theorem alignmentOf_congr (h : other.real.alignment = facts.real.alignment) (t : BasicType) :
    alignmentOf c other t = alignmentOf c facts t := by
  cases t
  case float80 | imaginary80 | complex80 => exact h
  all_goals rfl

/-- A type with a size of its own is aligned to it, unless it is made of units of eight bytes: these
are aligned to four or eight bytes. -/
theorem alignmentOf_of_naturalSize (c : Config) (facts : AbiFacts) (h : t.naturalSize = some size) :
    alignmentOf c facts t = size ∨
      8 ∣ size.toNat ∧ (alignmentOf c facts t = 4 ∨ alignmentOf c facts t = 8) := by
  simp only [alignmentOf_eq_iff]
  cases t
  case float80 | imaginary80 | complex80 => cases h
  case complex32 =>
    cases h
    simp only [alignmentOf?]
    split
    · exact Or.inr ⟨by decide, Or.inl rfl⟩
    · exact Or.inl rfl
  case int64 | uns64 | float64 | imaginary64 | complex64 =>
    cases h
    simp only [alignmentOf?]
    split
    · split
      · exact Or.inr ⟨by decide, Or.inr rfl⟩
      · exact Or.inr ⟨by decide, Or.inl rfl⟩
    · exact Or.inl rfl
  all_goals exact Or.inl h

end

/-! ## Coherence -/

/-- The sizes that do not depend on the target are powers of two. -/
theorem BasicType.isPowerOfTwo_naturalSize {t : BasicType} (h : t.naturalSize = some size) :
    size.toNat.isPowerOfTwo := by
  cases t
  case void | bool | char | int8 | uns8 =>
    cases h
    exact ⟨0, rfl⟩
  case wchar | int16 | uns16 =>
    cases h
    exact ⟨1, rfl⟩
  case dchar | int32 | uns32 | float32 | imaginary32 =>
    cases h
    exact ⟨2, rfl⟩
  case int64 | uns64 | float64 | imaginary64 | complex32 =>
    cases h
    exact ⟨3, rfl⟩
  case int128 | uns128 | complex64 =>
    cases h
    exact ⟨4, rfl⟩
  case float80 | imaginary80 | complex80 => cases h

theorem isAligned_of_naturalSize {t : BasicType} (c : Config) (facts : AbiFacts)
    (h : t.naturalSize = some size) : IsAligned (alignmentOf c facts t) size := by
  have hpow := t.isPowerOfTwo_naturalSize h
  have hpos : 0 < size.toNat := Nat.pos_of_isPowerOfTwo hpow
  rcases alignmentOf_of_naturalSize c facts h with hsize | ⟨hunits, hfour | height⟩
  · rw [hsize]
    exact ⟨hpow, Nat.dvd_refl _, hpos⟩
  · rw [hfour]
    exact ⟨⟨2, rfl⟩, Nat.dvd_trans (by decide) hunits, hpos⟩
  · rw [height]
    exact ⟨⟨3, rfl⟩, hunits, hpos⟩

/-- The three extended types: the size is that of one extended float or of two. -/
theorem ExtendedFloatLayout.IsCoherent.isAligned {l : ExtendedFloatLayout} (h : l.IsCoherent)
    {t : BasicType} (ht : t.naturalSize = none) (hsize : t.sizeWith l.size = some size) :
    IsAligned l.alignment size := by
  cases t
  case float80 | imaginary80 =>
    cases hsize
    exact h.toIsAligned
  case complex80 =>
    have hpos := h.size_pos
    have hdouble : size.toNat = 2 * l.size.toNat := BasicType.checkedDouble_eq_some_iff.1 hsize
    refine ⟨h.isPowerOfTwo, ?_, ?_⟩
    · rw [hdouble]
      exact Nat.dvd_trans h.dvd (Nat.dvd_mul_left _ _)
    · omega
  all_goals cases ht

/-- Where the extended float is coherent, every type has a size and is aligned. -/
theorem exists_isAligned_alignmentOf (c : Config) {facts : AbiFacts} (h : facts.real.IsCoherent)
    (t : BasicType) :
    ∃ size, t.sizeWith facts.real.size = some size ∧ IsAligned (alignmentOf c facts t) size := by
  have hsize : t.sizeWith facts.real.size ≠ none := by
    rw [Ne, BasicType.sizeWith_eq_none_iff]
    rintro ⟨-, hreal⟩
    exact absurd h.size_lt (Nat.not_lt.2 hreal)
  obtain ⟨size, hsize⟩ := Option.ne_none_iff_exists'.1 hsize
  refine ⟨size, hsize, ?_⟩
  cases ht : t.naturalSize with
  | none =>
    rw [alignmentOf_of_naturalSize_eq_none ht]
    exact h.isAligned ht hsize
  | some natural =>
    rw [BasicType.sizeWith_of_naturalSize ht, Option.some.injEq] at hsize
    rw [← hsize]
    exact isAligned_of_naturalSize c facts ht

/-! ## The layouts of configurations -/

theorem ExtendedFloatLayout.isCoherent_packed10 : packed10.IsCoherent :=
  ⟨⟨⟨1, rfl⟩, by decide, by decide⟩, by decide⟩

theorem ExtendedFloatLayout.isCoherent_padded12 : padded12.IsCoherent :=
  ⟨⟨⟨2, rfl⟩, by decide, by decide⟩, by decide⟩

theorem ExtendedFloatLayout.isCoherent_padded16 : padded16.IsCoherent :=
  ⟨⟨⟨4, rfl⟩, by decide, by decide⟩, by decide⟩

theorem AbiFacts.isCoherent_real_resolve (c : Config) : (resolve c).real.IsCoherent := by
  show (extendedFloat c).IsCoherent
  have hlayout := extendedFloat_mem c
  simp only [List.mem_cons, List.not_mem_nil, or_false] at hlayout
  rcases hlayout with h | h | h
  · rw [h]
    exact ExtendedFloatLayout.isCoherent_packed10
  · rw [h]
    exact ExtendedFloatLayout.isCoherent_padded12
  · rw [h]
    exact ExtendedFloatLayout.isCoherent_padded16

/-- On a target every type is aligned. -/
theorem Target.isAligned (target : Target) (t : BasicType) :
    IsAligned (target.alignmentOf t) (target.sizeOf t) := by
  have hreal : target.facts.real.IsCoherent := by
    rw [target.facts_eq]
    exact AbiFacts.isCoherent_real_resolve target.config
  obtain ⟨size, hsize, haligned⟩ := exists_isAligned_alignmentOf target.config hreal t
  have hsizeOf : target.sizeOf t = size := Option.get_of_eq_some _ hsize
  rw [hsizeOf]
  exact haligned

/-- How alignments and sizes fit, for any facts of a target. No alignment gets to the doubling of a
size, so none overflows, and it depends on the alignment of the extended float as the only one of
the facts. If the extended float is coherent, every type has a size, and each alignment is a power
of two and divides the size of its type, which is not zero. The facts of every configuration are
coherent in this way, so on every target the size of every type is a positive multiple of its
alignment, in a field or not. -/
theorem alignment_coherent (c : Config) (facts : AbiFacts) :
    (∀ t, alignmentOf? c facts t = some (alignmentOf c facts t) ∧
        ∀ double, alignmentBy double c facts t = some (alignmentOf c facts t)) ∧
      (∀ other : AbiFacts, other.real.alignment = facts.real.alignment →
        ∀ t, alignmentOf c other t = alignmentOf c facts t) ∧
      (facts.real.IsCoherent → ∀ t, 1 ≤ (alignmentOf c facts t).toNat ∧
        ∃ size, t.sizeWith facts.real.size = some size ∧
          IsAligned (alignmentOf c facts t) size) ∧
      (AbiFacts.resolve c).real.IsCoherent ∧
      ∀ (target : Target) (t : BasicType), target.fieldAlignment t = target.alignmentOf t ∧
        IsAligned (target.alignmentOf t) (target.sizeOf t) ∧
        ∃ n, 0 < n ∧ (target.sizeOf t).toNat = n * (target.alignmentOf t).toNat := by
  refine ⟨fun t => ⟨alignmentOf_eq_iff.1 rfl, fun double => alignmentBy_eq double c facts t⟩,
    fun other hother t => alignmentOf_congr hother t, ?_, AbiFacts.isCoherent_real_resolve c, ?_⟩
  · intro hfacts t
    obtain ⟨size, hsize, haligned⟩ := exists_isAligned_alignmentOf c hfacts t
    exact ⟨haligned.one_le, size, hsize, haligned⟩
  · intro target t
    have haligned := target.isAligned t
    exact ⟨rfl, haligned, haligned.exists_eq_mul⟩

/-- Extended floats of 96 bytes, aligned to 32, which no configuration has. -/
theorem alignment_coherent_wide :
    let facts := { AbiFacts.resolve (.lp64 .linux) with real := ⟨96, 86, 32⟩ }
    facts.real.IsCoherent ∧ alignmentOf (.lp64 .linux) facts .complex80 = 32 ∧
      ∃ size, BasicType.complex80.sizeWith facts.real.size = some size ∧ size = 192 ∧
        IsAligned (alignmentOf (.lp64 .linux) facts .complex80) size := by
  intro facts
  have hfacts : facts.real.IsCoherent := ⟨⟨⟨5, rfl⟩, by decide, by decide⟩, by decide⟩
  obtain ⟨-, -, hcoherent, -⟩ := alignment_coherent (.lp64 .linux) facts
  obtain ⟨-, size, hsize, haligned⟩ := hcoherent hfacts .complex80
  have hwide : BasicType.complex80.sizeWith facts.real.size = some 192 := rfl
  refine ⟨hfacts, rfl, size, hsize, ?_, haligned⟩
  exact Option.some.inj (hsize.symm.trans hwide)

end TargetAbi
