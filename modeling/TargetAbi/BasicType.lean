/-!
# Basic types

The scalar types whose size and alignment a target decides, with their keywords, the short aliases
accepted for them, their tags in data files, and their sizes. The size of the extended-precision
family (`float80`, `imaginary80`, `complex80`) is a fact of the target, so `naturalSize` knows no
size for it and `sizeWith` takes the storage size of the extended float as an argument. Sizes are
words of 32 bits; `sizeWith` has no answer where two extended floats are larger than that.

Main definitions: `BasicType`, `BasicType.name`, `BasicType.parse`, `BasicType.tag`,
`BasicType.naturalSize`, `BasicType.sizeWith`.
-/

set_option autoImplicit false

namespace TargetAbi

/-- What a rejected name was meant to name. -/
inductive NameKind where
  | type
  | linkage
  deriving DecidableEq, Repr

/-- The word for the kind in messages. -/
def NameKind.word : NameKind → String
  | .type => "type"
  | .linkage => "linkage"

/-- A text that names nothing of its kind. -/
structure UnknownName where
  kind : NameKind
  text : String
  deriving DecidableEq, Repr

/-- The message for a rejected name. -/
def UnknownName.message (e : UnknownName) : String :=
  "unknown " ++ e.kind.word ++ ": '" ++ e.text ++ "'"

/-- Signedness of an integer type. -/
inductive Signedness where
  | signed
  | unsigned
  deriving DecidableEq, Repr

/-- A basic (non-aggregate) scalar type. -/
inductive BasicType where
  | void
  | bool
  | char
  | wchar
  | dchar
  | int8
  | uns8
  | int16
  | uns16
  | int32
  | uns32
  | int64
  | uns64
  | int128
  | uns128
  | float32
  | float64
  | float80
  | imaginary32
  | imaginary64
  | imaginary80
  | complex32
  | complex64
  | complex80
  deriving DecidableEq, Repr

namespace BasicType

/-- Every basic type, in the order in which tables list them. -/
def all : List BasicType :=
  [void, bool, char, wchar, dchar, int8, uns8, int16, uns16, int32, uns32, int64, uns64, int128,
    uns128, float32, float64, float80, imaginary32, imaginary64, imaginary80, complex32, complex64,
    complex80]

/-- The keyword of a type. -/
def name : BasicType → String
  | void => "void"
  | bool => "bool"
  | char => "char"
  | wchar => "wchar"
  | dchar => "dchar"
  | int8 => "int8"
  | uns8 => "uns8"
  | int16 => "int16"
  | uns16 => "uns16"
  | int32 => "int32"
  | uns32 => "uns32"
  | int64 => "int64"
  | uns64 => "uns64"
  | int128 => "int128"
  | uns128 => "uns128"
  | float32 => "float32"
  | float64 => "float64"
  | float80 => "float80"
  | imaginary32 => "imaginary32"
  | imaginary64 => "imaginary64"
  | imaginary80 => "imaginary80"
  | complex32 => "complex32"
  | complex64 => "complex64"
  | complex80 => "complex80"

/-- The short names accepted beside the keywords. -/
def aliases : List (String × BasicType) :=
  [("i8", int8), ("u8", uns8), ("i16", int16), ("u16", uns16), ("i32", int32), ("u32", uns32),
    ("i64", int64), ("u64", uns64), ("i128", int128), ("u128", uns128), ("f32", float32),
    ("f64", float64), ("f80", float80)]

/-- The type whose keyword is exactly `s`. -/
def ofKeyword? (s : String) : Option BasicType :=
  all.find? (·.name == s)

/-- The type that `s` names, by alias or by keyword. -/
def ofName? (s : String) : Option BasicType :=
  (aliases.lookup s).or (ofKeyword? s)

/-- The type that `s` names; a rejected text is kept as it was written. -/
def parse (s : String) : Except UnknownName BasicType :=
  match ofName? s with
  | some t => .ok t
  | none => .error ⟨.type, s⟩

/-- The tag of a type in data files, which the encoder writes. -/
def tag : BasicType → String
  | void => "void"
  | bool => "bool"
  | char => "char"
  | wchar => "wchar"
  | dchar => "dchar"
  | int8 => "int8"
  | uns8 => "uns8"
  | int16 => "int16"
  | uns16 => "uns16"
  | int32 => "int32"
  | uns32 => "uns32"
  | int64 => "int64"
  | uns64 => "uns64"
  | int128 => "int128"
  | uns128 => "uns128"
  | float32 => "float32"
  | float64 => "float64"
  | float80 => "float80"
  | imaginary32 => "imaginary32"
  | imaginary64 => "imaginary64"
  | imaginary80 => "imaginary80"
  | complex32 => "complex32"
  | complex64 => "complex64"
  | complex80 => "complex80"

/-- The tags that the decoder knows, in the order in which it lists them. -/
def tags : List (String × BasicType) :=
  [("void", void), ("bool", bool), ("char", char), ("wchar", wchar), ("dchar", dchar),
    ("int8", int8), ("uns8", uns8), ("int16", int16), ("uns16", uns16), ("int32", int32),
    ("uns32", uns32), ("int64", int64), ("uns64", uns64), ("int128", int128), ("uns128", uns128),
    ("float32", float32), ("float64", float64), ("float80", float80), ("imaginary32", imaginary32),
    ("imaginary64", imaginary64), ("imaginary80", imaginary80), ("complex32", complex32),
    ("complex64", complex64), ("complex80", complex80)]

/-- Size in bytes when it does not depend on the target. -/
def naturalSize : BasicType → Option UInt32
  | void | bool | char | int8 | uns8 => some 1
  | wchar | int16 | uns16 => some 2
  | dchar | int32 | uns32 | float32 | imaginary32 => some 4
  | int64 | uns64 | float64 | imaginary64 | complex32 => some 8
  | int128 | uns128 | complex64 => some 16
  | float80 | imaginary80 | complex80 => none

/-- Twice a number, if that is a word of 32 bits. -/
def checkedDouble (n : UInt32) : Option UInt32 :=
  if n.toNat * 2 < UInt32.size then some (n * 2) else none

/-- Size in bytes on a target that stores an extended float in `real` bytes; there is none where the
product for `complex80` overflows. -/
def sizeWith (t : BasicType) (real : UInt32) : Option UInt32 :=
  match t with
  | float80 | imaginary80 => some real
  | complex80 => checkedDouble real
  | t => some (t.naturalSize.getD real)

/-- Data files and texts call a type the same. -/
theorem tag_eq_name (t : BasicType) : t.tag = t.name := by
  cases t <;> rfl

/-- No type but `complex80` needs the product. -/
theorem isSome_sizeWith (t : BasicType) {real : UInt32} (h : real.toNat * 2 < UInt32.size) :
    (t.sizeWith real).isSome := by
  cases t
  case complex80 => simp [sizeWith, checkedDouble, h]
  all_goals rfl

theorem ofKeyword?_name (t : BasicType) : ofKeyword? t.name = some t := by
  cases t <;> decide

theorem name_injective {s t : BasicType} (h : s.name = t.name) : s = t := by
  have hs := ofKeyword?_name s
  rw [h, ofKeyword?_name] at hs
  exact (Option.some.inj hs).symm

theorem tag_injective {s t : BasicType} (h : s.tag = t.tag) : s = t := by
  rw [tag_eq_name, tag_eq_name] at h
  exact name_injective h

end BasicType

end TargetAbi
