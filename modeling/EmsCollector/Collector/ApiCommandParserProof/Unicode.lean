import EmsCollector.Collector.ApiCommandParser.Commands

/-!
# Conversions of text

The converter takes the UTF-8 and the UTF-16 encodings of sequences of characters, and throws on
everything else, with one exception: half a surrogate pair at the end of a text in UTF-16 is dropped.
-/

namespace EmsCollector.ApiCommandParser

/-- A code point that stands for a character. -/
def Scalar (c : Nat) : Prop := c < 0x110000 ∧ ¬ (0xd800 ≤ c ∧ c < 0xe000)

/-- Well-formed UTF-8. -/
def Utf8 (bytes : List Nat) : Prop :=
  ∃ chars : List Nat, (∀ c ∈ chars, Scalar c) ∧ bytes = chars.flatMap utf8Bytes

/-- Well-formed UTF-16. -/
def Utf16 (units : List Nat) : Prop :=
  ∃ chars : List Nat, (∀ c ∈ chars, Scalar c) ∧ units = chars.flatMap utf16Units

/-- The first half of a surrogate pair. -/
def Lead (unit : Nat) : Prop := 0xd800 ≤ unit ∧ unit < 0xdc00

/-- Well-formed UTF-16, or well-formed up to half a pair at the end. -/
def Convertible (units : List Nat) : Prop :=
  Utf16 units ∨ ∃ front lead, units = front ++ [lead] ∧ Utf16 front ∧ Lead lead

theorem Utf8.nil : Utf8 [] := ⟨[], nofun, rfl⟩

theorem Utf16.nil : Utf16 [] := ⟨[], nofun, rfl⟩

theorem Utf8.cons {c : Nat} (scalar : Scalar c) {rest : List Nat} (utf8 : Utf8 rest) :
    Utf8 (utf8Bytes c ++ rest) := by
  obtain ⟨chars, scalars, rfl⟩ := utf8
  exact ⟨c :: chars, List.forall_mem_cons.mpr ⟨scalar, scalars⟩, rfl⟩

theorem Utf16.cons {c : Nat} (scalar : Scalar c) {rest : List Nat} (utf16 : Utf16 rest) :
    Utf16 (utf16Units c ++ rest) := by
  obtain ⟨chars, scalars, rfl⟩ := utf16
  exact ⟨c :: chars, List.forall_mem_cons.mpr ⟨scalar, scalars⟩, rfl⟩

theorem Convertible.cons {c : Nat} (scalar : Scalar c) {rest : List Nat}
    (convertible : Convertible rest) :
    Convertible (utf16Units c ++ rest) := by
  rcases convertible with utf16 | ⟨front, lead, rfl, utf16, half⟩
  · exact .inl (.cons scalar utf16)
  · exact .inr ⟨utf16Units c ++ front, lead, (List.append_assoc ..).symm, .cons scalar utf16, half⟩

theorem isContinuation_iff {b : Nat} : isContinuation b = true ↔ 0x80 ≤ b ∧ b < 0xc0 := by
  simp [isContinuation]

/-- The next character is decoded whatever stands behind it. -/
theorem fromBytes_scalar {c : Nat} (scalar : Scalar c) (rest : List Nat) :
    fromBytes (utf8Bytes c ++ rest) = (fromBytes rest).map (utf16Units c ++ ·) := by
  obtain ⟨bound, noSurrogate⟩ := scalar
  have tail (n : Nat) : isContinuation (0x80 + n % 0x40) = true := isContinuation_iff.mpr (by omega)
  unfold utf8Bytes
  by_cases one : c < 0x80
  · rw [if_pos one]
    have unit : utf16Units c = [c] := if_pos (by omega)
    show fromBytes (_ :: rest) = _
    rw [fromBytes.eq_def]
    dsimp only
    rw [if_pos one, unit]
    cases fromBytes rest <;> rfl
  by_cases two : c < 0x800
  · rw [if_neg one, if_pos two]
    have back : (0xc0 + c / 0x40 - 0xc0) * 0x40 + (0x80 + c % 0x40 - 0x80) = c := by omega
    show fromBytes (_ :: _ :: rest) = _
    rw [fromBytes, if_neg (by omega), if_pos ⟨by omega, by omega⟩, if_pos (tail c), back]
    cases fromBytes rest <;> rfl
  by_cases three : c < 0x10000
  · rw [if_neg one, if_neg two, if_pos three]
    have back : (0xe0 + c / 0x1000 - 0xe0) * 0x1000 + (0x80 + c / 0x40 % 0x40 - 0x80) * 0x40 +
        (0x80 + c % 0x40 - 0x80) = c := by omega
    show fromBytes (_ :: _ :: _ :: rest) = _
    rw [fromBytes, if_neg (by omega), if_neg (by omega), if_pos ⟨by omega, by omega⟩]
    dsimp only
    rw [back, if_pos ⟨tail _, tail _, by omega, noSurrogate⟩]
    cases fromBytes rest <;> rfl
  · rw [if_neg one, if_neg two, if_neg three]
    have back : (0xf0 + c / 0x40000 - 0xf0) * 0x40000 + (0x80 + c / 0x1000 % 0x40 - 0x80) * 0x1000 +
        (0x80 + c / 0x40 % 0x40 - 0x80) * 0x40 + (0x80 + c % 0x40 - 0x80) = c := by omega
    show fromBytes (_ :: _ :: _ :: _ :: rest) = _
    rw [fromBytes, if_neg (by omega), if_neg (by omega), if_neg (by omega), if_pos ⟨by omega, by omega⟩]
    dsimp only
    rw [back, if_pos ⟨tail _, tail _, tail _, by omega, bound⟩]
    cases fromBytes rest <;> rfl

/-- The rest of a text that is converted is converted too. -/
theorem convert_rest {m : Except Abort (List Nat)} {f : List Nat → List Nat} {units : List Nat}
    (ok : (do let rest ← m; .ok (f rest)) = Except.ok units) : ∃ rest, m = .ok rest := by
  cases m with
  | error abort => cases ok
  | ok rest => exact ⟨rest, rfl⟩

theorem utf8Bytes_two {b0 b1 c : Nat} (lead : 0xc2 ≤ b0 ∧ b0 < 0xe0) (tail : 0x80 ≤ b1 ∧ b1 < 0xc0)
    (value : c = (b0 - 0xc0) * 0x40 + (b1 - 0x80)) : Scalar c ∧ utf8Bytes c = [b0, b1] := by
  unfold Scalar utf8Bytes
  rw [if_neg (by omega), if_pos (by omega)]
  simp only [List.cons.injEq, and_true]
  omega

theorem utf8Bytes_three {b0 b1 b2 c : Nat} (lead : 0xe0 ≤ b0 ∧ b0 < 0xf0)
    (first : 0x80 ≤ b1 ∧ b1 < 0xc0) (second : 0x80 ≤ b2 ∧ b2 < 0xc0) (long : 0x800 ≤ c)
    (value : c = (b0 - 0xe0) * 0x1000 + (b1 - 0x80) * 0x40 + (b2 - 0x80)) :
    utf8Bytes c = [b0, b1, b2] := by
  unfold utf8Bytes
  rw [if_neg (by omega), if_neg (by omega), if_pos (by omega)]
  simp only [List.cons.injEq, and_true]
  omega

theorem utf8Bytes_four {b0 b1 b2 b3 c : Nat} (lead : 0xf0 ≤ b0 ∧ b0 < 0xf5)
    (first : 0x80 ≤ b1 ∧ b1 < 0xc0) (second : 0x80 ≤ b2 ∧ b2 < 0xc0) (third : 0x80 ≤ b3 ∧ b3 < 0xc0)
    (long : 0x10000 ≤ c)
    (value : c = (b0 - 0xf0) * 0x40000 + (b1 - 0x80) * 0x1000 + (b2 - 0x80) * 0x40 + (b3 - 0x80)) :
    utf8Bytes c = [b0, b1, b2, b3] := by
  unfold utf8Bytes
  rw [if_neg (by omega), if_neg (by omega), if_neg (by omega)]
  simp only [List.cons.injEq, and_true]
  omega

theorem fromBytes_utf8 {bytes units : List Nat} (ok : fromBytes bytes = .ok units) : Utf8 bytes := by
  fun_induction fromBytes bytes generalizing units with
  | case1 => exact .nil
  | case2 b0 rest ascii ih =>
      obtain ⟨_, converted⟩ := convert_rest ok
      have whole : Utf8 (utf8Bytes b0 ++ rest) := .cons ⟨by omega, by omega⟩ (ih converted)
      rw [utf8Bytes, if_pos ascii] at whole
      exact whole
  | case3 b0 _ lead b1 rest tail ih =>
      obtain ⟨_, converted⟩ := convert_rest ok
      obtain ⟨scalar, same⟩ := utf8Bytes_two lead (isContinuation_iff.mp tail) rfl
      have whole := Utf8.cons scalar (ih converted)
      rw [same] at whole
      exact whole
  | case6 b0 _ _ lead b1 b2 rest c tail =>
      rename_i ih
      obtain ⟨_, converted⟩ := convert_rest ok
      obtain ⟨tail₁, tail₂, long, noSurrogate⟩ := tail
      rw [isContinuation_iff] at tail₁ tail₂
      have same := utf8Bytes_three lead tail₁ tail₂ long rfl
      have whole := Utf8.cons ⟨by omega, noSurrogate⟩ (ih converted)
      rw [same] at whole
      exact whole
  | case9 b0 _ _ _ lead b1 b2 b3 rest c tail =>
      rename_i ih
      obtain ⟨_, converted⟩ := convert_rest ok
      obtain ⟨tail₁, tail₂, tail₃, long, bound⟩ := tail
      rw [isContinuation_iff] at tail₁ tail₂ tail₃
      have same := utf8Bytes_four lead tail₁ tail₂ tail₃ long rfl
      have whole := Utf8.cons ⟨bound, by omega⟩ (ih converted)
      rw [same] at whole
      exact whole
  | case4 | case5 | case7 | case8 | case10 | case11 | case12 => cases ok

theorem fromBytes_text {text : List Nat} (scalars : ∀ c ∈ text, Scalar c) :
    fromBytes (text.flatMap utf8Bytes) = .ok (text.flatMap utf16Units) := by
  induction text with
  | nil => rfl
  | cons c rest ih =>
      rw [List.forall_mem_cons] at scalars
      rw [List.flatMap_cons, fromBytes_scalar scalars.1, ih scalars.2]
      rfl

/-- `from_bytes` takes the well-formed texts. -/
theorem fromBytes_ok_iff {bytes : List Nat} : (∃ units, fromBytes bytes = .ok units) ↔ Utf8 bytes := by
  constructor
  · rintro ⟨units, ok⟩
    exact fromBytes_utf8 ok
  · rintro ⟨chars, scalars, rfl⟩
    exact ⟨_, fromBytes_text scalars⟩

/-- The next character is encoded whatever stands behind it. -/
theorem toBytes_scalar {c : Nat} (scalar : Scalar c) (rest : List Nat) :
    toBytes (utf16Units c ++ rest) =
      (toBytes rest).map (utf8Bytes c ++ ·) := by
  obtain ⟨bound, noSurrogate⟩ := scalar
  unfold utf16Units
  by_cases one : c < 0x10000
  · rw [if_pos one]
    show toBytes (_ :: rest) = _
    rw [toBytes.eq_def]
    dsimp only
    rw [if_neg (by omega), if_neg (by omega)]
    cases toBytes rest <;> rfl
  · rw [if_neg one]
    have back : 0x10000 + (0xd800 + (c - 0x10000) / 0x400 - 0xd800) * 0x400 +
        (0xdc00 + (c - 0x10000) % 0x400 - 0xdc00) = c := by omega
    show toBytes (_ :: _ :: rest) = _
    rw [toBytes, if_pos ⟨by omega, by omega⟩, if_pos ⟨by omega, by omega⟩, back]
    cases toBytes rest <;> rfl

theorem toBytes_convertible {units bytes : List Nat} (bound : ∀ unit ∈ units, unit < 0x10000)
    (ok : toBytes units = .ok bytes) : Convertible units := by
  fun_induction toBytes units generalizing bytes with
  | case1 => exact .inl .nil
  | case2 high lead low rest trail ih =>
      simp only [List.forall_mem_cons] at bound
      obtain ⟨_, converted⟩ := convert_rest ok
      have whole : Convertible
          (utf16Units (0x10000 + (high - 0xd800) * 0x400 + (low - 0xdc00)) ++ rest) :=
        .cons ⟨by omega, by omega⟩ (ih bound.2.2 converted)
      have same : utf16Units (0x10000 + (high - 0xd800) * 0x400 + (low - 0xdc00)) = [high, low] := by
        unfold utf16Units
        rw [if_neg (by omega)]
        simp only [List.cons.injEq, and_true]
        omega
      rw [same] at whole
      exact whole
  | case4 lead half => exact .inr ⟨[], lead, rfl, .nil, half⟩
  | case6 unit rest _ _ ih =>
      rw [List.forall_mem_cons] at bound
      obtain ⟨_, converted⟩ := convert_rest ok
      have whole : Convertible (utf16Units unit ++ rest) :=
        .cons ⟨by omega, by omega⟩ (ih bound.2 converted)
      rw [utf16Units, if_pos bound.1] at whole
      exact whole
  | case3 | case5 => cases ok

/-- A text is encoded whatever stands behind it. -/
theorem toBytes_append {text : List Nat} (scalars : ∀ c ∈ text, Scalar c) (rest : List Nat) :
    toBytes (text.flatMap utf16Units ++ rest) =
      (toBytes rest).map (text.flatMap utf8Bytes ++ ·) := by
  induction text with
  | nil =>
      show toBytes rest = (toBytes rest).map (fun bytes => bytes)
      cases toBytes rest <;> rfl
  | cons c more ih =>
      rw [List.forall_mem_cons] at scalars
      rw [List.flatMap_cons, List.append_assoc, toBytes_scalar scalars.1, ih scalars.2]
      cases toBytes rest with
      | error abort => rfl
      | ok bytes => simp [Except.map]

theorem toBytes_text {text : List Nat} (scalars : ∀ c ∈ text, Scalar c) :
    toBytes (text.flatMap utf16Units) = .ok (text.flatMap utf8Bytes) := by
  have whole := toBytes_append scalars []
  rw [List.append_nil] at whole
  rw [whole]
  simp [toBytes, Except.map]

/-- Half a pair at the end is dropped. -/
theorem toBytes_halfPair {text : List Nat} (scalars : ∀ c ∈ text, Scalar c) {lead : Nat}
    (half : Lead lead) :
    toBytes (text.flatMap utf16Units ++ [lead]) = .ok (text.flatMap utf8Bytes) := by
  have dropped : toBytes [lead] = .ok [] := by
    rw [toBytes]
    exact if_pos half
  rw [toBytes_append scalars, dropped]
  simp [Except.map]

/-- `to_bytes` takes the convertible texts of 16-bit units. -/
theorem toBytes_ok_iff {units : List Nat} (bound : ∀ unit ∈ units, unit < 0x10000) :
    (∃ bytes, toBytes units = .ok bytes) ↔ Convertible units := by
  constructor
  · rintro ⟨bytes, ok⟩
    exact toBytes_convertible bound ok
  · rintro (⟨chars, scalars, rfl⟩ | ⟨front, lead, rfl, ⟨chars, scalars, rfl⟩, half⟩)
    · exact ⟨_, toBytes_text scalars⟩
    · exact ⟨_, toBytes_halfPair scalars half⟩

end EmsCollector.ApiCommandParser
