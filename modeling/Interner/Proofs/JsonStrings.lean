import Interner.Json.Reader
import Mathlib.Data.Char

namespace Interner.Json

/-- What may stand between quotes: characters for themselves, escapes of one letter, and UTF-16 units
in hexadecimal. -/
inductive Raw : List Char → Prop
  | nil : Raw []
  | plain {c : Char} {raw : List Char} (hquote : c ≠ '"') (hslash : c ≠ '\\')
      (hcontrol : ¬ c.toNat < 0x20) (h : Raw raw) : Raw (c :: raw)
  | letter {c : Char} {raw : List Char} (hletter : (letterEscape? c).isSome) (h : Raw raw) :
      Raw ('\\' :: c :: raw)
  | unit {a b c d : Char} {raw : List Char} (hdigits : [a, b, c, d].all (Number.isDigitOf 16))
      (h : Raw raw) : Raw ('\\' :: 'u' :: a :: b :: c :: d :: raw)

theorem takeRaw?_of_raw {raw : List Char} (h : Raw raw) (rest : List Char) :
    takeRaw? (raw ++ '"' :: rest) = some (raw, rest) := by
  induction h with
  | nil => rfl
  | plain hquote hslash hcontrol h ih =>
      rw [List.cons_append, takeRaw?]
      · rw [if_neg (not_or.mpr ⟨hslash, hcontrol⟩), ih]
        rfl
      · exact hquote
      · rintro _ _ _ _ _ rfl
        exact absurd rfl hslash
      · rintro _ _ rfl
        exact absurd rfl hslash
  | letter hletter h ih =>
      rw [List.cons_append, List.cons_append, takeRaw?]
      · rw [if_pos hletter, ih]
        rfl
      · rintro _ _ _ _ _ rfl
        cases hletter
  | unit hdigits h ih =>
      simp only [List.cons_append]
      rw [takeRaw?, if_pos hdigits, ih]
      rfl

theorem raw_of_takeRaw? {text raw rest : List Char} (h : takeRaw? text = some (raw, rest)) :
    Raw raw ∧ text = raw ++ '"' :: rest := by
  fun_induction takeRaw? text generalizing raw rest with
  | case1 => cases h
  | case2 =>
      cases h
      exact ⟨.nil, rfl⟩
  | case3 a b c d text hdigits ih =>
      obtain ⟨⟨inner, rest'⟩, hinner, heq⟩ := Option.map_eq_some_iff.mp h
      cases heq
      obtain ⟨hraw, rfl⟩ := ih hinner
      exact ⟨.unit hdigits hraw, rfl⟩
  | case4 => cases h
  | case5 letter text hother hletter ih =>
      obtain ⟨⟨inner, rest'⟩, hinner, heq⟩ := Option.map_eq_some_iff.mp h
      cases heq
      obtain ⟨hraw, rfl⟩ := ih hinner
      exact ⟨.letter hletter hraw, rfl⟩
  | case6 => cases h
  | case7 => cases h
  | case8 c text hquote hunit hletter hplain ih =>
      obtain ⟨⟨inner, rest'⟩, hinner, heq⟩ := Option.map_eq_some_iff.mp h
      cases heq
      obtain ⟨hraw, rfl⟩ := ih hinner
      rw [not_or] at hplain
      exact ⟨.plain hquote hplain.1 hplain.2 hraw, rfl⟩

/-- The cases of how a character is written: after a backslash as a letter, as the code of a control
character, or for itself. -/
theorem escapeChar_cases (c : Char) :
    (∃ letter, letterEscape? letter = some c ∧ escapeChar c = ['\\', letter]) ∨
    (c.toNat < 0x20 ∧ escapeChar c =
      ['\\', 'u', '0', '0', Number.hexDigit (c.toNat / 16), Number.hexDigit (c.toNat % 16)]) ∨
    (c ≠ '"' ∧ c ≠ '\\' ∧ ¬ c.toNat < 0x20 ∧ escapeChar c = [c]) := by
  fun_cases escapeChar c with
  | case1 => exact .inl ⟨'"', rfl, rfl⟩
  | case2 => exact .inl ⟨'\\', rfl, rfl⟩
  | case3 => exact .inl ⟨'b', rfl, rfl⟩
  | case4 => exact .inl ⟨'f', rfl, rfl⟩
  | case5 => exact .inl ⟨'n', rfl, rfl⟩
  | case6 => exact .inl ⟨'r', rfl, rfl⟩
  | case7 => exact .inl ⟨'t', rfl, rfl⟩
  | case8 _ hcontrol => exact .inr (.inl ⟨hcontrol, if_pos hcontrol⟩)
  | case9 _ hcontrol hquote hslash =>
      exact .inr (.inr ⟨hquote, hslash, hcontrol, if_neg hcontrol⟩)

theorem unit_of_control {n : Nat} (h : n < 0x20) :
    ['0', '0', Number.hexDigit (n / 16), Number.hexDigit (n % 16)].all (Number.isDigitOf 16) ∧
      Number.ofDigits 16 ['0', '0', Number.hexDigit (n / 16), Number.hexDigit (n % 16)] = n := by
  revert n
  decide

theorem raw_escapeChar_append (c : Char) {raw : List Char} (h : Raw raw) :
    Raw (escapeChar c ++ raw) := by
  rcases escapeChar_cases c with ⟨letter, hletter, heq⟩ | ⟨hcontrol, heq⟩ |
    ⟨hquote, hslash, hcontrol, heq⟩
  · rw [heq]
    exact .letter (by rw [hletter, Option.isSome_some]) h
  · rw [heq]
    exact .unit (unit_of_control hcontrol).1 h
  · rw [heq]
    exact .plain hquote hslash hcontrol h

theorem raw_escape (text : List Char) : Raw (escape text) := by
  induction text with
  | nil => exact .nil
  | cons c text ih => exact raw_escapeChar_append c ih

theorem Piece.join?_unit {code : Nat} (h : code < 0xD800) (pieces : List Piece) :
    join? (.unit code :: pieces) = (join? pieces).map (Char.ofNat code :: ·) := by
  have hhigh : isHigh code = false := by simp [isHigh]; omega
  have hlow : isLow code = false := by simp [isLow]; omega
  rcases pieces with _ | ⟨c | low, pieces⟩
  · simp [join?, hhigh, hlow]
  · simp [join?, hhigh, hlow]
  · rw [join?, if_neg (by simp [hhigh]), if_neg (by simp [hlow])]

theorem unescape?_escapeChar_append (c : Char) (raw : List Char) :
    unescape? (escapeChar c ++ raw) = (unescape? raw).map (c :: ·) := by
  rcases escapeChar_cases c with ⟨letter, hletter, heq⟩ | ⟨hcontrol, heq⟩ |
    ⟨hquote, hslash, hcontrol, heq⟩
  · have hpieces : pieces? ('\\' :: letter :: raw) = (pieces? raw).map (.plain c :: ·) := by
      rw [pieces?]
      · rw [hletter]
        rfl
      · rintro _ _ _ _ _ rfl
        cases hletter
    rw [heq, unescape?, List.cons_append, List.cons_append, List.nil_append, hpieces, unescape?]
    rcases pieces? raw with _ | pieces
    · rfl
    · rfl
  · obtain ⟨hdigits, hcode⟩ := unit_of_control hcontrol
    rw [heq, unescape?, unescape?]
    simp only [List.cons_append, List.nil_append]
    rw [pieces?, if_pos hdigits, hcode]
    rcases pieces? raw with _ | pieces
    · rfl
    · simp only [Option.map_some, Option.bind_some]
      rw [Piece.join?_unit (by omega), Char.ofNat_toNat]
  · have hpieces : pieces? (c :: raw) = (pieces? raw).map (.plain c :: ·) := by
      rw [pieces?]
      · rw [if_neg (not_or.mpr ⟨hquote, not_or.mpr ⟨hslash, hcontrol⟩⟩)]
      · rintro _ _ _ _ _ rfl
        exact absurd rfl hslash
      · rintro _ _ rfl
        exact absurd rfl hslash
    rw [heq, List.cons_append, List.nil_append, unescape?, hpieces, unescape?]
    rcases pieces? raw with _ | pieces
    · rfl
    · rfl

theorem unescape?_escape (text : List Char) : unescape? (escape text) = some text := by
  induction text with
  | nil => rfl
  | cons c text ih =>
      rw [escape, List.flatMap_cons, unescape?_escapeChar_append, ← escape, ih, Option.map_some]

end Interner.Json
