import Interner.Json.Reader
import Mathlib.Data.List.Basic
import Mathlib.Data.List.TakeDrop
import Mathlib.Data.List.TakeWhile

namespace Interner

namespace Number

structure IsDigits (text : List Char) : Prop where
  ne_nil : text ≠ []
  isDigit : ∀ c ∈ text, c.isDigit

theorem natural?_eq_some_iff {text : List Char} {n : Nat} :
    natural? text = some n ↔ IsDigits text ∧ Nat.ofDigitChars 10 text 0 = n := by
  rw [natural?, Option.ite_none_right_eq_some, Option.some_inj, Bool.and_eq_true,
    List.all_eq_true, Bool.not_eq_true', List.isEmpty_eq_false_iff]
  exact and_congr_left fun _ => ⟨fun h => ⟨h.1, h.2⟩, fun h => ⟨h.1, h.2⟩⟩

theorem isDigits_digits (n : Nat) : IsDigits (digits n) := by
  refine ⟨?_, fun c hc => Nat.isDigit_of_mem_toDigits (by decide) (by decide) hc⟩
  rw [digits, Nat.toDigits_eq_if (by decide)]
  split
  · exact List.cons_ne_nil _ _
  · exact List.append_ne_nil_of_right_ne_nil _ (List.cons_ne_nil _ _)

theorem natural?_digits (n : Nat) : natural? (digits n) = some n :=
  natural?_eq_some_iff.mpr
    ⟨isDigits_digits n, Nat.ofDigitChars_toDigits (by decide) (by decide)⟩

theorem head?_digits_ne {n : Nat} (h : n ≠ 0) : (digits n).head? ≠ some '0' := by
  induction n using Nat.strongRecOn with
  | ind n ih =>
      rw [digits, Nat.toDigits_eq_if (by decide)]
      split
      · rename_i hlt
        have hall : ∀ n < 10, n ≠ 0 → [n.digitChar].head? ≠ some '0' := by decide
        exact hall n hlt h
      · have hrest := ih (n / 10) (by omega) (by omega)
        rw [← digits, List.head?_append_of_ne_nil _ (isDigits_digits (n / 10)).ne_nil]
        exact hrest

theorem signedDigits_cases (n : Int) :
    (∃ k : Nat, n = k ∧ signedDigits n = digits k) ∨
      ∃ k : Nat, k ≠ 0 ∧ n = -k ∧ signedDigits n = '-' :: digits k := by
  cases n with
  | ofNat k => exact .inl ⟨k, rfl, rfl⟩
  | negSucc k => exact .inr ⟨k + 1, Nat.succ_ne_zero k, rfl, rfl⟩

theorem isDigit_or_minus_of_mem_signedDigits {n : Int} {c : Char} (h : c ∈ signedDigits n) :
    c.isDigit ∨ c = '-' := by
  rcases signedDigits_cases n with ⟨k, -, heq⟩ | ⟨k, -, -, heq⟩
  · rw [heq] at h
    exact .inl ((isDigits_digits k).isDigit c h)
  · rw [heq] at h
    rcases List.mem_cons.mp h with rfl | hdigit
    · exact .inr rfl
    · exact .inl ((isDigits_digits k).isDigit c hdigit)

/-- The digits of an integer lead back to it. -/
theorem integer?_signedDigits (n : Int) : integer? (signedDigits n) = some n := by
  rcases signedDigits_cases n with ⟨k, rfl, heq⟩ | ⟨k, -, rfl, heq⟩
  · have hplain : ∀ c rest, digits k = c :: rest → c ≠ '+' ∧ c ≠ '-' := by
      intro c rest hcons
      have hdigit := (isDigits_digits k).isDigit c (by rw [hcons]; exact List.mem_cons_self)
      constructor
      · rintro rfl
        cases hdigit
      · rintro rfl
        cases hdigit
    rw [heq, integer?]
    · rw [natural?_digits, Option.map_some]
      rfl
    · exact fun rest hcons => (hplain _ _ hcons).1 rfl
    · exact fun rest hcons => (hplain _ _ hcons).2 rfl
  · rw [heq, integer?, natural?_digits, Option.map_some]
    rfl

end Number

namespace Json

open Number

/-- The whole part of a literal: zero alone, or digits that do not begin with zero. -/
inductive Whole : List Char → Prop
  | zero : Whole ['0']
  | digits {ds : List Char} (hdigits : IsDigits ds) (hhead : ds.head? ≠ some '0') : Whole ds

inductive Fraction : List Char → Prop
  | none : Fraction []
  | digits {ds : List Char} (hdigits : IsDigits ds) : Fraction ('.' :: ds)

inductive Exponent : List Char → Prop
  | none : Exponent []
  | digits {c : Char} {sign ds : List Char} (hletter : c = 'e' ∨ c = 'E')
      (hsign : sign = [] ∨ sign = ['+'] ∨ sign = ['-']) (hdigits : IsDigits ds) :
      Exponent (c :: sign ++ ds)

inductive Literal : List Char → Prop
  | parts {sign whole fraction exponent : List Char} (hsign : sign = [] ∨ sign = ['-'])
      (hwhole : Whole whole) (hfraction : Fraction fraction) (hexponent : Exponent exponent) :
      Literal (sign ++ whole ++ fraction ++ exponent)

theorem whole_digits (n : Nat) : Whole (digits n) := by
  by_cases hn : n = 0
  · rw [hn]
    exact .zero
  · exact .digits (isDigits_digits n) (head?_digits_ne hn)

theorem literal_digits (n : Nat) : Literal (digits n) := by
  have h := Literal.parts (.inl rfl) (whole_digits n) .none .none
  simpa using h

theorem literal_signedDigits (n : Int) : Literal (signedDigits n) := by
  rcases signedDigits_cases n with ⟨k, -, heq⟩ | ⟨k, -, -, heq⟩
  · rw [heq]
    exact literal_digits k
  · have h := Literal.parts (.inr rfl) (whole_digits k) .none .none
    rw [heq]
    simpa using h

theorem Whole.isDigits {text : List Char} (h : Whole text) : IsDigits text := by
  cases h with
  | zero => exact ⟨List.cons_ne_nil _ _, List.forall_mem_singleton.mpr rfl⟩
  | digits hdigits hhead => exact hdigits

theorem Literal.exists_cons {literal : List Char} (h : Literal literal) :
    ∃ c rest, literal = c :: rest ∧ (c.isDigit ∨ c = '-') := by
  cases h with
  | parts hsign hwhole hfraction hexponent =>
      rcases hsign with rfl | rfl
      · obtain ⟨c, rest, rfl⟩ := List.exists_cons_of_ne_nil hwhole.isDigits.ne_nil
        exact ⟨c, _, rfl, .inl (hwhole.isDigits.isDigit c List.mem_cons_self)⟩
      · exact ⟨'-', _, rfl, .inr rfl⟩

/-- What may follow a number: nothing that could belong to it. -/
def EndsNumber (rest : List Char) : Prop :=
  ∀ c ∈ rest.head?, ¬ c.isDigit ∧ c ≠ '.' ∧ c ≠ 'e' ∧ c ≠ 'E'

theorem spanDigits_eq {text ds rest : List Char} (h : spanDigits text = (ds, rest)) :
    text = ds ++ rest ∧ ∀ c ∈ ds, c.isDigit := by
  rw [spanDigits, List.span_eq_takeWhile_dropWhile, Prod.mk.injEq] at h
  obtain ⟨rfl, rfl⟩ := h
  exact ⟨List.takeWhile_append_dropWhile.symm, fun c hc => List.mem_takeWhile_imp hc⟩

theorem spanDigits_append {ds rest : List Char} (hds : ∀ c ∈ ds, c.isDigit)
    (hrest : ∀ c ∈ rest.head?, ¬ c.isDigit) : spanDigits (ds ++ rest) = (ds, rest) := by
  have hnone : rest.takeWhile Char.isDigit = [] ∧ rest.dropWhile Char.isDigit = rest := by
    rcases rest with _ | ⟨c, rest⟩
    · exact ⟨rfl, rfl⟩
    · have hc : ¬ c.isDigit := hrest c rfl
      exact ⟨List.takeWhile_cons_of_neg hc, List.dropWhile_cons_of_neg hc⟩
  rw [spanDigits, List.span_eq_takeWhile_dropWhile, List.takeWhile_append_of_pos hds,
    List.dropWhile_append_of_pos hds, hnone.1, hnone.2, List.append_nil]

section Parts

variable {text part rest : List Char}

theorem whole_of_takeWhole? (h : takeWhole? text = some (part, rest)) :
    Whole part ∧ text = part ++ rest := by
  revert h
  fun_cases takeWhole? text with
  | case1 text =>
      rintro ⟨⟩
      exact ⟨.zero, rfl⟩
  | case2 => exact fun h => nomatch h
  | case3 _ hzero hempty =>
      intro h
      have hspan := Option.some.inj h
      obtain ⟨heq, hdigits⟩ := spanDigits_eq hspan
      refine ⟨.digits ⟨?_, hdigits⟩ ?_, heq⟩
      · rintro rfl
        exact hempty _ hspan
      · intro hhead
        obtain ⟨ds, rfl⟩ := List.head?_eq_some_iff.mp hhead
        exact hzero _ heq

theorem takeWhole?_append (h : Whole part) (hrest : ∀ c ∈ rest.head?, ¬ c.isDigit) :
    takeWhole? (part ++ rest) = some (part, rest) := by
  cases h with
  | zero => rfl
  | digits hdigits hhead =>
      obtain ⟨c, ds, rfl⟩ := List.exists_cons_of_ne_nil hdigits.ne_nil
      have hspan := spanDigits_append hdigits.isDigit hrest
      rw [List.cons_append] at hspan ⊢
      rw [takeWhole?, hspan]
      intro tail htail
      rw [(List.cons.inj htail).1] at hhead
      exact hhead rfl

theorem fraction_of_takeFraction? (h : takeFraction? text = some (part, rest)) :
    Fraction part ∧ text = part ++ rest := by
  revert h
  fun_cases takeFraction? text with
  | case1 => exact fun h => nomatch h
  | case2 text ds rest' hne hspan =>
      rintro ⟨⟩
      obtain ⟨rfl, hdigits⟩ := spanDigits_eq hspan
      exact ⟨.digits ⟨hne, hdigits⟩, rfl⟩
  | case3 =>
      rintro ⟨⟩
      exact ⟨.none, rfl⟩

theorem takeFraction?_append (h : Fraction part)
    (hrest : ∀ c ∈ rest.head?, ¬ c.isDigit ∧ c ≠ '.') :
    takeFraction? (part ++ rest) = some (part, rest) := by
  cases h with
  | none =>
      rw [List.nil_append, takeFraction?]
      rintro tail rfl
      exact (hrest _ rfl).2 rfl
  | digits hdigits =>
      obtain ⟨d, ds, rfl⟩ := List.exists_cons_of_ne_nil hdigits.ne_nil
      have hspan := spanDigits_append hdigits.isDigit fun c hc => (hrest c hc).1
      simp only [List.cons_append, takeFraction?] at hspan ⊢
      rw [hspan]

theorem takeSign_cases (text : List Char) :
    ∃ sign, (sign = [] ∨ sign = ['+'] ∨ sign = ['-']) ∧ 
      text = sign ++ (takeSign text).2 ∧ (takeSign text).1 = sign := by
  fun_cases takeSign text with
  | case1 rest => exact ⟨_, .inr (.inl rfl), rfl, rfl⟩
  | case2 rest => exact ⟨_, .inr (.inr rfl), rfl, rfl⟩
  | case3 => exact ⟨_, .inl rfl, rfl, rfl⟩

theorem takeSign_append {sign ds : List Char} (hsign : sign = [] ∨ sign = ['+'] ∨ sign = ['-'])
    (hdigits : IsDigits ds) : takeSign (sign ++ ds ++ rest) = (sign, ds ++ rest) := by
  obtain ⟨c, ds, rfl⟩ := List.exists_cons_of_ne_nil hdigits.ne_nil
  have hc := hdigits.isDigit c List.mem_cons_self
  rcases hsign with rfl | rfl | rfl
  · rw [List.nil_append, List.cons_append, takeSign]
    · intro tail htail
      rw [(List.cons.inj htail).1] at hc
      cases hc
    · intro tail htail
      rw [(List.cons.inj htail).1] at hc
      cases hc
  · rfl
  · rfl

theorem exponent_of_takeExponent? (h : takeExponent? text = some (part, rest)) :
    Exponent part ∧ text = part ++ rest := by
  revert h
  fun_cases takeExponent? text with
  | case1 => exact fun h => nomatch h
  | case2 c text hletter sign text' hsign ds rest' hne hspan =>
      rintro ⟨⟩
      obtain ⟨sign', hcases, htext, heq⟩ := takeSign_cases text
      rw [hsign] at htext heq
      obtain ⟨rfl, hdigits⟩ := spanDigits_eq hspan
      subst heq
      exact ⟨.digits hletter hcases ⟨hne, hdigits⟩, by simp [htext]⟩
  | case3 =>
      rintro ⟨⟩
      exact ⟨.none, rfl⟩
  | case4 =>
      rintro ⟨⟩
      exact ⟨.none, rfl⟩

theorem takeExponent?_append (h : Exponent part) (hrest : EndsNumber rest) :
    takeExponent? (part ++ rest) = some (part, rest) := by
  cases h with
  | none =>
      rcases rest with _ | ⟨c, rest⟩
      · rfl
      · obtain ⟨-, -, he, hE⟩ := hrest c rfl
        rw [List.nil_append, takeExponent?, if_neg (not_or.mpr ⟨he, hE⟩)]
  | @digits c sign ds hletter hsign hdigits =>
      have hsigned : takeSign (sign ++ ds ++ rest) = (sign, ds ++ rest) :=
        takeSign_append hsign hdigits
      have hspan := spanDigits_append hdigits.isDigit fun c hc => (hrest c hc).1
      obtain ⟨d, ds, rfl⟩ := List.exists_cons_of_ne_nil hdigits.ne_nil
      rw [List.cons_append, List.cons_append, takeExponent?, if_pos hletter, hsigned]
      simp only [hspan]
      rfl

end Parts

def takeUnsigned? (sign text : List Char) : Option (List Char × List Char) := do
  let (whole, text) ← takeWhole? text
  let (fraction, text) ← takeFraction? text
  let (exponent, text) ← takeExponent? text
  return (sign ++ whole ++ fraction ++ exponent, text)

theorem literal_of_takeUnsigned? {sign text literal rest : List Char}
    (hsign : sign = [] ∨ sign = ['-']) (h : takeUnsigned? sign text = some (literal, rest)) :
    Literal literal ∧ sign ++ text = literal ++ rest := by
  obtain ⟨⟨whole, afterWhole⟩, htake, h⟩ := Option.bind_eq_some_iff.mp h
  obtain ⟨⟨fraction, afterFraction⟩, htake', h⟩ := Option.bind_eq_some_iff.mp h
  obtain ⟨⟨exponent, after⟩, htake'', h⟩ := Option.bind_eq_some_iff.mp h
  cases h
  obtain ⟨hwhole, rfl⟩ := whole_of_takeWhole? htake
  obtain ⟨hfraction, rfl⟩ := fraction_of_takeFraction? htake'
  obtain ⟨hexponent, rfl⟩ := exponent_of_takeExponent? htake''
  refine ⟨.parts hsign hwhole hfraction hexponent, ?_⟩
  simp only [List.append_assoc]

theorem literal_of_takeNumber? {text literal rest : List Char}
    (h : takeNumber? text = some (literal, rest)) : Literal literal ∧ text = literal ++ rest := by
  rcases text with _ | ⟨c, text⟩
  · exact literal_of_takeUnsigned? (.inl rfl) h
  · by_cases hminus : c = '-'
    · rw [hminus] at h ⊢
      have hunsigned : takeUnsigned? ['-'] text = some (literal, rest) := h
      exact literal_of_takeUnsigned? (.inr rfl) hunsigned
    · have hunsigned : takeUnsigned? [] (c :: text) = some (literal, rest) := by
        rw [takeNumber?] at h
        · exact h
        · exact fun _ heq => hminus (List.cons.inj heq).1
      exact literal_of_takeUnsigned? (.inl rfl) hunsigned

theorem takeUnsigned?_append (sign : List Char) {whole fraction exponent rest : List Char}
    (hwhole : Whole whole) (hfraction : Fraction fraction) (hexponent : Exponent exponent)
    (hrest : EndsNumber rest) :
    takeUnsigned? sign (whole ++ fraction ++ exponent ++ rest) =
      some (sign ++ whole ++ fraction ++ exponent, rest) := by
  have hpoint : ∀ c ∈ (exponent ++ rest).head?, ¬ c.isDigit ∧ c ≠ '.' := by
    cases hexponent with
    | none => exact fun c hc => ⟨(hrest c hc).1, (hrest c hc).2.1⟩
    | digits hletter hsign hdigits =>
        rintro _ ⟨⟩
        rcases hletter with rfl | rfl
        · decide
        · decide
  have hdigit : ∀ c ∈ (fraction ++ (exponent ++ rest)).head?, ¬ c.isDigit := by
    cases hfraction with
    | none => exact fun c hc => (hpoint c hc).1
    | digits hdigits =>
        rintro _ ⟨⟩
        decide
  have h := takeWhole?_append hwhole hdigit
  simp only [takeUnsigned?, List.append_assoc, h, takeFraction?_append hfraction hpoint,
    takeExponent?_append hexponent hrest, Option.bind_eq_bind, Option.bind_some]
  rfl

theorem takeNumber?_append {literal rest : List Char} (h : Literal literal)
    (hrest : EndsNumber rest) : takeNumber? (literal ++ rest) = some (literal, rest) := by
  cases h with
  | parts hsign hwhole hfraction hexponent =>
      rcases hsign with rfl | rfl
      · obtain ⟨c, ds, rfl⟩ := List.exists_cons_of_ne_nil hwhole.isDigits.ne_nil
        have hc := hwhole.isDigits.isDigit c List.mem_cons_self
        rw [List.nil_append, takeNumber?]
        · exact takeUnsigned?_append [] hwhole hfraction hexponent hrest
        · rintro _ heq
          rw [(List.cons.inj heq).1] at hc
          cases hc
      · exact takeUnsigned?_append ['-'] hwhole hfraction hexponent hrest

end Json

end Interner
