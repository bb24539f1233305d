import Fulfilment.Proofs.Findings
import Mathlib.Computability.Language

/-!
# Email addresses, in two ways

The pattern of an email address is a row of classes of characters, each of which may be repeated as
often as it likes. What an address should be is said more plainly: there is no blank in it, the sign
is in it once and not at the beginning, and a point is inside what comes after the sign. The point
may stand in the repeated classes too, so the pattern fits an address in several ways; but it fits
the same texts.

The check of a customer takes more than these. The mark for the end of a text in the pattern also
fits before a line break with which the text ends, so an address is taken with such a line break,
although this is a blank.

## Main definitions

* `Validation.addressPattern`, `Validation.endMark` - the pattern of an address, as a language
* `Validation.IsStrictAddress` - what an address should be
* `Validation.IsBrokenAddress` - an address with a line break after it

## Main results

* `Validation.mem_addressPattern_iff` - the pattern fits the texts of the form of an address
* `Validation.isAddressForm_iff_strict` - these are the texts that an address should be
* `Validation.email_accepted_iff` - which texts are taken as the address of a customer
-/

namespace Fulfilment.Validation

open Computability

variable {cs user domain : List Char} {p : Char → Bool}

/-! ### The pattern -/

/-- The texts of one character of a class. -/
def ofClass (p : Char → Bool) : Language Char := {cs | ∃ c, p c = true ∧ cs = [c]}

/-- The texts of one or more characters of a class. -/
def repeated (p : Char → Bool) : Language Char := ofClass p * (ofClass p)∗

/-- The pattern of an address: characters that are neither the sign nor a blank, the sign, such
characters again, a point and such characters once more. -/
def addressPattern : Language Char :=
  repeated isAddressChar * ofClass (· = '@') * repeated isAddressChar * ofClass (· = '.') *
    repeated isAddressChar

/-- What the mark for the end of a text leaves over: nothing, or a line break. -/
def endMark : Language Char := 1 + ofClass (· = '\n')

theorem mem_ofClass_iff : cs ∈ ofClass p ↔ ∃ c, p c = true ∧ cs = [c] := Iff.rfl

theorem mem_ofClass_eq_iff {sign : Char} : cs ∈ ofClass (· = sign) ↔ cs = [sign] := by
  rw [mem_ofClass_iff]
  simp

theorem mem_kstar_ofClass_iff : cs ∈ (ofClass p)∗ ↔ ∀ c ∈ cs, p c = true := by
  rw [Language.mem_kstar]
  constructor
  · rintro ⟨parts, rfl, each⟩ c mem
    obtain ⟨part, among, mem⟩ := List.mem_flatten.mp mem
    obtain ⟨d, isIn, rfl⟩ := each part among
    rwa [List.mem_singleton.mp mem]
  · intro all
    -- Every character is a part by itself.
    refine ⟨cs.map fun c => [c], (List.flatMap_singleton' cs).symm, ?_⟩
    rw [List.forall_mem_map]
    exact fun c mem => ⟨c, all c mem, rfl⟩

theorem mem_repeated_iff : cs ∈ repeated p ↔ cs ≠ [] ∧ ∀ c ∈ cs, p c = true := by
  rw [repeated, Language.mem_mul]
  constructor
  · rintro ⟨_, ⟨c, isIn, rfl⟩, rest, others, rfl⟩
    refine ⟨List.cons_ne_nil c rest, List.forall_mem_cons.mpr ⟨isIn, ?_⟩⟩
    exact mem_kstar_ofClass_iff.mp others
  · rintro ⟨some, all⟩
    obtain ⟨c, rest, rfl⟩ := List.exists_cons_of_ne_nil some
    obtain ⟨isIn, others⟩ := List.forall_mem_cons.mp all
    exact ⟨[c], ⟨c, isIn, rfl⟩, rest, mem_kstar_ofClass_iff.mpr others, rfl⟩

theorem mem_repeated_isAddressChar_iff : cs ∈ repeated isAddressChar ↔ IsAddressPart cs :=
  mem_repeated_iff.trans isAddressPart_iff.symm

/-- The pattern fits the texts of the form of an address. -/
theorem mem_addressPattern_iff : cs ∈ addressPattern ↔ IsAddressForm cs := by
  simp only [addressPattern, Language.mem_mul, mem_repeated_isAddressChar_iff, mem_ofClass_eq_iff]
  constructor
  · rintro ⟨_, ⟨_, ⟨_, ⟨user, users, _, rfl, rfl⟩, left, lefts, rfl⟩, _, rfl, rfl⟩, right, rights,
      rfl⟩
    exact ⟨user, left, right, users, lefts, rights, by simp⟩
  · rintro ⟨user, left, right, users, lefts, rights, rfl⟩
    exact ⟨_, ⟨_, ⟨_, ⟨user, users, _, rfl, rfl⟩, left, lefts, rfl⟩, _, rfl, rfl⟩, right, rights,
      by simp⟩

theorem mem_endMark_iff : cs ∈ endMark ↔ cs = [] ∨ cs = ['\n'] := by
  rw [endMark, Language.mem_add, Language.mem_one, mem_ofClass_eq_iff]

/-! ### What an address should be -/

/-- Whether a point stands among some characters, with something before it and something after
it. -/
def HasInnerPoint (cs : List Char) : Prop :=
  ∃ left right, cs = left ++ '.' :: right ∧ left ≠ [] ∧ right ≠ []

/-- Whether some characters are an address as it should be. -/
structure IsStrictAddress (cs : List Char) : Prop where
  /-- There is no blank anywhere. -/
  blankless : ∀ c ∈ cs, Text.isBlank c = false
  /-- The sign stands there once. -/
  oneSign : cs.count '@' = 1
  /-- Something is before the sign, and a point is inside what comes after it. -/
  parts : ∃ user domain, cs = user ++ '@' :: domain ∧ user ≠ [] ∧ HasInnerPoint domain

/-- Whether some characters are an address as it should be, and a line break after it. -/
def IsBrokenAddress (cs : List Char) : Prop := ∃ ds, IsStrictAddress ds ∧ cs = ds ++ ['\n']

/-- Where the sign stands once, it stands neither before nor after the place where it is found. -/
theorem notMem_of_count (once : (user ++ '@' :: domain).count '@' = 1) :
    '@' ∉ user ∧ '@' ∉ domain := by
  rw [List.count_append, List.count_cons_self] at once
  exact ⟨List.count_eq_zero.mp (by omega), List.count_eq_zero.mp (by omega)⟩

/-- The texts of the form of an address are what an address should be. -/
theorem isAddressForm_iff_strict : IsAddressForm cs ↔ IsStrictAddress cs := by
  constructor
  · rintro ⟨user, left, right, ⟨some, users⟩, ⟨before, lefts⟩, ⟨after, rights⟩, rfl⟩
    have point : Text.isBlank '.' = false := by decide
    have sign : Text.isBlank '@' = false := by decide
    have free : '@' ∉ user ∧ '@' ∉ left ∧ '@' ∉ right :=
      ⟨fun mem => (users _ mem).1 rfl, fun mem => (lefts _ mem).1 rfl,
        fun mem => (rights _ mem).1 rfl⟩
    refine ⟨?_, ?_, user, _, rfl, some, left, right, rfl, before, after⟩
    · simp only [List.forall_mem_append, List.forall_mem_cons]
      exact ⟨fun c mem => (users c mem).2, sign, fun c mem => (lefts c mem).2, point,
        fun c mem => (rights c mem).2⟩
    · simp [List.count_append, List.count_eq_zero.mpr free.1, List.count_eq_zero.mpr free.2.1,
        List.count_eq_zero.mpr free.2.2]
  · rintro ⟨blankless, oneSign, user, _, rfl, some, left, right, rfl, before, after⟩
    obtain ⟨freeUser, freeDomain⟩ := notMem_of_count oneSign
    simp only [List.forall_mem_append, List.forall_mem_cons] at blankless
    obtain ⟨users, -, lefts, -, rights⟩ := blankless
    rw [List.mem_append, List.mem_cons, not_or, not_or] at freeDomain
    refine ⟨user, left, right, ⟨some, fun c mem => ⟨?_, users c mem⟩⟩,
      ⟨before, fun c mem => ⟨?_, lefts c mem⟩⟩, ⟨after, fun c mem => ⟨?_, rights c mem⟩⟩, rfl⟩
    · rintro rfl
      exact freeUser mem
    · rintro rfl
      exact freeDomain.1 mem
    · rintro rfl
      exact freeDomain.2.2 mem

theorem IsBrokenAddress.not_strict (h : IsBrokenAddress cs) : ¬ IsStrictAddress cs := by
  obtain ⟨ds, -, rfl⟩ := h
  intro strict
  have blankless := strict.blankless '\n' (by simp)
  revert blankless
  decide

/-! ### What is taken as an address -/

/-- The check of an address is a search for the pattern, from the beginning up to the mark for the
end. -/
theorem isEmail_iff_pattern {s : String} :
    isEmail s = true ↔ s.toList ∈ addressPattern * endMark := by
  simp only [isEmail_iff, Language.mem_mul, mem_addressPattern_iff, mem_endMark_iff]
  constructor
  · rintro ⟨cs, form, same | split⟩
    · exact ⟨cs, form, [], .inl rfl, by rw [same, List.append_nil]⟩
    · exact ⟨cs, form, ['\n'], .inr rfl, split.symm⟩
  · rintro ⟨cs, form, _, rfl | rfl, split⟩
    · exact ⟨cs, form, .inl (by rw [← split, List.append_nil])⟩
    · exact ⟨cs, form, .inr split.symm⟩

/-- A text is taken as an address if it is one, or one with a line break after it. -/
theorem isEmail_iff_strict {s : String} :
    isEmail s = true ↔ IsStrictAddress s.toList ∨ IsBrokenAddress s.toList := by
  rw [isEmail_iff]
  simp only [isAddressForm_iff_strict]
  constructor
  · rintro ⟨cs, strict, rfl | split⟩
    · exact .inl strict
    · exact .inr ⟨cs, strict, split⟩
  · rintro (strict | ⟨cs, strict, split⟩)
    · exact ⟨_, strict, .inl rfl⟩
    · exact ⟨cs, strict, .inr split⟩

/-- **Which texts are taken as the address of a customer.** They are the texts that the pattern of
an address fits: those that are an address as it should be, and those that are one with a line break
after it. So exactly the texts of the second kind are taken by mistake, and none is refused by
mistake. The customer of an order is found to have no valid address exactly if the text is not
taken. -/
theorem email_accepted_iff (s : String) :
    (isEmail s = true ↔ s.toList ∈ addressPattern * endMark) ∧
    (isEmail s = true ↔ IsStrictAddress s.toList ∨ IsBrokenAddress s.toList) ∧
    ((isEmail s = true ↔ IsStrictAddress s.toList) ↔ ¬ IsBrokenAddress s.toList) ∧
    ∀ o : Order, o.customerEmail = .text s → o.customerName.IsTextual →
      ∃ errors, customerErrors o = .ok errors ∧
        ("Customer email is invalid" ∉ errors ↔ isEmail s = true) := by
  refine ⟨isEmail_iff_pattern, isEmail_iff_strict, ?_, ?_⟩
  · rw [isEmail_iff_strict]
    constructor
    · intro same broken
      exact broken.not_strict (same.mp (.inr broken))
    · intro sound
      simp [sound]
  · intro o email name
    have textual : o.customerEmail.IsTextual := .inr ⟨s, email⟩
    refine ⟨_, customerErrors_eq name textual, ?_⟩
    have taken : o.customerEmail.IsAddress ↔ isEmail s = true := by
      rw [Value.isAddress_iff, email]
      rfl
    by_cases address : isEmail s = true <;> by_cases named : o.customerName.IsName <;>
      simp [listed, taken, address, named]

/-- An address that the pattern fits in two ways is taken, and its customer is found to have one. -/
theorem email_accepted_iff_sample :
    let s := "mona@mail.example.com"
    let o : Order := { id := "order-1", customerName := "Mona", customerEmail := .text s }
    o.customerEmail = .text s ∧ o.customerName.IsTextual ∧
    s.toList ∈ addressPattern * endMark ∧ IsStrictAddress s.toList ∧ ¬ IsBrokenAddress s.toList ∧
    ∃ errors, customerErrors o = .ok errors ∧ "Customer email is invalid" ∉ errors := by
  intro s o
  obtain ⟨fits, -, sound, found⟩ := email_accepted_iff s
  have accepted : isEmail s = true := by decide
  have strict : IsStrictAddress s.toList :=
    isAddressForm_iff_strict.mp (isEmailChars_iff.mp (by decide))
  have textual : o.customerName.IsTextual := .inr ⟨_, rfl⟩
  obtain ⟨errors, checked, taken⟩ := found o rfl textual
  exact ⟨rfl, textual, fits.mp accepted, strict, sound.mp ⟨fun _ => strict, fun _ => accepted⟩,
    errors, checked, taken.mpr accepted⟩

/-- An address with a line break after it is taken, and nothing is found in its customer, although
there is a blank in it. -/
theorem email_accepted_with_break :
    let s := "mona@example.com\n"
    let o : Order := { id := "order-1", customerName := "Mona", customerEmail := .text s }
    isEmail s = true ∧ customerErrors o = .ok [] ∧ ¬ IsStrictAddress s.toList := by
  intro s o
  have clean : customerErrors o = .ok [] := by
    rw [customerErrors_eq (.inr ⟨_, rfl⟩) (.inr ⟨_, rfl⟩)]
    exact congrArg Except.ok (by decide)
  refine ⟨by decide, clean, IsBrokenAddress.not_strict ?_⟩
  exact ⟨"mona@example.com".toList,
    isAddressForm_iff_strict.mp (isEmailChars_iff.mp (by decide)), by decide⟩

end Fulfilment.Validation
