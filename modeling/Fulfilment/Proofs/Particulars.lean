import Fulfilment.Processing.Validation
import Mathlib.Data.List.TakeWhile

/-!
# The particulars of customers

Which values name a customer, and which are email addresses. Both are said here by the form of the
text alone: a name has something left when the blanks at its ends are taken away, and an address is
made of three parts with the sign and a point between them. The checks of an order look for the sign
and for a point instead, from the left to the right, and find the same texts.

A point may stand inside the second and the third part too, so a text may be an address in several
ways. A line break after the address belongs to none of the parts, and does no harm.

## Main definitions

* `Validation.IsAddressForm` - the form of an email address
* `Value.IsName`, `Value.IsAddress` - whether a value names a customer, or is an address

## Main results

* `Text.trim_eq_empty_iff` - nothing is left of the texts that hold nothing but blanks
* `Validation.isEmail_iff` - the check of an address finds its form
* `Validation.isNameless_eq`, `Validation.isAddress_eq` - the checks of the particulars
-/

namespace Fulfilment

/-! ### Texts of blanks -/

theorem Text.strip_eq_nil_iff {p : Char → Bool} {cs : List Char} :
    strip p cs = [] ↔ ∀ c ∈ cs, p c := by
  rw [strip, List.reverse_eq_nil_iff, List.dropWhile_eq_nil_iff]
  constructor
  · intro rest
    -- A character that is not in the class would stand first in what is left.
    cases left : cs.dropWhile p with
    | nil => exact List.dropWhile_eq_nil_iff.mp left
    | cons c ds =>
      have stays : ¬ p c := by
        have first := List.head?_dropWhile_not p cs
        simpa [left] using first
      exact absurd (rest c (by simp [left])) stays
  · intro all c mem
    exact all c ((List.dropWhile_sublist p).subset (List.mem_reverse.mp mem))

/-- A text of which nothing is left without the blanks at its ends is made of blanks. -/
theorem Text.trim_eq_empty_iff {s : String} : trim s = "" ↔ isBlankText s = true := by
  rw [trim, trimChars, isBlankText, List.all_eq_true, ← strip_eq_nil_iff, ← String.toList_inj]
  simp

/-! ### The form of an address -/

namespace Validation

variable {cs domain : List Char}

/-- Whether characters can be a part of an address: there are some, and neither the sign nor a blank
is among them. -/
def IsAddressPart (cs : List Char) : Prop := cs ≠ [] ∧ ∀ c ∈ cs, c ≠ '@' ∧ Text.isBlank c = false

/-- Whether characters have the form of an address: a part, the sign, a part, a point and a part. -/
def IsAddressForm (cs : List Char) : Prop :=
  ∃ user left right, IsAddressPart user ∧ IsAddressPart left ∧ IsAddressPart right ∧
    cs = user ++ '@' :: (left ++ '.' :: right)

theorem isAddressChar_iff {c : Char} :
    isAddressChar c = true ↔ c ≠ '@' ∧ Text.isBlank c = false := by
  simp [isAddressChar]

theorem isAddressPart_iff : IsAddressPart cs ↔ cs ≠ [] ∧ ∀ c ∈ cs, isAddressChar c := by
  simp only [IsAddressPart, isAddressChar_iff]

theorem innerPoint_go_iff :
    hasInnerPoint.go cs = true ↔ ∃ left right, right ≠ [] ∧ cs = left ++ '.' :: right := by
  induction cs with
  | nil => simp [hasInnerPoint.go]
  | cons c cs ih =>
    simp only [hasInnerPoint.go, Bool.or_eq_true, Bool.and_eq_true, decide_eq_true_eq, ih]
    constructor
    · rintro (⟨rfl, some⟩ | ⟨left, right, some, rfl⟩)
      · exact ⟨[], cs, by simpa using some, rfl⟩
      · exact ⟨c :: left, right, some, rfl⟩
    · rintro ⟨_ | ⟨d, left⟩, right, some, split⟩
      · cases split
        exact .inl ⟨rfl, by simpa using some⟩
      · cases split
        exact .inr ⟨left, right, some, rfl⟩

/-- A point is inside if something stands before it and something after it. -/
theorem hasInnerPoint_iff :
    hasInnerPoint cs = true ↔
      ∃ left right, left ≠ [] ∧ right ≠ [] ∧ cs = left ++ '.' :: right := by
  cases cs with
  | nil => simp [hasInnerPoint]
  | cons c cs =>
    rw [hasInnerPoint, innerPoint_go_iff]
    constructor
    · rintro ⟨left, right, some, rfl⟩
      exact ⟨c :: left, right, List.cons_ne_nil c left, some, rfl⟩
    · rintro ⟨_ | ⟨d, left⟩, right, before, after, split⟩
      · exact absurd rfl before
      · cases split
        exact ⟨left, right, after, rfl⟩

/-- What comes after the sign is right if it is made of two parts with a point between them. -/
theorem domain_iff :
    (domain.all isAddressChar && hasInnerPoint domain) = true ↔
      ∃ left right, IsAddressPart left ∧ IsAddressPart right ∧ domain = left ++ '.' :: right := by
  simp only [Bool.and_eq_true, List.all_eq_true, hasInnerPoint_iff, isAddressPart_iff]
  constructor
  · rintro ⟨all, left, right, before, after, rfl⟩
    refine ⟨left, right, ⟨before, fun c mem => all c ?_⟩, ⟨after, fun c mem => all c ?_⟩, rfl⟩
    · exact List.mem_append_left _ mem
    · exact List.mem_append_right _ (List.mem_cons_of_mem _ mem)
  · rintro ⟨left, right, ⟨before, lefts⟩, ⟨after, rights⟩, rfl⟩
    refine ⟨fun c mem => ?_, left, right, before, after, rfl⟩
    rcases List.mem_append.mp mem with mem | mem
    · exact lefts c mem
    · rcases List.mem_cons.mp mem with rfl | mem
      · decide
      · exact rights c mem

/-- The sign is where the characters of the first part end. -/
theorem isEmailChars_iff : isEmailChars cs = true ↔ IsAddressForm cs := by
  have sign : isAddressChar '@' = false := by decide
  constructor
  · intro h
    unfold isEmailChars at h
    dsimp only at h
    split at h
    next domain found =>
      rw [Bool.and_assoc, Bool.and_eq_true, domain_iff] at h
      obtain ⟨some, left, right, lefts, rights, rfl⟩ := h
      refine ⟨cs.takeWhile isAddressChar, left, right, ?_, lefts, rights, ?_⟩
      · exact isAddressPart_iff.mpr ⟨by simpa using some, fun c => List.mem_takeWhile_imp⟩
      · rw [← found, List.takeWhile_append_dropWhile]
    next => cases h
  · rintro ⟨user, left, right, users, lefts, rights, rfl⟩
    obtain ⟨some, all⟩ := isAddressPart_iff.mp users
    have domain := domain_iff.mpr ⟨left, right, lefts, rights, rfl⟩
    simp only [isEmailChars, List.takeWhile_append_of_pos all, List.dropWhile_append_of_pos all,
      List.takeWhile_cons, List.dropWhile_cons, sign, Bool.false_eq_true, if_false,
      List.append_nil]
    rw [Bool.and_assoc, domain]
    simpa using some

/-- A text is taken as an address if it has the form of one, up to a line break at its end. -/
theorem isEmail_iff {s : String} :
    isEmail s = true ↔ ∃ cs, IsAddressForm cs ∧ (s.toList = cs ∨ s.toList = cs ++ ['\n']) := by
  simp only [isEmail, Bool.or_eq_true, Bool.and_eq_true, decide_eq_true_eq, isEmailChars_iff,
    List.getLast?_eq_some_iff]
  constructor
  · rintro (form | ⟨⟨cs, split⟩, form⟩)
    · exact ⟨_, form, .inl rfl⟩
    · rw [split, List.dropLast_concat] at form
      exact ⟨cs, form, .inr split⟩
  · rintro ⟨cs, form, rfl | split⟩
    · exact .inl form
    · exact .inr ⟨⟨cs, split⟩, by rwa [split, List.dropLast_concat]⟩

end Validation

/-! ### Names and addresses as values -/

namespace Value

variable {v : Value}

/-- Whether a value names a customer: a text of which something is left without the blanks at its
ends. -/
def IsName (v : Value) : Prop := ∃ s, v = .text s ∧ Text.trim s ≠ ""

/-- Whether a value is an email address: a text of the form, up to a line break at its end. -/
def IsAddress (v : Value) : Prop :=
  ∃ s, v = .text s ∧
    ∃ cs, Validation.IsAddressForm cs ∧ (s.toList = cs ∨ s.toList = cs ++ ['\n'])

/-- Whether a value is a text, or does not count as given. -/
def IsTextual (v : Value) : Prop := v.truthy = false ∨ ∃ s, v = .text s

theorem isName_iff : v.IsName ↔ v.text?.any (fun s => !Text.isBlankText s) = true := by
  cases v <;> simp [IsName, text?, Text.trim_eq_empty_iff]

theorem isAddress_iff : v.IsAddress ↔ v.text?.any Validation.isEmail = true := by
  cases v <;> simp [IsAddress, text?, Validation.isEmail_iff]

instance : DecidablePred IsName := fun _ => decidable_of_iff _ isName_iff.symm

instance : DecidablePred IsAddress := fun _ => decidable_of_iff _ isAddress_iff.symm

end Value

namespace Validation

variable {v : Value}

/-- The check of a name finds those that are none. -/
theorem isNameless_eq (textual : v.IsTextual) : isNameless v = .ok (decide (¬ v.IsName)) := by
  rcases textual with absent | ⟨s, rfl⟩
  · cases v <;> simp_all [isNameless, Value.isName_iff, Value.text?, Value.truthy,
      Text.isBlankText]
  · simp [isNameless, Value.isName_iff, Value.text?]

/-- The check of an address finds those that are one. -/
theorem isAddress_eq (textual : v.IsTextual) : isAddress v = .ok (decide v.IsAddress) := by
  rcases textual with absent | ⟨s, rfl⟩
  · cases v <;> simp_all [isAddress, Value.isAddress_iff, Value.text?, Value.truthy]
  · simp [isAddress, Value.isAddress_iff, Value.text?]

end Validation

end Fulfilment
