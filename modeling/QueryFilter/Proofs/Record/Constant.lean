import QueryFilter.Proofs.Record.Declaration

/-!
Which keys have a constant that can be declared. A constant keeps the capitals, letters and numbers
of its key and has a low line for every other character. The classes that decide what is kept are
wider than those a name is made of: a superscript or a number in a circle is kept and makes the
constant one that cannot be declared. All other keys have a constant that can be, unless they are a
single character that is not kept, of which only the low line is left.
-/

namespace QueryFilter
namespace Record

open Text (isAlphanumeric isName isNamePart isNameStart isUppercase)

/-- Whether a constant keeps a character of its key, as it is or as a capital. -/
def isKept (c : Char) : Bool := isUppercase c || isAlphanumeric c

/-- The character of a constant that stands for a character of the key. -/
def constantChar (c : Char) : Char :=
  if isUppercase c then c else if isAlphanumeric c then c.toUpper else '_'

/-- What a key needs for a constant that can be declared. Its first character may be a decimal
digit, since a low line is put before that. -/
structure Nameable (key : String) : Prop where
  nonempty : key ≠ ""
  start : ∀ c, key.toList.head? = some c → isKept c = true → c.isDigit = true ∨ isNameStart c = true
  parts : ∀ c ∈ key.toList.tail, isKept c = true → isNamePart c = true
  notDropped : ∀ c, key.toList = [c] → isKept c = true

section Characters

variable (p : Char → Bool)

/-- Capitals differ from their characters for small Latin letters only. -/
theorem apply_toUpper (h : ∀ n < 123, 97 ≤ n → p (Char.ofNat n).toUpper = p (Char.ofNat n))
    (c : Char) : p c.toUpper = p c := by
  by_cases hsmall : 97 ≤ c.toNat ∧ c.toNat ≤ 122
  · have hletter := h c.toNat (Nat.lt_succ_of_le hsmall.2) hsmall.1
    rwa [Char.ofNat_toNat] at hletter
  · have hsame : c.toUpper = c := by
      refine dif_neg ?_
      simpa [UInt32.le_iff_toNat_le] using hsmall
    rw [hsame]

theorem apply_constantChar (h : ∀ c : Char, p c.toUpper = p c) (c : Char) :
    p (constantChar c) = if isKept c then p c else p '_' := by
  rw [constantChar, isKept]
  cases isUppercase c with
  | true => rfl
  | false =>
      cases isAlphanumeric c with
      | true => exact h c
      | false => rfl

theorem isNamePart_constantChar (c : Char) :
    isNamePart (constantChar c) = (!isKept c || isNamePart c) := by
  rw [apply_constantChar isNamePart (apply_toUpper _ (by decide)) c]
  cases isKept c <;> rfl

theorem isNameStart_constantChar (c : Char) :
    isNameStart (constantChar c) = (!isKept c || isNameStart c) := by
  rw [apply_constantChar isNameStart (apply_toUpper _ (by decide)) c]
  cases isKept c <;> rfl

theorem isDigit_constantChar (c : Char) :
    (constantChar c).isDigit = (isKept c && c.isDigit) := by
  rw [apply_constantChar Char.isDigit (apply_toUpper _ (by decide)) c]
  cases isKept c <;> rfl

theorem constantChar_eq_lowLine (c : Char) : constantChar c = '_' ↔ isKept c = false := by
  have h := apply_constantChar (· == '_') (apply_toUpper (· == '_') (by decide)) c
  rw [← beq_iff_eq, h]
  cases hkept : isKept c with
  | false => simp
  | true =>
      have hne : c ≠ '_' := by
        rintro rfl
        exact absurd hkept (by decide)
      simpa using hne

theorem isNamePart_of_isDigit {c : Char} (h : c.isDigit = true) : isNamePart c = true := by
  have hdigits : ∀ n < 58, 48 ≤ n → isNamePart (Char.ofNat n) = true := by decide
  have hbounds : 48 ≤ c.toNat ∧ c.toNat ≤ 57 := by
    simpa [Char.isDigit, UInt32.le_iff_toNat_le] using h
  have hdigit := hdigits c.toNat (by omega) hbounds.1
  rwa [Char.ofNat_toNat] at hdigit

end Characters

section Constants

variable {key : String} {c : Char} {rest : List Char}

theorem constantChars_cons (afterSmall : Bool) (c : Char) (rest : List Char) :
    constantChars afterSmall (c :: rest) =
      (if isUppercase c && afterSmall then ['_'] else []) ++
        constantChar c :: constantChars (isAlphanumeric c && !isUppercase c) rest := by
  rw [constantChars, constantChar]
  cases isUppercase c <;> cases afterSmall <;> cases isAlphanumeric c <;> rfl

theorem constantChars_eq_nil (afterSmall : Bool) :
    constantChars afterSmall rest = [] ↔ rest = [] := by
  cases rest with
  | nil => simp [constantChars]
  | cons c rest => simp [constantChars_cons]

/-- The low lines between words may stand in every name, so only the characters of the key
decide. -/
theorem all_constantChars (afterSmall : Bool) (chars : List Char) :
    (constantChars afterSmall chars).all isNamePart =
      chars.all fun c => !isKept c || isNamePart c := by
  induction chars generalizing afterSmall with
  | nil => rfl
  | cons c rest ih =>
      have hlow : (if isUppercase c && afterSmall then ['_'] else []).all isNamePart = true := by
        split <;> decide
      rw [constantChars_cons, List.all_append, hlow, List.all_cons, ih, isNamePart_constantChar,
        List.all_cons, Bool.true_and]

theorem toList_constantOf (h : key.toList = c :: rest) :
    (constantOf key).toList =
      (if isKept c && c.isDigit then ['_'] else []) ++
        constantChar c :: constantChars (isAlphanumeric c && !isUppercase c) rest := by
  have hchars : constantChars false key.toList =
      constantChar c :: constantChars (isAlphanumeric c && !isUppercase c) rest := by
    rw [h, constantChars_cons]
    simp
  simp only [constantOf, hchars, String.toList_ofList, List.head?_cons, Option.map_some,
    Option.getD_some, isDigit_constantChar]
  split <;> rfl

theorem isConstant_constantOf (h : key.toList = c :: rest) :
    isConstant (constantOf key) =
      ((!isKept c || c.isDigit || isNameStart c) &&
        rest.all fun c => !isKept c || isNamePart c) := by
  rw [isConstant, toList_constantOf h]
  split
  · next hdigit =>
    have hpart : isNamePart (constantChar c) = true :=
      isNamePart_of_isDigit ((isDigit_constantChar c).trans hdigit)
    obtain ⟨hkept, hisDigit⟩ := Bool.and_eq_true_iff.mp hdigit
    simp [isName, all_constantChars, hpart, hisDigit, isNameStart]
  · next hdigit =>
    rw [List.nil_append, isName, isNameStart_constantChar, all_constantChars]
    cases hkept : isKept c with
    | false => rfl
    | true =>
        rw [hkept, Bool.true_and] at hdigit
        simp [hdigit]

theorem constantOf_eq_lowLine (h : key.toList = c :: rest) :
    constantOf key = "_" ↔ rest = [] ∧ isKept c = false := by
  rw [← String.toList_inj, toList_constantOf h]
  cases hkept : isKept c with
  | false =>
      have hlow := (constantChar_eq_lowLine c).mpr hkept
      simp [hlow, constantChars_eq_nil]
  | true =>
      have hne : constantChar c ≠ '_' := by
        intro heq
        rw [constantChar_eq_lowLine, hkept] at heq
        cases heq
      cases c.isDigit <;> simp [hne]

theorem nameable_iff (key : String) :
    Nameable key ↔ isConstant (constantOf key) = true ∧ constantOf key ≠ "_" := by
  cases h : key.toList with
  | nil =>
      have hempty : key = "" := String.toList_eq_nil_iff.mp h
      subst hempty
      constructor
      · intro hname
        exact absurd rfl hname.nonempty
      · rintro ⟨hconstant, _⟩
        exact absurd hconstant (by decide)
  | cons c rest =>
      rw [isConstant_constantOf h, Ne, constantOf_eq_lowLine h, Bool.and_eq_true_iff,
        List.all_eq_true]
      constructor
      · rintro ⟨_, hstart, hparts, hdropped⟩
        rw [h] at hstart hparts hdropped
        refine ⟨⟨?_, ?_⟩, ?_⟩
        · simpa [imp_iff_not_or, or_assoc] using hstart c rfl
        · intro part hpart
          simpa [imp_iff_not_or] using hparts part hpart
        · rintro ⟨rfl, hlone⟩
          rw [hdropped c rfl] at hlone
          cases hlone
      · rintro ⟨⟨hstart, hparts⟩, hlone⟩
        refine ⟨?_, ?_, ?_, ?_⟩
        · rintro rfl
          cases h
        · rw [h]
          rintro first hfirst
          cases hfirst
          simpa [imp_iff_not_or, or_assoc] using hstart
        · rw [h]
          intro part hpart
          simpa [imp_iff_not_or] using hparts part hpart
        · intro only honly
          rw [h] at honly
          cases honly
          simpa using hlone

end Constants

/-- The constant of a key can be declared, and is not a mere low line, exactly when the key is
nameable. A declaration comes to a constant that cannot be declared exactly when a field with such
a key is the first that offends, which needs a described field whose key is not nameable. -/
theorem constant_declarable_iff (d : Declaration) :
    (∀ key, isConstant (constantOf key) = true ∧ constantOf key ≠ "_" ↔ Nameable key) ∧
      (∀ constant, d.schema = .error (.badConstant constant) ↔
        d.shape = .named ∧ FirstOffence d.fields (.badConstant constant)) ∧
      ((∀ field ∈ d.fields, ∀ key, field.key? = some key → Nameable key) →
        ∀ constant, d.schema ≠ .error (.badConstant constant)) := by
  have hfault : ∀ constant, d.schema = .error (.badConstant constant) ↔
      d.shape = .named ∧ FirstOffence d.fields (.badConstant constant) := by
    intro constant
    constructor
    · intro h
      have hshape : d.shape = .named := by
        obtain ⟨shape, fields⟩ := d
        cases shape with
        | named => rfl
        | tuple | unit | enumeration | union => cases h
      exact ⟨hshape, (Declaration.schema_eq_error_iff hshape _).mp h⟩
    · rintro ⟨hshape, hfirst⟩
      exact (Declaration.schema_eq_error_iff hshape _).mpr hfirst
  refine ⟨fun key => (nameable_iff key).symm, hfault, ?_⟩
  intro hnameable constant h
  obtain ⟨_, before, field, after, hfields, _, hoffends⟩ := (hfault constant).mp h
  have hmem : field ∈ d.fields := hfields ▸ List.mem_append_right before List.mem_cons_self
  cases hoffends with
  | badConstant hkey _ hbad =>
      have hgood := ((nameable_iff _).mp (hnameable field hmem _ hkey)).1
      rw [hbad] at hgood
      cases hgood

/-- A superscript is a number, so it is kept, but no name has one. -/
theorem constant_of_superscript_undeclarable :
    (¬ ∀ key, key ≠ "" → isConstant (constantOf key) = true) ∧
      Declaration.schema ⟨.named, [⟨"power", [⟨"filter",
        .list [.assigned "rename" (.text "a²")] false⟩]⟩]⟩ = .error (.badConstant "A²") := by
  refine ⟨?_, by decide⟩
  intro h
  exact absurd (h "a²" (by decide)) (by decide)

end Record
end QueryFilter
