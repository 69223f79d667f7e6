import Mathlib.Data.Bool.AllAny
import QueryFilter.Proofs.Record.Constant

/-!
Keys made of words. Words joined by a separator and the same words in camel case, where every
word but the first begins with a capital, have one constant: the words in capitals, joined by low
lines. So a record cannot describe one field under the first kind of key and another under the
second.
-/

namespace QueryFilter
namespace Record

open Text (isAlphanumeric isUppercase)

/-- Whether a character may stand in a word: a small Latin letter or a decimal digit. -/
def isWordPart (c : Char) : Bool := c.isLower || c.isDigit

/-- A word begins with a letter. -/
structure IsWord (word : String) : Prop where
  start : ∃ c rest, word.toList = c :: rest ∧ c.isLower = true
  parts : ∀ c ∈ word.toList, isWordPart c = true

theorem isWord_iff {word : String} :
    IsWord word ↔ word.toList.head?.any Char.isLower = true ∧
      word.toList.all isWordPart = true := by
  have hstart : (∃ c rest, word.toList = c :: rest ∧ c.isLower = true) ↔
      word.toList.head?.any Char.isLower = true := by
    cases word.toList <;> simp
  rw [← hstart, List.all_eq_true]
  exact ⟨fun h => ⟨h.start, h.parts⟩, fun h => ⟨h.1, h.2⟩⟩

instance : DecidablePred IsWord := fun _ => decidable_of_iff _ isWord_iff.symm

/-- Words with a character between them. -/
def joined (separator : Char) (words : List String) : String :=
  (String.singleton separator).intercalate words

def capitalized (word : String) : String := String.ofList (word.toList.modifyHead Char.toUpper)

/-- Words in a row, all but the first with a capital. -/
def camelCase : List String → String
  | [] => ""
  | first :: rest => first ++ String.join (rest.map capitalized)

/-- Words in capitals with low lines between them. -/
def capitals (words : List String) : String := joined '_' (words.map String.toUpper)

section Characters

variable {c : Char}

theorem toNat_lt_of_isWordPart (h : isWordPart c = true) : c.toNat < 123 := by
  rcases Bool.or_eq_true_iff.mp h with hlower | hdigit
  · have hle : c.val ≤ 'z'.val := of_decide_eq_true (Bool.and_eq_true_iff.mp hlower).2
    exact Nat.lt_succ_of_le (UInt32.le_iff_toNat_le.mp hle)
  · have hle : c.val ≤ '9'.val := of_decide_eq_true (Bool.and_eq_true_iff.mp hdigit).2
    exact Nat.lt_of_le_of_lt (UInt32.le_iff_toNat_le.mp hle) (by decide)

/-- What holds of all parts of words is decided by trying those of ASCII. -/
theorem forall_isWordPart {p : Char → Prop}
    (h : ∀ n < 123, isWordPart (Char.ofNat n) = true → p (Char.ofNat n))
    (hc : isWordPart c = true) : p c := by
  have hlt := toNat_lt_of_isWordPart hc
  rw [← Char.ofNat_toNat c] at hc ⊢
  exact h c.toNat hlt hc

theorem isUppercase_eq_false (h : isWordPart c = true) : isUppercase c = false :=
  forall_isWordPart (p := fun c => isUppercase c = false) (by decide) h

theorem isAlphanumeric_eq_true (h : isWordPart c = true) : isAlphanumeric c = true :=
  forall_isWordPart (p := fun c => isAlphanumeric c = true) (by decide) h

theorem isUppercase_toUpper (h : c.isLower = true) : isUppercase c.toUpper = true :=
  forall_isWordPart (p := fun c => c.isLower = true → isUppercase c.toUpper = true) (by decide)
    (by rw [isWordPart, h, Bool.true_or]) h

theorem ne_lowLine (h : isWordPart c = true) : c ≠ '_' ∧ c.toUpper ≠ '_' :=
  forall_isWordPart (p := fun c => c ≠ '_' ∧ c.toUpper ≠ '_') (by decide) h

end Characters

section Words

variable {word first second : String} {words : List String}

theorem toList_joined_singleton (separator : Char) (word : String) :
    (joined separator [word]).toList = word.toList := by
  simp [joined]

theorem toList_joined_cons_cons (separator : Char) (first second : String) (words : List String) :
    (joined separator (first :: second :: words)).toList =
      first.toList ++ separator :: (joined separator (second :: words)).toList := by
  simp [joined, String.toList_intercalate]

theorem toList_capitals_cons (first : String) (words : List String) :
    (capitals (first :: words)).toList =
      first.toList.map Char.toUpper ++
        words.flatMap fun word => '_' :: word.toList.map Char.toUpper := by
  induction words generalizing first with
  | nil => simp [capitals, toList_joined_singleton, String.toUpper]
  | cons second words ih =>
      have hrest := ih second
      simp only [capitals, List.map_cons] at hrest ⊢
      rw [toList_joined_cons_cons, hrest]
      simp [String.toUpper]

theorem toList_camelCase_cons (first : String) (words : List String) :
    (camelCase (first :: words)).toList =
      first.toList ++ words.flatMap fun word => word.toList.modifyHead Char.toUpper := by
  simp [camelCase, capitalized, List.flatMap_map]

/-- A word is put into capitals, and what follows it follows a small letter or a number. -/
theorem constantChars_word (afterSmall : Bool) {word : List Char}
    (h : ∀ c ∈ word, isWordPart c = true) (rest : List Char) :
    constantChars afterSmall (word ++ rest) =
      word.map Char.toUpper ++ constantChars (afterSmall || !word.isEmpty) rest := by
  induction word generalizing afterSmall with
  | nil => simp
  | cons c word ih =>
      obtain ⟨hc, hword⟩ := List.forall_mem_cons.mp h
      have hsmall := isUppercase_eq_false hc
      have hkept := isAlphanumeric_eq_true hc
      rw [List.cons_append, constantChars_cons, ih _ hword]
      simp [constantChar, hsmall, hkept]

theorem constantChars_joined (afterSmall : Bool) {separator : Char}
    (hcapital : isUppercase separator = false) (hkept : isAlphanumeric separator = false)
    (first : String) (h : ∀ word ∈ first :: words, IsWord word) :
    constantChars afterSmall (joined separator (first :: words)).toList =
      (capitals (first :: words)).toList := by
  induction words generalizing first afterSmall with
  | nil =>
      have hword := constantChars_word afterSmall (h first List.mem_cons_self).parts []
      rw [List.append_nil] at hword
      rw [toList_joined_singleton, hword, toList_capitals_cons]
      rfl
  | cons second words ih =>
      obtain ⟨hfirst, hrest⟩ := List.forall_mem_cons.mp h
      have hjoined := ih false second hrest
      rw [toList_joined_cons_cons, constantChars_word _ hfirst.parts, constantChars_cons, hcapital,
        hkept, Bool.false_and, Bool.false_and, hjoined, toList_capitals_cons, toList_capitals_cons]
      simp [constantChar, hcapital, hkept]

/-- A capital after a small letter or a number begins a word. The word it begins ends in one of
these, unless it is the capital alone and nothing follows. -/
theorem constantChars_capitalized (h : ∀ word ∈ words, IsWord word)
    (hlong : ∀ word ∈ words.dropLast, 2 ≤ word.length) :
    constantChars true (words.flatMap fun word => word.toList.modifyHead Char.toUpper) =
      words.flatMap fun word => '_' :: word.toList.map Char.toUpper := by
  induction words with
  | nil => rfl
  | cons first words ih =>
      obtain ⟨hfirst, hrest⟩ := List.forall_mem_cons.mp h
      obtain ⟨c, rest, hchars, hlower⟩ := hfirst.start
      have hparts := hfirst.parts
      rw [hchars] at hparts
      have hcapital := isUppercase_toUpper hlower
      have htail : constantChars (!rest.isEmpty)
          (words.flatMap fun word => word.toList.modifyHead Char.toUpper) =
            words.flatMap fun word => '_' :: word.toList.map Char.toUpper := by
        cases words with
        | nil => rfl
        | cons second words =>
            rw [List.dropLast_cons_cons, List.forall_mem_cons] at hlong
            have hne : rest ≠ [] := by
              rintro rfl
              have hlength := hlong.1
              rw [← String.length_toList, hchars] at hlength
              simp at hlength
            rw [List.isEmpty_eq_false_iff.mpr hne]
            exact ih hrest hlong.2
      rw [List.flatMap_cons, List.flatMap_cons, hchars, List.modifyHead_cons, List.cons_append,
        constantChars_cons, constantChars_word _ (List.forall_mem_cons.mp hparts).2, hcapital,
        Bool.not_true, Bool.and_false, Bool.false_or, htail]
      simp [constantChar, hcapital]

theorem constantChars_camelCase (first : String) (h : ∀ word ∈ first :: words, IsWord word)
    (hlong : ∀ word ∈ words.dropLast, 2 ≤ word.length) :
    constantChars false (camelCase (first :: words)).toList =
      (capitals (first :: words)).toList := by
  obtain ⟨hfirst, hrest⟩ := List.forall_mem_cons.mp h
  obtain ⟨c, chars, hchars, _⟩ := hfirst.start
  have hflag : (false || !first.toList.isEmpty) = true := by
    rw [hchars]
    rfl
  rw [toList_camelCase_cons, constantChars_word false hfirst.parts, hflag,
    constantChars_capitalized hrest hlong, toList_capitals_cons]

/-- A key that begins with a small letter has no decimal digit in front of its constant. -/
theorem constantOf_of_isLower {key : String} {c : Char} {rest : List Char}
    (h : key.toList = c :: rest) (hlower : c.isLower = true) :
    constantOf key = String.ofList (constantChars false key.toList) := by
  have hdigit : c.isDigit = false :=
    forall_isWordPart (p := fun c => c.isLower = true → c.isDigit = false) (by decide)
      (by rw [isWordPart, hlower, Bool.true_or]) hlower
  rw [← String.toList_inj, toList_constantOf h, hdigit, h, constantChars_cons]
  simp

theorem constantOf_joined {separator : Char} (hcapital : isUppercase separator = false)
    (hkept : isAlphanumeric separator = false) (h : ∀ word ∈ first :: words, IsWord word) :
    constantOf (joined separator (first :: words)) = capitals (first :: words) := by
  obtain ⟨c, chars, hchars, hlower⟩ := (h first List.mem_cons_self).start
  have hhead : ∃ rest, (joined separator (first :: words)).toList = c :: rest := by
    cases words with
    | nil => exact ⟨chars, by rw [toList_joined_singleton, hchars]⟩
    | cons second words => exact ⟨_, by rw [toList_joined_cons_cons, hchars, List.cons_append]⟩
  obtain ⟨rest, hrest⟩ := hhead
  rw [constantOf_of_isLower hrest hlower, constantChars_joined false hcapital hkept first h,
    String.ofList_toList]

theorem constantOf_camelCase (h : ∀ word ∈ first :: words, IsWord word)
    (hlong : ∀ word ∈ words.dropLast, 2 ≤ word.length) :
    constantOf (camelCase (first :: words)) = capitals (first :: words) := by
  obtain ⟨c, chars, hchars, hlower⟩ := (h first List.mem_cons_self).start
  have hhead := toList_camelCase_cons first words
  rw [hchars, List.cons_append] at hhead
  rw [constantOf_of_isLower hhead hlower, constantChars_camelCase first h hlong,
    String.ofList_toList]

theorem lowLine_notMem_camelCase (h : ∀ word ∈ first :: words, IsWord word) :
    '_' ∉ (camelCase (first :: words)).toList := by
  obtain ⟨hfirst, hrest⟩ := List.forall_mem_cons.mp h
  rw [toList_camelCase_cons, List.mem_append, List.mem_flatMap]
  rintro (hmem | ⟨word, hword, hmem⟩)
  · exact (ne_lowLine (hfirst.parts '_' hmem)).1 rfl
  · obtain ⟨c, rest, hchars, _⟩ := (hrest word hword).start
    have hparts := (hrest word hword).parts
    rw [hchars, List.forall_mem_cons] at hparts
    rw [hchars, List.modifyHead_cons, List.mem_cons] at hmem
    rcases hmem with hcapital | hmem
    · exact (ne_lowLine hparts.1).2 hcapital.symm
    · exact (ne_lowLine (hparts.2 '_' hmem)).1 rfl

/-- The two spellings are one key for a single word alone. -/
theorem camelCase_eq_joined_iff (h : ∀ word ∈ first :: words, IsWord word) :
    camelCase (first :: words) = joined '_' (first :: words) ↔ words = [] := by
  cases words with
  | nil =>
      refine iff_of_true ?_ rfl
      rw [← String.toList_inj, toList_joined_singleton, toList_camelCase_cons]
      simp
  | cons second words =>
      refine iff_of_false ?_ nofun
      intro hsame
      apply lowLine_notMem_camelCase h
      rw [hsame, toList_joined_cons_cons]
      simp

end Words

section Collisions

variable {before middle after : List FieldDeclaration} {first second : FieldDeclaration}
  {key other : String}

/-- A field whose key has the constant of an earlier one offends: by its key if that is the same,
and otherwise by the constant. -/
theorem offends_of_constant {fields : List FieldDeclaration} (h : WellKeyed fields)
    (hother : other ∈ keysOf fields) (hkey : second.key? = some key)
    (hsame : constantOf other = constantOf key) :
    Offends fields second
      (if key = other then .repeatedKey key else .sharedConstant key other (constantOf key)) := by
  split
  · next heq => exact .repeatedKey hkey (heq ▸ hother)
  · next hne =>
    refine .sharedConstant hkey ?_ hother hsame
    intro hmem
    exact hne (List.inj_on_of_nodup_map h.constants hmem hother hsame.symm)

/-- Two fields whose keys have one constant are never both described. The later of them is the one
that is reported, unless a field before it offends. -/
theorem schema_of_constant {d : Declaration} (hshape : d.shape = .named)
    (hfields : d.fields = before ++ first :: middle ++ second :: after)
    (hother : first.key? = some other) (hkey : second.key? = some key)
    (hsame : constantOf other = constantOf key) :
    (∃ fault, FirstOffence (before ++ first :: middle) fault ∧ d.schema = .error fault) ∨
      d.schema = .error
        (if key = other then .repeatedKey key else .sharedConstant key other (constantOf key)) := by
  rcases wellKeyed_or_firstOffence (before ++ first :: middle) with hkeyed | ⟨fault, hfirst⟩
  · right
    have hmem : other ∈ keysOf (before ++ first :: middle) :=
      List.mem_filterMap.mpr ⟨first, by simp, hother⟩
    rw [Declaration.schema_eq_error_iff hshape, hfields]
    exact ⟨_, second, after, rfl, wellKeyed_iff.mp hkeyed,
      offends_of_constant hkeyed hmem hkey hsame⟩
  · left
    refine ⟨fault, hfirst, ?_⟩
    obtain ⟨earlier, field, later, hsplit, hsound, hoffends⟩ := hfirst
    rw [Declaration.schema_eq_error_iff hshape, hfields, hsplit]
    exact ⟨earlier, field, later ++ second :: after, by simp, hsound, hoffends⟩

end Collisions

/-- Words joined by a separator and the same words in camel case have one constant, the words in
capitals. They are two keys unless there is but one word. A record that describes a field under
each of them, in whatever order, has no schema: the later field is reported for the constant, or
for its key if the keys are the same, unless a field before it offends. -/
theorem spellings_share_constant (words : List String) (hne : words ≠ [])
    (hwords : ∀ word ∈ words, IsWord word)
    (hlong : ∀ word ∈ words.tail.dropLast, 2 ≤ word.length) :
    (∀ separator ∈ ['_', '.', '-'], constantOf (joined separator words) = capitals words) ∧
      constantOf (camelCase words) = capitals words ∧
      (camelCase words = joined '_' words ↔ words.length = 1) ∧
      ∀ (d : Declaration) (before middle after : List FieldDeclaration)
        (first second : FieldDeclaration) (other key : String), d.shape = .named →
        d.fields = before ++ first :: middle ++ second :: after →
        first.key? = some other → second.key? = some key →
        (other = joined '_' words ∧ key = camelCase words ∨
          other = camelCase words ∧ key = joined '_' words) →
        (∃ fault, FirstOffence (before ++ first :: middle) fault ∧ d.schema = .error fault) ∨
          d.schema = .error (if key = other then .repeatedKey key
            else .sharedConstant key other (capitals words)) := by
  obtain ⟨start, words, rfl⟩ := List.exists_cons_of_ne_nil hne
  have hseparators : ∀ separator ∈ ['_', '.', '-'],
      isUppercase separator = false ∧ isAlphanumeric separator = false :=
    List.all_iff_forall_prop.mp (by decide)
  have hjoined : ∀ separator ∈ ['_', '.', '-'],
      constantOf (joined separator (start :: words)) = capitals (start :: words) := by
    intro separator hmem
    obtain ⟨hcapital, hkept⟩ := hseparators separator hmem
    exact constantOf_joined hcapital hkept hwords
  have hcamel := constantOf_camelCase hwords hlong
  have hsnake := hjoined '_' List.mem_cons_self
  refine ⟨hjoined, hcamel, ?_, ?_⟩
  · rw [camelCase_eq_joined_iff hwords]
    simp
  · intro d before middle after first second other key hshape hfields hother hkey hspelt
    have hconstants : constantOf other = capitals (start :: words) ∧
        constantOf key = capitals (start :: words) := by
      rcases hspelt with ⟨rfl, rfl⟩ | ⟨rfl, rfl⟩
      · exact ⟨hsnake, hcamel⟩
      · exact ⟨hcamel, hsnake⟩
    rw [← hconstants.2]
    exact schema_of_constant hshape hfields hother hkey (hconstants.1.trans hconstants.2.symm)

/-- One-letter words at both ends, and a word that ends in a number before a capital. -/
theorem spellings_share_constant_short :
    let words := ["a", "b2", "c"]
    let snake : FieldDeclaration := ⟨"a_b2_c", []⟩
    let camel : FieldDeclaration :=
      ⟨"other", [⟨"filter", .list [.assigned "rename" (.text "aB2C")] false⟩]⟩
    ((∀ word ∈ words, IsWord word) ∧ ∀ word ∈ words.tail.dropLast, 2 ≤ word.length) ∧
      constantOf "a-b2-c" = "A_B2_C" ∧
      Declaration.schema ⟨.named, [snake, ⟨"limit", []⟩, camel]⟩ =
        .error (.sharedConstant "aB2C" "a_b2_c" "A_B2_C") := by
  intro words snake camel
  have hwords : ∀ word ∈ words, IsWord word := by decide
  have hlong : ∀ word ∈ words.tail.dropLast, 2 ≤ word.length := by decide
  obtain ⟨hjoined, _, _, hcollide⟩ := spellings_share_constant words (by decide) hwords hlong
  have hdashed : joined '-' words = "a-b2-c" := by decide
  have hsnake : joined '_' words = "a_b2_c" := by decide
  have hcamel : camelCase words = "aB2C" := by decide
  have hcapitals : capitals words = "A_B2_C" := by
    rw [← String.toList_inj, toList_capitals_cons]
    decide
  have hearlier : Declaration.schema ⟨.named, [snake, ⟨"limit", []⟩]⟩ =
      .ok [⟨"a_b2_c", "A_B2_C", "a_b2_c"⟩, ⟨"limit", "LIMIT", "limit"⟩] := by
    decide
  refine ⟨⟨hwords, hlong⟩, ?_, ?_⟩
  · rw [← hdashed, hjoined '-' (by decide), hcapitals]
  · have hreported := hcollide ⟨.named, [snake, ⟨"limit", []⟩, camel]⟩ [] [⟨"limit", []⟩] [] snake
      camel "a_b2_c" "aB2C" rfl rfl (by decide) (by decide) (.inl ⟨hsnake.symm, hcamel.symm⟩)
    rcases hreported with ⟨fault, hfirst, _⟩ | hreported
    · have herror := (Declaration.schema_eq_error_iff (d := ⟨.named, _⟩) rfl fault).mpr hfirst
      rw [List.nil_append, hearlier] at herror
      cases herror
    · rw [hreported, hcapitals]
      rfl

/-- Only the first fault counts, so a faulty field that comes earlier hides the shared constant. -/
theorem shared_constant_behind_fault :
    let words := ["user", "id"]
    let limit : FieldDeclaration := ⟨"limit", [⟨"filter", .list [.path "limit"] false⟩]⟩
    let snake : FieldDeclaration := ⟨"user_id", []⟩
    let camel : FieldDeclaration :=
      ⟨"owner", [⟨"filter", .list [.assigned "rename" (.text "userId")] false⟩]⟩
    ((∀ word ∈ words, IsWord word) ∧ ∀ word ∈ words.tail.dropLast, 2 ≤ word.length) ∧
      (snake.key? = some (joined '_' words) ∧ camel.key? = some (camelCase words) ∧
        camelCase words ≠ joined '_' words) ∧
      Declaration.schema ⟨.named, [limit, snake, camel]⟩ =
        .error (.badAttribute .unknownSetting) ∧
      ∀ key other constant, Declaration.schema ⟨.named, [limit, snake, camel]⟩ ≠
        .error (.sharedConstant key other constant) := by
  intro words limit snake camel
  have hfault : Declaration.schema ⟨.named, [limit, snake, camel]⟩ =
      .error (.badAttribute .unknownSetting) := by
    decide
  refine ⟨⟨by decide, by decide⟩, ⟨by decide, by decide, by decide⟩, hfault, ?_⟩
  intro key other constant
  rw [hfault]
  nofun

end Record
end QueryFilter
