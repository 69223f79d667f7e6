import Mathlib.Data.List.Basic
import QueryFilter.Record.Attribute

/-!
Attributes on one field add up to one attribute. What counts is the row of all their settings in
order; how the settings are dealt out over the attributes, and which other attributes stand between
them, makes no difference. A row without a faulty setting leaves the field out if one of the
settings says so, and gives it the last key that is set; any other row has the fault of its first
faulty setting.
-/

namespace QueryFilter
namespace Record

/-- What is wrong with a setting, whatever stands before it. -/
inductive Setting.Faulty : Setting → AttributeFault → Prop
  | unknownPath {path : String} : path ≠ "skip" → Faulty (.path path) .unknownSetting
  | unknownName {path : String} {value : Literal} :
      path ≠ "rename" → Faulty (.assigned path value) .unknownSetting
  | nested {path content : String} : Faulty (.nested path content) .unknownSetting
  | keyNotText {value : Literal} :
      value.text? = none → Faulty (.assigned "rename" value) .keyNotText
  | emptyKey {value : Literal} :
      value.text? = some "" → Faulty (.assigned "rename" value) .emptyKey

def Setting.Sound (s : Setting) : Prop := ∀ fault, ¬ s.Faulty fault

/-- A sound setting leaves the field out or gives it a key that is not empty. -/
theorem Setting.sound_iff {s : Setting} :
    s.Sound ↔ s = .path "skip" ∨
      ∃ value key, s = .assigned "rename" value ∧ value.text? = some key ∧ key ≠ "" := by
  constructor
  · intro h
    cases s with
    | path name =>
        by_cases hname : name = "skip"
        · exact .inl (congrArg Setting.path hname)
        · exact absurd (.unknownPath hname) (h _)
    | assigned name value =>
        by_cases hname : name = "rename"
        · subst hname
          cases htext : value.text? with
          | none => exact absurd (.keyNotText htext) (h _)
          | some key =>
              refine .inr ⟨value, key, rfl, htext, ?_⟩
              rintro rfl
              exact h _ (.emptyKey htext)
        · exact absurd (.unknownName hname) (h _)
    | nested path content => exact absurd .nested (h _)
  · rintro (rfl | ⟨value, key, rfl, htext, hkey⟩) fault hfault
    · cases hfault with
      | unknownPath hname => exact hname rfl
    · cases hfault with
      | unknownName hname => exact hname rfl
      | keyNotText hnone => exact absurd (htext.symm.trans hnone) nofun
      | emptyKey hempty => exact hkey (Option.some.inj (htext.symm.trans hempty))

/-- The key that a setting gives to its field. -/
def Setting.key? : Setting → Option String
  | .assigned name value => if name = "rename" then value.text? else none
  | _ => none

/-- The fault of the first faulty setting in a row. -/
def FirstFault (settings : List Setting) (fault : AttributeFault) : Prop :=
  ∃ before s after, settings = before ++ s :: after ∧ (∀ earlier ∈ before, earlier.Sound) ∧
    s.Faulty fault

namespace Attribute

/-- A list of settings in parentheses. The list may be empty, but a comma follows a setting. -/
def Listed (a : Attribute) : Prop :=
  ∃ settings comma, a.arguments = .list settings comma ∧ (settings = [] → comma = false)

/-- The settings that count. -/
def settings (a : Attribute) : List Setting :=
  match a.arguments with
  | .list settings _ => if a.path = attributeName then settings else []
  | _ => []

end Attribute

/-- The settings of attributes that count, all in one row. -/
def settingsOf (attributes : List Attribute) : List Setting :=
  attributes.flatMap Attribute.settings

namespace FieldOptions

/-- What a row of sound settings says: whether the field is left out, and its last key. -/
def ofSettings (settings : List Setting) : FieldOptions :=
  ⟨decide (.path "skip" ∈ settings), (settings.filterMap Setting.key?).getLast?⟩

variable {options : FieldOptions} {s : Setting} {settings : List Setting}

theorem merge_standard (options : FieldOptions) : options.merge standard = options := by
  simp [merge, standard]

theorem standard_merge (options : FieldOptions) : standard.merge options = options := by
  simp [merge, standard]

theorem merge_assoc (first second third : FieldOptions) :
    (first.merge second).merge third = first.merge (second.merge third) := by
  simp [merge, Bool.or_assoc, Option.or_assoc]

theorem ofSettings_cons (s : Setting) (rest : List Setting) :
    ofSettings (s :: rest) = (ofSettings [s]).merge (ofSettings rest) := by
  have hskip : decide (.path "skip" ∈ s :: rest) =
      (decide (.path "skip" ∈ [s]) || decide (.path "skip" ∈ rest)) := by
    simp
  have hkey : ((s :: rest).filterMap Setting.key?).getLast? =
      (rest.filterMap Setting.key?).getLast?.or ([s].filterMap Setting.key?).getLast? := by
    rw [← List.singleton_append, List.filterMap_append, List.getLast?_append]
  simp only [ofSettings, merge, hskip, hkey]

theorem addSetting_of_faulty {fault : AttributeFault} (h : s.Faulty fault) :
    options.addSetting s = .error fault := by
  cases h with
  | unknownPath h | unknownName h => exact if_neg h
  | nested => rfl
  | keyNotText h => simp [addSetting, h]
  | emptyKey h => simp [addSetting, h]

/-- A sound setting adds what it says on its own. -/
theorem addSetting_of_sound (h : s.Sound) :
    options.addSetting s = .ok (options.merge (ofSettings [s])) := by
  rcases Setting.sound_iff.mp h with rfl | ⟨value, key, rfl, htext, hkey⟩
  · simp [addSetting, merge, ofSettings, Setting.key?]
  · simp [addSetting, merge, ofSettings, Setting.key?, htext, hkey]

theorem sound_or_firstFault (settings : List Setting) :
    (∀ s ∈ settings, s.Sound) ∨ ∃ fault, FirstFault settings fault := by
  induction settings with
  | nil => exact .inl (List.forall_mem_nil _)
  | cons s rest ih =>
      by_cases hs : s.Sound
      · rcases ih with hrest | ⟨fault, before, t, after, rfl, hbefore, ht⟩
        · exact .inl (List.forall_mem_cons.mpr ⟨hs, hrest⟩)
        · exact .inr ⟨fault, s :: before, t, after, rfl, List.forall_mem_cons.mpr ⟨hs, hbefore⟩, ht⟩
      · obtain ⟨fault, hfault⟩ := not_forall_not.mp hs
        exact .inr ⟨fault, [], s, rest, rfl, List.forall_mem_nil _, hfault⟩

theorem foldlM_addSetting_of_sound (h : ∀ s ∈ settings, s.Sound) :
    settings.foldlM addSetting options = .ok (options.merge (ofSettings settings)) := by
  induction settings generalizing options with
  | nil => exact congrArg Except.ok options.merge_standard.symm
  | cons s rest ih =>
      obtain ⟨hs, hrest⟩ := List.forall_mem_cons.mp h
      rw [List.foldlM_cons, addSetting_of_sound hs, ofSettings_cons s rest, ← merge_assoc]
      exact ih hrest

theorem foldlM_addSetting_of_firstFault {fault : AttributeFault} (h : FirstFault settings fault) :
    settings.foldlM addSetting options = .error fault := by
  obtain ⟨before, s, after, rfl, hbefore, hs⟩ := h
  rw [List.foldlM_append, foldlM_addSetting_of_sound hbefore]
  simp only [bind, Except.bind, List.foldlM_cons, addSetting_of_faulty hs]

/-- Settings may be taken on their own and added to what is known afterwards. -/
theorem map_merge_foldlM (options : FieldOptions) (settings : List Setting) :
    (settings.foldlM addSetting standard).map options.merge =
      settings.foldlM addSetting options := by
  rcases sound_or_firstFault settings with h | ⟨fault, h⟩
  · rw [foldlM_addSetting_of_sound h, foldlM_addSetting_of_sound h, standard_merge]
    rfl
  · rw [foldlM_addSetting_of_firstFault h, foldlM_addSetting_of_firstFault h]
    rfl

theorem ofArguments_list {comma : Bool} (h : settings = [] → comma = false) :
    ofArguments (.list settings comma) = settings.foldlM addSetting standard := by
  cases settings with
  | nil =>
      rw [h rfl]
      rfl
  | cons s rest => rfl

theorem addAttribute_eq {a : Attribute} (h : a.path = attributeName → a.Listed) :
    options.addAttribute a = a.settings.foldlM addSetting options := by
  rw [addAttribute, Attribute.settings]
  split
  · next hpath =>
    obtain ⟨settings, comma, harguments, hcomma⟩ := h hpath
    rw [harguments, ofArguments_list hcomma, map_merge_foldlM]
  · next hpath =>
    split <;> rfl

theorem foldlM_addAttribute {attributes : List Attribute}
    (h : ∀ a ∈ attributes, a.path = attributeName → a.Listed) :
    attributes.foldlM addAttribute options =
      (settingsOf attributes).foldlM addSetting options := by
  induction attributes generalizing options with
  | nil => rfl
  | cons a rest ih =>
      obtain ⟨ha, hrest⟩ := List.forall_mem_cons.mp h
      rw [List.foldlM_cons, addAttribute_eq ha, settingsOf, List.flatMap_cons, List.foldlM_append]
      exact bind_congr fun options => ih hrest

theorem ofAttributes_eq {attributes : List Attribute}
    (h : ∀ a ∈ attributes, a.path = attributeName → a.Listed) :
    ofAttributes attributes = (settingsOf attributes).foldlM addSetting standard :=
  foldlM_addAttribute h

theorem foldlM_addSetting_eq_ok_iff {read : FieldOptions} :
    settings.foldlM addSetting standard = .ok read ↔
      (∀ s ∈ settings, s.Sound) ∧ read = ofSettings settings := by
  rcases sound_or_firstFault settings with h | ⟨fault, h⟩
  · rw [foldlM_addSetting_of_sound h, standard_merge, and_iff_right h, Except.ok.injEq, eq_comm]
  · rw [foldlM_addSetting_of_firstFault h]
    refine iff_of_false nofun fun hsound => ?_
    obtain ⟨before, s, after, rfl, _, hs⟩ := h
    exact hsound.1 s (List.mem_append_right _ List.mem_cons_self) fault hs

theorem foldlM_addSetting_eq_error_iff {fault : AttributeFault} :
    settings.foldlM addSetting standard = .error fault ↔ FirstFault settings fault := by
  refine ⟨fun herror => ?_, foldlM_addSetting_of_firstFault⟩
  rcases sound_or_firstFault settings with h | ⟨first, h⟩
  · rw [foldlM_addSetting_of_sound h] at herror
    cases herror
  · rw [foldlM_addSetting_of_firstFault h] at herror
    cases herror
    exact h

end FieldOptions

/-- Attributes with settings in parentheses say what one attribute with all of their settings says.
They leave the field out if one of the settings does, and give it the last key that is set. If some
setting is faulty, they have the fault of the first such setting. Two groups of attributes with the
same settings in the same order are read alike. -/
theorem attributes_merge {attributes : List Attribute}
    (h : ∀ a ∈ attributes, a.path = attributeName → a.Listed) :
    FieldOptions.ofAttributes attributes =
        FieldOptions.ofAttributes [⟨attributeName, .list (settingsOf attributes) false⟩] ∧
      (∀ options, FieldOptions.ofAttributes attributes = .ok options ↔
        (∀ s ∈ settingsOf attributes, s.Sound) ∧
          (options.skip = true ↔ .path "skip" ∈ settingsOf attributes) ∧
          options.rename = ((settingsOf attributes).filterMap Setting.key?).getLast?) ∧
      (∀ fault, FieldOptions.ofAttributes attributes = .error fault ↔
        FirstFault (settingsOf attributes) fault) ∧
      ∀ others : List Attribute, (∀ a ∈ others, a.path = attributeName → a.Listed) →
        settingsOf others = settingsOf attributes →
        FieldOptions.ofAttributes others = FieldOptions.ofAttributes attributes := by
  have halike : ∀ others : List Attribute, (∀ a ∈ others, a.path = attributeName → a.Listed) →
      settingsOf others = settingsOf attributes →
      FieldOptions.ofAttributes others = FieldOptions.ofAttributes attributes := by
    intro others hothers hsettings
    rw [FieldOptions.ofAttributes_eq h, FieldOptions.ofAttributes_eq hothers, hsettings]
  refine ⟨?_, ?_, ?_, halike⟩
  · symm
    apply halike
    · intro a hmem _
      rw [List.mem_singleton.mp hmem]
      exact ⟨_, _, rfl, fun _ => rfl⟩
    · simp [settingsOf, Attribute.settings]
  · rintro ⟨skip, rename⟩
    rw [FieldOptions.ofAttributes_eq h, FieldOptions.foldlM_addSetting_eq_ok_iff,
      FieldOptions.ofSettings, FieldOptions.mk.injEq, Bool.eq_iff_iff, decide_eq_true_iff]
  · intro fault
    rw [FieldOptions.ofAttributes_eq h, FieldOptions.foldlM_addSetting_eq_error_iff]

/-- The second key replaces the first, and an attribute without a key leaves it. After a setting
that is unknown, an empty key is not reached. -/
theorem attributes_merge_between_others :
    let attributes : List Attribute :=
      [⟨"filter", .list [.assigned "rename" (.text "a"), .assigned "rename" (.text "b")] true⟩,
        ⟨"serde", .assigned (.text "x")⟩, ⟨"filter", .list [] false⟩,
        ⟨"filter", .list [.path "skip"] false⟩]
    let faulty : List Attribute :=
      [⟨"filter", .list [.path "skip", .path "hidden"] false⟩, ⟨"doc", .none⟩,
        ⟨"filter", .list [.assigned "rename" (.text "")] false⟩]
    (∀ a ∈ attributes ++ faulty, a.path = attributeName → a.Listed) ∧
      FieldOptions.ofAttributes attributes = .ok ⟨true, some "b"⟩ ∧
      FieldOptions.ofAttributes faulty = .error .unknownSetting := by
  intro attributes faulty
  have hlisted : ∀ a ∈ attributes ++ faulty, a.path = attributeName → a.Listed := by
    simp [attributes, faulty, Attribute.Listed, attributeName]
  obtain ⟨hattributes, hfaulty⟩ := List.forall_mem_append.mp hlisted
  refine ⟨hlisted, ?_, ?_⟩
  · apply ((attributes_merge hattributes).2.1 _).mpr
    refine ⟨?_, by decide, by decide⟩
    simp [attributes, settingsOf, Attribute.settings, attributeName, Setting.sound_iff,
      Literal.text?]
  · apply ((attributes_merge hfaulty).2.2.1 _).mpr
    refine ⟨[.path "skip"], .path "hidden", [.assigned "rename" (.text "")], by decide, ?_,
      .unknownPath (by decide)⟩
    simp [Setting.sound_iff]

end Record
end QueryFilter
