import Mathlib.Data.List.TakeWhile
import QueryFilter.Config.Text
import QueryFilter.Proofs.Calendar.Offset
import QueryFilter.Proofs.Json.Quoted
import QueryFilter.Proofs.Text.Case
import QueryFilter.Session

/-!
Settings that are saved and loaded. A date format is saved as one text, and the name of the
standard format is that format in any case of its letters. So settings come back as they were,
unless their format is a pattern that is spelled like the name: such a pattern, which reads no
text, comes back as the standard format. Settings that were loaded are kept by every further
round.
-/

namespace QueryFilter

namespace DateFormat

open Calendar (Instant Item Reading)

/-- Whether a format is a pattern spelled like the name of the standard format. -/
def isReserved : DateFormat → Bool
  | rfc3339 => false
  | pattern text => decide (text.toLower = standardName)

variable {format : DateFormat}

theorem isReserved_pattern {text : String} :
    (pattern text).isReserved = true ↔ text.toList.map Char.toLower = standardName.toList := by
  rw [isReserved, decide_eq_true_iff, ← String.toList_inj, Text.toList_toLower]

theorem ofText_eq (text : String) :
    ofText text = if text.toLower = standardName then rfc3339 else pattern text := by
  rw [ofText, ← Text.toList_toLower]
  simp only [String.toList_inj]

theorem ofText_toText (format : DateFormat) :
    ofText format.toText = if format.isReserved then rfc3339 else format := by
  cases format with
  | rfc3339 => decide
  | pattern text =>
      rw [toText, ofText_eq]
      simp only [isReserved, decide_eq_true_iff]

theorem isReserved_ofText (text : String) : (ofText text).isReserved = false := by
  rw [ofText_eq]
  split
  · rfl
  · next h => exact decide_eq_false h

/-- A pattern in which nothing has a meaning is one literal. -/
theorem items_of_plain {c : Char} {rest : List Char} (h : ∀ d ∈ c :: rest, Item.isPlain d = true) :
    Item.ofPattern (c :: rest) = [.literal (c :: rest)] := by
  obtain ⟨hc, hrest⟩ := List.forall_mem_cons.mp h
  have hplain : c ≠ '%' ∧ Text.isBlank c = false := by
    simpa [Item.isPlain] using hc
  rw [Item.ofPattern, if_neg hplain.1, if_neg (ne_true_of_eq_false hplain.2),
    List.takeWhile_eq_self_iff.mpr hrest, List.dropWhile_eq_nil_iff.mpr hrest]
  simp [Item.ofPattern]

/-- A pattern spelled like the name says nothing of a date, so it reads no text. -/
theorem parse_ne_ok_of_isReserved (h : format.isReserved = true) (input : String) (i : Instant) :
    format.parse input ≠ .ok i := by
  cases format with
  | rfc3339 => cases h
  | pattern text =>
      rw [isReserved_pattern] at h
      have hplain : ∀ c ∈ text.toList, Item.isPlain c = true := by
        intro c hc
        have hname : ∀ d ∈ standardName.toList, Item.isPlain d = true :=
          List.all_eq_true.mp (by decide)
        rw [← Text.apply_toLower Item.isPlain (by decide) c]
        exact hname _ (h ▸ List.mem_map_of_mem hc)
      cases hchars : text.toList with
      | nil =>
          rw [hchars] at h
          cases h
      | cons c rest =>
          have hitems : Item.ofPattern text.toList = [.literal (c :: rest)] := by
            rw [hchars] at hplain ⊢
            exact items_of_plain hplain
          cases hread : Reading.ofText text.toList input.toList with
          | error fault =>
              rw [parse_of_ofText_error hread]
              nofun
          | ok r =>
              have hempty : r = .empty := by
                obtain ⟨get?⟩ := r
                refine congrArg Reading.mk (funext fun part => ?_)
                apply Reading.get?_eq_none_of_ofText hread
                rw [hitems]
                simp [Item.parts]
              have hnothing : Reading.empty.instant = .error .notEnough := by decide
              rw [parse_of_ofText hread, hempty, hnothing]
              nofun

end DateFormat

namespace Config

open Calendar (exists_of_bind_eq_ok)
open Json (Token quotedBody)

/-- Settings as they come back after they were saved. -/
def reloaded (c : Config) : Config :=
  { c with dateFormat := if c.dateFormat.isReserved then .rfc3339 else c.dateFormat }

variable {c : Config}

theorem reloaded_eq_self_iff : c.reloaded = c ↔ c.dateFormat.isReserved = false := by
  obtain ⟨idKey, format⟩ := c
  cases hreserved : format.isReserved with
  | false => simp [reloaded, hreserved]
  | true =>
      refine iff_of_false ?_ nofun
      intro h
      simp only [reloaded, hreserved, if_true, mk.injEq, true_and] at h
      rw [← h] at hreserved
      cases hreserved

theorem ofName?_name (field : Field) : Field.ofName? field.name = some field := by
  cases field <;> decide

theorem complete_eq_reloaded (c : Config) :
    Partial.complete ⟨some c.idKey, some c.dateFormat.toText⟩ = c.reloaded := by
  simp [Partial.complete, reloaded, DateFormat.ofText_toText]

theorem isReserved_complete (p : Partial) : p.complete.dateFormat.isReserved = false := by
  obtain ⟨idKey, format⟩ := p
  cases format with
  | none => rfl
  | some text => exact DateFormat.isReserved_ofText text

theorem ofJson_toJson (c : Config) : ofJson c.toJson = .ok c.reloaded := by
  rw [← complete_eq_reloaded]
  simp [ofJson, toJson, ofMembers, ofName?_name, textOf, Partial.empty, Partial.set, bind,
    Except.bind, pure, Except.pure]

theorem tokens_toJson (c : Config) :
    Json.tokens (Json.render c.toJson).toList =
      [.openBrace, .string (quotedBody Field.idKey.name), .colon, .string (quotedBody c.idKey),
        .comma, .string (quotedBody Field.dateFormat.name), .colon,
        .string (quotedBody c.dateFormat.toText), .closeBrace] := by
  have htext : (Json.render c.toJson).toList =
      '\x7b' :: ((Json.quote Field.idKey.name).toList ++ ':' :: ((Json.quote c.idKey).toList ++
        ',' :: ((Json.quote Field.dateFormat.name).toList ++
          ':' :: ((Json.quote c.dateFormat.toText).toList ++ ['\x7d'])))) := by
    simp [toJson, Json.render, Json.renderMembers, Json.brace, Json.member]
  rw [htext, Json.tokens_mark '\x7b' .openBrace (by simp), Json.tokens_quote,
    Json.tokens_mark ':' .colon (by simp), Json.tokens_quote, Json.tokens_mark ',' .comma (by simp),
    Json.tokens_quote, Json.tokens_mark ':' .colon (by simp), Json.tokens_quote,
    Json.tokens_mark '\x7d' .closeBrace (by simp), Json.tokens]

theorem textAt_quotedBody (text : String) (rest : List Token) :
    textAt (.string (quotedBody text) :: rest) =
      .ok (text, ⟨rest, Nat.lt_succ_self rest.length⟩) := by
  simp [textAt, unescaped, Json.unescape?_quotedBody, bind, Except.bind, pure, Except.pure]

/-- A known member that comes first, or after a comma, gives its field a text. -/
theorem membersAt_text (started : Bool) (p : Partial) (field : Field)
    (h : p.isKnown field = false) (text : String) (rest : List Token) :
    membersAt started p
      ((if started then [.comma] else []) ++ .string (quotedBody field.name) :: .colon ::
        .string (quotedBody text) :: rest) =
      membersAt true (p.set text field) rest := by
  cases started with
  | false =>
      rw [if_neg Bool.false_ne_true, List.nil_append, membersAt]
      simp [unescaped, Json.unescape?_quotedBody, bind, Except.bind, ofName?_name, h,
        textAt_quotedBody]
  | true =>
      rw [if_pos rfl, List.singleton_append, membersAt]
      simp [unescaped, Json.unescape?_quotedBody, bind, Except.bind, ofName?_name, h,
        textAt_quotedBody]

theorem ofText_render (c : Config) : ofText (Json.render c.toJson) = .ok c.reloaded := by
  have hmembers : membersAt false .empty
      (.string (quotedBody Field.idKey.name) :: .colon :: .string (quotedBody c.idKey) :: .comma ::
        .string (quotedBody Field.dateFormat.name) :: .colon ::
          .string (quotedBody c.dateFormat.toText) :: [.closeBrace]) =
      .ok (⟨some c.idKey, some c.dateFormat.toText⟩, []) := by
    refine (membersAt_text false .empty .idKey rfl c.idKey _).trans ?_
    refine (membersAt_text true _ .dateFormat rfl c.dateFormat.toText _).trans ?_
    rw [membersAt]
    rfl
  rw [ofText, tokens_toJson]
  simp only [hmembers, bind, Except.bind, pure, Except.pure, if_true, complete_eq_reloaded]

/-- Settings that were loaded have no pattern that is spelled like the name. -/
theorem isReserved_of_loaded
    (h : (∃ json, ofJson json = .ok c) ∨ ∃ text, ofText text = .ok c) :
    c.dateFormat.isReserved = false := by
  suffices hcomplete : ∃ p : Partial, p.complete = c by
    obtain ⟨p, rfl⟩ := hcomplete
    exact isReserved_complete p
  rcases h with ⟨json, h⟩ | ⟨text, h⟩
  · unfold ofJson at h
    split at h
    all_goals
      obtain ⟨p, _, hpure⟩ := exists_of_bind_eq_ok h
      exact ⟨p, Except.ok.inj hpure⟩
  · -- However the text begins, what was read of it is completed in the same way.
    have hread (read : Except Fault (Partial × List Token))
        (hok : (read >>= fun (r : Partial × List Token) =>
          if r.2 = [] then pure r.1.complete else .error .notJson) = .ok c) :
        ∃ p : Partial, p.complete = c := by
      obtain ⟨⟨p, rest⟩, _, hpure⟩ := exists_of_bind_eq_ok hok
      simp only [pure, Except.pure] at hpure
      split at hpure
      · exact ⟨p, Except.ok.inj hpure⟩
      · cases hpure
    unfold ofText at h
    split at h
    · exact hread _ h
    · exact hread _ h
    · split at h
      · exact hread _ h
      · exact hread _ h
    · exact hread _ h

/-- A pattern that is spelled like the name reads less than the format that it comes back as. -/
theorem exists_parse_reloaded (h : c.dateFormat.isReserved = true) :
    ∃ input i, c.reloaded.dateFormat.parse input = .ok i ∧ c.dateFormat.parse input ≠ .ok i := by
  have hformat : c.reloaded.dateFormat = .rfc3339 := by
    rw [reloaded, h, if_pos rfl]
  have hread : ∃ i, DateFormat.rfc3339.parse "2024-01-29T10:20:30Z" = .ok i := ⟨_, by rfl⟩
  obtain ⟨i, hread⟩ := hread
  exact ⟨_, i, hformat ▸ hread, DateFormat.parse_ne_ok_of_isReserved h _ i⟩

/-- Settings are loaded as they were saved, unless their format is a pattern that is spelled like
the name of the standard format: then the key of identifiers is kept, and a builder reads date text
in the standard format. Settings that were loaded are kept. -/
theorem saved_settings_reloaded (c : Config) :
    (ofJson c.toJson = .ok c.reloaded ∧ ofText (Json.render c.toJson) = .ok c.reloaded) ∧
      (c.reloaded = c ↔ c.dateFormat.isReserved = false) ∧
      (∀ input, (Builder.empty c.reloaded).writesOf (.identifier none input) =
        (Builder.empty c).writesOf (.identifier none input)) ∧
      ((∀ input i, ((Builder.empty c.reloaded).formatFor .configured).parse input = .ok i ↔
        ((Builder.empty c).formatFor .configured).parse input = .ok i) ↔
          c.dateFormat.isReserved = false) ∧
      ((∃ json, ofJson json = .ok c) ∨ (∃ text, ofText text = .ok c) →
        ofJson c.toJson = .ok c ∧ ofText (Json.render c.toJson) = .ok c) := by
  refine ⟨⟨ofJson_toJson c, ofText_render c⟩, reloaded_eq_self_iff, fun _ => rfl, ?_, ?_⟩
  · constructor
    · intro hsame
      by_contra hreserved
      obtain ⟨input, i, hread, hnot⟩ := exists_parse_reloaded (eq_true_of_ne_false hreserved)
      exact hnot ((hsame input i).mp hread)
    · intro hplain
      rw [reloaded_eq_self_iff.mpr hplain]
      exact fun _ _ => Iff.rfl
  · intro hloaded
    have hkept : c.reloaded = c := reloaded_eq_self_iff.mpr (isReserved_of_loaded hloaded)
    have hjson := ofJson_toJson c
    have htext := ofText_render c
    rw [hkept] at hjson htext
    exact ⟨hjson, htext⟩

/-- A key with marks that are escaped, and a pattern: loaded from text, and kept. -/
theorem saved_settings_reloaded_pattern :
    let text := "[\"a\\\"\\u0001\",\"%Y-%m-%d\"]"
    let c : Config := ⟨"a\"\x01", .pattern "%Y-%m-%d"⟩
    ofText text = .ok c ∧ ofJson c.toJson = .ok c ∧ ofText (Json.render c.toJson) = .ok c := by
  intro text c
  have hloaded : ofText text = .ok c := by decide +kernel
  obtain ⟨_, _, _, _, hkept⟩ := saved_settings_reloaded c
  exact ⟨hloaded, hkept (.inr ⟨text, hloaded⟩)⟩

/-- The name of the standard format, spelled in capitals and taken for a pattern. -/
theorem reserved_pattern_not_kept :
    ofText (Json.render (Config.toJson ⟨"_id", .pattern "RFC3339"⟩)) = .ok ⟨"_id", .rfc3339⟩ ∧
      ¬ ∀ c : Config, ofText (Json.render c.toJson) = .ok c := by
  have hloaded : ofText (Json.render (Config.toJson ⟨"_id", .pattern "RFC3339"⟩)) =
      .ok ⟨"_id", .rfc3339⟩ := by
    have hreserved : (DateFormat.pattern "RFC3339").isReserved = true :=
      DateFormat.isReserved_pattern.mpr (by decide)
    rw [ofText_render, reloaded, hreserved, if_pos rfl]
  refine ⟨hloaded, fun hkept => ?_⟩
  rw [hkept] at hloaded
  cases hloaded

end Config
end QueryFilter
