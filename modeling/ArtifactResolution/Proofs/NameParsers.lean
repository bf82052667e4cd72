import ArtifactResolution.LogLevel
import ArtifactResolution.Proofs.FirstOccurrences
import ArtifactResolution.Proofs.Outcomes
import ArtifactResolution.Proofs.Text.Lowercase
import ArtifactResolution.SortOrder

namespace ArtifactResolution
set_option autoImplicit false

open Text

namespace SortOrder

variable {text : String} {order : SortOrder} {c d : Char}

/-- The first character may be written for the second: a letter in either case, or an underscore
for a hyphen. -/
def StandsFor (c d : Char) : Prop := SameLetter c d ∨ c = '_' ∧ d = '-'

/-- The text is the name under which the order is shown, up to what may stand for its characters. -/
def SpelledBy (order : SortOrder) (text : String) : Prop :=
  List.Forall₂ StandsFor text.toList order.toString.toList

instance (c d : Char) : Decidable (StandsFor c d) := inferInstanceAs (Decidable (_ ∨ _ ∧ _))

instance (order : SortOrder) (text : String) : Decidable (order.SpelledBy text) :=
  inferInstanceAs (Decidable (List.Forall₂ StandsFor _ _))

theorem standsFor_iff_normalize (hsmall : d.toLower = d) (hd : d ≠ '_') :
    StandsFor c d ↔ normalize c = d := by
  rw [StandsFor, sameLetter_iff_toLower, hsmall, normalize]
  split
  · next h =>
    have hline : c.toLower ≠ d := by
      rw [h]
      exact hd.symm
    rw [or_iff_right hline, and_iff_right h, eq_comm]
  · next h => rw [or_iff_left (fun hline => h hline.1)]

theorem small_of_mem_toString (order : SortOrder) :
    ∀ d ∈ order.toString.toList, d.toLower = d ∧ d ≠ '_' := by
  have hall : order.toString.toList.all fun d => d.toLower = d ∧ d ≠ '_' := by
    cases order <;> decide
  simpa using hall

theorem spelledBy_iff_normalize :
    order.SpelledBy text ↔ text.toList.map normalize = order.toString.toList :=
  forall₂_iff_map_eq fun d hd _ => standsFor_iff_normalize (small_of_mem_toString order d hd).1
    (small_of_mem_toString order d hd).2

theorem toString_injective : Function.Injective SortOrder.toString := by
  rintro (_ | _ | _) (_ | _ | _) h <;> first | rfl | exact absurd h (by decide)

theorem parse_eq_ok_iff : parse text = .ok order ↔ order.SpelledBy text := by
  rw [spelledBy_iff_normalize, parse]
  cases hfind : all.find? fun o => o.toString.toList = text.toList.map normalize with
  | none =>
    have hall : order ∈ all := by cases order <;> decide
    have hne := List.find?_eq_none.1 hfind order hall
    simpa [eq_comm] using hne
  | some found =>
    have hfound : found.toString.toList = text.toList.map normalize := by
      simpa using List.find?_some hfind
    rw [← hfound, String.toList_inj, toString_injective.eq_iff]
    exact ⟨Except.ok.inj, congrArg _⟩

theorem eq_of_parse_eq_error {e : ParseError} (h : parse text = .error e) : e = ⟨text⟩ := by
  rw [parse] at h
  split at h <;> cases h
  rfl

end SortOrder

namespace LogLevel

variable {text name : String} {level : LogLevel}

/-- The texts that name the level, in small letters. -/
def spellings : LogLevel → List String
  | silent => ["silent", "off"]
  | error => ["error"]
  | warn => ["warn", "warning"]
  | info => ["info"]
  | debug => ["debug"]
  | trace => ["trace"]

theorem mem_names_iff : (name, level) ∈ names ↔ name ∈ level.spellings := by
  cases level <;> simp [names, spellings, or_comm]

theorem lookup_names : ∀ e ∈ names, names.lookup e.1 = some e.2 := by decide

theorem lookup_names_iff : names.lookup name = some level ↔ name ∈ level.spellings := by
  rw [← mem_names_iff]
  exact ⟨mem_of_lookup, lookup_names (name, level)⟩

theorem small_of_mem_spellings (level : LogLevel) : ∀ name ∈ level.spellings,
    ∀ d ∈ name.toList, d.toLower = d ∧ d.isAscii ∧ d ≠ 'k' := by
  have hall : level.spellings.all fun name =>
      name.toList.all fun d => d.toLower = d ∧ d.isAscii ∧ d ≠ 'k' := by
    cases level <;> decide
  simpa using hall

theorem parse_eq_ok_iff_lookup :
    parse text = .ok level ↔ names.lookup (lowercase text) = some level := by
  rw [parse]
  cases names.lookup (lowercase text) <;> simp

theorem parse_eq_ok_iff :
    parse text = .ok level ↔ ∃ name ∈ level.spellings, SameSpelling text name := by
  have hspelled (name : String) (hname : name ∈ level.spellings) :
      lowercase text = name ↔ SameSpelling text name :=
    lowercase_eq_iff (small_of_mem_spellings level name hname)
  rw [parse_eq_ok_iff_lookup, lookup_names_iff]
  constructor
  · intro h
    exact ⟨lowercase text, h, (hspelled _ h).1 rfl⟩
  · rintro ⟨name, hname, hsame⟩
    rwa [(hspelled name hname).2 hsame]

theorem isAscii_of_parse_eq_ok (h : parse text = .ok level) : ∀ c ∈ text.toList, c.isAscii := by
  obtain ⟨name, hname, hsame⟩ := parse_eq_ok_iff.1 h
  exact isAscii_of_sameLetters hsame fun d hd => (small_of_mem_spellings level name hname d hd).2.1

theorem eq_of_parse_eq_error {e : ParseError} (h : parse text = .error e) :
    e = ⟨lowercase text⟩ := by
  rw [parse] at h
  split at h <;> cases h
  rfl

end LogLevel

/-- For every text, an order is read exactly when the text spells the name that the order is shown
under, and the error otherwise quotes the text as it stands. A level is read exactly when the text
is one of its names up to the case of ASCII letters, so never from a text with a character beyond
ASCII, and the error otherwise has the text in lower case. -/
theorem names_read_exactly (text : String) :
    (∀ order, SortOrder.parse text = .ok order ↔ order.SpelledBy text) ∧
    (∀ e, SortOrder.parse text = .error e ↔
      e = ⟨text⟩ ∧ ∀ order : SortOrder, ¬order.SpelledBy text) ∧
    (SortOrder.ParseError.mk text).message = "unknown sort order '" ++ text ++
      "' (expected default, dependency-first or consumer-first)" ∧
    (∀ level, LogLevel.parse text = .ok level ↔
      ∃ name ∈ level.spellings, SameSpelling text name) ∧
    (∀ level, LogLevel.parse text = .ok level → ∀ c ∈ text.toList, c.isAscii) ∧
    (∀ e, LogLevel.parse text = .error e ↔ e = ⟨lowercase text⟩ ∧
      ∀ level : LogLevel, ¬∃ name ∈ level.spellings, SameSpelling text name) ∧
    (LogLevel.ParseError.mk (lowercase text)).message =
      "Invalid log level: " ++ lowercase text := by
  refine ⟨fun _ => SortOrder.parse_eq_ok_iff, fun _ => ?_, rfl,
    fun _ => LogLevel.parse_eq_ok_iff, fun _ => LogLevel.isAscii_of_parse_eq_ok, fun _ => ?_, rfl⟩
  · exact eq_error_iff_of_eq_ok_iff (fun _ => SortOrder.parse_eq_ok_iff)
      fun _ => SortOrder.eq_of_parse_eq_error
  · exact eq_error_iff_of_eq_ok_iff (fun _ => LogLevel.parse_eq_ok_iff)
      fun _ => LogLevel.eq_of_parse_eq_error

theorem names_read_exactly_mixed :
    (SortOrder.dependencyFirst.SpelledBy "Dependency_FIRST" ∧
      SortOrder.parse "Dependency_FIRST" = .ok .dependencyFirst) ∧
    ((∃ name ∈ LogLevel.warn.spellings, SameSpelling "Warning" name) ∧
      LogLevel.parse "Warning" = .ok .warn ∧ ∀ c ∈ "Warning".toList, c.isAscii) ∧
    ((∀ level : LogLevel, ¬∃ name ∈ level.spellings, SameSpelling "İNFO" name) ∧
      LogLevel.parse "İNFO" = .error ⟨"i\u0307nfo"⟩) := by
  have hspelled : SortOrder.dependencyFirst.SpelledBy "Dependency_FIRST" := by decide
  have hsame : ∃ name ∈ LogLevel.warn.spellings, SameSpelling "Warning" name := by decide
  have hnone : ∀ level : LogLevel, ¬∃ name ∈ level.spellings, SameSpelling "İNFO" name := by
    intro level
    cases level <;> decide
  have hlower : lowercase "İNFO" = "i\u0307nfo" := by decide +kernel
  obtain ⟨horder, _⟩ := names_read_exactly "Dependency_FIRST"
  obtain ⟨_, _, _, hlevel, hascii, _⟩ := names_read_exactly "Warning"
  obtain ⟨_, _, _, _, _, herror, _⟩ := names_read_exactly "İNFO"
  have hwarn : LogLevel.parse "Warning" = .ok .warn := (hlevel .warn).2 hsame
  refine ⟨⟨hspelled, (horder .dependencyFirst).2 hspelled⟩, ⟨hsame, hwarn, hascii .warn hwarn⟩,
    hnone, ?_⟩
  rw [← hlower]
  exact (herror _).2 ⟨rfl, hnone⟩

end ArtifactResolution
