import Mathlib.Data.List.DropRight
import Understudy.Text.Blank

/-!
# What trimming leaves

A text that is trimmed is what lies between the blank characters at its ends, and
there is only one such part that neither starts nor ends with a blank character
(`trim_eq_iff`). So blank characters put around a text leave no trace once it is
trimmed (`trim_padded`), and trimming twice is trimming once (`trim_trim`).
-/

set_option autoImplicit false

namespace Understudy.Text

section Characters

variable {cs before behind : List Char}

/-- No blank character stands at either end. -/
structure Bare (cs : List Char) : Prop where
  head : ∀ c, cs.head? = some c → isBlank c = false
  last : ∀ c, cs.getLast? = some c → isBlank c = false

theorem dropWhile_of_head (h : ∀ c, cs.head? = some c → isBlank c = false) :
    cs.dropWhile isBlank = cs := by
  cases cs with
  | nil => rfl
  | cons c cs => rw [List.dropWhile_cons_of_neg (by simp [h c rfl])]

theorem rdropWhile_of_last (h : ∀ c, cs.getLast? = some c → isBlank c = false) :
    cs.rdropWhile isBlank = cs := by
  have hr : cs.reverse.dropWhile isBlank = cs.reverse := dropWhile_of_head (by simpa using h)
  rw [List.rdropWhile, hr, List.reverse_reverse]

theorem head_dropWhile (cs : List Char) {c : Char} (h : (cs.dropWhile isBlank).head? = some c) :
    isBlank c = false := by
  have hn := List.head?_dropWhile_not isBlank cs
  simpa [h] using hn

theorem trimChars_bare (cs : List Char) : Bare (trimChars cs) where
  head c hc := by
    obtain ⟨rest, hr⟩ : trimChars cs <+: cs.dropWhile isBlank :=
      List.rdropWhile_prefix isBlank (cs.dropWhile isBlank)
    apply head_dropWhile cs
    rw [← hr, List.head?_append, hc, Option.some_or]
  last c hc := by
    apply head_dropWhile (cs.dropWhile isBlank).reverse
    rwa [trimChars, List.getLast?_reverse] at hc

theorem exists_padding (cs : List Char) : ∃ before behind, (∀ c ∈ before, isBlank c = true) ∧
    (∀ c ∈ behind, isBlank c = true) ∧ cs = before ++ trimChars cs ++ behind := by
  refine ⟨cs.takeWhile isBlank, (cs.dropWhile isBlank).rtakeWhile isBlank, ?_,
    fun c hc => List.mem_rtakeWhile_imp hc, ?_⟩
  · exact List.all_eq_true.1 List.all_takeWhile
  · have hback : trimChars cs ++ (cs.dropWhile isBlank).rtakeWhile isBlank =
        cs.dropWhile isBlank := List.rdropWhile_append_rtakeWhile
    rw [List.append_assoc, hback, List.takeWhile_append_dropWhile]

theorem trimChars_padded (h : Bare cs) (hb : ∀ c ∈ before, isBlank c = true)
    (ha : ∀ c ∈ behind, isBlank c = true) : trimChars (before ++ cs ++ behind) = cs := by
  rw [trimChars, List.append_assoc, List.dropWhile_append_of_pos hb]
  cases cs with
  | nil =>
    rw [List.nil_append, List.dropWhile_eq_nil_iff.2 ha]
    rfl
  | cons c cs =>
    have hfirst : ((c :: cs) ++ behind).dropWhile isBlank = (c :: cs) ++ behind :=
      dropWhile_of_head (by simpa using h.head)
    have hblank : ∀ d ∈ behind.reverse, isBlank d = true := by simpa using ha
    rw [hfirst, List.reverse_append, List.dropWhile_append_of_pos hblank]
    exact rdropWhile_of_last h.last

end Characters

section Texts

variable {s t before behind : String}

theorem isAllBlank_iff : isAllBlank s = true ↔ ∀ c ∈ s.toList, isBlank c = true := by
  simp [isAllBlank]

/-- A trimmed text is the one part of the text without blank characters at its ends that
has only blank characters around it. -/
theorem trim_eq_iff : trim s = t ↔ Bare t.toList ∧ ∃ before behind,
    isAllBlank before = true ∧ isAllBlank behind = true ∧ s = before ++ t ++ behind := by
  constructor
  · rintro rfl
    obtain ⟨before, behind, hb, ha, hs⟩ := exists_padding s.toList
    have htrim : (trim s).toList = trimChars s.toList := String.toList_ofList
    refine ⟨htrim ▸ trimChars_bare s.toList, String.ofList before, String.ofList behind, ?_, ?_, ?_⟩
    · simpa [isAllBlank_iff] using hb
    · simpa [isAllBlank_iff] using ha
    · apply String.toList_inj.1
      simpa [htrim] using hs
  · rintro ⟨hbare, before, behind, hb, ha, rfl⟩
    have hp := trimChars_padded hbare (isAllBlank_iff.1 hb) (isAllBlank_iff.1 ha)
    rw [trim, String.toList_append, String.toList_append, hp, String.ofList_toList]

theorem isAllBlank_append : isAllBlank (s ++ t) = (isAllBlank s && isAllBlank t) := by
  simp [isAllBlank]

theorem trim_padded (hb : isAllBlank before = true) (ha : isAllBlank behind = true) (s : String) :
    trim (before ++ s ++ behind) = trim s := by
  obtain ⟨hbare, before', behind', hb', ha', hs⟩ := trim_eq_iff.1 (rfl : trim s = trim s)
  refine trim_eq_iff.2 ⟨hbare, before ++ before', behind' ++ behind, ?_, ?_, ?_⟩
  · simp [isAllBlank_append, hb, hb']
  · simp [isAllBlank_append, ha, ha']
  · nth_rewrite 1 [hs]
    simp only [String.append_assoc]

theorem trim_trim (s : String) : trim (trim s) = trim s := by
  obtain ⟨hbare, -⟩ := trim_eq_iff.1 (rfl : trim s = trim s)
  exact trim_eq_iff.2 ⟨hbare, "", "", rfl, rfl, by simp⟩

theorem trim_eq_empty_iff : trim s = "" ↔ isAllBlank s = true := by
  rw [trim_eq_iff]
  constructor
  · rintro ⟨-, before, behind, hb, ha, rfl⟩
    simp [isAllBlank_append, hb, ha]
  · intro h
    exact ⟨⟨by simp, by simp⟩, s, "", h, rfl, by simp⟩

end Texts

end Understudy.Text
