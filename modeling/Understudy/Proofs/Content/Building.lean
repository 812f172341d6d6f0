import Understudy.Content.Outline

/-!
# Building a content from its outline

The groups of an outline can be built in many ways: collected at once, or by
pushing and extending in any batches, with the separator and the footer set at
any time. `Builds` admits all of them. Whichever is taken, the content has the
reference text of the outline, and emptiness, which is read off the top node
alone, is emptiness of that text. The invariant is `Trim`: no group at any depth
holds an empty child.
-/

set_option autoImplicit false

namespace Understudy

namespace Content

mutual

/-- No group at any depth holds an empty child. -/
def Trim : Content → Prop
  | .leaf _ => True
  | .group children _ _ => TrimAll children

def TrimAll : List Content → Prop
  | [] => True
  | c :: cs => (c.isEmpty = false ∧ c.Trim) ∧ TrimAll cs

end

theorem trimAll_append (cs ds : List Content) : TrimAll (cs ++ ds) ↔ TrimAll cs ∧ TrimAll ds := by
  induction cs with
  | nil => simp [TrimAll]
  | cons c cs ih => simp [TrimAll, ih, and_assoc]

theorem intercalate_ne_empty (separator text : String) (texts : List String) (h : text ≠ "") :
    separator.intercalate (text :: texts) ≠ "" := by
  cases texts with
  | nil => simpa using h
  | cons t ts => simp [h]

theorem text_eq_empty_iff : (c : Content) → c.Trim → (c.text = "" ↔ c.isEmpty = true)
  | .leaf text, _ => by rw [text_leaf, isEmpty_leaf]
  | .group [] separator footer, _ => by simp [text_group, isEmpty_group]
  | .group (c :: cs) separator footer, h => by
    have hc : c.text ≠ "" := fun ht => by
      have he := (text_eq_empty_iff c h.1.2).1 ht
      rw [h.1.1] at he
      exact Bool.false_ne_true he
    have hne := intercalate_ne_empty (separator.getD "") c.text (cs.map text) hc
    rw [text_group, isEmpty_group, List.map_cons]
    simp [hne]

theorem trimAll_kept (cs : List Content) (h : ∀ c ∈ cs, c.Trim) : TrimAll (Group.kept cs) := by
  induction cs with
  | nil => simp [Group.kept, TrimAll]
  | cons c cs ih =>
    have hc := h c (by simp)
    have hcs := ih (fun d hd => h d (by simp [hd]))
    rw [← List.singleton_append, Group.kept_append, trimAll_append]
    refine ⟨?_, hcs⟩
    by_cases he : c.isEmpty = true
    · simp [Group.kept, he, TrimAll]
    · simp [Group.kept, he, TrimAll, hc]

theorem kept_of_trimAll {cs : List Content} (h : TrimAll cs) : Group.kept cs = cs := by
  induction cs with
  | nil => rfl
  | cons c cs ih =>
    obtain ⟨⟨hc, -⟩, hcs⟩ := h
    rw [← List.singleton_append, Group.kept_append, ih hcs]
    simp [Group.kept, hc]

theorem map_text_kept (cs : List Content) (h : ∀ c ∈ cs, c.Trim) :
    (Group.kept cs).map text = (cs.map text).filter (· ≠ "") := by
  induction cs with
  | nil => rfl
  | cons c cs ih =>
    have hc := text_eq_empty_iff c (h c (by simp))
    have hcs := ih (fun d hd => h d (by simp [hd]))
    rw [← List.singleton_append, Group.kept_append, List.map_append, hcs]
    by_cases he : c.isEmpty = true
    · simp [Group.kept, he, hc.2 he]
    · have ht : c.text ≠ "" := fun ht => he (hc.1 ht)
      simp [Group.kept, he, ht]

theorem text_collected {cs : List Content} (h : ∀ c ∈ cs, c.Trim) (separator footer : Option String) :
    (group (Group.kept cs) separator footer).text =
      (separator.getD "").intercalate ((cs.map text).filter (· ≠ "")) ++ footer.getD "" := by
  rw [text_group, map_text_kept cs h]

end Content

namespace Outline

mutual

/-- A content that an outline can be built to. -/
inductive Builds : Outline → Content → Prop
  | leaf (text : String) : Builds (.leaf text) (.leaf text)
  | group {parts : List Outline} {separator footer : Option String} {g : Group} :
      Assembles parts separator footer g → Builds (.group parts separator footer) g.toContent

inductive BuildsAll : List Outline → List Content → Prop
  | nil : BuildsAll [] []
  | cons {o : Outline} {c : Content} {os : List Outline} {cs : List Content} :
      Builds o c → BuildsAll os cs → BuildsAll (o :: os) (c :: cs)

/-- A group under construction with the parts that went into it so far and the
latest separator and footer. -/
inductive Assembles : List Outline → Option String → Option String → Group → Prop
  | collect {os : List Outline} {cs : List Content} :
      BuildsAll os cs → Assembles os none none (Group.ofList cs)
  | push {parts : List Outline} {separator footer : Option String} {g : Group} {o : Outline}
      {c : Content} :
      Assembles parts separator footer g → Builds o c →
      Assembles (parts ++ [o]) separator footer (g.push c)
  | extend {parts : List Outline} {separator footer : Option String} {g : Group}
      {os : List Outline} {cs : List Content} :
      Assembles parts separator footer g → BuildsAll os cs →
      Assembles (parts ++ os) separator footer (g.extend cs)
  | separate {parts : List Outline} {separator footer : Option String} {g : Group} (text : String) :
      Assembles parts separator footer g → Assembles parts (some text) footer (g.separated text)
  | close {parts : List Outline} {separator footer : Option String} {g : Group} (text : String) :
      Assembles parts separator footer g → Assembles parts separator (some text) (g.closed text)

end

theorem referenceTexts_append (os ps : List Outline) :
    referenceTexts (os ++ ps) = referenceTexts os ++ referenceTexts ps := by
  induction os with
  | nil => rfl
  | cons o os ih => simp [referenceTexts, ih]

/-- What a group under construction has in common with its parts. -/
structure Agrees (parts : List Outline) (separator footer : Option String) (g : Group) : Prop where
  separator_eq : g.separator = separator
  footer_eq : g.footer = footer
  trim : Content.TrimAll g.children
  texts : g.children.map Content.text = (referenceTexts parts).filter (· ≠ "")

/-- Extending keeps the agreement; collecting and pushing are cases of it. -/
theorem agrees_extend {parts os : List Outline} {separator footer : Option String} {g : Group}
    {cs : List Content} (h : Agrees parts separator footer g) (ht : ∀ c ∈ cs, c.Trim)
    (hc : cs.map Content.text = referenceTexts os) :
    Agrees (parts ++ os) separator footer (g.extend cs) where
  separator_eq := h.separator_eq
  footer_eq := h.footer_eq
  trim := (Content.trimAll_append _ _).2 ⟨h.trim, Content.trimAll_kept cs ht⟩
  texts := by
    simp only [Group.extend, List.map_append, h.texts, Content.map_text_kept cs ht, hc,
      referenceTexts_append, List.filter_append]

theorem agrees_nil : Agrees [] none none {} where
  separator_eq := rfl
  footer_eq := rfl
  trim := trivial
  texts := rfl

mutual

theorem builds_text {o : Outline} {c : Content} :
    Builds o c → c.Trim ∧ c.text = o.referenceText
  | .leaf text => ⟨trivial, by rw [Content.text_leaf, referenceText]⟩
  | .group h => by
    have ha := assembles_agrees h
    refine ⟨ha.trim, ?_⟩
    rw [Group.toContent, Content.text_group, ha.separator_eq, ha.footer_eq, ha.texts, referenceText]

theorem buildsAll_texts {os : List Outline} {cs : List Content} :
    BuildsAll os cs → (∀ c ∈ cs, c.Trim) ∧ cs.map Content.text = referenceTexts os
  | .nil => by simp [referenceTexts]
  | .cons h hs => by
    have hc := builds_text h
    have hcs := buildsAll_texts hs
    simp [referenceTexts, hc.1, hc.2, hcs.2]
    exact hcs.1

theorem assembles_agrees {parts : List Outline} {separator footer : Option String} {g : Group} :
    Assembles parts separator footer g → Agrees parts separator footer g
  | .collect hs => by
    have hcs := buildsAll_texts hs
    rw [Group.ofList_eq_extend]
    exact agrees_extend agrees_nil hcs.1 hcs.2
  | .push h hc => by
    have ht := builds_text hc
    rw [Group.push_eq_extend]
    exact agrees_extend (assembles_agrees h) (by simpa using ht.1) (by simp [referenceTexts, ht.2])
  | .extend h hs => by
    have hcs := buildsAll_texts hs
    exact agrees_extend (assembles_agrees h) hcs.1 hcs.2
  | .separate text h => by
    have ha := assembles_agrees h
    exact ⟨rfl, ha.footer_eq, ha.trim, ha.texts⟩
  | .close text h => by
    have ha := assembles_agrees h
    exact ⟨ha.separator_eq, rfl, ha.trim, ha.texts⟩

end

mutual

theorem builds_build : (o : Outline) → Builds o o.build
  | .leaf text => .leaf text
  | .group parts separator footer => by
    have hc := Assembles.collect (buildsAll_buildAll parts)
    rw [build]
    cases separator with
    | none =>
      cases footer with
      | none => exact .group hc
      | some f => exact .group (.close f hc)
    | some s =>
      cases footer with
      | none => exact .group (.separate s hc)
      | some f => exact .group (.close f (.separate s hc))

theorem buildsAll_buildAll : (os : List Outline) → BuildsAll os (buildAll os)
  | [] => .nil
  | o :: os => .cons (builds_build o) (buildsAll_buildAll os)

end

section Converse

open Content (Trim TrimAll)

mutual

def ofContent : Content → Outline
  | .leaf text => .leaf text
  | .group children separator footer => .group (ofContents children) separator footer

def ofContents : List Content → List Outline
  | [] => []
  | c :: cs => ofContent c :: ofContents cs

end

mutual

theorem build_ofContent : (c : Content) → c.Trim → (ofContent c).build = c
  | .leaf text, _ => rfl
  | .group children separator footer, h => by
    rw [ofContent, build, buildAll_ofContents children h, Group.ofList, Content.kept_of_trimAll h]
    rfl

theorem buildAll_ofContents : (cs : List Content) → TrimAll cs → buildAll (ofContents cs) = cs
  | [], _ => rfl
  | c :: cs, h => by
    rw [ofContents, buildAll, build_ofContent c h.1.2, buildAll_ofContents cs h.2]

end

/-- The contents without empty children are exactly those that can be built. -/
theorem trim_iff_builds {c : Content} : c.Trim ↔ ∃ o, Builds o c := by
  constructor
  · intro h
    have hb := builds_build (ofContent c)
    rw [build_ofContent c h] at hb
    exact ⟨_, hb⟩
  · rintro ⟨o, hb⟩
    exact (builds_text hb).1

end Converse

/-- However an outline is built, the content serializes to the reference text,
holds no empty child, shows no empty fragment to any visitor, and knows its
length and whether it is empty. -/
theorem content_matches_outline {o : Outline} {c : Content} (h : Builds o c) :
    c.text = o.referenceText ∧ c.Trim ∧
      (∀ {ε σ : Type} (visit : Content.Visitor ε σ),
        c.walk visit = Content.visitAll visit c.fragments) ∧
      (∀ t ∈ c.fragments, t ≠ "") ∧
      c.length = o.referenceText.utf8ByteSize ∧
      (c.isEmpty = true ↔ o.referenceText = "") := by
  obtain ⟨trim, text⟩ := builds_text h
  refine ⟨text, trim, fun visit => Content.walk_eq visit c, Content.ne_empty_of_mem_fragments c,
    ?_, ?_⟩
  · rw [Content.length_eq, text]
  · rw [← text, Content.text_eq_empty_iff c trim]

/-- A group that gets its separator twice and its footer between two batches, one of
which holds a group of nothing but a separator and a group of nothing but a footer. -/
theorem out_of_order_group_matches_outline :
    let o : Outline := .group [.leaf "A", .leaf "", .group [.leaf ""] (some "-") none,
      .group [] none (some "X")] (some ", ") (some ";")
    let c : Content := .group [.leaf "A", .group [] none (some "X")] (some ", ") (some ";")
    Builds o c ∧ c.text = o.referenceText ∧ o.referenceText = "A, X;" ∧ c.length = 5 := by
  intro o c
  have hs : BuildsAll [.leaf "", .group [.leaf ""] (some "-") none, .group [] none (some "X")]
      [.leaf "", .group [] (some "-") none, .group [] none (some "X")] :=
    .cons (.leaf "") (.cons (.group (.separate "-" (.collect (.cons (.leaf "") .nil))))
      (.cons (.group (.close "X" (.collect .nil))) .nil))
  have hb : Builds o c :=
    .group (.separate ", " (.extend (.close ";" (.separate "?" (.push (.collect .nil) (.leaf "A"))))
      hs))
  obtain ⟨text, -, -, -, length, -⟩ := content_matches_outline hb
  have reference : o.referenceText = "A, X;" := by decide
  exact ⟨hb, text, reference, by rw [length, reference]; decide⟩

end Outline

end Understudy
