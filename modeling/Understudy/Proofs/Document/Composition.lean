import Understudy.Document.Assembly
import Understudy.Document.Header
import Understudy.Document.Layout
import Understudy.Proofs.Content.Building
import Understudy.Proofs.Text.Order

/-!
# How a document is composed

The texts of the import lines, of the header and of the whole document, each as
its layout has it. A part without text leaves no separator behind, because the
trees that are put together hold no empty child.
-/

set_option autoImplicit false

namespace Understudy

namespace Content

theorem trim_leaf (text : String) : (leaf text).Trim := trivial

theorem trim_collected {cs : List Content} (h : ∀ c ∈ cs, c.Trim) (separator footer : Option String) :
    (group (Group.kept cs) separator footer).Trim := trimAll_kept cs h

theorem intercalate_empty (texts : List String) : "".intercalate texts = String.join texts := by
  induction texts with
  | nil => rfl
  | cons t ts ih => cases ts <;> simp_all

theorem join_filter (texts : List String) :
    String.join (texts.filter (· ≠ "")) = String.join texts := by
  induction texts with
  | nil => rfl
  | cons t ts ih => by_cases h : t = "" <;> simp_all

end Content

namespace Text

theorem ascends_sortedBy {l : List String} (h : l.Nodup) : Ascends (sortedBy id l) := by
  have hnodup : (sortedBy id l).Nodup := (perm_sortedBy id l).nodup_iff.2 h
  exact (pairwise_sortedBy id l).imp₂ (fun s t hb hne => before_total hb (Ne.symm hne)) hnodup

end Text

namespace Imports

variable {i : Imports} {lines : List String}

theorem mem_add {line x : String} :
    x ∈ (i.add line).toList ↔ x ∈ i.toList ∨ x ≠ "" ∧ Text.trim line = x := by
  dsimp only [add]
  split
  · rename_i h
    rw [h]
    exact ⟨.inl, fun hx => hx.resolve_right fun hr => hr.1 hr.2.symm⟩
  · rename_i h
    show x ∈ Text.insertText (Text.trim line) i.toList ↔ _
    rw [Text.mem_insertText, or_comm]
    refine or_congr_right ⟨fun hx => ⟨hx ▸ h, hx.symm⟩, fun hx => hx.2.symm⟩

theorem mem_addAll {x : String} :
    x ∈ (i.addAll lines).toList ↔ x ∈ i.toList ∨ x ≠ "" ∧ ∃ line ∈ lines, Text.trim line = x := by
  induction lines generalizing i with
  | nil => simp [addAll]
  | cons line lines ih =>
    rw [addAll, List.foldl_cons, ← addAll, ih, mem_add, or_assoc, ← and_or_left]
    simp

theorem importLines_eq (lines : List String) : Layout.importLines lines =
    Text.sortedBy id ((lines.map Text.trim).filter (· ≠ "")).eraseDups := rfl

theorem mem_importLines {x : String} :
    x ∈ Layout.importLines lines ↔ x ≠ "" ∧ ∃ line ∈ lines, Text.trim line = x := by
  rw [importLines_eq, (Text.perm_sortedBy id _).mem_iff, List.mem_eraseDups, List.mem_filter,
    List.mem_map]
  simp [and_comm]

theorem ascends_importLines (lines : List String) : Text.Ascends (Layout.importLines lines) :=
  Text.ascends_sortedBy (Text.nodup_eraseDups _)

theorem toList_ofList (lines : List String) : (ofList lines).toList = Layout.importLines lines := by
  refine Text.eq_of_mem_iff (ofList lines).lines.ascends (ascends_importLines lines) fun x => ?_
  show x ∈ (empty.addAll lines).toList ↔ _
  rw [mem_addAll, mem_importLines]
  simp [empty, toList, Text.Sorted.empty]

theorem not_mem_importLines : "" ∉ Layout.importLines lines :=
  fun h => (mem_importLines.1 h).1 rfl

theorem trim_toContent (i : Imports) : i.toContent.Trim := by
  apply Content.trim_collected
  simp [Content.trim_leaf]

theorem text_toContent (h : "" ∉ i.toList) : i.toContent.text = "\n".intercalate i.toList := by
  have hleaves : ∀ c ∈ i.toList.map Content.leaf, c.Trim := by simp [Content.trim_leaf]
  have htexts : (i.toList.map Content.leaf).map Content.text = i.toList := by
    simp [Function.comp_def]
  have hkept : i.toList.filter (· ≠ "") = i.toList := by
    apply List.filter_eq_self.2
    intro x hx
    simpa using fun he : x = "" => h (he ▸ hx)
  have ht : i.toContent.text = _ := Content.text_collected hleaves (some "\n") none
  rw [htexts, hkept] at ht
  simpa using ht

end Imports

namespace Header

variable {h : Header}

theorem banner_eq (h : Header) : h.banner = Layout.banner h.fileName h.moduleName h.version := by
  have hfile : "//\n//  " = "//" ++ ("\n" ++ "//  ") := by decide
  have hmodule : "\n//  " = "\n" ++ "//  " := by decide
  have htool : "\n//\n//  Generated by " = "\n" ++ ("//" ++ ("\n" ++ "//  Generated by ")) := by
    decide
  have hname : "//  Generated by mockgen v" = "//  Generated by " ++ (toolName ++ " v") := by decide
  have hend : ".\n//  DO NOT EDIT\n//\n" =
    "." ++ ("\n" ++ ("//  DO NOT EDIT" ++ ("\n" ++ ("//" ++ "\n")))) := by decide
  delta banner Layout.banner
  simp [hfile, hmodule, htool, hname, hend, String.append_assoc, -String.reduceAppend]

def parts (h : Header) : List Content :=
  (h.banner :: (if h.disableLint then ["\n// swiftlint:disable all\n"] else []) ++
    (h.condition.elim [] fun expression => ["\n#if " ++ expression ++ "\n"]) ++ ["\n"]).map .leaf ++
    [h.imports.toContent]

theorem toContent_eq (h : Header) :
    h.toContent = .group (Group.kept h.parts) none (some "\n") := rfl

theorem trim_parts (h : Header) : ∀ c ∈ h.parts, c.Trim := by
  intro c hc
  rcases List.mem_append.1 hc with hc | hc
  · obtain ⟨t, -, rfl⟩ := List.mem_map.1 hc
    exact Content.trim_leaf t
  · rw [List.mem_singleton.1 hc]
    exact Imports.trim_toContent h.imports

theorem trim_toContent (h : Header) : h.toContent.Trim :=
  Content.trim_collected h.trim_parts none (some "\n")

theorem text_toContent (hi : "" ∉ h.imports.toList) :
    h.toContent.text = Layout.header (Layout.banner h.fileName h.moduleName h.version)
      h.disableLint h.condition h.imports.toList := by
  rw [toContent_eq, Content.text_collected h.trim_parts, Option.getD_none,
    Content.intercalate_empty, Content.join_filter, parts]
  cases h.disableLint <;> cases h.condition <;>
    simp [Layout.header, Layout.lintLine, Layout.conditionLine, banner_eq, Imports.text_toContent hi,
      String.append_assoc, -String.reduceAppend]

end Header

namespace Assembly

variable {a : Assembly} {results : List Rendered}

def declarations (a : Assembly) (results : List Rendered) : List Content :=
  if results = [] then [] else a.support ++ (inOrder results).map fun r => .leaf r.text

theorem body_eq (a : Assembly) (results : List Rendered) : (a.body results).text =
    (Content.group (Group.kept (a.declarations results)) (some "\n\n") none).text := by
  unfold body declarations
  by_cases hr : results = []
  · simp [hr, Content.empty, Group.kept, Content.text_group]
  · simp [hr, Group.ofList, Group.separated, Group.toContent]

theorem trim_declarations (hs : ∀ c ∈ a.support, c.Trim) :
    ∀ c ∈ a.declarations results, c.Trim := by
  intro c hc
  unfold declarations at hc
  split at hc
  · simp at hc
  · rcases List.mem_append.1 hc with hc | hc
    · exact hs c hc
    · obtain ⟨r, -, rfl⟩ := List.mem_map.1 hc
      exact Content.trim_leaf r.text

theorem trim_body (hs : ∀ c ∈ a.support, c.Trim) : (a.body results).Trim := by
  unfold body
  by_cases hr : results = []
  · simp [hr, Content.empty, Content.Trim, Content.TrimAll]
  · have hd : ∀ c ∈ a.declarations results, c.Trim := trim_declarations hs
    have ht := Content.trim_collected hd (some "\n\n") none
    simpa [hr, declarations, Group.ofList, Group.separated, Group.toContent] using ht

theorem text_body (hs : ∀ c ∈ a.support, c.Trim) : (a.body results).text =
    "\n\n".intercalate (((a.declarations results).map Content.text).filter (· ≠ "")) := by
  rw [body_eq, Content.text_collected (trim_declarations hs)]
  simp

def closing (a : Assembly) : Content := if a.guarded then .leaf "\n#endif" else .empty

theorem text_closing (a : Assembly) : a.closing.text = if a.guarded then "\n#endif" else "" := by
  unfold closing
  split
  · exact Content.text_leaf _
  · simp [Content.empty, Content.text_group]

theorem trim_closing (a : Assembly) : a.closing.Trim := by
  unfold closing
  split
  · exact Content.trim_leaf _
  · exact trivial

theorem text_toContent (hh : a.header.Trim) (hs : ∀ c ∈ a.support, c.Trim) :
    (a.toContent results).text =
      "\n".intercalate ([a.header.text, (a.body results).text,
        if a.guarded then "\n#endif" else ""].filter (· ≠ "")) ++ "\n" := by
  have htrim : ∀ c ∈ [a.header, a.body results, a.closing], c.Trim := by
    simp only [List.mem_cons, List.not_mem_nil, or_false, forall_eq_or_imp, forall_eq]
    exact ⟨hh, trim_body hs, trim_closing a⟩
  have ht : (a.toContent results).text = _ :=
    Content.text_collected htrim (some "\n") (some "\n")
  rw [ht, ← text_closing]
  rfl

theorem text_document (hh : a.header.Trim) (hne : a.header.text ≠ "")
    (hs : ∀ c ∈ a.support, c.Trim) :
    (a.toContent results).text = Layout.document a.header.text
      (((a.declarations results).map Content.text).filter (· ≠ "")) a.guarded := by
  have hend : "\n\n#endif" = "\n" ++ "\n#endif" := by decide
  rw [text_toContent hh hs, text_body hs, Layout.document, hend]
  generalize hshown : ((a.declarations results).map Content.text).filter (· ≠ "") = shown
  cases shown with
  | nil => cases a.guarded <;> simp [hne, String.append_assoc, -String.reduceAppend]
  | cons t ts =>
    have hm : t ∈ t :: ts := by simp
    rw [← hshown] at hm
    have ht : t ≠ "" := by simpa using (List.mem_filter.1 hm).2
    have hbody := Content.intercalate_ne_empty "\n\n" t ts ht
    cases a.guarded <;> simp [hne, hbody, String.append_assoc, -String.reduceAppend]

end Assembly

end Understudy
