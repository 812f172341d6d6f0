import Understudy.Proofs.Files.Leading

/-!
# A walk, name by name

A passage is a walk that comes to a place, with one way to go on for each kind of
name. It is what the search finds (`passage_iff`), link by link within the same
bound, so that what holds of all walks can be proved by induction on their steps.
-/

set_option autoImplicit false

namespace Understudy.FileSystem

variable {fs : FileSystem} {ending : Ending} {links : Nat} {dir : Location} {slash : Bool}
  {name : String} {names rest : List String} {place : Place}

inductive Passage (fs : FileSystem) (ending : Ending) :
    Nat → Location → Bool → List String → Place → Prop
  | here (links : Nat) (dir : Location) (slash : Bool) :
      Passage fs ending links dir slash [] (.directory dir)
  | blank {links : Nat} {dir : Location} {slash : Bool} {rest : List String} {place : Place} :
      Passage fs ending links dir slash rest place →
      Passage fs ending links dir slash ("" :: rest) place
  | turn {links : Nat} {dir dir' : Location} {slash : Bool} {name : String} {rest : List String}
      {place : Place} :
      name ≠ "" → fs.grants .search dir = true → turn? dir name = some dir' →
      Passage fs ending links dir' slash rest place →
      Passage fs ending links dir slash (name :: rest) place
  | stop {links : Nat} {dir : Location} {slash : Bool} {name : String} :
      fs.grants .search dir = true → turn? dir name = none →
      (ending = .keep ∨ slash = true ∨ ∀ target, fs.lookup (name :: dir) ≠ some (.link target)) →
      Passage fs ending links dir slash [name] (.name dir name slash)
  | last {links : Nat} {dir : Location} {name target : String} {place : Place} :
      fs.grants .search dir = true → turn? dir name = none → ending ≠ .keep →
      fs.lookup (name :: dir) = some (.link target) →
      Passage fs ending links ((Path.route target).start dir) ((Path.route target).openSlash ending)
        ((Path.route target).steps ending) place →
      Passage fs ending (links + 1) dir false [name] place
  | enter {links : Nat} {dir : Location} {slash : Bool} {name : String} {rest : List String}
      {mode : Nat} {place : Place} :
      fs.grants .search dir = true → turn? dir name = none → rest ≠ [] →
      fs.child? dir name = .ok (some (.directory mode)) →
      Passage fs ending links (name :: dir) slash rest place →
      Passage fs ending links dir slash (name :: rest) place
  | link {links : Nat} {dir : Location} {slash : Bool} {name target : String} {rest : List String}
      {place : Place} :
      fs.grants .search dir = true → turn? dir name = none → rest ≠ [] →
      fs.child? dir name = .ok (some (.link target)) →
      Passage fs ending links ((Path.route target).start dir) slash
        ((Path.route target).names ++ rest) place →
      Passage fs ending (links + 1) dir slash (name :: rest) place

def onward (fs : FileSystem) (ending : Ending) :
    Nat → Location → Bool → List String → Except Cause Place
  | 0 => fun _ _ _ => .error .filesystemLoop
  | links + 1 => fs.find ending links

theorem find_eq (fs : FileSystem) (ending : Ending) (links : Nat) :
    fs.find ending links = fs.findVia ending (fs.onward ending links) := by
  cases links <;> rfl

theorem onward_ok (h : fs.onward ending links dir slash names = .ok place) :
    ∃ fewer, links = fewer + 1 ∧ fs.find ending fewer dir slash names = .ok place := by
  cases links with
  | zero => cases h
  | succ fewer => exact ⟨fewer, rfl, h⟩

theorem find_of_passage (h : Passage fs ending links dir slash names place) :
    fs.find ending links dir slash names = .ok place := by
  induction h with
  | here => rw [find_eq, findVia]
  | blank _ ih =>
    rw [find_eq, findVia, ← find_eq]
    exact ih
  | turn _ hg ht _ ih =>
    rw [find_eq, findVia_turn hg ht, ← find_eq]
    exact ih
  | stop hg ht hs =>
    rw [find_eq, findVia_last hg ht]
    split
    · rename_i htrue hl
      rcases hs with rfl | rfl | hs
      · simp at htrue
      · simp at htrue
      · exact absurd hl (hs _)
    · rfl
  | last hg ht he hl _ ih =>
    have hfollowed : (ending != .keep && !false) = true := by simpa using he
    rw [find_eq, findVia_last hg ht, hfollowed, hl]
    exact ih
  | enter hg ht hr hc _ ih =>
    rw [find_eq, findVia_inner hg ht hr, hc]
    rw [find_eq] at ih
    exact ih
  | link hg ht hr hc _ ih =>
    rw [find_eq, findVia_inner hg ht hr, hc]
    exact ih

theorem passage_of_last (ht : turn? dir name = none) (hg : fs.grants .search dir = true)
    (hf : ∀ fewer dir slash names, links = fewer + 1 →
      fs.find ending fewer dir slash names = .ok place →
      Passage fs ending fewer dir slash names place)
    (h : fs.find ending links dir slash [name] = .ok place) :
    Passage fs ending links dir slash [name] place := by
  rw [find_eq, findVia_last hg ht] at h
  split at h
  · rename_i target htrue hl
    obtain ⟨he, rfl⟩ : ending ≠ .keep ∧ slash = false := by simpa using htrue
    obtain ⟨fewer, rfl, h⟩ := onward_ok h
    exact .last hg ht he hl (hf fewer _ _ _ rfl h)
  · rename_i hno
    obtain rfl := Except.ok.inj h
    refine .stop hg ht ?_
    by_cases he : ending = .keep
    · exact .inl he
    by_cases hs : slash = true
    · exact .inr (.inl hs)
    · refine .inr (.inr fun target hl => hno target ?_ hl)
      simp [he, hs]

theorem passage_of_inner (ht : turn? dir name = none) (hg : fs.grants .search dir = true)
    (hr : rest ≠ [])
    (hf : ∀ fewer dir slash names, links = fewer + 1 →
      fs.find ending fewer dir slash names = .ok place →
      Passage fs ending fewer dir slash names place)
    (hn : fs.find ending links (name :: dir) slash rest = .ok place →
      Passage fs ending links (name :: dir) slash rest place)
    (h : fs.find ending links dir slash (name :: rest) = .ok place) :
    Passage fs ending links dir slash (name :: rest) place := by
  rw [find_eq, findVia_inner hg ht hr] at h
  split at h
  · cases h
  · cases h
  · rename_i hc
    rw [← find_eq] at h
    exact .enter hg ht hr hc (hn h)
  · rename_i hc
    obtain ⟨fewer, rfl, h⟩ := onward_ok h
    exact .link hg ht hr hc (hf fewer _ _ _ rfl h)
  · cases h

theorem passage_of_find (h : fs.find ending links dir slash names = .ok place) :
    Passage fs ending links dir slash names place := by
  -- Links are used up one by one, and between two of them the names.
  induction links using Nat.strongRecOn generalizing dir slash names place with
  | ind links ihl =>
    have hf : ∀ fewer dir slash names, links = fewer + 1 →
        fs.find ending fewer dir slash names = .ok place →
        Passage fs ending fewer dir slash names place := by
      intro fewer dir slash names hl h
      exact ihl fewer (by omega) h
    induction names generalizing dir with
    | nil =>
      rw [find_eq, findVia] at h
      obtain rfl := Except.ok.inj h
      exact .here links dir slash
    | cons name rest ih =>
      by_cases hne : name = ""
      · subst hne
        rw [find_eq, findVia, ← find_eq] at h
        exact .blank (ih h)
      cases hg : fs.grants .search dir with
      | false =>
        rw [find_eq, findVia_closed hne hg] at h
        cases h
      | true =>
        cases ht : turn? dir name with
        | some dir' =>
          rw [find_eq, findVia_turn hg ht, ← find_eq] at h
          exact .turn hne hg ht (ih h)
        | none =>
          by_cases hr : rest = []
          · subst hr
            exact passage_of_last ht hg hf h
          · exact passage_of_inner ht hg hr hf ih h

theorem passage_iff : Passage fs ending links dir slash names place ↔
    fs.find ending links dir slash names = .ok place :=
  ⟨find_of_passage, passage_of_find⟩

theorem resolve_iff {path : String} : fs.resolve ending path = .ok place ↔ badPath? path = none ∧
    Passage fs ending maxLinks ((Path.route path).start fs.here) ((Path.route path).openSlash ending)
      ((Path.route path).steps ending) place := by
  rw [passage_iff]
  unfold resolve
  cases badPath? path with
  | none => simp
  | some cause => simp

theorem resolve_keep_iff {path : String} : fs.resolve .keep path = .ok place ↔
    badPath? path = none ∧ Passage fs .keep maxLinks ((Path.route path).start fs.here)
      (Path.route path).slash (Path.route path).names place := by
  have hopen : (Path.route path).openSlash .keep = (Path.route path).slash := Bool.and_true _
  have hsteps : (Path.route path).steps .keep = (Path.route path).names := by
    simp [Path.Route.steps]
  rw [resolve_iff, hopen, hsteps]

section Parting

variable {more more' first second : List String} {place' : Place} {goal : Location}
  {last other : String} {closed : Bool}

theorem passage_congr (hm : more ≠ []) (hm' : more' ≠ [])
    (hc : ∀ links dir, Passage fs .keep links dir slash more place →
      Passage fs .keep links dir slash more' place')
    (h : Passage fs .keep links dir slash (names ++ more) place) :
    Passage fs .keep links dir slash (names ++ more') place' := by
  generalize hn : names ++ more = walked at h
  induction h generalizing names with
  | here => exact absurd (List.append_eq_nil_iff.1 hn).2 hm
  | last _ _ he => exact absurd rfl he
  | blank h ih =>
    cases names with
    | nil =>
      obtain rfl : more = _ := hn
      exact hc _ _ (.blank h)
    | cons n names =>
      obtain ⟨rfl, hrest⟩ := List.cons.inj hn
      exact .blank (ih hc hrest)
  | turn hne hg ht h ih =>
    cases names with
    | nil =>
      obtain rfl : more = _ := hn
      exact hc _ _ (.turn hne hg ht h)
    | cons n names =>
      obtain ⟨rfl, hrest⟩ := List.cons.inj hn
      exact .turn hne hg ht (ih hc hrest)
  | stop hg ht hs =>
    cases names with
    | nil =>
      obtain rfl : more = _ := hn
      exact hc _ _ (.stop hg ht hs)
    | cons n names => exact absurd (List.append_eq_nil_iff.1 (List.cons.inj hn).2).2 hm
  | enter hg ht hr hd h ih =>
    cases names with
    | nil =>
      obtain rfl : more = _ := hn
      exact hc _ _ (.enter hg ht hr hd h)
    | cons n names =>
      obtain ⟨rfl, hrest⟩ := List.cons.inj hn
      exact .enter hg ht (by simp [hm']) hd (ih hc hrest)
  | @link _ _ _ _ target _ _ hg ht hr hl h ih =>
    cases names with
    | nil =>
      obtain rfl : more = _ := hn
      exact hc _ _ (.link hg ht hr hl h)
    | cons n names =>
      obtain ⟨rfl, rfl⟩ := List.cons.inj hn
      have hon := ih hc (List.append_assoc (Path.route target).names names more)
      rw [List.append_assoc] at hon
      exact .link hg ht (by simp [hm']) hl hon

theorem passage_sibling (hd : ∀ dir, turn? dir other = none)
    (h : Passage fs .keep links dir slash (names ++ [name]) (.name goal last closed)) :
    Passage fs .keep links dir slash (names ++ [other]) (.name goal other closed) := by
  refine passage_congr (List.cons_ne_nil _ _) (List.cons_ne_nil _ _) (fun links dir h => ?_) h
  cases h with
  | blank h => cases h
  | turn _ _ _ h => cases h
  | stop hg _ _ => exact .stop hg (hd _) (.inl rfl)
  | last _ _ he => exact absurd rfl he
  | enter _ _ hr => exact absurd rfl hr
  | link _ _ hr => exact absurd rfl hr

theorem search_of_passage (h : Passage fs .keep links dir slash names place)
    (hp : place = .name goal last closed) : fs.grants .search dir = true := by
  induction h with
  | here => cases hp
  | blank _ ih => exact ih hp
  | turn _ hg _ _ _ => exact hg
  | stop hg _ _ => exact hg
  | last hg _ _ _ _ _ => exact hg
  | enter hg _ _ _ _ _ => exact hg
  | link hg _ _ _ _ _ => exact hg

theorem passage_dot (h : Passage fs .keep links dir slash names (.name goal last closed)) :
    Passage fs .keep links dir slash ("." :: names) (.name goal last closed) :=
  .turn (by decide) (search_of_passage h rfl) (by simp [turn?]) h

theorem passage_undot (h : Passage fs ending links dir slash ("." :: names) place) :
    Passage fs ending links dir slash names place := by
  have hturn : turn? dir "." = some dir := by simp [turn?]
  generalize hd : "." = dot at h hturn
  cases h with
  | blank _ => simp at hd
  | turn _ _ ht h =>
    obtain rfl := Option.some.inj (hturn.symm.trans ht)
    exact h
  | stop _ ht _ => simp [hturn] at ht
  | last _ ht _ _ _ => simp [hturn] at ht
  | enter _ ht _ _ _ => simp [hturn] at ht
  | link _ ht _ _ _ => simp [hturn] at ht

theorem passage_filter (hm : more ≠ [])
    (h : Passage fs .keep links dir slash (names ++ more) place) :
    Passage fs .keep links dir slash (names.filter (· ≠ ".") ++ more) place := by
  induction names generalizing links dir with
  | nil => exact h
  | cons n names ih =>
    by_cases hn : n = "."
    · subst hn
      exact ih (passage_undot h)
    · rw [List.filter_cons_of_pos (by simpa using hn)]
      have hone : Passage fs .keep links dir slash ([n] ++ (names.filter (· ≠ ".") ++ more)) place :=
        passage_congr (by simp [hm]) (by simp [hm]) (fun links dir h => ih h) h
      exact hone

theorem passage_of_filter (hm : more ≠ [])
    (h : Passage fs .keep links dir slash (names.filter (· ≠ ".") ++ more)
      (.name goal last closed)) :
    Passage fs .keep links dir slash (names ++ more) (.name goal last closed) := by
  induction names generalizing links dir with
  | nil => exact h
  | cons n names ih =>
    by_cases hn : n = "."
    · subst hn
      exact passage_dot (ih h)
    · rw [List.filter_cons_of_pos (by simpa using hn)] at h
      have hone : Passage fs .keep links dir slash ([n] ++ (names ++ more))
          (.name goal last closed) :=
        passage_congr (by simp [hm]) (by simp [hm]) (fun links dir h => ih h) h
      exact hone

theorem passage_dots (hm : more ≠ []) (hf : first.filter (· ≠ ".") = second.filter (· ≠ "."))
    (h : Passage fs .keep links dir slash (first ++ more) (.name goal last closed)) :
    Passage fs .keep links dir slash (second ++ more) (.name goal last closed) := by
  have hfirst := passage_filter hm h
  rw [hf] at hfirst
  exact passage_of_filter hm hfirst

end Parting

end Understudy.FileSystem
