import Understudy.Files.Path
import Understudy.Proofs.Text.Rows

/-!
# The names of a path

What a path says by its letters against the names that the file system follows.
A path above another one has its first pieces (`above_pieces`). The file name is the
last piece that counts unless that is two dots (`fileName?_eq`), and the last name of
the route unless that is a dot or two (`fileName?_of_names`).
-/

set_option autoImplicit false

namespace Understudy

namespace Path

theorem slash_not_mem {path p : String} (h : p ∈ pieces path) : '/' ∉ p.toList := by
  obtain ⟨part, hp, rfl⟩ := List.mem_map.1 h
  rw [String.toList_ofList]
  exact Text.not_mem_of_mem_split hp

theorem pieces_joinPieces {ps : List String} (hne : ps ≠ []) (h : ∀ p ∈ ps, '/' ∉ p.toList) :
    pieces (joinPieces ps) = ps := by
  have hl : (joinPieces ps).toList = ['/'].intercalate (ps.map String.toList) := by
    rw [joinPieces, String.toList_intercalate]
    rfl
  rw [pieces, hl, Text.split_eq_splitOn,
    List.splitOn_intercalate '/' (by simpa using h) (by simpa using hne), List.map_map]
  simp [Function.comp_def]

theorem pieces_append_slash (s t : String) : pieces (s ++ "/" ++ t) = pieces s ++ pieces t := by
  have hl : (s ++ "/" ++ t).toList = s.toList ++ '/' :: t.toList := by simp
  rw [pieces, pieces, pieces, hl, Text.split_append, List.map_append]

theorem pieces_of_slash_not_mem {s : String} (h : '/' ∉ s.toList) : pieces s = [s] := by
  simp [pieces, Text.split_of_not_mem h]

theorem isRooted_iff (path : String) :
    isRooted path = true ↔ ∃ p ps, pieces path = "" :: p :: ps := by
  unfold isRooted pieces
  cases path.toList with
  | nil => simp [Text.split]
  | cons c cs =>
    cases hs : Text.split '/' cs with
    | nil => exact absurd hs (Text.split_ne_nil '/' cs)
    | cons q qs =>
      by_cases hc : c = '/'
      · simp [Text.split, hc, hs]
      · simp [Text.split, hc, hs]

section Chain

/-- The first suffix of a chain has a head that counts, what stands before it counts for
nothing, and the others are the chain of what stands behind its head. -/
theorem chain_eq_cons {l y : List String} {rest : List (List String)} (h : chain l = y :: rest) :
    ∃ t p ps, l = t ++ y ∧ y = p :: ps ∧ (∀ q ∈ t, q = "" ∨ q = ".") ∧
      ¬ (p = "" ∨ (p = "." ∧ ps ≠ [])) ∧ rest = chain ps := by
  induction l with
  | nil => simp [chain] at h
  | cons p ps ih =>
    rw [chain] at h
    by_cases hp : p = "" ∨ (p = "." ∧ ps ≠ [])
    · rw [if_pos hp] at h
      obtain ⟨t, q, qs, rfl, hy, ht, hq, hrest⟩ := ih h
      refine ⟨p :: t, q, qs, rfl, hy, ?_, hq, hrest⟩
      simpa using ⟨hp.imp_right And.left, ht⟩
    · rw [if_neg hp] at h
      obtain ⟨rfl, rfl⟩ := List.cons.inj h
      exact ⟨[], p, ps, rfl, rfl, by simp, hp, rfl⟩

theorem chain_head {l y : List String} {rest : List (List String)} (h : chain l = y :: rest) :
    chain y = y :: rest := by
  obtain ⟨t, p, ps, -, rfl, -, hp, rfl⟩ := chain_eq_cons h
  rw [chain, if_neg hp]

theorem chain_next {l x y : List String} {rest : List (List String)}
    (h : chain l = x :: y :: rest) : chain y = y :: rest := by
  obtain ⟨t, p, ps, -, -, -, -, hrest⟩ := chain_eq_cons h
  exact chain_head hrest.symm

theorem chain_cons {l y : List String} {rest : List (List String)} (h : chain l = y :: rest) :
    ∃ t, l = t ++ y ∧ ∀ p ∈ t, p = "" ∨ p = "." := by
  obtain ⟨t, p, ps, hl, -, ht, -, -⟩ := chain_eq_cons h
  exact ⟨t, hl, ht⟩

theorem mem_chain {l s : List String} (h : s ∈ chain l) :
    ∃ p ps t, s = p :: ps ∧ p ≠ "" ∧ l = t ++ s := by
  induction l with
  | nil => simp [chain] at h
  | cons q qs ih =>
    rw [chain] at h
    by_cases hq : q = "" ∨ (q = "." ∧ qs ≠ [])
    · rw [if_pos hq] at h
      obtain ⟨p, ps, t, hs, hp, hl⟩ := ih h
      exact ⟨p, ps, q :: t, hs, hp, by simp [hl]⟩
    · rw [if_neg hq] at h
      rcases List.mem_cons.1 h with rfl | h
      · exact ⟨q, qs, [], rfl, fun he => hq (.inl he), rfl⟩
      · obtain ⟨p, ps, t, hs, hp, hl⟩ := ih h
        exact ⟨p, ps, q :: t, hs, hp, by simp [hl]⟩

theorem mem_tail_chain {l s : List String} (h : s ∈ (chain l).tail) :
    ∃ t, l = t ++ s ∧ ∃ p ∈ t, p ≠ "" := by
  cases hc : chain l with
  | nil => simp [hc] at h
  | cons y rest =>
    rw [hc, List.tail_cons] at h
    obtain ⟨t, p, ps, rfl, rfl, -, hp, rfl⟩ := chain_eq_cons hc
    obtain ⟨-, -, between, -, -, rfl⟩ := mem_chain h
    exact ⟨t ++ p :: between, by simp, p, by simp, fun he => hp (.inl he)⟩

theorem chain_of_filter {l rest : List String} {name : String}
    (h : l.filter (· ≠ "") = name :: rest) (hd : name ≠ ".") :
    ∃ tail, chain l = (name :: tail) :: chain tail ∧ tail.filter (· ≠ "") = rest := by
  induction l with
  | nil => simp at h
  | cons p ps ih =>
    by_cases hp : p = ""
    · rw [chain, if_pos (.inl hp)]
      exact ih (by simpa [hp] using h)
    · rw [List.filter_cons_of_pos (by simpa using hp)] at h
      obtain ⟨rfl, hrest⟩ := List.cons.inj h
      exact ⟨ps, by rw [chain, if_neg (by simp [hp, hd])], hrest⟩

theorem chain_nil {l : List String} (h : chain l = []) : ∀ p ∈ l, p = "" ∨ p = "." := by
  induction l with
  | nil => simp
  | cons p ps ih =>
    rw [chain] at h
    by_cases hp : p = "" ∨ (p = "." ∧ ps ≠ [])
    · rw [if_pos hp] at h
      simpa using ⟨hp.imp_right And.left, ih h⟩
    · simp [if_neg hp] at h

theorem lone_dot {ps : List String} {rest : List (List String)}
    (h : chain ("." :: ps) = ("." :: ps) :: rest) : ps = [] := by
  by_cases hne : ps = []
  · exact hne
  · rw [chain, if_pos (.inr ⟨rfl, hne⟩)] at h
    obtain ⟨t, ht, -⟩ := chain_cons h
    have hl := congrArg List.length ht
    simp only [List.length_append, List.length_cons] at hl
    omega

end Chain

theorem pieces_of_ancestry {path : String} {s : List String} (h : s ∈ ancestry path) :
    pieces (joinPieces s.reverse) = s.reverse := by
  obtain ⟨p, ps, t, hs, -, hl⟩ := mem_chain h
  apply pieces_joinPieces
  · simp [hs]
  · intro q hq
    have hm : q ∈ (pieces path).reverse := by
      rw [hl]
      exact List.mem_append_right t (List.mem_reverse.1 hq)
    exact slash_not_mem (List.mem_reverse.1 hm)

theorem ancestors_directory (path : String) :
    directory path = "." ∨ ancestors (directory path) = (ancestors path).tail := by
  have hp : parent? path = none ∨ parent? path = some "" ∨ parent? path = some "/" ∧
      (ancestors path).tail = [] ∨ ∃ x above rest, ancestry path = x :: above :: rest ∧
        parent? path = some (joinPieces above.reverse) := by
    unfold parent? ancestors
    cases ancestry path with
    | nil => simp
    | cons x rest =>
      cases rest with
      | nil => by_cases hr : isRooted path = true <;> simp [hr]
      | cons above rest => exact .inr (.inr (.inr ⟨x, above, rest, rfl, rfl⟩))
  rcases hp with hp | hp | ⟨hp, ha⟩ | ⟨x, above, rest, ha, hp⟩
  · exact .inl (by simp [directory, hp])
  · exact .inl (by simp [directory, hp])
  · refine .inr ?_
    rw [ha, directory, hp]
    decide
  · by_cases he : joinPieces above.reverse = ""
    · exact .inl (by simp [directory, hp, he])
    · refine .inr ?_
      have hd : directory path = joinPieces above.reverse := by simp [directory, hp, he]
      have hc := pieces_of_ancestry (ha ▸ by simp : above ∈ ancestry path)
      rw [hd, ancestors, ancestry, hc, List.reverse_reverse, chain_next ha, ancestors, ha]
      rfl

theorem above_pieces {path above : String} (h : above ∈ (ancestors path).tail) :
    ∃ p ps more, pieces above = ps ++ [p] ∧ p ≠ "" ∧ pieces path = pieces above ++ more ∧
      ∃ q ∈ more, q ≠ "" := by
  rw [ancestors, ← List.map_tail] at h
  obtain ⟨s, hs, rfl⟩ := List.mem_map.1 h
  have hm : s ∈ ancestry path := List.mem_of_mem_tail hs
  obtain ⟨p, ps, -, hp, hne, -⟩ := mem_chain hm
  obtain ⟨t, ht, q, hq, hqe⟩ := mem_tail_chain hs
  rw [pieces_of_ancestry hm]
  refine ⟨p, ps.reverse, t.reverse, by simp [hp], hne, ?_, q, by simpa using hq, hqe⟩
  have hr := congrArg List.reverse ht
  rwa [List.reverse_reverse, List.reverse_append] at hr

theorem above_route {path above : String} (h : above ∈ (ancestors path).tail) :
    (route above).rooted = (route path).rooted ∧
      ∃ more, more ≠ [] ∧ (route path).names = (route above).names ++ more := by
  obtain ⟨p, ps, more, ha, hp, hm, q, hq, hqe⟩ := above_pieces h
  constructor
  · show isRooted above = isRooted path
    rw [Bool.eq_iff_iff, isRooted_iff, isRooted_iff, hm, ha]
    cases ps with
    | nil => simp [hp]
    | cons r rs => cases rs <;> simp
  · refine ⟨more.filter (· ≠ ""), ?_, ?_⟩
    · intro hn
      have := List.filter_eq_nil_iff.1 hn q hq
      simp [hqe] at this
    · show (pieces path).filter (· ≠ "") = _
      rw [hm, List.filter_append]
      rfl

theorem fileName?_of_names {path name : String} {init : List String}
    (h : (route path).names = init ++ [name]) (hd : name ≠ ".") (hu : name ≠ "..") :
    fileName? path = some name := by
  have hf : (pieces path).reverse.filter (· ≠ "") = name :: init.reverse := by
    rw [List.filter_reverse, show (pieces path).filter (· ≠ "") = _ from h]
    simp
  obtain ⟨tail, hc, -⟩ := chain_of_filter hf hd
  rw [fileName?, show ancestry path = _ from hc]
  simp [hd, hu]

def counted (path : String) : List String := (pieces path).filter fun p => p ≠ "" ∧ p ≠ "."

theorem counted_of_blank {ps : List String} (h : ∀ p ∈ ps, p = "" ∨ p = ".") :
    (ps.filter fun p => p ≠ "" ∧ p ≠ ".") = [] := by
  refine List.filter_eq_nil_iff.2 fun p hp => ?_
  rcases h p hp with rfl | rfl <;> simp

/-- The file name of a path is the last piece that counts, and a path names no file
when there is none or that is two dots. -/
theorem fileName?_eq (path : String) :
    fileName? path = (counted path).getLast?.filter (· ≠ "..") := by
  have hlast : (counted path).getLast? =
      ((pieces path).reverse.filter fun p => p ≠ "" ∧ p ≠ ".").head? := by
    rw [List.filter_reverse, List.head?_reverse]
    rfl
  rw [hlast, fileName?]
  cases h : ancestry path with
  | nil => rw [counted_of_blank (chain_nil h)]; rfl
  | cons y rest =>
    obtain ⟨t, hl, ht⟩ := chain_cons h
    obtain ⟨p, ps, -, rfl, hp, -⟩ := mem_chain (show y ∈ chain _ by rw [← ancestry, h]; simp)
    rw [hl, List.filter_append, counted_of_blank ht, List.nil_append]
    by_cases hdot : p = "."
    · -- A dot that counts is the first piece.
      have hps : ps = [] := lone_dot (hdot ▸ chain_head h)
      rw [hdot, hps]
      rfl
    · rw [List.filter_cons_of_pos (by simp [hp, hdot])]
      by_cases hup : p = ".." <;> simp [hdot, hup, Option.filter]

/-- Without the dots, the names of a path are those of its directory and its file
name. -/
theorem directory_route {path name : String} {init : List String}
    (h : (route path).names = init ++ [name]) (hd : name ≠ ".") :
    (route (directory path)).rooted = (route path).rooted ∧
      (route (directory path)).names.filter (· ≠ ".") = init.filter (· ≠ ".") := by
  have hf : (pieces path).reverse.filter (· ≠ "") = name :: init.reverse := by
    rw [List.filter_reverse, show (pieces path).filter (· ≠ "") = _ from h]
    simp
  obtain ⟨tail, hc, hinit⟩ := chain_of_filter hf hd
  have ha : ancestry path = (name :: tail) :: chain tail := hc
  cases hmore : chain tail with
  | nil =>
    -- Nothing that counts stands before the name.
    have hdots : init.filter (· ≠ ".") = [] := by
      refine List.filter_eq_nil_iff.2 fun p hp => ?_
      have hm : p ∈ tail.filter (· ≠ "") := by
        rw [hinit]
        exact List.mem_reverse.2 hp
      obtain ⟨hm, hne⟩ := List.mem_filter.1 hm
      have hdot := (chain_nil hmore p hm).resolve_left (by simpa using hne)
      simp [hdot]
    rw [hmore] at ha
    rw [hdots]
    cases hr : isRooted path with
    | true =>
      have hroot : directory path = "/" := by simp [directory, parent?, ha, hr]
      rw [hroot, show (route path).rooted = true from hr]
      decide
    | false =>
      have hdot : directory path = "." := by simp [directory, parent?, ha, hr]
      rw [hdot, show (route path).rooted = false from hr]
      decide
  | cons above rest =>
    rw [hmore] at ha
    have hm : above ∈ ancestry path := by simp [ha]
    have hpieces := pieces_of_ancestry hm
    obtain ⟨p, ps, -, hp, hne, -⟩ := mem_chain hm
    have hfull : joinPieces above.reverse ≠ "" := by
      intro he
      rw [he] at hpieces
      have hempty : above.reverse = [""] := hpieces.symm.trans (by decide)
      have hmem : p ∈ above.reverse := by simp [hp]
      rw [hempty] at hmem
      exact hne (by simpa using hmem)
    have hdir : directory path = joinPieces above.reverse := by
      simp [directory, parent?, ha, hfull]
    rw [hdir]
    constructor
    · refine (above_route ?_).1
      simp [ancestors, ha]
    · obtain ⟨t, ht, hblank⟩ := chain_cons hmore
      have hskipped : (t.filter (· ≠ "")).filter (· ≠ ".") = [] := by
        rw [List.filter_filter]
        refine List.filter_eq_nil_iff.2 fun q hq => ?_
        rcases hblank q hq with rfl | rfl <;> simp
      have hi : init = (tail.filter (· ≠ "")).reverse := by rw [hinit, List.reverse_reverse]
      show ((pieces (joinPieces above.reverse)).filter (· ≠ "")).filter (· ≠ ".") = _
      rw [hpieces, hi, ht, List.filter_append, List.reverse_append, List.filter_append]
      simp only [List.filter_reverse, hskipped, List.reverse_nil, List.append_nil]

theorem isRooted_of_slash_not_mem {name : String} (hs : '/' ∉ name.toList) :
    isRooted name = false := by
  unfold isRooted
  cases h : name.toList with
  | nil => rfl
  | cons c cs =>
    have hc : c ≠ '/' := by
      rintro rfl
      simp [h] at hs
    simpa using hc

theorem endsInSlash_of_ne_empty {path : String} (base : String) (hne : path ≠ "") :
    endsInSlash (base ++ path) = endsInSlash path := by
  unfold endsInSlash
  rw [String.toList_append, List.getLast?_append]
  cases h : path.toList.getLast? with
  | none => exact absurd (String.toList_eq_nil_iff.1 (List.getLast?_eq_none_iff.1 h)) hne
  | some c => rfl

theorem endsInSlash_of_slash_not_mem {name : String} (hs : '/' ∉ name.toList) :
    endsInSlash name = false := by
  unfold endsInSlash
  cases h : name.toList.getLast? with
  | none => rfl
  | some c =>
    have hc : c ≠ '/' := by
      rintro rfl
      exact hs (List.mem_of_getLast? h)
    simpa using hc

theorem isRooted_append {base : String} (hb : base ≠ "") (rest : String) :
    isRooted (base ++ rest) = isRooted base := by
  unfold isRooted
  cases h : base.toList with
  | nil => exact absurd (String.toList_eq_nil_iff.1 h) hb
  | cons c cs => simp [h]

theorem join_append (base path : String) : ∃ before, join base path = before ++ path := by
  unfold join
  split
  · exact ⟨"", by simp⟩
  · split
    · exact ⟨base, rfl⟩
    · exact ⟨base ++ "/", rfl⟩

theorem join_name (base : String) :
    ∃ before, ∀ name : String, '/' ∉ name.toList → join base name = before ++ name := by
  by_cases hb : base = ""
  · exact ⟨"", fun name _ => by simp [join, hb]⟩
  by_cases he : endsInSlash base = true
  · exact ⟨base, fun name hs => by simp [join, isRooted_of_slash_not_mem hs, hb, he]⟩
  · exact ⟨base ++ "/", fun name hs => by simp [join, isRooted_of_slash_not_mem hs, hb, he]⟩

theorem join_join_name (origin base : String) :
    ∃ before, ∀ name : String, '/' ∉ name.toList → join origin (join base name) = before ++ name := by
  obtain ⟨inner, hinner⟩ := join_name base
  have hr : ∀ name : String, '/' ∉ name.toList → isRooted (inner ++ name) = isRooted inner := by
    intro name hs
    by_cases hi : inner = ""
    · rw [hi, String.empty_append, isRooted_of_slash_not_mem hs]
      decide
    · exact isRooted_append hi name
  by_cases hb : isRooted inner = true ∨ origin = ""
  · exact ⟨inner, fun name hs => by rw [hinner name hs, join, hr name hs, if_pos hb]⟩
  by_cases he : endsInSlash origin = true
  · refine ⟨origin ++ inner, fun name hs => ?_⟩
    rw [hinner name hs, join, hr name hs, if_neg hb, if_pos he, String.append_assoc]
  · refine ⟨origin ++ "/" ++ inner, fun name hs => ?_⟩
    rw [hinner name hs, join, hr name hs, if_neg hb, if_neg he]
    simp only [String.append_assoc]

theorem route_join {path : String} (base : String) (hr : isRooted path = false) (hne : path ≠ "") :
    (route (join base path)).rooted = (route base).rooted ∧
      (route (join base path)).names = (route base).names ++ (route path).names ∧
      (route (join base path)).slash = (route path).slash := by
  show isRooted (join base path) = isRooted base ∧
    (pieces (join base path)).filter (· ≠ "") =
      (pieces base).filter (· ≠ "") ++ (pieces path).filter (· ≠ "") ∧
    endsInSlash (join base path) = endsInSlash path
  by_cases hb : base = ""
  · have hj : join base path = path := by simp [join, hb]
    refine ⟨?_, ?_, by rw [hj]⟩
    · rw [hj, hr, hb]
      decide
    · rw [hj, hb]
      simp [pieces, Text.split]
  by_cases he : endsInSlash base = true
  · have hj : join base path = base ++ path := by simp [join, hb, hr, he]
    have hl : base.toList.getLast? = some '/' := by simpa [endsInSlash] using he
    obtain ⟨cs, hcs⟩ := List.getLast?_eq_some_iff.1 hl
    have hbase : base = String.ofList cs ++ "/" := by
      rw [← String.toList_inj, String.toList_append, String.toList_ofList, hcs]
      rfl
    refine ⟨hj ▸ isRooted_append hb path, ?_, hj ▸ endsInSlash_of_ne_empty base hne⟩
    have hempty : pieces base = pieces (String.ofList cs) ++ [""] := by
      have hsplit := pieces_append_slash (String.ofList cs) ""
      rw [String.append_empty, ← hbase] at hsplit
      rw [hsplit]
      congr 1
    rw [hj, hempty, hbase, pieces_append_slash]
    simp
  · have hj : join base path = base ++ "/" ++ path := by simp [join, hb, hr, he]
    refine ⟨?_, ?_, hj ▸ endsInSlash_of_ne_empty (base ++ "/") hne⟩
    · rw [hj, String.append_assoc, isRooted_append hb]
    · rw [hj, pieces_append_slash, List.filter_append]

theorem join_route {name : String} (base : String) (hs : '/' ∉ name.toList) (hne : name ≠ "") :
    (route (join base name)).rooted = (route base).rooted ∧
      (route (join base name)).names = (route base).names ++ [name] ∧
      (route (join base name)).slash = false := by
  obtain ⟨hrooted, hnames, hslash⟩ := route_join base (isRooted_of_slash_not_mem hs) hne
  refine ⟨hrooted, ?_, ?_⟩
  · rw [hnames]
    simp [route, pieces_of_slash_not_mem hs, hne]
  · rw [hslash]
    exact endsInSlash_of_slash_not_mem hs

theorem join_ne_empty {path : String} (base : String) (hne : path ≠ "") : join base path ≠ "" := by
  obtain ⟨before, hj⟩ := join_append base path
  rw [hj]
  simp [hne]

theorem join_join_names {name : String} (origin base : String) (hs : '/' ∉ name.toList)
    (hne : name ≠ "") : ∃ before, (route (join origin (join base name))).names = before ++ [name] := by
  obtain ⟨-, hnames, -⟩ := join_route base hs hne
  cases hr : isRooted (join base name) with
  | true =>
    have hj : join origin (join base name) = join base name := by
      rw [join.eq_1 origin, if_pos (.inl hr)]
    exact ⟨_, by rw [hj, hnames]⟩
  | false =>
    obtain ⟨-, houter, -⟩ := route_join origin hr (join_ne_empty base hne)
    exact ⟨(route origin).names ++ (route base).names, by rw [houter, hnames, List.append_assoc]⟩

end Path

end Understudy
