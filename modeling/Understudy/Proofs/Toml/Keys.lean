import Understudy.Toml.Document

/-!
# Distinct keys

However the statements of a document build up its tables, each of them has distinct
keys, and so has every table below it (`keyed_of_parse?`).
-/

set_option autoImplicit false

namespace Understudy.Toml

def Distinct {α : Type} (entries : List (String × α)) : Prop := (entries.map (·.1)).Nodup

/-- All tables in a value have distinct keys. -/
inductive Value.Keyed : Value → Prop
  | string (text : String) : Keyed (.string text)
  | integer (n : Int) : Keyed (.integer n)
  | float (literal : Decimal.Literal) : Keyed (.float literal)
  | boolean (b : Bool) : Keyed (.boolean b)
  | datetime (text : String) : Keyed (.datetime text)
  | array {items : List Value} : (∀ v ∈ items, Keyed v) → Keyed (.array items)
  | table {entries : Table} : Distinct entries → (∀ e ∈ entries, Keyed e.2) →
      Keyed (.table entries)

theorem Value.Keyed.distinct {entries : Table} (h : (Value.table entries).Keyed) :
    Distinct entries := by
  cases h with
  | table hd _ => exact hd

theorem Value.Keyed.entry {entries : Table} (h : (Value.table entries).Keyed) :
    ∀ e ∈ entries, e.2.Keyed := by
  cases h with
  | table _ hb => exact hb

theorem Value.Keyed.item {items : List Value} (h : (Value.array items).Keyed) :
    ∀ v ∈ items, v.Keyed := by
  cases h with
  | array hb => exact hb

inductive Node.Keyed : Node → Prop
  | value {v : Value} : v.Keyed → Keyed (.value v)
  | table {origin : Origin} {entries : List (String × Node)} : Distinct entries →
      (∀ e ∈ entries, Keyed e.2) → Keyed (.table origin entries)
  | tables {earlier : List (List (String × Node))} {latest : List (String × Node)} :
      (∀ t ∈ earlier, Distinct t) → (∀ t ∈ earlier, ∀ e ∈ t, Keyed e.2) → Distinct latest →
      (∀ e ∈ latest, Keyed e.2) → Keyed (.tables earlier latest)

inductive Term.Keyed : Term → Prop
  | scalar {v : Value} : v.Keyed → Keyed (.scalar v)
  | array {items : List Term} : (∀ t ∈ items, Keyed t) → Keyed (.array items)
  | inlineTable {entries : List (List String × Term)} : (∀ e ∈ entries, Keyed e.2) →
      Keyed (.inlineTable entries)

section Tables

structure Node.Entries.Keyed (entries : Node.Entries) : Prop where
  distinct : Distinct entries
  below : ∀ e ∈ entries, e.2.Keyed

open Node

variable {entries result : Entries} {key : String} {node : Node} {path : List String}
  {dotted : Bool}

theorem keyed_nil : Entries.Keyed [] := ⟨List.nodup_nil, by simp⟩

theorem keyed_get? (h : Entries.Keyed entries) (hg : get? key entries = some node) :
    node.Keyed := by
  obtain ⟨e, he, rfl⟩ := Option.map_eq_some_iff.1 hg
  exact h.below e (List.mem_of_find?_eq_some he)

theorem keyed_set (h : Entries.Keyed entries) (hn : node.Keyed) :
    Entries.Keyed (set key node entries) where
  distinct := by
    refine List.nodup_cons.2 ⟨?_, (List.filter_sublist.map _).nodup h.distinct⟩
    intro hm
    obtain ⟨e, he, hk⟩ := List.mem_map.1 hm
    have hne := (List.mem_filter.1 he).2
    simp [hk] at hne
  below := by
    intro e he
    rcases List.mem_cons.1 he with rfl | he
    · exact hn
    · exact h.below e (List.mem_filter.1 he).1

theorem keyed_within {change : Entries → Option Entries}
    (hc : ∀ old new, Entries.Keyed old → change old = some new → Entries.Keyed new)
    (h : Entries.Keyed entries) (hw : within dotted change path entries = some result) :
    Entries.Keyed result := by
  induction path generalizing entries result with
  | nil => exact hc _ _ h hw
  | cons key keys ih =>
    rw [within] at hw
    split at hw
    · obtain ⟨made, hm, hr⟩ := Option.bind_eq_some_iff.1 hw
      obtain rfl := Option.some.inj hr
      have hmade := ih keyed_nil hm
      exact keyed_set h (.table hmade.distinct hmade.below)
    · rename_i origin old hg
      split at hw
      · cases hw
      · obtain ⟨changed, hm, hr⟩ := Option.bind_eq_some_iff.1 hw
        obtain rfl := Option.some.inj hr
        cases keyed_get? h hg with
        | table hd hb =>
          have hchanged := ih ⟨hd, hb⟩ hm
          exact keyed_set h (.table hchanged.distinct hchanged.below)
    · rename_i earlier latest hg
      split at hw
      · cases hw
      · obtain ⟨changed, hm, hr⟩ := Option.bind_eq_some_iff.1 hw
        obtain rfl := Option.some.inj hr
        cases keyed_get? h hg with
        | tables hde hbe hd hb =>
          have hchanged := ih ⟨hd, hb⟩ hm
          exact keyed_set h (.tables hde hbe hchanged.distinct hchanged.below)
    · cases hw

theorem keyed_atLast {change : String → Entries → Option Entries}
    (hc : ∀ key old new, Entries.Keyed old → change key old = some new → Entries.Keyed new)
    (h : Entries.Keyed entries) (ha : atLast dotted path change entries = some result) :
    Entries.Keyed result := by
  obtain ⟨key, -, hw⟩ := Option.bind_eq_some_iff.1 ha
  exact keyed_within (hc key) h hw

theorem keyed_define {v : Value} (hv : v.Keyed) (h : Entries.Keyed entries)
    (hd : define path v entries = some result) : Entries.Keyed result := by
  refine keyed_atLast (fun key old new hold hnew => ?_) h hd
  split at hnew
  · obtain rfl := Option.some.inj hnew
    exact keyed_set hold (.value hv)
  · cases hnew

variable {pairs : List (List String × Value)}

theorem keyed_defineAll (hp : ∀ p ∈ pairs, p.2.Keyed) (h : Entries.Keyed entries)
    (hd : defineAll pairs entries = some result) : Entries.Keyed result := by
  induction pairs generalizing entries with
  | nil =>
    obtain rfl := Option.some.inj hd
    exact h
  | cons pair rest ih =>
    obtain ⟨hpair, hrest⟩ := List.forall_mem_cons.1 hp
    rw [defineAll, List.foldlM_cons] at hd
    obtain ⟨next, hn, hd⟩ := Option.bind_eq_some_iff.1 hd
    exact ih hrest (keyed_define hpair h hn) hd

theorem keyed_openTable (hp : ∀ p ∈ pairs, p.2.Keyed) (h : Entries.Keyed entries)
    (ho : openTable path pairs entries = some result) : Entries.Keyed result := by
  refine keyed_atLast (fun key old new hold hnew => ?_) h ho
  split at hnew
  · obtain ⟨filled, hf, hr⟩ := Option.bind_eq_some_iff.1 hnew
    obtain rfl := Option.some.inj hr
    have hfilled := keyed_defineAll hp keyed_nil hf
    exact keyed_set hold (.table hfilled.distinct hfilled.below)
  · rename_i before hg
    obtain ⟨filled, hf, hr⟩ := Option.bind_eq_some_iff.1 hnew
    obtain rfl := Option.some.inj hr
    cases keyed_get? hold hg with
    | table hd hb =>
      have hfilled := keyed_defineAll hp ⟨hd, hb⟩ hf
      exact keyed_set hold (.table hfilled.distinct hfilled.below)
  · cases hnew

theorem keyed_addTable (hp : ∀ p ∈ pairs, p.2.Keyed) (h : Entries.Keyed entries)
    (ha : addTable path pairs entries = some result) : Entries.Keyed result := by
  refine keyed_atLast (fun key old new hold hnew => ?_) h ha
  split at hnew
  · obtain ⟨filled, hf, hr⟩ := Option.bind_eq_some_iff.1 hnew
    obtain rfl := Option.some.inj hr
    have hfilled := keyed_defineAll hp keyed_nil hf
    exact keyed_set hold (.tables (by simp) (by simp) hfilled.distinct hfilled.below)
  · rename_i earlier latest hg
    obtain ⟨filled, hf, hr⟩ := Option.bind_eq_some_iff.1 hnew
    obtain rfl := Option.some.inj hr
    have hfilled := keyed_defineAll hp keyed_nil hf
    cases keyed_get? hold hg with
    | tables hde hbe hd hb =>
      refine keyed_set hold (.tables ?_ ?_ hfilled.distinct hfilled.below)
      · intro t ht
        rcases List.mem_append.1 ht with ht | ht
        · exact hde t ht
        · exact List.mem_singleton.1 ht ▸ hd
      · intro t ht
        rcases List.mem_append.1 ht with ht | ht
        · exact hbe t ht
        · exact List.mem_singleton.1 ht ▸ hb
  · cases hnew

end Tables

section Values

open Node

theorem perm_insertEntry (entry : String × Value) (table : Table) :
    (insertEntry entry table).Perm (entry :: table) := by
  induction table with
  | nil => exact .refl _
  | cons e es ih =>
    rw [insertEntry]
    split
    · exact .refl _
    · exact (ih.cons e).trans (.swap entry e es)

theorem perm_toTable (entries : Entries) :
    (toTable entries).Perm (entries.map fun e => (e.1, e.2.toValue)) := by
  induction entries with
  | nil =>
    rw [toTable]
    exact .refl _
  | cons e rest ih =>
    rw [toTable]
    exact (perm_insertEntry _ _).trans (ih.cons _)

theorem toTables_eq (tables : List Entries) :
    toTables tables = tables.map fun entries => .table (toTable entries) := by
  induction tables with
  | nil => rw [toTables, List.map_nil]
  | cons entries rest ih => rw [toTables, ih, List.map_cons]

theorem keyed_toTable {entries : Entries} (hd : Distinct entries)
    (hb : ∀ e ∈ entries, e.2.toValue.Keyed) : (Value.table (toTable entries)).Keyed := by
  have hperm := perm_toTable entries
  refine .table ?_ ?_
  · refine (hperm.map _).nodup_iff.2 ?_
    rw [List.map_map]
    exact hd
  · intro e he
    obtain ⟨e', he', rfl⟩ := List.mem_map.1 (hperm.mem_iff.1 he)
    exact hb e' he'

theorem keyed_toValue {node : Node} (h : node.Keyed) : node.toValue.Keyed := by
  induction h with
  | value hv =>
    rw [toValue]
    exact hv
  | table hd _ ih =>
    rw [toValue]
    exact keyed_toTable hd ih
  | tables hde _ hd _ ihe ih =>
    rw [toValue, toTables_eq]
    refine .array fun v hv => ?_
    rcases List.mem_append.1 hv with hv | hv
    · obtain ⟨t, ht, rfl⟩ := List.mem_map.1 hv
      exact keyed_toTable (hde t ht) (ihe t ht)
    · rw [List.mem_singleton.1 hv]
      exact keyed_toTable hd ih

end Values

section Terms

theorem keyed_of_integer? {cs : List Char} {v : Value} (h : Scalar.integer? cs = some v) :
    v.Keyed := by
  unfold Scalar.integer? at h
  split at h
  all_goals
    obtain ⟨n, -, rfl⟩ := Option.map_eq_some_iff.1 h
    exact .integer _

theorem keyed_of_float? {cs : List Char} {v : Value} (h : Scalar.float? cs = some v) :
    v.Keyed := by
  unfold Scalar.float? at h
  dsimp only at h
  split at h
  · exact Option.some.inj h ▸ .float _
  split at h
  · exact Option.some.inj h ▸ .float _
  obtain ⟨literal, -, rfl⟩ := Option.map_eq_some_iff.1 h
  exact .float literal

theorem keyed_of_value? {cs : List Char} {v : Value} (h : Scalar.value? cs = some v) :
    v.Keyed := by
  unfold Scalar.value? at h
  split at h
  · exact Option.some.inj h ▸ .boolean true
  split at h
  · exact Option.some.inj h ▸ .boolean false
  split at h
  · exact Option.some.inj h ▸ .datetime _
  cases hi : Scalar.integer? cs with
  | some n =>
    rw [hi] at h
    exact Option.some.inj h ▸ keyed_of_integer? hi
  | none =>
    rw [hi] at h
    exact keyed_of_float? h

/-- What is read in so many steps, a term, the items of an array or the entries of an
inline table, is keyed. -/
structure KeyedWithin (steps : Nat) : Prop where
  term : ∀ depth ts t rest, Statement.term? steps depth ts = some (t, rest) → t.Keyed
  items : ∀ depth ts items rest, Statement.items? steps depth ts = some (items, rest) →
    ∀ t ∈ items, t.Keyed
  entries : ∀ depth ts entries rest, Statement.entries? steps depth ts = some (entries, rest) →
    ∀ e ∈ entries, e.2.Keyed

variable {steps depth : Nat} {ts rest : List Token}

theorem keyed_of_term? {t : Term} (hk : KeyedWithin steps)
    (h : Statement.term? (steps + 1) depth ts = some (t, rest)) : t.Keyed := by
  unfold Statement.term? at h
  split at h
  · obtain ⟨rfl, -⟩ := Prod.mk.inj (Option.some.inj h)
    exact .scalar (.string _)
  · obtain ⟨v, hv, hr⟩ := Option.bind_eq_some_iff.1 h
    obtain ⟨rfl, -⟩ := Prod.mk.inj (Option.some.inj hr)
    exact .scalar (keyed_of_value? hv)
  · split at h
    · obtain ⟨⟨items, ts⟩, hi, hr⟩ := Option.bind_eq_some_iff.1 h
      obtain ⟨rfl, -⟩ := Prod.mk.inj (Option.some.inj hr)
      exact .array (hk.items _ _ _ _ hi)
    · cases h
  · split at h
    · obtain ⟨⟨entries, ts⟩, he, hr⟩ := Option.bind_eq_some_iff.1 h
      obtain ⟨rfl, -⟩ := Prod.mk.inj (Option.some.inj hr)
      exact .inlineTable (hk.entries _ _ _ _ he)
    · cases h
  · cases h

theorem keyed_of_items? {items : List Term} (hk : KeyedWithin steps)
    (h : Statement.items? (steps + 1) depth ts = some (items, rest)) : ∀ t ∈ items, t.Keyed := by
  unfold Statement.items? at h
  split at h
  · obtain ⟨rfl, -⟩ := Prod.mk.inj (Option.some.inj h)
    simp
  · obtain ⟨⟨item, ts⟩, ht, h⟩ := Option.bind_eq_some_iff.1 h
    have hitem := hk.term _ _ _ _ ht
    dsimp only at h
    split at h
    · obtain ⟨⟨others, ts⟩, hi, hr⟩ := Option.bind_eq_some_iff.1 h
      obtain ⟨rfl, -⟩ := Prod.mk.inj (Option.some.inj hr)
      exact List.forall_mem_cons.2 ⟨hitem, hk.items _ _ _ _ hi⟩
    · obtain ⟨rfl, -⟩ := Prod.mk.inj (Option.some.inj h)
      simpa using hitem
    · cases h

theorem keyed_of_entries? {entries : List (List String × Term)} (hk : KeyedWithin steps)
    (h : Statement.entries? (steps + 1) depth ts = some (entries, rest)) :
    ∀ e ∈ entries, e.2.Keyed := by
  unfold Statement.entries? at h
  split at h
  · obtain ⟨rfl, -⟩ := Prod.mk.inj (Option.some.inj h)
    simp
  · obtain ⟨⟨path, ts⟩, -, h⟩ := Option.bind_eq_some_iff.1 h
    dsimp only at h
    split at h
    · obtain ⟨⟨term, ts⟩, ht, h⟩ := Option.bind_eq_some_iff.1 h
      have hterm := hk.term _ _ _ _ ht
      dsimp only at h
      split at h
      · obtain ⟨⟨others, ts⟩, he, hr⟩ := Option.bind_eq_some_iff.1 h
        obtain ⟨rfl, -⟩ := Prod.mk.inj (Option.some.inj hr)
        exact List.forall_mem_cons.2 ⟨hterm, hk.entries _ _ _ _ he⟩
      · obtain ⟨rfl, -⟩ := Prod.mk.inj (Option.some.inj h)
        simpa using hterm
      · cases h
    · cases h

theorem keyedWithin (steps : Nat) : KeyedWithin steps := by
  induction steps with
  | zero =>
    constructor
    · intro depth ts t rest h
      cases h
    · intro depth ts items rest h
      cases h
    · intro depth ts entries rest h
      cases h
  | succ steps ih =>
    constructor
    · intro depth ts t rest h
      exact keyed_of_term? ih h
    · intro depth ts items rest h
      exact keyed_of_items? ih h
    · intro depth ts entries rest h
      exact keyed_of_entries? ih h

def Statement.Keyed : Statement → Prop
  | pair _ term => term.Keyed
  | _ => True

theorem keyed_of_statement? {statement : Statement}
    (h : Statement.statement? steps ts = some (statement, rest)) : statement.Keyed := by
  unfold Statement.statement? at h
  split at h
  · obtain ⟨⟨path, ts⟩, -, h⟩ := Option.bind_eq_some_iff.1 h
    dsimp only at h
    split at h
    · obtain ⟨rfl, -⟩ := Prod.mk.inj (Option.some.inj h)
      trivial
    · cases h
  · obtain ⟨⟨path, ts⟩, -, h⟩ := Option.bind_eq_some_iff.1 h
    dsimp only at h
    split at h
    · obtain ⟨rfl, -⟩ := Prod.mk.inj (Option.some.inj h)
      trivial
    · cases h
  · obtain ⟨⟨path, ts⟩, -, h⟩ := Option.bind_eq_some_iff.1 h
    dsimp only at h
    split at h
    · obtain ⟨⟨term, ts⟩, ht, hr⟩ := Option.bind_eq_some_iff.1 h
      obtain ⟨rfl, -⟩ := Prod.mk.inj (Option.some.inj hr)
      exact (keyedWithin steps).term _ _ _ _ ht
    · cases h

theorem keyed_of_read {statements : List Statement}
    (h : Statement.read steps ts = some statements) : ∀ s ∈ statements, s.Keyed := by
  induction steps generalizing ts statements with
  | zero =>
    unfold Statement.read at h
    split at h
    · obtain rfl := Option.some.inj h
      simp
    · cases h
  | succ steps ih =>
    unfold Statement.read at h
    split at h
    · obtain rfl := Option.some.inj h
      simp
    · obtain ⟨⟨statement, ts⟩, hs, h⟩ := Option.bind_eq_some_iff.1 h
      have hfirst := keyed_of_statement? hs
      dsimp only at h
      split at h
      · obtain rfl := Option.some.inj h
        simpa using hfirst
      · obtain ⟨rest, hr, h⟩ := Option.bind_eq_some_iff.1 h
        obtain rfl := Option.some.inj h
        exact List.forall_mem_cons.2 ⟨hfirst, ih hr⟩
      · cases h

theorem mem_values? {terms : List Term} {values : List Value}
    (h : Term.values? terms = some values) : ∀ v ∈ values, ∃ t ∈ terms, t.value? = some v := by
  induction terms generalizing values with
  | nil =>
    rw [Term.values?] at h
    obtain rfl := Option.some.inj h
    simp
  | cons t ts ih =>
    rw [Term.values?] at h
    obtain ⟨v, hv, h⟩ := Option.bind_eq_some_iff.1 h
    obtain ⟨vs, hvs, h⟩ := Option.bind_eq_some_iff.1 h
    obtain rfl := Option.some.inj h
    intro w hw
    rcases List.mem_cons.1 hw with rfl | hw
    · exact ⟨t, by simp, hv⟩
    · obtain ⟨t', ht', hw'⟩ := ih hvs w hw
      exact ⟨t', by simp [ht'], hw'⟩

theorem mem_pairs? {terms : List (List String × Term)} {pairs : List (List String × Value)}
    (h : Term.pairs? terms = some pairs) :
    ∀ p ∈ pairs, ∃ e ∈ terms, e.2.value? = some p.2 := by
  induction terms generalizing pairs with
  | nil =>
    rw [Term.pairs?] at h
    obtain rfl := Option.some.inj h
    simp
  | cons e es ih =>
    rw [Term.pairs?] at h
    obtain ⟨v, hv, h⟩ := Option.bind_eq_some_iff.1 h
    obtain ⟨ps, hps, h⟩ := Option.bind_eq_some_iff.1 h
    obtain rfl := Option.some.inj h
    intro p hp
    rcases List.mem_cons.1 hp with rfl | hp
    · exact ⟨e, by simp, hv⟩
    · obtain ⟨e', he', hp'⟩ := ih hps p hp
      exact ⟨e', by simp [he'], hp'⟩

theorem keyed_of_term {t : Term} {v : Value} (h : t.Keyed) (hv : t.value? = some v) :
    v.Keyed := by
  induction h generalizing v with
  | scalar hs =>
    rw [Term.value?] at hv
    exact Option.some.inj hv ▸ hs
  | array _ ih =>
    rw [Term.value?] at hv
    obtain ⟨values, hvs, hv⟩ := Option.bind_eq_some_iff.1 hv
    obtain rfl := Option.some.inj hv
    refine .array fun w hw => ?_
    obtain ⟨t, ht, hw⟩ := mem_values? hvs w hw
    exact ih t ht hw
  | inlineTable _ ih =>
    rw [Term.value?] at hv
    obtain ⟨pairs, hps, hv⟩ := Option.bind_eq_some_iff.1 hv
    obtain ⟨defined, hd, hv⟩ := Option.bind_eq_some_iff.1 hv
    obtain rfl := Option.some.inj hv
    have hpairs : ∀ p ∈ pairs, p.2.Keyed := by
      intro p hp
      obtain ⟨e, he, hp⟩ := mem_pairs? hps p hp
      exact ih e he hp
    have hdefined := keyed_defineAll hpairs keyed_nil hd
    exact keyed_toTable hdefined.distinct fun e he => keyed_toValue (hdefined.below e he)

theorem keyed_of_pairs? {terms : List (List String × Term)} {pairs : List (List String × Value)}
    (h : ∀ e ∈ terms, e.2.Keyed) (hp : Term.pairs? terms = some pairs) :
    ∀ p ∈ pairs, p.2.Keyed := by
  intro p hm
  obtain ⟨e, he, hv⟩ := mem_pairs? hp p hm
  exact keyed_of_term (h e he) hv

end Terms

section Documents

variable {statements : List Statement}

theorem keyed_leadingPairs (h : ∀ s ∈ statements, s.Keyed) :
    (∀ e ∈ (Document.leadingPairs statements).1, e.2.Keyed) ∧
      ∀ s ∈ (Document.leadingPairs statements).2, s.Keyed := by
  fun_induction Document.leadingPairs statements with
  | case1 path term rest pairs rest' hl ih =>
    obtain ⟨hfirst, hrest⟩ := List.forall_mem_cons.1 h
    have hmore := ih hrest
    rw [hl] at hmore
    exact ⟨List.forall_mem_cons.2 ⟨hfirst, hmore.1⟩, hmore.2⟩
  | case2 statements => exact ⟨by simp, h⟩

theorem keyed_build {entries result : Node.Entries} (hs : ∀ s ∈ statements, s.Keyed)
    (h : Node.Entries.Keyed entries) (hb : Document.build entries statements = some result) :
    Node.Entries.Keyed result := by
  fun_induction Document.build entries statements with
  | case1 entries => exact Option.some.inj hb ▸ h
  | case2 entries path term rest ih =>
    obtain ⟨hterm, hrest⟩ := List.forall_mem_cons.1 hs
    obtain ⟨v, hv, hb⟩ := Option.bind_eq_some_iff.1 hb
    obtain ⟨next, hn, hb⟩ := Option.bind_eq_some_iff.1 hb
    exact ih _ hrest (keyed_define (keyed_of_term hterm hv) h hn) hb
  | case3 entries path rest ih =>
    obtain ⟨hpairs, hrest⟩ := keyed_leadingPairs (List.forall_mem_cons.1 hs).2
    obtain ⟨pairs, hp, hb⟩ := Option.bind_eq_some_iff.1 hb
    obtain ⟨next, hn, hb⟩ := Option.bind_eq_some_iff.1 hb
    exact ih _ hrest (keyed_openTable (keyed_of_pairs? hpairs hp) h hn) hb
  | case4 entries path rest ih =>
    obtain ⟨hpairs, hrest⟩ := keyed_leadingPairs (List.forall_mem_cons.1 hs).2
    obtain ⟨pairs, hp, hb⟩ := Option.bind_eq_some_iff.1 hb
    obtain ⟨next, hn, hb⟩ := Option.bind_eq_some_iff.1 hb
    exact ih _ hrest (keyed_addTable (keyed_of_pairs? hpairs hp) h hn) hb

theorem keyed_of_parse? {text : String} {table : Table}
    (h : Document.parse? text = some table) : (Value.table table).Keyed := by
  obtain ⟨tokens, -, h⟩ := Option.bind_eq_some_iff.1 h
  obtain ⟨statements, hs, h⟩ := Option.bind_eq_some_iff.1 h
  obtain ⟨entries, hb, h⟩ := Option.bind_eq_some_iff.1 h
  obtain rfl := Option.some.inj h
  have hentries := keyed_build (keyed_of_read hs) keyed_nil hb
  exact keyed_toTable hentries.distinct fun e he => keyed_toValue (hentries.below e he)

end Documents

end Understudy.Toml
