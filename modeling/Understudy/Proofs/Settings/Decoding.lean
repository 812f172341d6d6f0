import Understudy.Proofs.Toml.Keys
import Understudy.Settings.Decoding
import Understudy.Settings.Fields

/-!
# Settings from distinct keys

A document is read entry by entry, and its settings can be told field by field. Where
keys are distinct both come to the same (`toOption_ofTable`).
-/

set_option autoImplicit false

namespace Understudy

namespace Toml.Value

def isTable : Value → Bool
  | .table _ => true
  | _ => false

def isArray : Value → Bool
  | .array _ => true
  | _ => false

def entries : Value → Table
  | .table entries => entries
  | _ => []

def items : Value → List Value
  | .array items => items
  | _ => []

mutual

/-- The values in a value, at any depth, that hold no others. -/
def scalars : Value → List Value
  | .array items => scalarsIn items
  | .table entries => scalarsAmong entries
  | v => [v]

def scalarsIn : List Value → List Value
  | [] => []
  | v :: vs => v.scalars ++ scalarsIn vs

def scalarsAmong : List (String × Value) → List Value
  | [] => []
  | (_, v) :: es => v.scalars ++ scalarsAmong es

end

def fitsWord : Value → Bool
  | .integer n => isWord n
  | _ => true

def fitsDouble : Value → Bool
  | .float literal => literal.double?.isSome
  | _ => true

end Toml.Value

open Toml Toml.Value Toml.Table

section Readers

variable {α β : Type}

-- The fields stand under nested binds, which these rewrite in place.
theorem none_bind (f : α → Option β) : (none >>= f) = none := rfl

theorem some_bind (a : α) (f : α → Option β) : (some a >>= f) = f a := rfl

theorem bind_none (x : Option α) : (x >>= fun _ => (none : Option β)) = none := by
  cases x <;> rfl

theorem map_bind {γ : Type} (x : Option α) (f : α → β) (g : β → Option γ) :
    (x.map f >>= g) = x >>= fun a => g (f a) := by
  cases x <;> rfl

theorem toOption_bind (x : Except Mismatch α) (f : α → Except Mismatch β) :
    (x >>= f).toOption = x.toOption.bind fun a => (f a).toOption := by
  cases x <;> rfl

@[simp]
theorem toOption_pure (a : α) : (pure a : Except Mismatch α).toOption = some a := rfl

theorem toOption_eq_some {ε : Type} {x : Except ε α} {a : α} :
    x.toOption = some a ↔ x = .ok a := by
  cases x <;> simp [Except.toOption]

@[simp]
theorem mapError_eq_ok {ε ε' : Type} {x : Except ε α} {f : ε → ε'} {a : α} :
    x.mapError f = .ok a ↔ x = .ok a := by
  cases x with
  | error e =>
    change Except.error (f e) = Except.ok a ↔ _
    simp
  | ok b =>
    change Except.ok b = Except.ok a ↔ _
    simp

theorem toOption_mapM {f : Value → Except Mismatch α} {g : Value → Option α} {items : List Value}
    (h : ∀ v ∈ items, (f v).toOption = g v) : (items.mapM f).toOption = items.mapM g := by
  induction items with
  | nil => rfl
  | cons v vs ih =>
    obtain ⟨hv, hvs⟩ := List.forall_mem_cons.1 h
    rw [List.mapM_cons, List.mapM_cons, toOption_bind, hv]
    congr 1
    funext a
    rw [toOption_bind, ih hvs]
    rfl

theorem toOption_asText (wanted : String) (v : Value) : (v.asText wanted).toOption = v.text? := by
  cases v <;> rfl

theorem toOption_asString (v : Value) : v.asString.toOption = v.text? := toOption_asText _ v

theorem toOption_asBoolean (v : Value) : v.asBoolean.toOption = v.flag? := by
  cases v <;> rfl

theorem toOption_asCount (v : Value) : v.asCount.toOption = v.count? := by
  cases v with
  | integer n =>
    unfold asCount Value.count?
    dsimp only
    by_cases hn : n < 0
    · rw [if_pos hn, if_neg (by omega)]
      rfl
    · by_cases hl : n < Int.pow 2 64
      · rw [if_neg hn, if_pos hl, if_pos ⟨by omega, hl⟩]
        rfl
      · rw [if_neg hn, if_neg hl, if_neg fun h => hl h.2]
        rfl
  | _ => rfl

theorem toOption_asItems {f : Value → Except Mismatch α} {g : Value → Option α} {v : Value}
    (h : ∀ item ∈ v.items, (f item).toOption = g item) :
    (v.asItems >>= fun items => items.mapM f).toOption = v.list? g := by
  cases v with
  | array items => exact toOption_mapM h
  | _ => rfl

theorem toOption_asStrings (v : Value) : v.asStrings.toOption = v.list? Value.text? :=
  toOption_asItems fun item _ => toOption_asString item

theorem toOption_asChoice (choice : Text.Choice α) {v : Value} (h : v.isTable = false) :
    (v.asChoice choice).toOption = v.chosen? choice := by
  cases v with
  | string name =>
    show (asChoice.named choice name).toOption = choice.find? name
    unfold asChoice.named
    cases choice.find? name <;> rfl
  | table entries => cases h
  | _ => rfl

end Readers

section Tables

variable {α : Type} {table rest : Table} {key other : String} {v : Value} {read : Value → Option α}
  {default : α}

theorem get?_cons_self (key : String) (v : Value) (rest : Table) :
    get? ((key, v) :: rest) key = some v := by
  simp [get?]

theorem get?_cons_of_ne (h : key ≠ other) : get? ((key, v) :: rest) other = get? rest other := by
  simp [get?, h]

theorem get?_eq_none (h : key ∉ rest.map (·.1)) : get? rest key = none := by
  unfold get?
  rw [Option.map_eq_none_iff, List.find?_eq_none]
  intro e he hk
  exact h (List.mem_map.2 ⟨e, he, by simpa using hk⟩)

theorem field_cons_self : field ((key, v) :: rest) key read default = read v := by
  rw [field, get?_cons_self]

theorem field_cons_of_ne (h : key ≠ other) :
    field ((key, v) :: rest) other read default = field rest other read default := by
  rw [field, get?_cons_of_ne h, field]

theorem field_of_get? (h : get? rest key = none) : field rest key read default = some default := by
  rw [field, h]

theorem field_map {β : Type} (f : α → β) (initial : α) :
    field table key (fun v => (read v).map f) (f initial) = (field table key read initial).map f := by
  unfold field
  cases get? table key <;> rfl

theorem required_eq_field :
    required table key read = (field table key (fun v => (read v).map some) none).bind id := by
  unfold required field
  cases get? table key with
  | none => rfl
  | some v =>
    show read v = ((read v).map some).bind id
    cases read v <;> rfl

theorem field_eq_getD : field table key read default =
    (field table key (fun v => (read v).map some) none).map (·.getD default) := by
  unfold field
  cases get? table key with
  | none => rfl
  | some v =>
    show read v = ((read v).map some).map (·.getD default)
    cases read v <;> rfl

theorem toOption_foldlM {σ : Type} {set : σ → String × Value → Except Mismatch σ}
    {fill? : Table → σ → Option σ} {Plain : String × Value → Prop}
    (hnil : ∀ s, fill? [] s = some s)
    (hcons : ∀ key v rest s, Plain (key, v) → get? rest key = none →
      fill? ((key, v) :: rest) s = (set s (key, v)).toOption.bind (fill? rest))
    (hd : Distinct table) (hp : ∀ e ∈ table, Plain e) (s : σ) :
    (table.foldlM set s).toOption = fill? table s := by
  induction table generalizing s with
  | nil =>
    rw [hnil]
    rfl
  | cons e rest ih =>
    obtain ⟨hfirst, hrest⟩ := List.forall_mem_cons.1 hp
    obtain ⟨hnew, hdistinct⟩ := List.nodup_cons.1 hd
    rw [List.foldlM_cons, toOption_bind, hcons _ _ _ _ hfirst (get?_eq_none hnew)]
    congr 1
    funext s'
    exact ih hdistinct hrest s'

end Tables

section Numbers

variable {p q : Int → Bool}

mutual

theorem anyNumber_mono (h : ∀ n, p n = true → q n = true) :
    (v : Value) → v.anyNumber p = true → v.anyNumber q = true
  | .string _, hv | .boolean _, hv | .datetime _, hv | .float _, hv => hv
  | .integer n, hv => h n hv
  | .array items, hv => anyNumberIn_mono h items hv
  | .table entries, hv => anyNumberAmong_mono h entries hv

theorem anyNumberIn_mono (h : ∀ n, p n = true → q n = true) :
    (vs : List Value) → anyNumberIn p vs = true → anyNumberIn q vs = true
  | v :: vs, hv => by
    rw [anyNumberIn, Bool.or_eq_true] at hv ⊢
    exact hv.imp (anyNumber_mono h v) (anyNumberIn_mono h vs)

theorem anyNumberAmong_mono (h : ∀ n, p n = true → q n = true) :
    (es : List (String × Value)) → anyNumberAmong p es = true → anyNumberAmong q es = true
  | (_, v) :: es, hv => by
    rw [anyNumberAmong, Bool.or_eq_true] at hv ⊢
    exact hv.imp (anyNumber_mono h v) (anyNumberAmong_mono h es)

end

theorem anyNumberIn_eq_false {vs : List Value} :
    anyNumberIn p vs = false ↔ ∀ v ∈ vs, v.anyNumber p = false := by
  induction vs with
  | nil => simp [anyNumberIn]
  | cons v vs ih => rw [anyNumberIn, Bool.or_eq_false_iff, ih, List.forall_mem_cons]

theorem anyNumberAmong_eq_false {es : Table} :
    anyNumberAmong p es = false ↔ ∀ e ∈ es, e.2.anyNumber p = false := by
  induction es with
  | nil => simp [anyNumberAmong]
  | cons e es ih => rw [anyNumberAmong, Bool.or_eq_false_iff, ih, List.forall_mem_cons]

mutual

theorem holdsWide_eq_false : (v : Value) → (v.holdsWide = false ↔
    ∀ u ∈ v.scalars, u.fitsWord = true ∧ u.fitsDouble = true)
  | .string _ | .boolean _ | .datetime _ => by
    simp [holdsWide, anyNumber, scalars, fitsWord, fitsDouble]
  | .integer n => by simp [holdsWide, anyNumber, scalars, fitsWord, fitsDouble]
  | .float literal => by simp [holdsWide, anyNumber, scalars, fitsWord, fitsDouble]
  | .array items => holdsWideIn_eq_false items
  | .table entries => holdsWideAmong_eq_false entries

theorem holdsWideIn_eq_false : (vs : List Value) →
    (anyNumberIn (fun n => !isWord n) vs = false ↔
      ∀ u ∈ scalarsIn vs, u.fitsWord = true ∧ u.fitsDouble = true)
  | [] => by simp [anyNumberIn, scalarsIn]
  | v :: vs => by
    rw [anyNumberIn, scalarsIn, Bool.or_eq_false_iff, List.forall_mem_append, ← holdsWide,
      holdsWide_eq_false v, holdsWideIn_eq_false vs]

theorem holdsWideAmong_eq_false : (es : List (String × Value)) →
    (anyNumberAmong (fun n => !isWord n) es = false ↔
      ∀ u ∈ scalarsAmong es, u.fitsWord = true ∧ u.fitsDouble = true)
  | [] => by simp [anyNumberAmong, scalarsAmong]
  | (_, v) :: es => by
    rw [anyNumberAmong, scalarsAmong, Bool.or_eq_false_iff, List.forall_mem_append, ← holdsWide,
      holdsWide_eq_false v, holdsWideAmong_eq_false es]

end

theorem not_unreadable {v : Value} (h : v.holdsWide = false) : v.unreadable = false := by
  cases hu : v.unreadable with
  | false => rfl
  | true =>
    refine absurd (anyNumber_mono (fun n hn => ?_) v hu) (by simpa [holdsWide] using h)
    have h63 : Int.pow 2 63 ≤ Int.pow 2 127 := by decide
    have h128 : Int.pow 2 63 ≤ Int.pow 2 128 := by decide
    simp only [Bool.or_eq_true, decide_eq_true_eq] at hn
    simp only [isWord, Bool.not_eq_true', Bool.and_eq_false_iff, decide_eq_false_iff_not]
    omega

end Numbers

namespace Mock.Descriptor

/-- A descriptor written as anything but an array, its kind as anything but a table. -/
structure Plain (v : Value) : Prop where
  descriptor : v.isArray = false
  kind : ∀ e ∈ v.entries, e.1 = "kind" → e.2.isTable = false

instance : DecidablePred Plain := fun v =>
  decidable_of_iff (v.isArray = false ∧ ∀ e ∈ v.entries, e.1 = "kind" → e.2.isTable = false)
    ⟨fun h => ⟨h.1, h.2⟩, fun h => ⟨h.1, h.2⟩⟩

namespace Draft

def fill? (entries : Table) (d : Draft) : Option Draft := do
  some {
    name := ← field entries "name" (fun v => v.text?.map some) d.name
    kind := ← field entries "kind" (fun v => (v.chosen? Kind.choice).map some) d.kind
    members := ← field entries "members" (fun v => (v.list? text?).map some) d.members }

theorem fill?_cons {key : String} {v : Value} {rest : Table} {d : Draft}
    (hk : key = "kind" → v.isTable = false) (hn : v.unreadable = false)
    (hnew : get? rest key = none) :
    fill? ((key, v) :: rest) d = (d.set (key, v)).toOption.bind (fill? rest) := by
  unfold Draft.set fill?
  dsimp only
  split
  · rw [field_cons_self, field_cons_of_ne (by decide), field_cons_of_ne (by decide), toOption_bind,
      toOption_asString]
    cases v.text? with
    | none => simp
    | some name => simp [field_of_get? hnew]
  · rw [field_cons_self, field_cons_of_ne (by decide), field_cons_of_ne (by decide), toOption_bind,
      toOption_asChoice Kind.choice (hk rfl)]
    cases v.chosen? Kind.choice with
    | none => simp
    | some kind => simp [field_of_get? hnew]
  · rw [field_cons_self, field_cons_of_ne (by decide), field_cons_of_ne (by decide), toOption_bind,
      toOption_asStrings]
    cases v.list? text? with
    | none => simp
    | some members => simp [field_of_get? hnew]
  · rename_i hname hkind hmembers
    rw [field_cons_of_ne hname, field_cons_of_ne hkind, field_cons_of_ne hmembers, hn]
    rfl

theorem toOption_finish (d : Draft) :
    d.finish.toOption = d.name.bind fun name => d.kind.bind fun kind =>
      some { name, kind, members := d.members.getD [] } := by
  unfold finish
  cases d.name with
  | none => rfl
  | some name => cases d.kind <;> rfl

theorem finish_fill? (entries : Table) :
    ((fill? entries {}).bind fun d => d.finish.toOption) = ofFields? (.table entries) := by
  unfold ofFields?
  dsimp only
  rw [field_eq_getD, required_eq_field, required_eq_field]
  simp only [toOption_finish, fill?]
  cases field entries "name" (fun v => v.text?.map some) none with
  | none => rfl
  | some name =>
    cases field entries "kind" (fun v => (v.chosen? Kind.choice).map some) none with
    | none => cases name <;> rfl
    | some kind =>
      cases field entries "members" (fun v => (v.list? text?).map some) none with
      | none => cases name <;> cases kind <;> rfl
      | some members => rfl

end Draft

theorem toOption_ofValue {v : Value} (hp : Plain v) (hk : v.Keyed) (hn : v.holdsWide = false) :
    (ofValue v).toOption = ofFields? v := by
  cases v with
  | array items => cases hp.descriptor
  | table entries =>
    have hentries : ∀ e ∈ entries, (e.1 = "kind" → e.2.isTable = false) ∧
        e.2.unreadable = false := fun e he =>
      ⟨hp.kind e he, not_unreadable (anyNumberAmong_eq_false.1 hn e he)⟩
    unfold ofValue
    rw [toOption_bind, toOption_foldlM (fun _ => rfl)
      (fun key v rest d h hnew => Draft.fill?_cons h.1 h.2 hnew) hk.distinct hentries]
    exact Draft.finish_fill? entries
  | _ => rfl

end Mock.Descriptor

namespace Settings

def read? (table : Table) (s : Settings) : Option Settings := do
  some {
    moduleName := ← field table "module" text? s.moduleName
    output := ← field table "output" text? s.output
    imports := ← field table "imports" (fun v => (v.list? text?).map .ofList) s.imports
    importModule := ← field table "import_module" flag? s.importModule
    runtime := ← field table "runtime" text? s.runtime
    condition := ← field table "condition" (fun v => v.text?.map some) s.condition
    onlyProtocols := ← field table "only_protocols" flag? s.onlyProtocols
    disableLint := ← field table "disable_lint" flag? s.disableLint
    atomic := ← field table "atomic" flag? s.atomic
    encoding := ← field table "encoding" (chosen? Encoding.choice) s.encoding
    jobs := ← field table "jobs" (fun v => v.count?.map some) s.jobs
    types := ← field table "types" (list? Mock.Descriptor.ofFields?) s.types }

structure PlainEntry (e : String × Value) : Prop where
  encoding : e.1 = "encoding" → e.2.isTable = false
  types : e.1 = "types" → ∀ item ∈ e.2.items,
    (Mock.Descriptor.ofValue item).toOption = Mock.Descriptor.ofFields? item

theorem read?_cons {key : String} {v : Value} {rest : Table} {s : Settings}
    (hknown : key ∈ fieldNames) (he : PlainEntry (key, v)) (hnew : get? rest key = none) :
    read? ((key, v) :: rest) s = (s.set (key, v)).toOption.bind (read? rest) := by
  unfold Settings.set
  dsimp only
  -- The cases stand in the order of `fieldNames`; fields with one reader are taken together.
  split
  case h_13 => simp_all [fieldNames]
  all_goals
    unfold read?
    simp only [field_cons_self, field_cons_of_ne, toOption_bind, toOption_asString,
      toOption_asText, toOption_asBoolean, toOption_asCount, toOption_asStrings, toOption_pure,
      ne_eq, String.reduceEq, not_false_eq_true]
  case h_1 | h_2 | h_5 | h_6 =>
    cases v.text? with
    | none => simp only [bind_none, none_bind, Option.map_none, Option.bind_none]
    | some text =>
      simp only [some_bind, Option.bind_some, Option.map_some, field_of_get? hnew]
  case h_3 =>
    cases v.list? text? with
    | none => simp only [bind_none, none_bind, Option.map_none, Option.bind_none]
    | some imports =>
      simp only [some_bind, Option.bind_some, Option.map_some, field_of_get? hnew]
  case h_4 | h_7 | h_8 | h_9 =>
    cases v.flag? with
    | none => simp only [bind_none, none_bind, Option.bind_none]
    | some flag => simp only [some_bind, Option.bind_some, field_of_get? hnew]
  case h_10 =>
    rw [toOption_asChoice Encoding.choice (he.encoding rfl)]
    cases v.chosen? Encoding.choice with
    | none => simp only [bind_none, none_bind, Option.bind_none]
    | some encoding => simp only [some_bind, Option.bind_some, field_of_get? hnew]
  case h_11 =>
    cases v.count? with
    | none => simp only [bind_none, none_bind, Option.map_none, Option.bind_none]
    | some jobs =>
      simp only [some_bind, Option.bind_some, Option.map_some, field_of_get? hnew]
  case h_12 =>
    have hitems : (v.asItems >>= fun items => items.mapM Mock.Descriptor.ofValue).toOption =
        v.list? Mock.Descriptor.ofFields? :=
      toOption_asItems (he.types rfl)
    rw [toOption_bind] at hitems
    simp only [← Option.bind_assoc, hitems]
    cases v.list? Mock.Descriptor.ofFields? with
    | none => simp only [bind_none, none_bind, Option.bind_none]
    | some types => simp only [some_bind, Option.bind_some, field_of_get? hnew]

theorem set_unknown {key : String} (h : key ∉ fieldNames) (v : Value) (s : Settings) :
    (s.set (key, v)).toOption = none := by
  unfold Settings.set
  dsimp only
  split
  case h_13 => rfl
  all_goals exact absurd (by decide) h

/-- A document in which no descriptor is written as an array of its fields, no variant as a
table, and no integer other than `jobs` needs more than 64 bits with a sign. -/
structure Spelled (table : Table) : Prop where
  types : ∀ e ∈ table, e.1 = "types" → ∀ item ∈ e.2.items, Mock.Descriptor.Plain item
  encoding : ∀ e ∈ table, e.1 = "encoding" → e.2.isTable = false
  integers : ∀ e ∈ table, e.1 ≠ "jobs" → ∀ v ∈ e.2.scalars, v.fitsWord = true

instance : DecidablePred Spelled := fun table =>
  decidable_of_iff
    ((∀ e ∈ table, e.1 = "types" → ∀ item ∈ e.2.items, Mock.Descriptor.Plain item) ∧
      (∀ e ∈ table, e.1 = "encoding" → e.2.isTable = false) ∧
      ∀ e ∈ table, e.1 ≠ "jobs" → ∀ v ∈ e.2.scalars, v.fitsWord = true)
    ⟨fun h => ⟨h.1, h.2.1, h.2.2⟩, fun h => ⟨h.1, h.2, h.3⟩⟩

/-- A document whose settings can be told field by field: its floats fit doubles as well,
wherever they stand. -/
structure Plain (table : Table) : Prop extends Spelled table where
  floats : ∀ e ∈ table, e.1 ≠ "jobs" → ∀ v ∈ e.2.scalars, v.fitsDouble = true

instance : DecidablePred Plain := fun table =>
  decidable_of_iff
    (Spelled table ∧ ∀ e ∈ table, e.1 ≠ "jobs" → ∀ v ∈ e.2.scalars, v.fitsDouble = true)
    ⟨fun h => ⟨h.1, h.2⟩, fun h => ⟨h.1, h.2⟩⟩

theorem narrow_of_plain {table : Table} {e : String × Value} (hp : Plain table) (he : e ∈ table)
    (hj : e.1 ≠ "jobs") : e.2.holdsWide = false :=
  (holdsWide_eq_false e.2).2 fun v hv => ⟨hp.integers e he hj v hv, hp.floats e he hj v hv⟩

def fill? (table : Table) (s : Settings) : Option Settings :=
  if table.all fun e => fieldNames.contains e.1 then read? table s else none

theorem fill?_defaults (table : Table) : fill? table {} = ofFields? table := by
  have himports : field table "imports" (fun v => (v.list? text?).map Text.Sorted.ofList) .empty =
      (field table "imports" (list? text?) []).map .ofList :=
    field_map Text.Sorted.ofList []
  unfold fill? ofFields? read?
  rw [himports]
  simp only [map_bind]

theorem fill?_cons {key : String} {v : Value} {rest : Table} {s : Settings}
    (he : PlainEntry (key, v)) (hnew : get? rest key = none) :
    fill? ((key, v) :: rest) s = (s.set (key, v)).toOption.bind (fill? rest) := by
  unfold fill?
  rw [List.all_cons]
  by_cases hknown : key ∈ fieldNames
  · rw [List.contains_iff_mem.2 hknown, Bool.true_and]
    by_cases hrest : rest.all fun e => fieldNames.contains e.1
    · simp only [if_pos hrest]
      exact read?_cons hknown he hnew
    · simp only [if_neg hrest, Option.bind_fun_none]
  · simp [hknown, set_unknown hknown]

theorem plainEntry {table : Table} (hp : Plain table) (hk : (Value.table table).Keyed) :
    ∀ e ∈ table, PlainEntry e := by
  rintro ⟨key, v⟩ he
  refine ⟨hp.encoding _ he, ?_⟩
  rintro rfl item hitem
  have hv : v.Keyed := hk.entry _ he
  have hn : v.holdsWide = false := narrow_of_plain hp he (by simp)
  have hplain := hp.types _ he rfl item hitem
  cases v with
  | array items =>
    exact Mock.Descriptor.toOption_ofValue hplain (hv.item item hitem)
      (anyNumberIn_eq_false.1 hn item hitem)
  | _ => cases hitem

theorem toOption_ofTable {table : Table} (hp : Plain table) (hk : (Value.table table).Keyed) :
    (ofTable table).toOption = ofFields? table := by
  rw [← fill?_defaults]
  exact toOption_foldlM (fun _ => rfl) (fun key v rest s he hnew => fill?_cons he hnew)
    hk.distinct (plainEntry hp hk) {}

end Settings

end Understudy
