import Understudy.Proofs.Files.Preservation

/-!
# An atomic write is a run of its steps

Whatever comes of an atomic write, the file system that it leaves is reached by
the steps into which a replacement is taken apart (`write_steps`), so that what
holds of all runs of the steps holds of the write. A run can stop where the write
itself never does, and give up there: nothing but directories above the path is
left then (`atomic_write_spares`).
-/

set_option autoImplicit false

namespace Understudy.Replacement

open FileSystem

inductive Steps (path : String) (c : Call) : Stage × FileSystem → Stage × FileSystem → Prop
  | nothing (s : Stage × FileSystem) : Steps path c s s
  | more {s t u : Stage × FileSystem} : Steps path c s t → Step path c t u → Steps path c s u

variable {path : String} {c : Call} {fs later : FileSystem} {loc : Location}

theorem steps_trans {s t u : Stage × FileSystem} (h : Steps path c s t) (h' : Steps path c t u) :
    Steps path c s u := by
  induction h' with
  | nothing => exact h
  | more _ hu ih => exact .more ih hu

theorem makeDirectory_steps {above : String}
    (h : above ∈ Path.ancestors (Path.directory path)) (fs : FileSystem) :
    Steps path c (.opening, fs) (.opening, after (makeDirectory above fs)) := by
  cases hm : makeDirectory above fs with
  | error cause last =>
    obtain rfl := makeDirectory_error hm
    exact .nothing _
  | ok u last => exact .more (.nothing _) (.makeDirectory h hm)

theorem makeChain_steps {paths : List String}
    (h : ∀ above ∈ paths, above ∈ Path.ancestors (Path.directory path)) (fs : FileSystem) :
    Steps path c (.opening, fs) (.opening, after (makeChain paths fs)) := by
  induction paths with
  | nil => exact .nothing _
  | cons first rest ih =>
    have hfirst := h first (by simp)
    have hrest := ih fun above ha => h above (by simp [ha])
    rcases after_makeChain_cons first rest fs with he | ⟨mid, rfl, he | he⟩
    · rw [he]
      exact makeDirectory_steps hfirst fs
    · rw [he]
      exact hrest
    · rw [he]
      exact steps_trans hrest (makeDirectory_steps hfirst _)

theorem appends_steps {written : List UInt8} (h : Appends loc written fs later)
    (hw : written <+: c.reach) :
    Steps path c (.filling loc [], fs) (.filling loc written, later) := by
  induction h with
  | nothing => exact .nothing _
  | more _ ha ih =>
    have hinit := ih ((List.prefix_append _ _).trans hw)
    exact .more hinit (.append hw ha)

theorem filled_steps (h : Filled path c.encoding c.content fs loc later) :
    Steps path c (.opening, fs) (.filling loc c.reach, later) := by
  obtain ⟨tag, created, hc, ha⟩ := h
  have hopen : Steps path c (.opening, fs) (.filling loc [], created) :=
    .more (.nothing _) (.create (slash_not_mem_tag tag) hc)
  exact steps_trans hopen (appends_steps ha (List.prefix_refl _))

theorem attempt_steps {result : EStateM.Result Failure FileSystem Unit}
    (h : Attempt path c.encoding c.content fs result) :
    Steps path c (.opening, fs) (.ended, after result) := by
  cases h with
  | uncreated => exact .more (.nothing _) .cutOff
  | refused hf _ => exact .more (filled_steps hf) (.giveUp rfl)
  | unmoved hf hr _ =>
    have hready := (filled_steps hf).more (.copyMode hr)
    exact hready.more (.giveUp rfl)
  | moved hf hr hm =>
    have hready := (filled_steps hf).more (.copyMode hr)
    exact (hready.more .sync).more (.rename hm)

theorem write_steps (path : String) (c : Content) (encoding : Encoding) (fs : FileSystem) :
    Steps path { content := c, encoding } (.opening, fs)
      (.ended, after (write path c { mode := .atomic, encoding := encoding } fs)) := by
  have hmade : Steps path { content := c, encoding } (.opening, fs)
      (.opening, after (makeDirectories (Path.directory path) fs)) :=
    makeChain_steps (fun _ h => h) fs
  have hw := write_atomicWrite path encoding c fs
  generalize write path c { mode := .atomic, encoding := encoding } fs = result at hw
  cases hw with
  | unmade hm =>
    rw [hm] at hmade
    exact hmade.more .cutOff
  | made hm ha =>
    rw [hm] at hmade
    exact steps_trans hmade (attempt_steps ha)

section GivingUp

/-- What a call has changed so far: it has made directories, and then its temporary
file where nothing was. -/
def Pending (path : String) (fs : FileSystem) (s : Stage × FileSystem) : Prop :=
  (s.1 = .opening → Grown (Path.ancestors (Path.directory path)) fs s.2) ∧
    ∀ loc, s.1.temporary? = some loc → ∃ made,
      Grown (Path.ancestors (Path.directory path)) fs made ∧ made.lookup loc = none ∧
        OnlyAt loc made s.2

theorem pending_of_onlyAt {made : FileSystem} {stage : Stage} (hs : stage.temporary? = some loc)
    (hg : Grown (Path.ancestors (Path.directory path)) fs made) (hn : made.lookup loc = none)
    (ho : OnlyAt loc made later) : Pending path fs (stage, later) := by
  constructor
  · intro he
    obtain rfl : stage = .opening := he
    simp [Stage.temporary?] at hs
  · intro other hother
    obtain rfl := Option.some.inj (hs.symm.trans hother)
    exact ⟨made, hg, hn, ho⟩

theorem step_pending {s t : Stage × FileSystem} (h : Step path c s t) (hp : Pending path fs s) :
    Pending path fs t := by
  obtain ⟨hopen, htemp⟩ := hp
  cases h with
  | @makeDirectory above before made hm hmake =>
    have hg := makeDirectory_grown (hopen rfl) hm
    rw [hmake] at hg
    exact ⟨fun _ => hg, by simp [Stage.temporary?]⟩
  | create htag hnew =>
    obtain ⟨-, hn, ho, -⟩ := createNew_temporary htag hnew
    exact pending_of_onlyAt rfl (hopen rfl) hn ho
  | @append loc written chunk before _ _ happend =>
    obtain ⟨made, hg, hn, ho⟩ := htemp loc rfl
    obtain ⟨last, ha, ho', -⟩ := append_file loc chunk before
    obtain rfl : last = _ := (EStateM.Result.ok.inj (ha.symm.trans happend)).2
    exact pending_of_onlyAt rfl hg hn (onlyAt_trans ho ho')
  | @copyMode loc before _ =>
    obtain ⟨made, hg, hn, ho⟩ := htemp loc rfl
    exact pending_of_onlyAt rfl hg hn (onlyAt_trans ho (onlyAt_copyMode path loc before))
  | @sync loc before =>
    obtain ⟨made, hg, hn, ho⟩ := htemp loc rfl
    exact pending_of_onlyAt rfl hg hn ho
  | rename => exact ⟨by simp, by simp [Stage.temporary?]⟩
  | cutOff => exact ⟨by simp, by simp [Stage.temporary?]⟩
  | giveUp => exact ⟨by simp, by simp [Stage.temporary?]⟩

theorem steps_pending {s t : Stage × FileSystem} (h : Steps path c s t)
    (hp : Pending path fs s) : Pending path fs t := by
  induction h with
  | nothing => exact hp
  | more _ hstep ih => exact step_pending hstep ih

theorem giveUp_spares {stage : Stage} (h : Steps path c (.opening, fs) (stage, later))
    (hs : stage.temporary? = some loc) (other : Location) :
    Spared (Path.ancestors path).tail fs (later.remove loc) other := by
  have hstart : Pending path fs (.opening, fs) :=
    ⟨fun _ => grown_refl _ fs, by simp [Stage.temporary?]⟩
  obtain ⟨made, hg, hn, ho⟩ := (steps_pending h hstart).2 loc hs
  have hg' : Grown (Path.ancestors path).tail fs made :=
    grown_mono hg fun _ hp _ ha => mem_above_of_aim hp ha
  exact spared_of_lookup_eq (hg'.spared other) (lookup_remove_temporary ho hn other)

end GivingUp

/-- Whatever an atomic write comes to, the entries of before are kept as they were,
and all that is new are directories on the way to the path. The one exception is
the entry that the path names, when the write succeeds: it is a file with the
whole text then. In particular no temporary file remains, and where a link stood
the link is replaced and not what it led to. The entries are kept as well when a
write gives up at a step that cannot fail here, say for want of space. -/
theorem atomic_write_spares (path : String) (encoding : Encoding) (c : Content)
    (fs : FileSystem) :
    Spares path c fs (write path c { mode := .atomic, encoding := encoding } fs) ∧
      ∀ stage later loc,
        Steps path { content := c, encoding := encoding } (.opening, fs) (stage, later) →
        stage.temporary? = some loc →
        ∀ other, Spared (Path.ancestors path).tail fs (later.remove loc) other := by
  constructor
  · exact atomicWrite_spares (write_atomicWrite path encoding c fs)
  · intro stage later loc h hs
    exact giveUp_spares h hs

section HalfWritten

def single : FileSystem where
  entries := [(["out"], .file [111] newFileMode)]

def halfWritten : FileSystem :=
  (single.place [".out.x.tmp"] (.file [] newFileMode)).place [".out.x.tmp"]
    (.file [98] newFileMode)

theorem halfWritten_steps : Steps "out" { content := .leaf "bc", encoding := .ascii }
    (.opening, single) (.filling [".out.x.tmp"] [98], halfWritten) := by
  have hnew : createNew (Path.directory "out") (temporaryStem "out" ++ "x" ++ ".tmp") single =
      .ok [".out.x.tmp"] (single.place [".out.x.tmp"] (.file [] newFileMode)) := by rfl
  have hhalf : [] ++ [98] <+: Call.reach { content := .leaf "bc", encoding := .ascii } := by
    decide
  have hopen : Steps "out" { content := .leaf "bc", encoding := .ascii } (.opening, single)
      (.filling [".out.x.tmp"] [], single.place [".out.x.tmp"] (.file [] newFileMode)) :=
    .more (.nothing _) (.create (by decide) hnew)
  exact .more hopen (.append hhalf rfl)

/-- Giving up with half of the text written leaves what was there. -/
theorem half_written_write_spares :
    halfWritten.lookup [".out.x.tmp"] = some (.file [98] newFileMode) ∧
      ∀ other, Spared (Path.ancestors "out").tail single
        (halfWritten.remove [".out.x.tmp"]) other := by
  obtain ⟨-, hspared⟩ := atomic_write_spares "out" .ascii (.leaf "bc") single
  exact ⟨rfl, hspared _ _ _ halfWritten_steps rfl⟩

end HalfWritten

end Understudy.Replacement
