import Understudy.Proofs.CommandLine.DryRun
import Understudy.Proofs.Settings.Acceptance

/-!
# Options that override settings

Each option that is given replaces one field of the settings, and keeps them valid
(`valid_override`), so what the file and the options come to together is valid as well.
From there on a run is a generation: it depends on the options no more, and reports what
the generation comes to (`options_override_settings`).
-/

set_option autoImplicit false

namespace Understudy.CommandLine

inductive Override where
  | output (path : String)
  | onlyProtocols
  | noAtomic
  | jobs (count : Nat)
  | condition (expression : String)
  deriving DecidableEq

namespace Override

def apply (s : Settings) : Override → Settings
  | output path => { s with output := path }
  | onlyProtocols => { s with onlyProtocols := true }
  | noAtomic => { s with atomic := false }
  | jobs count => { s with jobs := some count }
  | condition expression => { s with condition := some expression }

end Override

variable {args : List String} {o : Options} {s t : Settings} {fs : FileSystem}
  {source : Except Cause String}

def Options.overrides (o : Options) : List Override :=
  (o.output.map Override.output).toList ++
    (if o.onlyProtocols then [Override.onlyProtocols] else []) ++
    (if o.noAtomic then [Override.noAtomic] else []) ++
    (o.jobs.map Override.jobs).toList ++ (o.condition.map Override.condition).toList

def Override.GivenBy (o : Options) : Override → Prop
  | output path => o.output = some path
  | onlyProtocols => o.onlyProtocols = true
  | noAtomic => o.noAtomic = true
  | jobs count => o.jobs = some count
  | condition expression => o.condition = some expression

theorem mem_overrides {v : Override} : v ∈ o.overrides ↔ v.GivenBy o := by
  cases v <;> simp [Options.overrides, Override.GivenBy]

theorem apply_eq (o : Options) (s : Settings) : o.apply s = o.overrides.foldl Override.apply s := by
  obtain ⟨config, output, onlyProtocols, noAtomic, jobs, condition, dryRun⟩ := o
  cases output <;> cases onlyProtocols <;> cases noAtomic <;> cases jobs <;> cases condition <;> rfl

theorem valid_override (h : s.Valid) {v : Override} (hv : v ≠ .jobs 0) : (v.apply s).Valid := by
  cases v with
  | jobs count =>
    refine ⟨h.named, ?_, h.distinct⟩
    rintro hj
    obtain rfl : count = 0 := Option.some.inj hj
    exact hv rfl
  | _ => exact ⟨h.named, h.staffed, h.distinct⟩

theorem valid_overrides (h : s.Valid) {vs : List Override} (hv : .jobs 0 ∉ vs) :
    (vs.foldl Override.apply s).Valid := by
  induction vs generalizing s with
  | nil => exact h
  | cons v vs ih =>
    rw [List.mem_cons, not_or] at hv
    exact ih (valid_override h (Ne.symm hv.1)) hv.2

theorem apply_of_given {v : Override} (hv : v.GivenBy o) : v.apply (o.apply s) = o.apply s := by
  cases v with
  | output path => simp [Override.apply, Options.apply, show o.output = some path from hv]
  | onlyProtocols => simp [Override.apply, Options.apply, show o.onlyProtocols = true from hv]
  | noAtomic => simp [Override.apply, Options.apply, show o.noAtomic = true from hv]
  | jobs count => simp [Override.apply, Options.apply, show o.jobs = some count from hv]
  | condition expression =>
    simp [Override.apply, Options.apply, show o.condition = some expression from hv]

section Running

theorem settings_of_load (hl : Settings.load o.config source = .ok s) :
    o.settings source =
      if o.jobs = some 0 then .error [.message "--jobs must be at least 1"] else .ok (o.apply s) := by
  rw [Options.settings, hl]
  split <;> rfl

def generated (dryRun : Bool) (s : Settings) (fs : FileSystem) : Result × FileSystem :=
  if dryRun then
    match s.preview (Mock.template s.runtime) with
    | .ok text => ({ output := text }, fs)
    | .error failure => (generationFailed failure, fs)
  else
    match s.generate (Mock.template s.runtime) fs with
    | .ok report later => ({ output := reportText report }, later)
    | .error failure later => (generationFailed failure, later)

theorem run_of_settings (h : o.settings source = .ok s) (fs : FileSystem) :
    (o.plan source).run fs = generated o.dryRun s fs := by
  cases ha : s.assemble (Mock.template s.runtime) with
  | error failure =>
    rw [plan_of_assemble_error h ha, generated, Settings.preview, ha,
      Settings.generate_of_assemble_error ha]
    split <;> rfl
  | ok d =>
    rw [plan_of_assemble h ha, generated, Settings.preview, Settings.generate, ha]
    split
    · rfl
    · cases hw : (s.file d).write fs with
      | ok _ later =>
        simp only [Plan.run, bind, EStateM.bind, hw]
        rfl
      | error failure later =>
        simp only [Plan.run, bind, EStateM.bind, hw]
        rfl

theorem settings_plain {config : String} (h : Settings.load config source = .ok s) (dryRun : Bool) :
    Options.settings { config, dryRun } source = .ok s := by
  rw [settings_of_load h, if_neg (by simp)]
  rfl

end Running

/-- The options and a file that is accepted come to settings unless they ask for no worker.
These settings are those of the file with the fields replaced for which there is an option,
so no option lets in what is not a protocol or makes a write atomic, and they are valid. The
run is the generation with them: its document, its report or its failure. So is the run of
any file that has these settings without an option. -/
theorem options_override_settings (hp : parse args = .ok (.generate o))
    (hl : Settings.load o.config (fs.readText o.config) = .ok s) :
    ((∃ report, o.settings (fs.readText o.config) = .error report) ↔ o.jobs = some 0) ∧
      (o.jobs = some 0 → run args fs = (.failed [.message "--jobs must be at least 1"], fs)) ∧
      (o.jobs ≠ some 0 → ∃ t, o.settings (fs.readText o.config) = .ok t ∧
        t = o.overrides.foldl Override.apply s ∧
        (∀ v : Override, v ∈ o.overrides ↔ v.GivenBy o) ∧
        (∀ v : Override, v.GivenBy o → v.apply t = t) ∧
        (t.onlyProtocols = true ↔ o.onlyProtocols = true ∨ s.onlyProtocols = true) ∧
        (t.atomic = true ↔ o.noAtomic = false ∧ s.atomic = true) ∧
        t.Valid ∧ run args fs = generated o.dryRun t fs ∧
        ∀ config source, Settings.load config source = .ok t →
          (Options.plan { config, dryRun := o.dryRun } source).run fs = run args fs) := by
  have hs := settings_of_load hl
  have hrun := run_generate hp fs
  by_cases hj : o.jobs = some 0
  · rw [if_pos hj] at hs
    refine ⟨⟨fun _ => hj, fun _ => ⟨_, hs⟩⟩, fun _ => ?_, fun h => absurd hj h⟩
    rw [hrun, plan_of_settings_error hs]
    rfl
  · rw [if_neg hj] at hs
    refine ⟨⟨?_, fun h => absurd h hj⟩, fun h => absurd h hj, fun _ => ?_⟩
    · rintro ⟨report, he⟩
      cases hs.symm.trans he
    · have hvalid : (o.apply s).Valid := by
        rw [apply_eq]
        obtain ⟨text, -, hparse⟩ := Settings.load_eq_ok.1 hl
        exact valid_overrides (Settings.valid_of_parse hparse) fun h => hj (mem_overrides.1 h)
      have ht : run args fs = generated o.dryRun (o.apply s) fs :=
        hrun.trans (run_of_settings hs fs)
      refine ⟨_, hs, apply_eq o s, fun v => mem_overrides, fun v => apply_of_given, ?_, ?_,
        hvalid, ht, ?_⟩
      · simp [Options.apply]
      · simp [Options.apply]
      · intro config source h
        rw [ht, run_of_settings (settings_plain h o.dryRun) fs]

section Tuned

deriving instance DecidableEq for Text.Sorted
deriving instance DecidableEq for Settings

def tuned : FileSystem where
  entries := [
    (["m.toml"], .file (Text.bytes "module='M'\njobs=3\ncondition='D'") 0o644),
    (["n.toml"], .file (Text.bytes ("module='M'\noutput='x'\natomic=false\n" ++
      "condition='D'\njobs=2")) 0o644)]

/-- Three options beside a field that stays, and a file that says all of it by itself. -/
theorem tuned_run_agrees :
    let o : Options :=
      { config := "m.toml", output := some "x", noAtomic := true, jobs := some 2, dryRun := true }
    let args := ["generate", "--dry-run", "--no-atomic", "-cm.toml", "-ox", "-j", "2"]
    parse args = .ok (.generate o) ∧
      parse ["generate", "-cm.toml", "-j0"] =
        .ok (.generate { config := "m.toml", jobs := some 0 }) ∧
      (∃ s, Settings.load "m.toml" (tuned.readText "m.toml") = .ok s ∧ s.atomic = true ∧
        s.jobs = some 3) ∧
      run ["generate", "-cm.toml", "-j0"] tuned =
        (.failed [.message "--jobs must be at least 1"], tuned) ∧
      ∃ t, Settings.load "n.toml" (tuned.readText "n.toml") = .ok t ∧ t.Valid ∧
        run args tuned = generated true t tuned ∧
        run ["generate", "-cn.toml", "--dry-run"] tuned = run args tuned := by
  intro o args
  have hp : parse args = .ok (.generate o) := by decide +kernel
  have hzero : parse ["generate", "-cm.toml", "-j0"] =
      .ok (.generate { config := "m.toml", jobs := some 0 }) := by decide +kernel
  have hn : parse ["generate", "-cn.toml", "--dry-run"] =
      .ok (.generate { config := "n.toml", dryRun := true }) := by decide +kernel
  obtain ⟨s, hm, hatomic, hjobs, hsame⟩ :
      ∃ s ∈ (Settings.load "m.toml" (tuned.readText "m.toml")).toOption,
        s.atomic = true ∧ s.jobs = some 3 ∧
          (Settings.load "n.toml" (tuned.readText "n.toml")).toOption = some (o.apply s) := by
    decide +kernel
  have hl := toOption_eq_some.1 hm
  have hload := toOption_eq_some.1 hsame
  obtain ⟨-, hfails, -⟩ := options_override_settings hzero hl
  obtain ⟨-, -, hruns⟩ := options_override_settings hp hl
  obtain ⟨t, -, ht, -, -, -, -, hvalid, hrun, hfile⟩ := hruns (by decide)
  obtain rfl : o.apply s = t := (apply_eq o s).trans ht.symm
  have hagree := (run_generate hn tuned).trans (hfile _ _ hload)
  exact ⟨hp, hzero, ⟨s, hl, hatomic, hjobs⟩, hfails rfl, _, hload, hvalid, hrun, hagree⟩

end Tuned

end Understudy.CommandLine
