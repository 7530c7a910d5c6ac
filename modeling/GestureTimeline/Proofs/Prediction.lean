import GestureTimeline.CommandLine.Program
import GestureTimeline.Proofs.Blame

/-! # Compiling predicts performing

    The two commands apply a script to sessions on different consoles: compiling always on one
    that has the synchronized command, performing on one of any mode.  What a session records and
    defers depends on the console's handles only, and these are the same for both.  So what stops
    the one command stops the other, unless it is the console's own failure.

    This is said of the commands first, which are given a configuration and a script.  A run of
    the program has to load both, and then ends as its command does on them (`run_of_load`). -/

namespace GestureTimeline

/-! ## Sessions that record alike -/

namespace Session

variable {o₁ o₂ : Opening}

/-- The events of a run depend on the opening through what is recorded. -/
theorem events_congr (h : o₁.session.isRecording = o₂.session.isRecording) (calls : List Call) :
    o₁.session.events calls = o₂.session.events calls := by
  rw [events, events, h, o₁.session_policy, o₂.session_policy]

/-- Sessions that record alike defer the same error. -/
theorem run_deferred_congr (h : o₁.session.isRecording = o₂.session.isRecording)
    (calls : List Call) :
    (o₁.session.run calls).deferred = (o₂.session.run calls).deferred := by
  rw [run_deferred, run_deferred, h, o₁.session_deferred, o₂.session_deferred]

/-- Sessions that record alike have the same timelines. -/
theorem run_timelines_congr (h : o₁.session.isRecording = o₂.session.isRecording)
    (calls : List Call) :
    (o₁.session.run calls).timelines = (o₂.session.run calls).timelines := by
  rw [run_timelines, run_timelines, batches_congr (events_congr h calls)]

/-- The ticks of a plan are those of its session. -/
theorem ticks_of_build {o : Opening} {calls : List Call} {plan : Plan}
    (hbuild : (o.session.run calls).build = .ok plan) :
    plan.tickCount = (o.session.run calls).timelines.ticks := by
  rw [tickCount_of_build hbuild, run_timelines]
  rfl

end Session

namespace CommandLine

variable {config : Config} {script : Script} {path : String}

/-! ## The session of a script -/

/-- The calls that a command makes on its session. -/
def callsOf (config : Config) (script : Script) : List Call :=
  [.policy config.interaction, .script script]

theorem session_eq_run (config : Config) (console : Console) (script : Script) :
    session config console script
      = (Opening.onEndpoint console.endpoint).session.run (callsOf config script) := rfl

/-- A session on a console records if the console has handles. -/
theorem isRecording_onConsole (console : Console) :
    (Opening.onEndpoint console.endpoint).session.isRecording = console.legacy := by
  obtain ⟨mode, legacy⟩ := console
  cases legacy <;> rfl

/-- The consoles of both commands have the same handles. -/
theorem isRecording_compileConsole (config : Config) (noLegacy legacyOnly rejectActions : Bool) :
    (Opening.onEndpoint (compileConsole config noLegacy).endpoint).session.isRecording
      = (Opening.onEndpoint (performConsole config noLegacy legacyOnly
          rejectActions).endpoint).session.isRecording := by
  rw [isRecording_onConsole, isRecording_onConsole]
  rfl

/-! ## How the commands end -/

theorem compile_eq_error_iff {noLegacy : Bool} {e : ActionError} :
    compile config noLegacy path script = .error e
      ↔ (session config (compileConsole config noLegacy) script).build = .error e := by
  rw [compile]
  cases (session config (compileConsole config noLegacy) script).build with
  | error f =>
      show (Except.error f : Except ActionError CompileReport) = .error e ↔ _
      rw [Except.error.injEq, Except.error.injEq]
  | ok plan => exact ⟨nofun, nofun⟩

/-- A report of compiling has the ticks of the session. -/
theorem ticks_of_compile {noLegacy : Bool} {r : CompileReport}
    (h : compile config noLegacy path script = .ok r) :
    r.ticks = (session config (compileConsole config noLegacy) script).timelines.ticks := by
  rw [compile] at h
  cases hbuild : (session config (compileConsole config noLegacy) script).build with
  | error f =>
      rw [hbuild] at h
      cases h
  | ok plan =>
      rw [hbuild] at h
      obtain rfl := Except.ok.inj h
      rw [session_eq_run] at hbuild ⊢
      exact Session.ticks_of_build hbuild

theorem perform_eq_error_iff {noLegacy legacyOnly rejectActions : Bool} {e : ActionError} :
    perform config noLegacy legacyOnly rejectActions path script = .error e
      ↔ ((session config (performConsole config noLegacy legacyOnly rejectActions)
          script).perform
            (performConsole config noLegacy legacyOnly rejectActions).answers).result
        = .error e := by
  simp only [perform]
  cases ((session config (performConsole config noLegacy legacyOnly rejectActions) script).perform
      (performConsole config noLegacy legacyOnly rejectActions).answers).result with
  | error f =>
      show (Except.error f : Except ActionError PerformReport) = .error e ↔ _
      rw [Except.error.injEq, Except.error.injEq]
  | ok outcome => exact ⟨nofun, nofun⟩

/-- A report of performing has the ticks of the session. -/
theorem ticks_of_perform {noLegacy legacyOnly rejectActions : Bool} {q : PerformReport}
    (h : perform config noLegacy legacyOnly rejectActions path script = .ok q) :
    q.ticks = (session config (performConsole config noLegacy legacyOnly rejectActions)
      script).timelines.ticks := by
  simp only [perform] at h
  split at h
  · cases h
  · obtain rfl := Except.ok.inj h
    rfl

/-- Compiling fails with an error exactly if performing fails with it and it is a usage error. -/
theorem compile_error_iff_perform_usage {noLegacy legacyOnly rejectActions : Bool}
    {path' : String} {e : ActionError} :
    compile config noLegacy path script = .error e
      ↔ perform config noLegacy legacyOnly rejectActions path' script = .error e
        ∧ e.isUsage = true := by
  rw [compile_eq_error_iff, perform_eq_error_iff, session_eq_run, session_eq_run,
    Session.perform_usage_iff, Session.build_eq_error_iff, Session.build_eq_error_iff,
    Session.run_deferred_congr
      (isRecording_compileConsole config noLegacy legacyOnly rejectActions)]

/-- Reports of both commands have the same ticks. -/
theorem ticks_eq_of_reports {noLegacy legacyOnly rejectActions : Bool} {path' : String}
    {r : CompileReport} {q : PerformReport}
    (hr : compile config noLegacy path script = .ok r)
    (hq : perform config noLegacy legacyOnly rejectActions path' script = .ok q) :
    r.ticks = q.ticks := by
  rw [ticks_of_compile hr, ticks_of_perform hq, session_eq_run, session_eq_run,
    Session.run_timelines_congr
      (isRecording_compileConsole config noLegacy legacyOnly rejectActions)]

/-! ## What is said of it -/

/-- What compiling a script tells of performing it, when `i` compiles and `j` performs. -/
structure Predicts (config : Config) (script : Script) (i j : Invocation) : Prop where
  /-- Both fail with the same error, unless performing fails with one that is not of usage. -/
  error_iff : ∀ e, i.carryOut config script = .error (.compile e)
    ↔ j.carryOut config script = .error (.perform j.script e) ∧ e.isUsage = true
  /-- Each command fails only with an error of the session. -/
  compile_failure : ∀ f, i.carryOut config script = .error f → ∃ e, f = .compile e
  perform_failure : ∀ f, j.carryOut config script = .error f → ∃ e, f = .perform j.script e
  /-- Performing blames the script where compiling fails, and the endpoint elsewhere. -/
  blames_script : ∀ e f, i.carryOut config script = .error (.compile e) →
    j.carryOut config script = .error f → f.headline = "Invalid gesture script " ++ j.script
  blames_endpoint : ∀ output f, i.carryOut config script = .ok output →
    j.carryOut config script = .error f → f.headline = "Endpoint failed to perform " ++ j.script
  /-- Where both succeed, what they print are reports of the same ticks. -/
  same_ticks : ∀ output output', i.carryOut config script = .ok output →
    j.carryOut config script = .ok output' →
    ∃ r q, compile config i.noLegacy i.script script = .ok r
      ∧ perform config j.noLegacy j.legacyOnly j.rejectActions j.script script = .ok q
      ∧ output = i.output.print r.human r.fields ∧ output' = j.output.print q.human q.fields
      ∧ r.ticks = q.ticks

section CarryOut

variable {i j : Invocation}

/-- A report is printed, and an error becomes a failure of the command. -/
theorem mapError_map_eq_ok_iff {α : Type} {x : Except ActionError α} {print : α → String}
    {fail : ActionError → Failure} {output : String} :
    (x.map print).mapError fail = .ok output ↔ ∃ r, x = .ok r ∧ output = print r := by
  cases x with
  | error e => simp [Except.map, Except.mapError]
  | ok r => simp [Except.map, Except.mapError, eq_comm]

theorem mapError_map_eq_error_iff {α : Type} {x : Except ActionError α} {print : α → String}
    {fail : ActionError → Failure} {f : Failure} :
    (x.map print).mapError fail = .error f ↔ ∃ e, x = .error e ∧ f = fail e := by
  cases x with
  | error e => simp [Except.map, Except.mapError, eq_comm]
  | ok r => simp [Except.map, Except.mapError]

theorem carryOut_of_compile (config : Config) (script : Script) (hi : i.command = .compile) :
    i.carryOut config script
      = ((compile config i.noLegacy i.script script).map fun r =>
          i.output.print r.human r.fields).mapError .compile := by
  simp only [Invocation.carryOut, hi]
  cases compile config i.noLegacy i.script script with
  | error e => rfl
  | ok r => rfl

theorem carryOut_of_perform (config : Config) (script : Script) (hj : j.command = .perform) :
    j.carryOut config script
      = ((perform config j.noLegacy j.legacyOnly j.rejectActions j.script script).map fun q =>
          j.output.print q.human q.fields).mapError (.perform j.script) := by
  simp only [Invocation.carryOut, hj]
  cases perform config j.noLegacy j.legacyOnly j.rejectActions j.script script with
  | error e => rfl
  | ok q => rfl

/-- A usage error of performing is blamed on the script. -/
theorem headline_of_usage {e : ActionError} (h : e.isUsage = true) (path : String) :
    (Failure.perform path e).headline = "Invalid gesture script " ++ path := by
  have hlabel : "Invalid gesture script" ++ " " = "Invalid gesture script " := by decide
  show Failure.blame e ++ " " ++ path = _
  rw [Failure.blame, if_pos h, hlabel]

/-- Any other error of performing is blamed on the endpoint. -/
theorem headline_of_not_usage {e : ActionError} (h : ¬ e.isUsage = true) (path : String) :
    (Failure.perform path e).headline = "Endpoint failed to perform " ++ path := by
  have hlabel : "Endpoint failed to perform" ++ " " = "Endpoint failed to perform " := by decide
  show Failure.blame e ++ " " ++ path = _
  rw [Failure.blame, if_neg h, hlabel]

/-- What the two commands come to, compared end by end. -/
theorem predicts_carryOut (config : Config) (script : Script) (hi : i.command = .compile)
    (hj : j.command = .perform) (hlegacy : i.noLegacy = j.noLegacy) :
    Predicts config script i j := by
  have hcompile := carryOut_of_compile config script hi
  have hperform := carryOut_of_perform config script hj
  have herror : ∀ e, i.carryOut config script = .error (.compile e)
      ↔ j.carryOut config script = .error (.perform j.script e) ∧ e.isUsage = true := by
    intro e
    rw [hcompile, hperform, mapError_map_eq_error_iff, mapError_map_eq_error_iff]
    simp only [Failure.compile.injEq, Failure.perform.injEq, true_and, exists_eq_right']
    rw [hlegacy]
    exact compile_error_iff_perform_usage
  refine ⟨herror, ?_, ?_, ?_, ?_, ?_⟩
  · intro f hf
    rw [hcompile, mapError_map_eq_error_iff] at hf
    obtain ⟨e, -, rfl⟩ := hf
    exact ⟨e, rfl⟩
  · intro f hf
    rw [hperform, mapError_map_eq_error_iff] at hf
    obtain ⟨e, -, rfl⟩ := hf
    exact ⟨e, rfl⟩
  · intro e f he hf
    obtain ⟨hsame, husage⟩ := (herror e).mp he
    obtain rfl := Except.error.inj (hf.symm.trans hsame)
    exact headline_of_usage husage j.script
  · intro output f houtput hf
    have hfailure := hf
    rw [hperform, mapError_map_eq_error_iff] at hfailure
    obtain ⟨e, -, rfl⟩ := hfailure
    -- a usage error would have stopped the compiling
    have hother : ¬ e.isUsage = true := by
      intro husage
      rw [(herror e).mpr ⟨hf, husage⟩] at houtput
      cases houtput
    exact headline_of_not_usage hother j.script
  · intro output output' houtput houtput'
    rw [hcompile, mapError_map_eq_ok_iff] at houtput
    rw [hperform, mapError_map_eq_ok_iff] at houtput'
    obtain ⟨r, hr, rfl⟩ := houtput
    obtain ⟨q, hq, rfl⟩ := houtput'
    exact ⟨r, q, hr, hq, rfl, rfl, ticks_eq_of_reports (hlegacy ▸ hr) hq⟩

end CarryOut

/-! ## Runs of the program -/

/-- The configuration and the script that two files give, or what is wrong with the first that
    does not give one. -/
def Invocation.readFiles (i : Invocation) (config script : Contents) :
    Except Failure (Config × Script) := do
  return (← loadConfig config, ← loadScript i.script script)

/-- What an invocation has to go by: its configuration and its script, if its log level is known
    and both can be loaded, and else what fails first. -/
def Invocation.load {m : Type → Type} [Monad m] (s : Surroundings m) (i : Invocation) :
    m (Except Failure (Config × Script)) := do
  if !i.debug && !isLogLevel i.logLevel then return .error .logLevel
  else
    match ← findConfig s i.config with
    | .error e => return .error e
    | .ok config => return i.readFiles config (← s.read i.script)

/-- How a run ends that has something to go by, or nothing. -/
def Invocation.finish (i : Invocation) (loaded : Except Failure (Config × Script)) : Exit :=
  .ofOutput (loaded >>= fun (config, script) => i.carryOut config script)

theorem ofOutput_output? (i : Invocation) (config script : Contents) :
    Exit.ofOutput (i.output? config script) = i.finish (i.readFiles config script) := by
  rw [Invocation.output?, Invocation.finish, Invocation.readFiles]
  cases loadConfig config with
  | error f => rfl
  | ok c =>
      cases loadScript i.script script with
      | error f => rfl
      | ok script => rfl

/-- A run loads what its invocation has to go by, and carries out the command on it. -/
theorem run_eq_load {m : Type → Type} [Monad m] [LawfulMonad m] (s : Surroundings m)
    (arguments : List String) :
    run s arguments = match Invocation.ofArguments arguments with
      | .error stop => pure (.ofStop stop)
      | .ok i => i.finish <$> i.load s := by
  rw [run]
  cases Invocation.ofArguments arguments with
  | error stop => rfl
  | ok i =>
      simp only [Invocation.load]
      by_cases hlevel : (!i.debug && !isLogLevel i.logLevel) = true
      · rw [if_pos hlevel, if_pos hlevel, map_pure]
        rfl
      · rw [if_neg hlevel, if_neg hlevel, map_bind]
        refine bind_congr fun config => ?_
        cases config with
        | error f =>
            show pure (Exit.ofOutput (.error f)) = i.finish <$> pure (.error f)
            rw [map_pure]
            rfl
        | ok config =>
            simp only [ofOutput_output?, map_bind, map_pure]

variable {σ : Type}

/-- A run whose configuration and script load ends as its command does on them. -/
theorem run_of_load {s : Surroundings (StateM σ)} {arguments : List String} {k : Invocation}
    {w w' : σ} (hk : Invocation.ofArguments arguments = .ok k)
    (hload : (k.load s).run w = (.ok (config, script), w')) :
    (run s arguments).run w = (.ofOutput (k.carryOut config script), w') := by
  rw [run_eq_load, hk]
  show (k.finish <$> k.load s).run w = _
  rw [StateT.run_map, hload]
  rfl

/-- A run that fails has printed nothing. -/
def Exit.Silent (e : Exit) : Prop := e.code ≠ 0 → e.stdout = ""

theorem Exit.silent_ofStop (stop : Stop) : (Exit.ofStop stop).Silent := by
  intro hcode
  cases stop with
  | usage => rfl
  | help => rfl
  | version command => exact absurd rfl hcode

theorem Exit.silent_ofOutput (output? : Except Failure String) :
    (Exit.ofOutput output?).Silent := by
  intro hcode
  cases output? with
  | error f => rfl
  | ok output => exact absurd rfl hcode

/-- Whatever stands at the places that are read, and even if it changes while the program runs, a
    run that fails prints nothing. -/
theorem silent_run (s : Surroundings (StateM σ)) (arguments : List String) (w : σ) :
    ((run s arguments).run w).1.Silent := by
  rw [run_eq_load]
  cases Invocation.ofArguments arguments with
  | error stop => exact Exit.silent_ofStop stop
  | ok i => exact Exit.silent_ofOutput _

/-- **Compiling predicts performing, and a failing run is silent.**  For every configuration and
    script, and whatever the console of the performing is told, compiling fails exactly if
    performing fails for a mistake of the script, and with the same error; and no run of the
    program that fails prints anything.  A run that loads this configuration and this script ends
    as its command does on them, so what is said of the commands is said of runs. -/
theorem compile_predicts_perform (config : Config) (script : Script) (i j : Invocation)
    (hi : i.command = .compile) (hj : j.command = .perform) (hlegacy : i.noLegacy = j.noLegacy) :
    Predicts config script i j
      ∧ (∀ {σ : Type} (s : Surroundings (StateM σ)) (arguments : List String) (w : σ),
        ((run s arguments).run w).1.Silent)
      ∧ ∀ {σ : Type} (s : Surroundings (StateM σ)) (arguments : List String) (k : Invocation)
        (w w' : σ), Invocation.ofArguments arguments = .ok k →
          (k.load s).run w = (.ok (config, script), w') →
          (run s arguments).run w = (.ofOutput (k.carryOut config script), w') := by
  refine ⟨predicts_carryOut config script hi hj hlegacy, ?_, ?_⟩
  · intro σ s arguments w
    exact silent_run s arguments w
  · intro σ s arguments k w w' hk hload
    exact run_of_load hk hload

/-- A key that may not be held, performed on a console that has no synchronized command. -/
theorem compile_predicts_perform_key :
    let config : Config := {}
    let script : Script := ⟨[.click none, .keyDown (.text "x") (some ⟨"field"⟩)]⟩
    let i : Invocation := { (default : Invocation) with command := .compile, script := "keys.yaml" }
    let j : Invocation := { i with command := .perform, legacyOnly := true }
    (i.command = .compile ∧ j.command = .perform ∧ i.noLegacy = j.noLegacy)
      ∧ i.carryOut config script = .error (.compile (.invalidModifier (.text "x")))
      ∧ Predicts config script i j
      ∧ (∀ {σ : Type} (s : Surroundings (StateM σ)) (arguments : List String) (w : σ),
        ((run s arguments).run w).1.Silent)
      ∧ ∀ {σ : Type} (s : Surroundings (StateM σ)) (arguments : List String) (k : Invocation)
        (w w' : σ), Invocation.ofArguments arguments = .ok k →
          (k.load s).run w = (.ok (config, script), w') →
          (run s arguments).run w = (.ofOutput (k.carryOut config script), w') :=
  ⟨⟨rfl, rfl, rfl⟩, rfl, compile_predicts_perform _ _ _ _ rfl rfl rfl⟩

/-- A sound script on a console without any protocol is not to blame. -/
example :
    let j : Invocation :=
      { (default : Invocation) with
        command := .perform, script := "keys.yaml", noLegacy := true, legacyOnly := true }
    j.carryOut {} ⟨[.click none]⟩
      = .error (.perform "keys.yaml" (.noProtocol .bothProtocols)) := rfl

end CommandLine

end GestureTimeline
