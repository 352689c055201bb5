import Fleet.Proofs.Compute.Client
import Fleet.Provider.Compute

/-! The project: looking it up changes nothing but the settings, and there its own place alone. Once it is
found the same one is found again. -/

namespace Fleet.Compute

/-- The site after a look-up of the project: all but the settings, the trace and the log is as before, and
the settings are but for the project. -/
structure Resolves (before after : Site) : Prop where
  rest : after = { before with
    cloud := after.cloud, settings := after.settings, trace := after.trace, log := after.log }
  zones : after.cloud.zones = before.cloud.zones
  settings : ∃ value, settingsAt after = { settingsAt before with project := value }

namespace Resolves

variable {before after : Site}

/-- The clock stands. -/
theorem clock (resolves : Resolves before after) : after.clock = before.clock := by
  rw [resolves.rest]

/-- The schedule stays. -/
theorem schedule (resolves : Resolves before after) : Host.schedule after = Host.schedule before := by
  rw [resolves.rest]
  rfl

/-- The zones to choose from stay. -/
theorem zonesFor (resolves : Resolves before after) (count : Nat) (spread : Bool) :
    (settingsAt after).zonesFor count spread = (settingsAt before).zonesFor count spread := by
  obtain ⟨value, same⟩ := resolves.settings
  rw [same]
  rfl

end Resolves

/-- Running the tool is one event, and what it prints does not depend on when it is run. -/
theorem on_runTool (arguments : List String) (site : Site) :
    ∃ after, Site.Calls [.command (Tool.name :: arguments)] site after ∧
      (runTool arguments).on site = match site.tool.run arguments with
        | .ok output => (.ok (Text.trim output), after)
        | .error problem => (.error (.problem problem), after) := by
  -- Telling and noting leave the tool as it is.
  have told := Site.tell_calls .debug ("Running: " ++ " ".intercalate (Tool.name :: arguments)) site
  have noted := told.trans (Site.note_calls (.command (Tool.name :: arguments)) _)
  refine ⟨_, noted, ?_⟩
  rw [← noted.tool]
  simp only [runTool, Program.on_bind, Program.on_lift, Program.on_get]
  cases Tool.run _ arguments <;> rfl

/-- The words that ask the tool for its project. -/
abbrev projectQuestion : List String := ["config", "get-value", "project"]

/-- A project that the settings have is the project. -/
theorem on_project_some {site : Site} {found : String}
    (set : (settingsAt site).project.text? = some found) : project.on site = (.ok found, site) := by
  simp only [project, Program.on_bind, Program.on_get, set]
  rfl

/-- Without one in the settings, what the tool names is kept there, and is the project unless it is
empty. -/
theorem on_project_none {site : Site} (unset : (settingsAt site).project.text? = none) :
    ∃ middle, Site.Calls [.command (Tool.name :: projectQuestion)] site middle ∧
      project.on site = match site.tool.run projectQuestion with
        | .error problem => (.error (.problem problem), middle)
        | .ok output => (if (Text.trim output).isEmpty then .error projectMissing
          else .ok (Text.trim output), { middle with
            settings := middle.settings.modify providerName fun settings =>
              { settings with project := .text (Text.trim output) } }) := by
  -- The question is put to the tool, and its answer decides.
  obtain ⟨middle, calls, ran⟩ := on_runTool projectQuestion site
  refine ⟨middle, calls, ?_⟩
  simp only [project, Program.on_bind, Program.on_get, unset, ran]
  cases site.tool.run projectQuestion with
  | error problem => rfl
  -- White space alone is kept, too, but it is no project.
  | ok output =>
    by_cases blank : (Text.trim output).isEmpty = true
    · simp [blank]
    · simp [blank]

/-- Looking the project up changes nothing but its own place in the settings. -/
theorem project_resolves {site after : Site} {outcome : Except Fault String}
    (ran : project.on site = (outcome, after)) : Resolves site after := by
  -- The settings are changed only when the tool was asked and answered.
  cases set : (settingsAt site).project.text? with
  | some found =>
    -- What is in the settings is answered, and nothing happens.
    rw [on_project_some set] at ran
    cases ran
    exact ⟨rfl, rfl, _, rfl⟩
  | none =>
    -- Otherwise the tool is asked, and only what it answers is kept.
    obtain ⟨middle, calls, same⟩ := on_project_none set
    rw [ran] at same
    cases answered : site.tool.run projectQuestion with
    | error problem =>
      rw [answered] at same
      cases same
      exact ⟨by rw [calls.rest], calls.zones, _, by rw [settingsAt, calls.settings, ← settingsAt]⟩
    | ok output =>
      rw [answered] at same
      obtain ⟨_, rfl⟩ := Prod.mk.inj same
      -- The entry of the provider is the one that is changed, if it has one.
      refine ⟨by rw [calls.rest], calls.zones, ?_⟩
      simp only [settingsAt, OrderedMap.get?_modify, calls.settings, if_true]
      cases site.settings.get? providerName with
      | none => exact ⟨_, rfl⟩
      | some settings => exact ⟨_, rfl⟩

/-- Running the tool leaves the cloud alone. -/
theorem cloud_runTool (arguments : List String) (site : Site) :
    ((runTool arguments).on site).2.cloud = site.cloud := by
  -- What is told goes to the log, if anything is told at all.
  have told (text : String) : ((tell Site .debug text).run site).2.cloud = site.cloud := by
    change (if Severity.debug.isTold site.logger.verbose then _ else site : Site).cloud = site.cloud
    split <;> rfl
  simp only [runTool, Program.on_bind, Program.on_lift, Program.on_get]
  cases Tool.run _ arguments <;> exact told _

/-- Looking the project up leaves the cloud alone. -/
theorem cloud_project (site : Site) : (project.on site).2.cloud = site.cloud := by
  -- With a project in the settings nothing is looked up.
  cases set : (settingsAt site).project.text? with
  | some found => rw [on_project_some set]
  | none =>
    have asked := cloud_runTool projectQuestion site
    simp only [project, Program.on_bind, Program.on_get, set]
    rcases ran : (runTool projectQuestion).on site with ⟨fault | found, after⟩ <;> rw [ran] at asked
    · exact asked
    · simp only [Program.on_modify]
      -- Whether it is taken or not, what was found changes the settings alone.
      split <;> exact asked

/-- To look the project up no more is done to the outside than to ask the tool for it. -/
theorem project_trace {site after : Site} {outcome : Except Fault String}
    (ran : project.on site = (outcome, after)) :
    ∃ events, after.trace = site.trace ++ events ∧
      ∀ event ∈ events, event = .command (Tool.name :: projectQuestion) := by
  cases set : (settingsAt site).project.text? with
  | some found =>
    -- The settings have it, so nobody is asked.
    rw [on_project_some set] at ran
    cases ran
    exact ⟨[], (List.append_nil _).symm, List.forall_mem_nil _⟩
  | none =>
    obtain ⟨middle, calls, same⟩ := on_project_none set
    rw [ran] at same
    refine ⟨_, ?_, fun event member => List.mem_singleton.mp member⟩
    -- What is kept of an answer is no event.
    cases answered : site.tool.run projectQuestion <;> rw [answered] at same <;> cases same <;>
      exact calls.trace

/-- Which project is found depends on the settings and the tool alone. -/
theorem project_fst (site : Site) :
    (project.on site).1 = match (settingsAt site).project.text? with
      | some found => .ok found
      | none => match site.tool.run projectQuestion with
        | .error problem => .error (.problem problem)
        | .ok output =>
          if (Text.trim output).isEmpty then .error projectMissing else .ok (Text.trim output) := by
  cases set : (settingsAt site).project.text? with
  | some found => rw [on_project_some set]
  | none =>
    obtain ⟨_, _, same⟩ := on_project_none set
    rw [same]
    cases site.tool.run projectQuestion <;> rfl

/-- Where settings and tool stay the same project is found. -/
theorem project_of_settings {before after : Site} (settings : after.settings = before.settings)
    (tool : after.tool = before.tool) : (project.on after).1 = (project.on before).1 := by
  rw [project_fst, project_fst, settingsAt, settings, tool, ← settingsAt]

/-- Having looked for the project does not change which one is found. -/
theorem project_of_project (site : Site) : (project.on (project.on site).2).1 = (project.on site).1 := by
  cases set : (settingsAt site).project.text? with
  | some found => rw [on_project_some set, on_project_some set]
  | none =>
    obtain ⟨middle, calls, same⟩ := on_project_none set
    rw [same]
    cases answered : site.tool.run projectQuestion with
    | error problem =>
      rw [project_of_settings calls.settings calls.tool, same, answered]
    | ok output =>
      -- What was named is kept, if there is a place for it, and would be named again.
      simp only [project_fst, settingsAt, OrderedMap.get?_modify, if_true, calls.settings, calls.tool,
        answered]
      cases site.settings.get? providerName <;>
        by_cases blank : (Text.trim output).isEmpty = true <;> simp [FlagValue.text?, blank]

end Fleet.Compute
