import ServiceSyntax.CommandLine.Run
import ServiceSyntax.Proofs.Vocabulary.Load
import ServiceSyntax.Yaml.Document

/-!
# Listing the vocabulary of a file

Loading a keyword file that cannot be used ends in an error of the configuration, which the command
line explains with status 2 and which leaves the registry of the process unset
(`keywords_of_file`). Only a fatal file stops the program, such as one that is no UTF-8
(`keywords_of_notUtf8`). This holds for every library that reads YAML.
-/

namespace ServiceSyntax.CommandLine

variable {env : Environment} {host : Host} {scope config : Option String} {json : Bool}

theorem configPath_of_name (env : Environment) {name : String} (hname : name.isEmpty = false) :
    configPath env (some name) = some (.ofText name) := by
  simp [configPath, hname, Option.filter]

/-- A registry is loaded with a log as it is without one. -/
theorem snd_loadLogged (host : Host) (path : Option FilePath) :
    (loadLogged host path).2 = Registry.load host path := by
  cases path with
  | none => rfl
  | some path =>
    simp only [loadLogged, Registry.load]
    cases Registry.overlay host path <;> rfl

theorem fst_loadLogged {path : Option FilePath} {e : LoadError}
    (hload : Registry.load host path = .error e) : (loadLogged host path).1 = [loadedLog] := by
  rw [← snd_loadLogged] at hload
  cases path with
  | none => cases hload
  | some path =>
    simp only [loadLogged] at hload ⊢
    cases hoverlay : Registry.overlay host path with
    | ok overlay =>
      rw [hoverlay] at hload
      cases hload
    | error e => rfl

/-- A vocabulary that has been loaded is listed, or it is said that it has no such scope. -/
theorem runKeywords_of_ok {r : Registry}
    (hload : Registry.load host (configPath env config) = .ok r) :
    ∃ output, runKeywords env host scope config json = .ok output ∧
      (output.status = 0 ∨ output.status = 2 ∧ output.out = "" ∧
        ∃ log message, output.err = logText env log ++ closedText message) := by
  rw [← snd_loadLogged] at hload
  unfold runKeywords
  generalize loadLogged host (configPath env config) = logged at hload
  obtain ⟨log, loaded⟩ := logged
  obtain rfl : loaded = .ok r := hload
  cases hlist : listVocabulary r scope json with
  | ok listing =>
    let output : Output := { status := 0, out := listing, err := logText env log }
    exact ⟨output, by simp only [hlist, output], Or.inl rfl⟩
  | error message =>
    let output : Output := { status := 2, err := logText env log ++ closedText message }
    exact ⟨output, by simp only [hlist, output], Or.inr ⟨rfl, rfl, log, message, rfl⟩⟩

/-- An error of the configuration is explained; another one stops the program. -/
theorem runKeywords_of_error {e : LoadError}
    (hload : Registry.load host (configPath env config) = .error e) :
    runKeywords env host scope config json
      = if e.isConfig then
          .ok { status := 2, err := logText env [loadedLog] ++ closedText e.message }
        else .error (.vocabulary e) := by
  have hlog := fst_loadLogged hload
  -- the command loads with a log, which is that of the packaged vocabulary only
  rw [← snd_loadLogged] at hload
  unfold runKeywords
  generalize loadLogged host (configPath env config) = logged at hload hlog
  obtain ⟨log, loaded⟩ := logged
  obtain rfl : loaded = .error e := hload
  obtain rfl : log = [loadedLog] := hlog
  rfl

/-- Loading a keyword file gives a registry or an error, and the error is one of the configuration
unless the file is fatal. After an error the registry of the process is unset and is loaded again
when it is asked for. The command line lists the vocabulary with status 0, or it ends with status 2
and a message; a fatal file stops it. -/
theorem keywords_of_file (host : Host) {name : String} (hname : name.isEmpty = false)
    {s : Session} (hoverlay : s.overlay = some name) (hunset : s.registry = none) :
    let path := FilePath.ofText name
    let loaded := Registry.load host (some path)
    (Stops loaded ↔ Registry.Fatal host path) ∧
      (∀ r, loaded = .ok r → s.get host = (.ok r, { s with registry := some r })) ∧
      (∀ e, loaded = .error e → (s.get host).1 = .error e ∧ (s.get host).2.registry = none ∧
        ∀ host' r, Registry.load host' (some path) = .ok r →
          (s.get host).2.get host' = (.ok r, { s with registry := some r })) ∧
      ∀ env scope json,
        (∀ r, loaded = .ok r →
          ∃ output, Command.run env host (.keywords scope (some name) json) = .ok output ∧
            (output.status = 0 ∨ output.status = 2 ∧ output.out = "" ∧
              ∃ log message, output.err = logText env log ++ closedText message)) ∧
        ∀ e, loaded = .error e →
          Command.run env host (.keywords scope (some name) json)
            = if e.isConfig then
                .ok { status := 2, err := logText env [loadedLog] ++ closedText e.message }
              else .error (.vocabulary e) := by
  intro path loaded
  have hpath : s.overlayPath = some path := Session.overlayPath_of_overlay hoverlay hname
  refine ⟨Registry.stops_load host path, ?_, ?_, ?_⟩
  · intro r hload
    apply Session.get_of_ok hunset
    rwa [hpath]
  · intro e hload
    -- the session is the same as before, and so is what it does next
    have hget : s.get host = (.error e, s) := by
      apply Session.get_of_error hunset
      rwa [hpath]
    rw [hget]
    refine ⟨rfl, hunset, ?_⟩
    intro host' r hload'
    apply Session.get_of_ok hunset
    rwa [hpath]
  · intro env scope json
    have hconfig := configPath_of_name env hname
    constructor
    · intro r hload
      apply runKeywords_of_ok (r := r)
      rwa [hconfig]
    · intro e hload
      apply runKeywords_of_error
      rwa [hconfig]

/-- No file is there: the session stays without a registry, and the command says what is missing. -/
theorem keywords_of_missing :
    let host : Host := { yaml := Yaml.read }
    let s : Session := { overlay := some "kw.yaml" }
    "kw.yaml".isEmpty = false ∧ s.overlay = some "kw.yaml" ∧ s.registry = none ∧
      (s.get host).1 = .error (.missingFile "kw.yaml") ∧ (s.get host).2.registry = none ∧
      Command.run {} host (.keywords none (some "kw.yaml") false)
        = .ok { status := 2, err := "Keyword file not found: kw.yaml\n" } := by
  intro host s
  have hname : "kw.yaml".isEmpty = false := rfl
  have hoverlay : s.overlay = some "kw.yaml" := rfl
  have hunset : s.registry = none := rfl
  obtain ⟨-, -, hget, hrun⟩ := keywords_of_file host hname hoverlay hunset
  have hload : Registry.load host (some (.ofText "kw.yaml")) = .error (.missingFile "kw.yaml") :=
    rfl
  obtain ⟨herror, hnone, -⟩ := hget _ hload
  refine ⟨hname, hoverlay, hunset, herror, hnone, ?_⟩
  rw [(hrun {} none false).2 _ hload]
  rfl

/-- A byte that is no UTF-8: the error is none of the configuration, and it stops the program. -/
theorem keywords_of_notUtf8 :
    let host : Host := { file := fun _ => .readable [0xFF], yaml := Yaml.read }
    let s : Session := { overlay := some "bad.yaml" }
    let e : LoadError := .notUtf8 "bad.yaml"
    Registry.load host (some (.ofText "bad.yaml")) = .error e ∧ e.isConfig = false ∧
      (s.get host).1 = .error e ∧
      Command.run {} host (.keywords none (some "bad.yaml") false) = .error (.vocabulary e) := by
  intro host s e
  have hdecode : Text.Utf8.decode? [0xFF] = none := by decide +kernel
  have hload : Registry.load host (some (.ofText "bad.yaml")) = .error e := by
    simp only [Registry.load, Registry.overlay, host, hdecode]
    rfl
  refine ⟨hload, rfl, ?_, ?_⟩
  · have hget : s.get host = (.error e, s) := Session.get_of_error rfl hload
    rw [hget]
  · have hconfig : configPath {} (some "bad.yaml") = some (.ofText "bad.yaml") :=
      configPath_of_name {} rfl
    rw [← hconfig] at hload
    rw [Command.run, runKeywords_of_error hload]
    rfl

end ServiceSyntax.CommandLine
