import Mathlib.Data.List.Induction
import ServiceSyntax.Files.Tree
import ServiceSyntax.Proofs.Vocabulary.Registrations

/-!
# The history of a session

What a session shows is settled by what has been done to it. The first request since the last reset
that can be given a registry loads the overlay that the environment names at that time (`Loads`);
until then nothing is kept (`Unanswered.registry_eq`), and from then on everything that is
registered is added to what has been loaded (`registry_of_kept`).
-/

namespace ServiceSyntax

/-- The vocabulary of the overlay at a path, if there is one. -/
def Registry.overlayAt (host : Host) : Option FilePath → Except LoadError Registry
  | none => .ok {}
  | some path => overlay host path

theorem Registry.load_eq (host : Host) (path : Option FilePath) :
    load host path = (overlayAt host path).map packaged.merge := by
  cases path <;> rfl

theorem Registry.distinct_overlayAt {host : Host} {path : Option FilePath} {r : Registry}
    (h : overlayAt host path = .ok r) : r.Distinct := by
  cases path with
  | none =>
    obtain rfl := Except.ok.inj h
    exact distinct_empty
  | some path => exact distinct_overlay h

namespace Session

/-- What a process can do with its session. -/
inductive Operation where
  /-- Sets the overlay that the environment names, or unsets it. -/
  | setOverlay (name : Option String)
  | reset
  | get
  | register (scope : String) (terms : List String)
  /-- Loads a vocabulary of its own. -/
  | load (path : Option FilePath)

namespace Operation

/-- Whether the operation asks for the registry of the session. -/
def asks : Operation → Bool
  | get | register .. => true
  | _ => false

/-- What the operation registers. -/
def registrations : Operation → List (String × List String)
  | register scope terms => [(scope, terms)]
  | _ => []

/-- The overlay that the environment names behind the operation. -/
def overlayAfter (name : Option String) : Operation → Option String
  | setOverlay name' => name'
  | _ => name

end Operation

/-- What an operation answers, which is a registry if that was asked for, and the session behind
it. -/
def perform (host : Host) (s : Session) :
    Operation → Except LoadError (Option Registry) × Session
  | .setOverlay name => (.ok none, { s with overlay := name })
  | .reset => (.ok none, s.reset)
  | .get => ((s.get host).1.map some, (s.get host).2)
  | .register scope terms =>
    ((s.register host scope terms).1.map fun _ => none, (s.register host scope terms).2)
  | .load path => ((s.load host path).map some, s)

/-- The session behind a history. -/
def behind (host : Host) (s : Session) (history : List Operation) : Session :=
  history.foldl (fun s operation => (s.perform host operation).2) s

/-- The path of the overlay that the environment names behind a history. -/
def pathBehind (start : Option String) (history : List Operation) : Option FilePath :=
  overlayPath { overlay := history.foldl Operation.overlayAfter start }

/-- No request since the last reset could be given a registry. -/
def Unanswered (host : Host) (start : Option String) (history : List Operation) : Prop :=
  ∀ earlier operation later, history = earlier ++ operation :: later → operation.asks = true →
    Operation.reset ∉ later → ∃ e, Registry.load host (pathBehind start earlier) = .error e

/-- The operation is the first since the last reset that asks for a registry and can be given one:
it loads the overlay. -/
structure Loads (host : Host) (start : Option String) (history earlier : List Operation)
    (operation : Operation) (later : List Operation) (overlay : Registry) : Prop where
  history_eq : history = earlier ++ operation :: later
  asks : operation.asks = true
  kept : Operation.reset ∉ later
  unanswered : Unanswered host start earlier
  overlay_eq : Registry.overlayAt host (pathBehind start earlier) = .ok overlay

variable {host : Host} {start : Option String} {history earlier later : List Operation}
  {operation : Operation} {s : Session} {r overlay : Registry}

/-! ## Single operations -/

theorem get_of_some (h : s.registry = some r) : s.get host = (.ok r, s) := by
  rw [get, h]

theorem overlay_get (s : Session) (host : Host) : (s.get host).2.overlay = s.overlay := by
  unfold get
  split
  · rfl
  · split <;> rfl

theorem overlay_register (s : Session) (host : Host) (scope : String) (terms : List String) :
    (s.register host scope terms).2.overlay = s.overlay := by
  have hget := overlay_get s host
  unfold register
  split
  · rename_i heq
    rwa [heq] at hget
  · rename_i heq
    rwa [heq] at hget

theorem overlay_perform (s : Session) (host : Host) (operation : Operation) :
    (s.perform host operation).2.overlay = operation.overlayAfter s.overlay := by
  cases operation with
  | get => exact overlay_get s host
  | register scope terms => exact overlay_register s host scope terms
  | _ => rfl

/-- What is registered is added to the registry that is there. -/
theorem registry_perform (h : s.registry = some r) (hkept : operation ≠ .reset) :
    (s.perform host operation).2.registry = some (r.extend operation.registrations) := by
  cases operation with
  | reset => exact absurd rfl hkept
  | get =>
    show (s.get host).2.registry = some r
    rw [get_of_some h, h]
  | register scope terms =>
    show (s.register host scope terms).2.registry = some (r.register scope terms)
    rw [Session.register, get_of_some h]
  | _ => exact h

/-- A request loads the registry if it can, and then registers in it. -/
theorem registry_perform_of_ok (hunset : s.registry = none) (hasks : operation.asks = true)
    (hload : Registry.load host s.overlayPath = .ok r) :
    (s.perform host operation).2.registry = some (r.extend operation.registrations) := by
  have hget := get_of_ok hunset hload
  cases operation with
  | get =>
    show (s.get host).2.registry = some r
    rw [hget]
  | register scope terms =>
    show (s.register host scope terms).2.registry = some (r.register scope terms)
    rw [Session.register, hget]
  | _ => cases hasks

/-- Where the registry is not there and cannot be loaded, it is not there afterwards. -/
theorem registry_perform_of_error (hunset : s.registry = none)
    (hload : operation.asks = true → ∃ e, Registry.load host s.overlayPath = .error e) :
    (s.perform host operation).2.registry = none := by
  cases operation with
  | get =>
    obtain ⟨e, hload⟩ := hload rfl
    show (s.get host).2.registry = none
    rw [get_of_error hunset hload, hunset]
  | register scope terms =>
    obtain ⟨e, hload⟩ := hload rfl
    show (s.register host scope terms).2.registry = none
    rw [Session.register, get_of_error hunset hload, hunset]
  | reset => rfl
  | _ => exact hunset

/-! ## Histories -/

theorem behind_append (s : Session) (host : Host) (earlier later : List Operation) :
    behind host s (earlier ++ later) = behind host (behind host s earlier) later :=
  List.foldl_append

theorem overlay_behind (s : Session) (host : Host) (history : List Operation) :
    (behind host s history).overlay = history.foldl Operation.overlayAfter s.overlay := by
  induction history generalizing s with
  | nil => rfl
  | cons operation history ih =>
    show (behind host (s.perform host operation).2 history).overlay = _
    rw [ih, overlay_perform]
    rfl

theorem overlayPath_behind (host : Host) (start : Option String) (history : List Operation) :
    (behind host { overlay := start } history).overlayPath = pathBehind start history := by
  unfold pathBehind overlayPath
  rw [overlay_behind]

/-- As long as it is not forgotten the registry has all that is registered added to it. -/
theorem registry_of_kept (h : s.registry = some r) (hkept : Operation.reset ∉ later) :
    (behind host s later).registry
      = some (r.extend (later.flatMap Operation.registrations)) := by
  induction later generalizing s r with
  | nil => exact h
  | cons operation later ih =>
    obtain ⟨hoperation, hlater⟩ := not_or.1 (List.mem_cons.not.1 hkept)
    have hnext : (s.perform host operation).2.registry
        = some (r.extend operation.registrations) := registry_perform h (Ne.symm hoperation)
    show (behind host (s.perform host operation).2 later).registry = _
    rw [ih hnext hlater, List.flatMap_cons, Registry.extend_append]

/-! ## Requests without an answer -/

theorem unanswered_nil (host : Host) (start : Option String) : Unanswered host start [] := by
  intro earlier operation later heq
  simp at heq

/-- A reset puts an end to all requests before it. -/
theorem unanswered_reset (host : Host) (start : Option String) (history : List Operation) :
    Unanswered host start (history ++ [.reset]) := by
  intro earlier operation later heq hasks hkept
  have hlast : (operation :: later).getLast? = some Operation.reset := by
    have hlast := congrArg List.getLast? heq
    rwa [List.getLast?_append, List.getLast?_append, List.getLast?_singleton, Option.some_or,
      List.getLast?_cons, Option.some_or, ← List.getLast?_cons, eq_comm] at hlast
  rcases List.mem_cons.1 (List.mem_of_getLast? hlast) with hreset | hreset
  · subst hreset
    cases hasks
  · exact absurd hreset hkept

theorem Unanswered.of_concat (h : Unanswered host start (history ++ [operation]))
    (hkept : operation ≠ .reset) : Unanswered host start history := by
  intro earlier asking later heq hasks hlater
  apply h earlier asking (later ++ [operation]) (by rw [heq]; simp) hasks
  rw [List.mem_append, List.mem_singleton, not_or]
  exact ⟨hlater, Ne.symm hkept⟩

theorem Unanswered.concat (h : Unanswered host start history)
    (hload : operation.asks = true →
      ∃ e, Registry.load host (pathBehind start history) = .error e) :
    Unanswered host start (history ++ [operation]) := by
  intro earlier asking later heq hasks hlater
  rcases List.eq_nil_or_concat later with rfl | ⟨init, last, rfl⟩
  · obtain ⟨rfl, hlast⟩ := List.append_inj' heq rfl
    obtain rfl := (List.cons.inj hlast).1
    exact hload hasks
  · have hsplit : history ++ [operation] = (earlier ++ asking :: init) ++ [last] := by
      simpa using heq
    obtain ⟨hhistory, -⟩ := List.append_inj' hsplit rfl
    apply h earlier asking init hhistory hasks
    intro hreset
    exact hlater (by simp [hreset])

/-- Until a request is given a registry none is kept. -/
theorem Unanswered.registry_eq (h : Unanswered host start history) :
    (behind host { overlay := start } history).registry = none := by
  induction history using List.reverseRecOn with
  | nil => rfl
  | append_singleton history operation ih =>
    rw [behind_append]
    by_cases hreset : operation = .reset
    · subst hreset
      rfl
    · apply registry_perform_of_error (ih (h.of_concat hreset))
      intro hasks
      rw [overlayPath_behind]
      exact h history operation [] rfl hasks List.not_mem_nil

/-- Some request since the last reset has loaded a registry, or none could be given one. -/
theorem unanswered_or_loads (host : Host) (start : Option String) (history : List Operation) :
    Unanswered host start history ∨
      ∃ earlier operation later overlay,
        Loads host start history earlier operation later overlay := by
  induction history using List.reverseRecOn with
  | nil => exact Or.inl (unanswered_nil host start)
  | append_singleton history operation ih =>
    by_cases hreset : operation = .reset
    · subst hreset
      exact Or.inl (unanswered_reset host start history)
    rcases ih with hnone | ⟨earlier, asking, later, overlay, hloads⟩
    · cases hoverlay : Registry.overlayAt host (pathBehind start history) with
      | error e =>
        refine Or.inl (hnone.concat fun _ => ⟨e, ?_⟩)
        rw [Registry.load_eq, hoverlay]
        rfl
      | ok overlay =>
        by_cases hasks : operation.asks = true
        · exact Or.inr ⟨history, operation, [], overlay, rfl, hasks, List.not_mem_nil, hnone,
            hoverlay⟩
        · exact Or.inl (hnone.concat fun h => absurd h hasks)
    · refine Or.inr ⟨earlier, asking, later ++ [operation], overlay, ?_, hloads.asks, ?_,
        hloads.unanswered, hloads.overlay_eq⟩
      · rw [hloads.history_eq]
        simp
      · rw [List.mem_append, List.mem_singleton, not_or]
        exact ⟨hloads.kept, Ne.symm hreset⟩

/-- The registry is the one that has been loaded with all that has been registered since then. -/
theorem Loads.registry_eq (h : Loads host start history earlier operation later overlay) :
    (behind host { overlay := start } history).registry
      = some ((Registry.packaged.merge overlay).extend
          ((operation :: later).flatMap Operation.registrations)) := by
  have hload : Registry.load host (behind host { overlay := start } earlier).overlayPath
      = .ok (Registry.packaged.merge overlay) := by
    rw [overlayPath_behind, Registry.load_eq, h.overlay_eq]
    rfl
  have hfirst := registry_perform_of_ok h.unanswered.registry_eq h.asks hload
  rw [h.history_eq, behind_append]
  show (behind host (perform host _ operation).2 later).registry = _
  rw [registry_of_kept hfirst h.kept, List.flatMap_cons, Registry.extend_append]

/-! ## What a session shows -/

/-- Every session is in one of two states. Where no request since the last reset could be given a
registry none is kept, and the next request loads the overlay that the environment names by then; if
it fails the session stays as it is. Otherwise the session shows the packaged vocabulary, the overlay
that was named at the first request that could be given a registry, and what has been registered
since, in this order and everything once. Loading a vocabulary on its own has no part in it. -/
theorem shown_behind (host : Host) (start : Option String) (history : List Operation) :
    let s := behind host { overlay := start } history
    (Unanswered host start history ∨ ∃ earlier operation later overlay,
        Loads host start history earlier operation later overlay) ∧
      (Unanswered host start history → s.registry = none ∧
        (s.get host).1 = Registry.load host (pathBehind start history) ∧
        ∀ e, (s.get host).1 = .error e → (s.get host).2 = s) ∧
      (∀ earlier operation later overlay,
        Loads host start history earlier operation later overlay →
        let since := (operation :: later).flatMap Operation.registrations
        ∃ r, s.get host = (.ok r, s) ∧
          r.scopes = (Registry.packaged.scopes ++ overlay.scopes ++ since.map Prod.fst).eraseDups ∧
          ∀ scope, r.terms scope = (Registry.packaged.terms scope ++ overlay.terms scope
            ++ Registry.termsFor scope since).eraseDups) ∧
      ∀ path, s.perform host (.load path)
        = ((Registry.load host (path.or (pathBehind start history))).map some, s) := by
  intro s
  have hpath : s.overlayPath = pathBehind start history := overlayPath_behind host start history
  refine ⟨unanswered_or_loads host start history, ?_, ?_, ?_⟩
  · intro hnone
    have hunset : s.registry = none := hnone.registry_eq
    cases hload : Registry.load host (pathBehind start history) with
    | ok r =>
      have hget := get_of_ok hunset (hpath ▸ hload)
      rw [hget]
      exact ⟨hunset, rfl, nofun⟩
    | error e =>
      have hget := get_of_error hunset (hpath ▸ hload)
      rw [hget]
      exact ⟨hunset, rfl, fun _ _ => rfl⟩
  · intro earlier operation later overlay hloads since
    have hoverlay := Registry.distinct_overlayAt hloads.overlay_eq
    refine ⟨_, get_of_some hloads.registry_eq, ?_, fun scope => ?_⟩
    · rw [Registry.scopes_extend, Registry.distinct_packaged.scopes_merge,
        Registry.appendNew_eraseDups]
    · rw [Registry.terms_extend, Registry.distinct_packaged.terms_merge hoverlay,
        Registry.appendNew_eraseDups]
  · intro path
    rw [← hpath]
    rfl

/-- A missing overlay is asked for, then one with a scope of its own; terms come in three times. -/
theorem shown_behind_second_overlay :
    let text := "scopes: {courier: [forward, delay], cron: [every]}"
    let host := (FileTree.ofFiles [("cron.yaml", text.toUTF8.data.toList)]).host
    let earlier := [.setOverlay (some "none.yaml"), .get, .setOverlay (some "cron.yaml")]
    let later := [.setOverlay none, .load none, .register "courier" ["delay", "stop", "retry"]]
    let overlay : Registry := ⟨[("courier", ["forward", "delay"]), ("cron", ["every"])]⟩
    let history := earlier ++ .register "courier" ["retry"] :: later
    Loads host none history earlier (.register "courier" ["retry"]) later overlay ∧
      ∃ r, (behind host {} history).get host = (.ok r, behind host {} history) ∧
        r.scopes = Registry.packaged.scopes ++ ["cron"] ∧
        r.terms "courier" = ["forward", "delay", "retry", "stop"] := by
  intro text host earlier later overlay history
  have hcontent : (Registry.overlay host (.ofText "cron.yaml")).toOption = some overlay := by
    decide +kernel
  have hoverlay : Registry.overlayAt host (pathBehind none earlier) = .ok overlay := by
    show Registry.overlay host (.ofText "cron.yaml") = .ok overlay
    cases hread : Registry.overlay host (.ofText "cron.yaml") with
    | error e =>
      rw [hread] at hcontent
      cases hcontent
    | ok found =>
      rw [hread] at hcontent
      exact congrArg Except.ok (Option.some.inj hcontent)
  have hmissing : ∃ e, Registry.load host (some (.ofText "none.yaml")) = .error e := by
    have hfile : host.file (.ofText "none.yaml") = .missing := by decide +kernel
    refine ⟨.missingFile (FilePath.ofText "none.yaml").text, ?_⟩
    simp only [Registry.load, Registry.overlay, hfile]
    rfl
  have hnone : Unanswered host none earlier := by
    have hset : Unanswered host none ([] ++ [.setOverlay (some "none.yaml")]) :=
      (unanswered_nil host none).concat nofun
    have hget : Unanswered host none ([] ++ [.setOverlay (some "none.yaml")] ++ [.get]) :=
      hset.concat fun _ => hmissing
    exact hget.concat nofun
  have hloads : Loads host none history earlier (.register "courier" ["retry"]) later overlay :=
    ⟨rfl, rfl, by simp [later], hnone, hoverlay⟩
  obtain ⟨r, hget, hscopes, hterms⟩ := (shown_behind host none history).2.2.1 _ _ _ _ hloads
  exact ⟨hloads, r, hget, hscopes.trans (by decide), (hterms "courier").trans (by decide)⟩

end Session

end ServiceSyntax
