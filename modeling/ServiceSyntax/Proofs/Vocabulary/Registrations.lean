import Mathlib.Data.List.Nodup
import ServiceSyntax.Proofs.Vocabulary.Load

/-!
# What has been registered

A registry shows what has been registered in it, every scope and every term once, in the order in
which they came first (`scopes_extend`, `terms_extend`): each registration changes the terms of one
scope, and all others stay (`changeIn`). No registry that is made by registering lists anything
twice (`Distinct`), and merging such registries registers what the second one shows behind what the
first one shows (`Distinct.terms_merge`).
-/

namespace ServiceSyntax.Registry

variable {r other : Registry} {scope : String} {known more : List String}

/-! ## First occurrences -/

theorem appendNew_cons (known : List String) (term : String) (more : List String) :
    appendNew known (term :: more) = appendNew (appendNew known [term]) more := rfl

theorem appendNew_append (known more others : List String) :
    appendNew known (more ++ others) = appendNew (appendNew known more) others :=
  List.foldl_append

theorem appendNew_singleton (known : List String) (term : String) :
    appendNew known [term] = if term ∈ known then known else known ++ [term] := by
  show (if known.contains term then known else known ++ [term]) = _
  rw [List.contains_eq_mem]
  exact if_congr decide_eq_true_iff rfl rfl

theorem mem_appendNew {term : String} :
    term ∈ appendNew known more ↔ term ∈ known ∨ term ∈ more := by
  induction more generalizing known with
  | nil => simp [appendNew]
  | cons first more ih =>
    rw [appendNew_cons, ih, appendNew_singleton, List.mem_cons]
    split
    · rename_i hfirst
      constructor
      · exact Or.imp_right Or.inr
      · rintro (hknown | rfl | hmore)
        · exact Or.inl hknown
        · exact Or.inl hfirst
        · exact Or.inr hmore
    · rw [List.mem_append, List.mem_singleton, or_assoc]

/-- What is known stays where it is. -/
theorem prefix_appendNew (known more : List String) : known <+: appendNew known more := by
  induction more generalizing known with
  | nil => exact List.prefix_rfl
  | cons term more ih =>
    rw [appendNew_cons, appendNew_singleton]
    split
    · exact ih known
    · exact (List.prefix_append known [term]).trans (ih (known ++ [term]))

theorem appendNew_of_subset (h : ∀ term ∈ more, term ∈ known) : appendNew known more = known := by
  induction more with
  | nil => rfl
  | cons term more ih =>
    obtain ⟨hterm, hmore⟩ := List.forall_mem_cons.1 h
    rw [appendNew_cons, appendNew_singleton, if_pos hterm, ih hmore]

theorem appendNew_assoc (known more others : List String) :
    appendNew known (appendNew more others) = appendNew (appendNew known more) others := by
  induction others generalizing more with
  | nil => rfl
  | cons term others ih =>
    have hterm : appendNew known (appendNew more [term])
        = appendNew (appendNew known more) [term] := by
      by_cases hmore : term ∈ more
      · have hknown : term ∈ appendNew known more := mem_appendNew.2 (Or.inr hmore)
        rw [appendNew_singleton, if_pos hmore, appendNew_singleton, if_pos hknown]
      · rw [appendNew_singleton, if_neg hmore, appendNew_append]
    rw [appendNew_cons more, ih, hterm, ← appendNew_cons]

theorem nodup_appendNew (h : known.Nodup) : (appendNew known more).Nodup := by
  induction more generalizing known with
  | nil => exact h
  | cons term more ih =>
    rw [appendNew_cons, appendNew_singleton]
    apply ih
    split
    · exact h
    · rename_i hterm
      rw [List.nodup_append]
      refine ⟨h, List.nodup_singleton term, fun a ha b hb => ?_⟩
      obtain rfl := List.mem_singleton.1 hb
      intro heq
      subst heq
      exact hterm ha

theorem eraseDups_concat (known : List String) (term : String) :
    (known ++ [term]).eraseDups
      = if term ∈ known then known.eraseDups else known.eraseDups ++ [term] := by
  rw [List.eraseDups_append]
  by_cases hterm : term ∈ known <;> simp [List.removeAll, hterm, List.eraseDups_cons]

theorem eraseDups_of_nodup (h : known.Nodup) : known.eraseDups = known := by
  induction known with
  | nil => rfl
  | cons term known ih =>
    obtain ⟨hterm, hknown⟩ := List.nodup_cons.1 h
    have hfilter : known.filter (fun other => !other == term) = known := by
      rw [List.filter_eq_self]
      intro other hother
      have hne : other ≠ term := fun heq => hterm (heq ▸ hother)
      simpa using hne
    rw [List.eraseDups_cons, hfilter, ih hknown]

/-- Terms that are passed over where they are known leave the first occurrences of all. -/
theorem appendNew_eraseDups (known more : List String) :
    appendNew known.eraseDups more = (known ++ more).eraseDups := by
  induction more generalizing known with
  | nil => rw [List.append_nil]; rfl
  | cons term more ih =>
    have hterm : appendNew known.eraseDups [term] = (known ++ [term]).eraseDups := by
      simp only [appendNew_singleton, List.mem_eraseDups, eraseDups_concat]
    rw [appendNew_cons, hterm, ih, List.append_assoc]
    rfl

theorem appendNew_of_nodup (h : known.Nodup) (more : List String) :
    appendNew known more = (known ++ more).eraseDups := by
  rw [← appendNew_eraseDups, eraseDups_of_nodup h]

/-! ## Registering -/

/-- The terms that some registrations name for a scope, in order. -/
def termsFor (scope : String) (entries : List (String × List String)) : List String :=
  (entries.filter fun entry => entry.1 == scope).flatMap Prod.snd

theorem termsFor_cons (scope : String) (entry : String × List String)
    (entries : List (String × List String)) :
    termsFor scope (entry :: entries)
      = (if entry.1 = scope then entry.2 else []) ++ termsFor scope entries := by
  unfold termsFor
  by_cases hscope : entry.1 = scope <;> simp [hscope]

theorem terms_cons (entry : String × List String) (entries : List (String × List String))
    (scope : String) :
    terms ⟨entry :: entries⟩ scope = if entry.1 = scope then entry.2 else terms ⟨entries⟩ scope := by
  obtain ⟨name, known⟩ := entry
  by_cases hscope : name = scope
  · simp [terms, hscope]
  · have hbeq : (scope == name) = false := beq_false_of_ne (Ne.symm hscope)
    simp [terms, List.lookup_cons, hbeq, hscope]

/-- The entries with the terms of one scope changed, which is put last if it is new. -/
def changeIn (scope : String) (change : List String → List String) :
    List (String × List String) → List (String × List String)
  | [] => [(scope, change [])]
  | (name, known) :: others =>
    if name = scope then (name, change known) :: others
    else (name, known) :: changeIn scope change others

theorem terms_changeIn (name : String) (change : List String → List String)
    (entries : List (String × List String)) (scope : String) :
    terms ⟨changeIn name change entries⟩ scope
      = if name = scope then change (terms ⟨entries⟩ scope) else terms ⟨entries⟩ scope := by
  induction entries with
  | nil => rw [changeIn, terms_cons]; rfl
  | cons entry entries ih =>
    obtain ⟨first, known⟩ := entry
    rw [changeIn]
    by_cases hfirst : first = name
    · subst hfirst
      rw [if_pos rfl, terms_cons, terms_cons]
      by_cases hscope : first = scope <;> simp [hscope]
    · rw [if_neg hfirst, terms_cons, ih, terms_cons]
      by_cases hscope : first = scope
      · subst hscope
        simp [Ne.symm hfirst]
      · simp [hscope]

theorem names_changeIn (name : String) (change : List String → List String)
    (entries : List (String × List String)) :
    (changeIn name change entries).map Prod.fst = appendNew (entries.map Prod.fst) [name] := by
  rw [appendNew_singleton]
  induction entries with
  | nil => rfl
  | cons entry entries ih =>
    obtain ⟨first, known⟩ := entry
    rw [changeIn]
    by_cases hfirst : first = name
    · simp [hfirst]
    · rw [if_neg hfirst, List.map_cons, List.map_cons, ih]
      by_cases hname : name ∈ entries.map Prod.fst
      · rw [if_pos hname, if_pos (List.mem_cons_of_mem _ hname)]
      · have hnot : name ∉ first :: entries.map Prod.fst := by
          rw [List.mem_cons, not_or]
          exact ⟨Ne.symm hfirst, hname⟩
        rw [if_neg hname, if_neg hnot]
        rfl

theorem registerIn_eq (name : String) (more : List String)
    (entries : List (String × List String)) :
    registerIn name more entries = changeIn name (fun known => appendNew known more) entries := by
  induction entries with
  | nil => rfl
  | cons entry entries ih => rw [registerIn, changeIn, ih]

theorem terms_register (r : Registry) (name : String) (more : List String) (scope : String) :
    (r.register name more).terms scope
      = if name = scope then appendNew (r.terms scope) more else r.terms scope := by
  rw [register, registerIn_eq]
  exact terms_changeIn name _ r.entries scope

theorem scopes_register (r : Registry) (name : String) (more : List String) :
    (r.register name more).scopes = appendNew r.scopes [name] := by
  rw [register, registerIn_eq]
  exact names_changeIn name _ r.entries

theorem extend_append (r : Registry) (earlier later : List (String × List String)) :
    r.extend (earlier ++ later) = (r.extend earlier).extend later := List.foldl_append

/-- A scope shows its terms and those registered for it that are new. -/
theorem terms_extend (r : Registry) (entries : List (String × List String)) (scope : String) :
    (r.extend entries).terms scope = appendNew (r.terms scope) (termsFor scope entries) := by
  induction entries generalizing r with
  | nil => rfl
  | cons entry entries ih =>
    show ((r.register entry.1 entry.2).extend entries).terms scope = _
    rw [ih, terms_register, termsFor_cons]
    split
    · rw [appendNew_append]
    · rfl

/-- Scopes that are new come last. -/
theorem scopes_extend (r : Registry) (entries : List (String × List String)) :
    (r.extend entries).scopes = appendNew r.scopes (entries.map Prod.fst) := by
  induction entries generalizing r with
  | nil => rfl
  | cons entry entries ih =>
    show ((r.register entry.1 entry.2).extend entries).scopes = _
    rw [ih, scopes_register, List.map_cons, ← appendNew_cons]

/-- What has been listed is neither removed nor moved. -/
theorem prefix_extend (r : Registry) (entries : List (String × List String)) :
    r.scopes <+: (r.extend entries).scopes ∧
      ∀ scope, r.terms scope <+: (r.extend entries).terms scope := by
  constructor
  · rw [scopes_extend]
    exact prefix_appendNew r.scopes _
  · intro scope
    rw [terms_extend]
    exact prefix_appendNew (r.terms scope) _

/-! ## Nothing twice -/

/-- No scope is listed twice, and no term in a scope. -/
structure Distinct (r : Registry) : Prop where
  scopes : r.scopes.Nodup
  terms : ∀ scope, (r.terms scope).Nodup

theorem distinct_empty : Distinct {} := ⟨List.nodup_nil, fun _ => List.nodup_nil⟩

theorem Distinct.extend (h : r.Distinct) (entries : List (String × List String)) :
    (r.extend entries).Distinct := by
  refine ⟨?_, fun scope => ?_⟩
  · rw [scopes_extend]
    exact nodup_appendNew h.scopes
  · rw [terms_extend]
    exact nodup_appendNew (h.terms scope)

theorem distinct_ofEntries (entries : List (String × List String)) : (ofEntries entries).Distinct :=
  distinct_empty.extend entries

theorem distinct_packaged : packaged.Distinct := by
  refine ⟨by decide, fun scope => ?_⟩
  have hentries : ∀ entry ∈ packaged.entries, entry.2.Nodup := by decide
  rw [Registry.terms]
  cases hlookup : packaged.entries.lookup scope with
  | none => exact List.nodup_nil
  | some known =>
    obtain ⟨before, behind, hsplit, -⟩ := List.lookup_eq_some_iff.1 hlookup
    exact hentries (scope, known) (by simp [hsplit])

/-- Where no scope is listed twice all terms of a scope stand in one place. -/
theorem termsFor_entries (h : r.scopes.Nodup) (scope : String) :
    termsFor scope r.entries = r.terms scope := by
  obtain ⟨entries⟩ := r
  induction entries with
  | nil => rfl
  | cons entry entries ih =>
    obtain ⟨hentry, hentries⟩ := List.nodup_cons.1 h
    rw [termsFor_cons, ih hentries, terms_cons]
    split
    · rename_i hscope
      have hnone : entries.lookup scope = none := by
        rw [List.lookup_eq_none_iff]
        intro found hfound
        rw [bne_iff_ne]
        intro heq
        exact hentry (hscope ▸ heq ▸ List.mem_map_of_mem hfound)
      simp [terms, hnone]
    · rfl

theorem merge_scopes (r other : Registry) :
    (r.merge other).scopes = appendNew r.scopes other.scopes := scopes_extend r other.entries

theorem merge_terms (r : Registry) (h : other.scopes.Nodup) (scope : String) :
    (r.merge other).terms scope = appendNew (r.terms scope) (other.terms scope) := by
  rw [merge, terms_extend, termsFor_entries h]

theorem Distinct.terms_merge (h : r.Distinct) (hother : other.Distinct) (scope : String) :
    (r.merge other).terms scope = (r.terms scope ++ other.terms scope).eraseDups := by
  rw [merge_terms r hother.scopes, appendNew_of_nodup (h.terms scope)]

theorem Distinct.scopes_merge (h : r.Distinct) (other : Registry) :
    (r.merge other).scopes = (r.scopes ++ other.scopes).eraseDups := by
  rw [merge_scopes, appendNew_of_nodup h.scopes]

/-! ## Loaded registries -/

theorem distinct_ofDocument {document : List (Yaml.Key × Yaml.Value)} {origin : String}
    (h : ofDocument document origin = .ok r) : r.Distinct := by
  unfold ofDocument at h
  split at h
  · obtain rfl := Except.ok.inj h
    exact distinct_empty
  · rename_i scopes _
    cases hscopes : scopeEntries origin [] scopes with
    | error e =>
      rw [hscopes] at h
      cases h
    | ok entries =>
      rw [hscopes] at h
      obtain rfl := Except.ok.inj h
      exact distinct_ofEntries entries
  · cases h

theorem distinct_ofText {host : Host} {text : List Char} {origin : String}
    (h : ofText host text origin = .ok r) : r.Distinct := by
  unfold ofText at h
  split at h
  · cases h
  · exact distinct_ofDocument h
  · split at h
    · cases h
    · obtain rfl := Except.ok.inj h
      exact distinct_empty

theorem distinct_overlay {host : Host} {path : FilePath} (h : overlay host path = .ok r) :
    r.Distinct := by
  unfold overlay at h
  split at h
  · cases h
  · cases h
  · split at h
    · cases h
    · exact distinct_ofText h

end ServiceSyntax.Registry
