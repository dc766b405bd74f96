import ServiceSyntax.Proofs.Vocabulary.Registrations
import ServiceSyntax.Vocabulary.Scope

/-!
# Registries and their registrations

A registry that has been empty at first shows the first occurrences in all that it has been told, in
whichever spelling a scope was given (`registered_in_order`).
-/

namespace ServiceSyntax.Registry

/-- The registry behind some registrations. -/
def registered (calls : List (ScopeName × List String)) : Registry :=
  calls.foldl (fun r call => r.registerFor call.1 call.2) {}

/-- The names under which scopes are registered, as often as they are. -/
def namesIn (calls : List (ScopeName × List String)) : List String :=
  calls.map fun call => call.1.key

/-- The terms that are registered under a name, as often as they are. -/
def termsIn (name : String) (calls : List (ScopeName × List String)) : List String :=
  (calls.filter fun call => call.1.key == name).flatMap Prod.snd

variable {calls : List (ScopeName × List String)} {name : String}

theorem registered_append (earlier later : List (ScopeName × List String)) :
    registered (earlier ++ later)
      = (registered earlier).extend (later.map fun call => (call.1.key, call.2)) := by
  rw [registered, List.foldl_append, extend, List.foldl_map]
  rfl

theorem registered_eq (calls : List (ScopeName × List String)) :
    registered calls = ofEntries (calls.map fun call => (call.1.key, call.2)) :=
  registered_append [] calls

theorem scopes_registered (calls : List (ScopeName × List String)) :
    (registered calls).scopes = (namesIn calls).eraseDups := by
  rw [registered_eq, ofEntries, scopes_extend, List.map_map]
  exact appendNew_of_nodup List.nodup_nil _

theorem termsFor_keys (name : String) (calls : List (ScopeName × List String)) :
    termsFor name (calls.map fun call => (call.1.key, call.2)) = termsIn name calls := by
  rw [termsFor, List.filter_map, List.flatMap_map]
  rfl

theorem terms_registered (calls : List (ScopeName × List String)) (name : String) :
    (registered calls).terms name = (termsIn name calls).eraseDups := by
  rw [registered_eq, ofEntries, terms_extend, termsFor_keys]
  exact appendNew_of_nodup List.nodup_nil _

theorem termsIn_of_not_mem (h : name ∉ namesIn calls) : termsIn name calls = [] := by
  have hnone : (calls.filter fun call => call.1.key == name) = [] := by
    rw [List.filter_eq_nil_iff]
    intro call hcall hkey
    exact h (eq_of_beq hkey ▸ List.mem_map_of_mem hcall)
  rw [termsIn, hnone]
  rfl

/-- Scopes are listed in the order of their first registration and the terms of each in the order of
their first occurrence over all registrations, everything once; a scope that was never registered
has no terms. Later registrations neither remove nor move anything. -/
theorem registered_in_order (calls : List (ScopeName × List String)) :
    (registered calls).scopes = (namesIn calls).eraseDups ∧
      (registered calls).scopes.Nodup ∧
      (∀ scope : ScopeName,
        (registered calls).termsFrom scope = (termsIn scope.key calls).eraseDups ∧
        ((registered calls).termsFrom scope).Nodup ∧
        (scope.key ∉ namesIn calls → (registered calls).termsFrom scope = [])) ∧
      ∀ later, (registered calls).scopes <+: (registered (calls ++ later)).scopes ∧
        ∀ scope : ScopeName,
          (registered calls).termsFrom scope <+: (registered (calls ++ later)).termsFrom scope := by
  have hdistinct : (registered calls).Distinct := by
    rw [registered_eq]
    exact distinct_ofEntries _
  refine ⟨scopes_registered calls, hdistinct.scopes, fun scope => ?_, fun later => ?_⟩
  · refine ⟨terms_registered calls scope.key, hdistinct.terms scope.key, fun hscope => ?_⟩
    rw [termsFrom, terms_registered, termsIn_of_not_mem hscope]
    rfl
  · rw [registered_append]
    obtain ⟨hscopes, hterms⟩ := prefix_extend (registered calls)
      (later.map fun call => (call.1.key, call.2))
    exact ⟨hscopes, fun scope => hterms scope.key⟩

/-- A scope in both spellings with another one in between. -/
theorem registered_in_order_both_spellings :
    let calls : List (ScopeName × List String) :=
      [(.text "outer", ["main", "init"]), (.scope .courier, []),
       (.scope .outer, ["init", "define", "define"])]
    (registered calls).scopes = ["outer", "courier"] ∧
      (registered calls).termsFrom (.scope .outer) = ["main", "init", "define"] ∧
      ScopeName.key (.scope .type) ∉ namesIn calls ∧
      (registered calls).termsFrom (.scope .type) = [] := by
  intro calls
  obtain ⟨hscopes, -, hterms, -⟩ := registered_in_order calls
  have hnone : ScopeName.key (.scope .type) ∉ namesIn calls := by decide
  exact ⟨hscopes.trans (by decide), (hterms (.scope .outer)).1.trans (by decide), hnone,
    (hterms (.scope .type)).2.2 hnone⟩

end ServiceSyntax.Registry
