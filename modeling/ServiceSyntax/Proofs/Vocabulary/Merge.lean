import ServiceSyntax.Files.Tree
import ServiceSyntax.Proofs.Vocabulary.Registrations
import ServiceSyntax.Vocabulary.Scope

/-!
# Merging vocabularies

A registry in which nothing is listed twice is known by what it shows (`ext_of_shown`), and what a
merged registry shows is settled list by list: the terms that are new come behind those that are
known. The laws of merging are therefore those of `appendNew`. They hold of every registry that can
come about (`Made.distinct`).
-/

namespace ServiceSyntax.Registry

open Yaml (Key Value)

variable {r a b c : Registry}

/-! ## What a registry shows -/

theorem entries_eq (h : r.scopes.Nodup) :
    r.entries = r.scopes.map fun scope => (scope, r.terms scope) := by
  obtain ⟨entries⟩ := r
  induction entries with
  | nil => rfl
  | cons entry entries ih =>
    obtain ⟨hentry, hentries⟩ := List.nodup_cons.1 h
    have hfirst : terms ⟨entry :: entries⟩ entry.1 = entry.2 := by
      rw [terms_cons, if_pos rfl]
    have hothers : ∀ scope ∈ entries.map Prod.fst,
        (scope, terms ⟨entries⟩ scope) = (scope, terms ⟨entry :: entries⟩ scope) := by
      intro scope hscope
      have hne : entry.1 ≠ scope := fun heq => hentry (heq ▸ hscope)
      rw [terms_cons, if_neg hne]
    -- the first scope shows its own terms, the others what they show without it
    show entry :: entries
      = (entry.1, terms ⟨entry :: entries⟩ entry.1) :: (entries.map Prod.fst).map _
    rw [hfirst, ← List.map_congr_left hothers]
    exact congrArg (entry :: ·) (ih hentries)

/-- Registries that show the same in the same order are the same. -/
theorem ext_of_shown (h : a.scopes.Nodup) (hscopes : a.scopes = b.scopes)
    (hterms : ∀ scope, a.terms scope = b.terms scope) : a = b := by
  have hentries : a.entries = b.entries := by
    rw [entries_eq h, entries_eq (hscopes ▸ h), hscopes]
    simp only [hterms]
  exact congrArg Registry.mk hentries

/-! ## The laws of merging -/

theorem Distinct.merge (h : a.Distinct) (b : Registry) : (a.merge b).Distinct := h.extend b.entries

theorem merge_assoc (ha : a.Distinct) (hb : b.Distinct) (hc : c.Distinct) :
    (a.merge b).merge c = a.merge (b.merge c) := by
  apply ext_of_shown ((ha.merge b).merge c).scopes
  · simp only [merge_scopes, appendNew_assoc]
  · intro scope
    rw [merge_terms _ hc.scopes, merge_terms _ hb.scopes, merge_terms _ (hb.merge c).scopes,
      merge_terms _ hc.scopes, appendNew_assoc]

/-- A registry is what its own entries make. -/
theorem empty_merge (ha : a.Distinct) : merge {} a = a := by
  apply ext_of_shown (distinct_empty.merge a).scopes
  · rw [distinct_empty.scopes_merge]
    exact eraseDups_of_nodup ha.scopes
  · intro scope
    rw [distinct_empty.terms_merge ha]
    exact eraseDups_of_nodup (ha.terms scope)

/-- A vocabulary that has all of another one is not changed by it. -/
theorem merge_eq_left (ha : a.Distinct) (hb : b.Distinct)
    (hscopes : ∀ scope ∈ b.scopes, scope ∈ a.scopes)
    (hterms : ∀ scope, ∀ term ∈ b.terms scope, term ∈ a.terms scope) : a.merge b = a := by
  apply ext_of_shown (ha.merge b).scopes
  · rw [merge_scopes, appendNew_of_subset hscopes]
  · intro scope
    rw [merge_terms _ hb.scopes, appendNew_of_subset (hterms scope)]

theorem merge_merge_self (ha : a.Distinct) (hb : b.Distinct) :
    (a.merge b).merge b = a.merge b := by
  apply merge_eq_left (ha.merge b) hb
  · intro scope hscope
    rw [merge_scopes]
    exact mem_appendNew.2 (Or.inr hscope)
  · intro scope term hterm
    rw [merge_terms _ hb.scopes]
    exact mem_appendNew.2 (Or.inr hterm)

/-- What is loaded is the packaged vocabulary with another one added to it. -/
theorem exists_merge_of_load {host : Host} {path : Option FilePath}
    (h : load host path = .ok r) : ∃ overlay, r = packaged.merge overlay := by
  cases path with
  | none => exact ⟨{}, (Except.ok.inj h).symm⟩
  | some path =>
    have hmap : (overlay host path).map packaged.merge = .ok r := h
    cases hoverlay : overlay host path with
    | error e =>
      rw [hoverlay] at hmap
      cases hmap
    | ok found =>
      rw [hoverlay] at hmap
      exact ⟨found, (Except.ok.inj hmap).symm⟩

/-! ## Registries that come about -/

/-- The registries that can be made: from entries, from a document, by adding terms to a scope or by
merging two of them. -/
inductive Made : Registry → Prop
  | entries (entries : List (String × List String)) : Made (ofEntries entries)
  | document {document : List (Key × Value)} {origin : String} {r : Registry}
      (h : ofDocument document origin = .ok r) : Made r
  | register {r : Registry} (h : Made r) (scope : ScopeName) (terms : List String) :
      Made (r.registerFor scope terms)
  | merge {a b : Registry} (ha : Made a) (hb : Made b) : Made (a.merge b)

theorem Made.distinct (h : Made r) : r.Distinct := by
  induction h with
  | entries entries => exact distinct_ofEntries entries
  | document h => exact distinct_ofDocument h
  | register _ scope terms ih => exact ih.extend [(scope.key, terms)]
  | merge _ _ ih _ => exact ih.merge _

/-- A merged registry shows the scopes and the terms of both in order, everything once. Merging is
associative, the empty registry changes nothing on either side, and neither does what is there
already; what the first registry lists stays in front, so an overlay only adds to the packaged
vocabulary. Apart from the order it does not matter which registry is the first. -/
theorem merge_ordered_union (ha : Made a) (hb : Made b) (hc : Made c) :
    ((a.merge b).scopes = (a.scopes ++ b.scopes).eraseDups ∧
        ∀ scope, (a.merge b).terms scope = (a.terms scope ++ b.terms scope).eraseDups) ∧
      (a.merge b).merge c = a.merge (b.merge c) ∧
      (a.merge {} = a ∧ merge {} a = a) ∧
      (a.merge a = a ∧ (a.merge b).merge b = a.merge b) ∧
      (a.scopes <+: (a.merge b).scopes ∧ ∀ scope, a.terms scope <+: (a.merge b).terms scope) ∧
      (∀ (s : Session) host path r, s.load host path = .ok r →
        packaged.scopes <+: r.scopes ∧ ∀ scope, packaged.terms scope <+: r.terms scope) ∧
      ∀ scope, (scope ∈ (a.merge b).scopes ↔ scope ∈ (b.merge a).scopes) ∧
        ∀ term, term ∈ (a.merge b).terms scope ↔ term ∈ (b.merge a).terms scope := by
  have ha := ha.distinct
  have hb := hb.distinct
  have hself : a.merge a = a := merge_eq_left ha ha (fun _ h => h) (fun _ _ h => h)
  refine ⟨⟨ha.scopes_merge b, ha.terms_merge hb⟩, merge_assoc ha hb hc.distinct,
    ⟨rfl, empty_merge ha⟩, ⟨hself, merge_merge_self ha hb⟩, prefix_extend a b.entries, ?_, ?_⟩
  · intro s host path r hload
    obtain ⟨overlay, rfl⟩ := exists_merge_of_load hload
    exact prefix_extend packaged overlay.entries
  · intro scope
    rw [merge_scopes, merge_scopes, merge_terms _ hb.scopes, merge_terms _ ha.scopes]
    simp only [mem_appendNew]
    exact ⟨or_comm, fun _ => or_comm⟩

/-- Three registries with a scope in common, made in three ways; one scope has no terms. An overlay
adds to a packaged scope and brings one of its own. -/
theorem merge_ordered_union_three :
    let a := ofEntries [("outer", ["main", "init", "main"]), ("bare", [])]
    let b := ((ofEntries []).registerFor (.scope .courier) ["forward"]).registerFor
      (.text "outer") ["define", "init"]
    let scopes : List (Key × Value) :=
      [(.scalar (.text "courier"), .sequence [.scalar (.text "retry"), .scalar (.text "forward")]),
       (.scalar .null, .scalar .null)]
    let c : Registry := ⟨[("courier", ["retry", "forward"]), ("None", [])]⟩
    let all : Registry :=
      ⟨[("outer", ["main", "init", "define"]), ("bare", []), ("courier", ["forward", "retry"]),
        ("None", [])]⟩
    let text := "scopes: {cron: [every], type: [raw, u8]}"
    let path := FilePath.ofText "kw.yaml"
    let host := (FileTree.ofFiles [("kw.yaml", text.toUTF8.data.toList)]).host
    let loaded := packaged.merge ⟨[("cron", ["every"]), ("type", ["raw", "u8"])]⟩
    Made a ∧ Made b ∧ ofDocument [(.scalar (.text "scopes"), .mapping scopes)] "kw.yaml" = .ok c ∧
      a.merge (b.merge c) = all ∧ (a.merge b).merge c = all ∧ a.scopes <+: (a.merge b).scopes ∧
      Session.load {} host (some path) = .ok loaded ∧
      packaged.terms "type" <+: loaded.terms "type" ∧
      ∀ term, term ∈ (a.merge b).terms "outer" ↔ term ∈ (b.merge a).terms "outer" := by
  intro a b scopes c all text path host loaded
  have ha : Made a := .entries _
  have hb : Made b := ((Made.entries []).register (.scope .courier) _).register (.text "outer") _
  have hdocument : ofDocument [(.scalar (.text "scopes"), .mapping scopes)] "kw.yaml" = .ok c := by
    rfl
  have hc : Made c := .document hdocument
  have hload : Session.load {} host (some path) = .ok loaded := by decide +kernel
  obtain ⟨-, hassoc, -, -, ⟨hscopes, -⟩, hoverlay, hterms⟩ := merge_ordered_union ha hb hc
  have hall : a.merge (b.merge c) = all := by decide
  exact ⟨ha, hb, hdocument, hall, hassoc.trans hall, hscopes, hload,
    (hoverlay _ _ _ _ hload).2 "type", (hterms "outer").2⟩

end ServiceSyntax.Registry
