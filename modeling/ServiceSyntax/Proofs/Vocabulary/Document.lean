import ServiceSyntax.Files.Tree
import ServiceSyntax.Proofs.Vocabulary.Registrations
import ServiceSyntax.Proofs.Yaml.Equality

/-!
# The terms of a keyword document

A keyword document is refused exactly where its scopes are no mapping or the terms of one of them
are no list of texts, unless a scope has no written name (`refused_ofDocument`). Otherwise it makes
a registry of its scopes and their terms (`exists_ofDocument`). Keys that are written alike are one
scope, of which only the last entry counts (`LastLists`); the terms of the others are lost
(`ofDocument_overwrites`).
-/

namespace ServiceSyntax

open Yaml (Key Value)

/-- The result is an error of the configuration. -/
def Refused {α : Type} (result : Except LoadError α) : Prop :=
  ∃ e, result = .error e ∧ e.isConfig = true

namespace Registry

variable {origin name : String} {terms : List String} {key : Key} {value : Value}
  {entries others : List (Key × Value)} {known parsed : List (String × List String)}

/-! ## Values -/

/-- The terms that a value lists; nothing at all lists none. -/
inductive Lists : Value → List String → Prop
  | nothing : Lists (.scalar .null) []
  | texts (terms : List String) :
      Lists (.sequence (terms.map fun term => .scalar (.text term))) terms

theorem text?_eq_some_iff {term : String} :
    value.text? = some term ↔ value = .scalar (.text term) := by
  constructor
  · intro h
    unfold Value.text? at h
    split at h
    · rw [Option.some.inj h]
    · cases h
  · rintro rfl
    rfl

theorem mapM_text?_eq_some_iff {items : List Value} :
    items.mapM Value.text? = some terms ↔ items = terms.map fun term => .scalar (.text term) := by
  induction items generalizing terms with
  | nil => cases terms <;> simp
  | cons item items ih =>
    rw [List.mapM_cons]
    cases terms with
    | nil => simp [Option.bind_eq_some_iff]
    | cons term terms => simp [Option.bind_eq_some_iff, text?_eq_some_iff, ih]

theorem termsOf?_eq_some_iff : termsOf? value = some terms ↔ Lists value terms := by
  constructor
  · intro h
    unfold termsOf? at h
    split at h
    · obtain rfl := Option.some.inj h
      exact .nothing
    · rw [mapM_text?_eq_some_iff.1 h]
      exact .texts terms
    · cases h
  · rintro (_ | _)
    · rfl
    · exact mapM_text?_eq_some_iff.2 rfl

theorem termsOf?_eq_none_iff : termsOf? value = none ↔ ∀ terms, ¬Lists value terms := by
  simp only [Option.eq_none_iff_forall_ne_some, ne_eq, termsOf?_eq_some_iff]

/-! ## Entries -/

/-- The names of the scopes, as often as they are written. -/
def writtenNames (entries : List (Key × Value)) : List String :=
  entries.map fun entry => entry.1.written

/-- The last entry with a name lists the terms. -/
inductive LastLists (name : String) (terms : List String) : List (Key × Value) → Prop
  | here {key : Key} {value : Value} {later : List (Key × Value)} (hkey : key.written = name)
      (hvalue : Lists value terms) (hlater : name ∉ writtenNames later) :
      LastLists name terms ((key, value) :: later)
  | behind (entry : Key × Value) {later : List (Key × Value)} (h : LastLists name terms later) :
      LastLists name terms (entry :: later)

theorem LastLists.of_nodup (hnames : (writtenNames entries).Nodup) (hentry : (key, value) ∈ entries)
    (hvalue : Lists value terms) : LastLists key.written terms entries := by
  induction entries with
  | nil => cases hentry
  | cons entry later ih =>
    obtain ⟨hfirst, hlater⟩ := List.nodup_cons.1 hnames
    rcases List.mem_cons.1 hentry with rfl | hentry
    · exact .here rfl hvalue hfirst
    · exact .behind entry (ih hlater hentry)

theorem LastLists.exists_entry (h : LastLists name terms entries) :
    ∃ key value, (key, value) ∈ entries ∧ key.written = name ∧ Lists value terms := by
  induction h with
  | here hkey hvalue => exact ⟨_, _, List.mem_cons_self, hkey, hvalue⟩
  | behind _ _ ih =>
    obtain ⟨key, value, hentry, hkey, hvalue⟩ := ih
    exact ⟨key, value, List.mem_cons_of_mem _ hentry, hkey, hvalue⟩

/-- Every name that is written has a last entry. -/
theorem exists_lastLists (hlists : ∀ entry ∈ entries, ∃ terms, Lists entry.2 terms)
    (hname : name ∈ writtenNames entries) : ∃ terms, LastLists name terms entries := by
  induction entries with
  | nil => cases hname
  | cons entry later ih =>
    obtain ⟨⟨terms, hvalue⟩, hlater⟩ := List.forall_mem_cons.1 hlists
    by_cases hagain : name ∈ writtenNames later
    · obtain ⟨more, hmore⟩ := ih hlater hagain
      exact ⟨more, .behind entry hmore⟩
    · rcases List.mem_cons.1 hname with hfirst | hfirst
      · exact ⟨terms, .here hfirst.symm hvalue hagain⟩
      · exact absurd hfirst hagain

theorem writable_of_cons (h : ¬Unwritable ((key, value) :: others)) :
    key.isWritable = true ∧ (termsOf? value ≠ none → ¬Unwritable others) := by
  rw [unwritable_cons, not_or] at h
  have hkey : key.isWritable = true := by simpa using h.1
  exact ⟨hkey, fun hvalue hothers => h.2 ⟨hkey, hvalue, hothers⟩⟩

theorem not_unwritable (h : ∀ entry ∈ entries, entry.1.isWritable = true) :
    ¬Unwritable entries := by
  rintro ⟨earlier, key, value, later, rfl, hkey, -⟩
  have hwritable : key.isWritable = true := h (key, value) (by simp)
  rw [hkey] at hwritable
  cases hwritable

/-! ## Reading the entries -/

theorem setTerms_eq (name : String) (more : List String) (known : List (String × List String)) :
    setTerms name more known = changeIn name (fun _ => more) known := by
  induction known with
  | nil => rfl
  | cons entry known ih => rw [setTerms, changeIn, ih]

theorem scopes_setTerms (name : String) (more : List String)
    (known : List (String × List String)) :
    (Registry.mk (setTerms name more known)).scopes
      = appendNew (Registry.mk known).scopes [name] := by
  rw [setTerms_eq]
  exact names_changeIn name _ known

theorem terms_setTerms (name : String) (more : List String)
    (known : List (String × List String)) (scope : String) :
    (Registry.mk (setTerms name more known)).terms scope
      = if name = scope then more else (Registry.mk known).terms scope := by
  rw [setTerms_eq]
  exact terms_changeIn name _ known scope

/-- What is known behind some entries, each of which sets the terms of its scope. -/
structure Reads (known : List (String × List String)) (entries : List (Key × Value))
    (parsed : List (String × List String)) : Prop where
  scopes_eq : (Registry.mk parsed).scopes
    = appendNew (Registry.mk known).scopes (writtenNames entries)
  terms_eq : ∀ name terms, LastLists name terms entries → (Registry.mk parsed).terms name = terms
  others_eq : ∀ name, name ∉ writtenNames entries →
    (Registry.mk parsed).terms name = (Registry.mk known).terms name

theorem reads_nil (known : List (String × List String)) : Reads known [] known where
  scopes_eq := rfl
  terms_eq _ _ h := by cases h
  others_eq _ _ := rfl

theorem Reads.cons (h : Reads (setTerms key.written terms known) others parsed)
    (hvalue : termsOf? value = some terms) : Reads known ((key, value) :: others) parsed where
  scopes_eq := by
    rw [h.scopes_eq, scopes_setTerms, ← appendNew_cons]
    rfl
  terms_eq name more hlast := by
    cases hlast with
    | behind _ hlast => exact h.terms_eq name more hlast
    | here hkey hmore hlater =>
      -- nothing that is read later touches the terms that have been set
      rw [h.others_eq name hlater, terms_setTerms, if_pos hkey]
      exact Option.some.inj (hvalue.symm.trans (termsOf?_eq_some_iff.2 hmore))
  others_eq name hname := by
    obtain ⟨hfirst, hothers⟩ := not_or.1 (List.mem_cons.not.1 hname)
    rw [h.others_eq name hothers, terms_setTerms, if_neg (Ne.symm hfirst)]

theorem exists_scopeEntries (known : List (String × List String)) (hwritable : ¬Unwritable entries)
    (hlists : ∀ entry ∈ entries, ∃ terms, Lists entry.2 terms) :
    ∃ parsed, (∀ origin, scopeEntries origin known entries = .ok parsed) ∧
      Reads known entries parsed := by
  induction entries generalizing known with
  | nil => exact ⟨known, fun _ => rfl, reads_nil known⟩
  | cons entry others ih =>
    obtain ⟨key, value⟩ := entry
    obtain ⟨⟨terms, hterms⟩, hothers⟩ := List.forall_mem_cons.1 hlists
    have hvalue := termsOf?_eq_some_iff.2 hterms
    obtain ⟨hkey, hnext⟩ := writable_of_cons hwritable
    have hrest : ¬Unwritable others := hnext (by simp [hvalue])
    obtain ⟨parsed, hparsed, hreads⟩ := ih (setTerms key.written terms known) hrest hothers
    refine ⟨parsed, fun origin => ?_, hreads.cons hvalue⟩
    rw [scopeEntries, hkey, hvalue]
    exact hparsed origin

/-- What is refused is the first value that lists no terms. -/
theorem exists_badTerms (origin : String) (known : List (String × List String))
    (hwritable : ¬Unwritable entries)
    (hbad : ∃ entry ∈ entries, ∀ terms, ¬Lists entry.2 terms) :
    ∃ entry ∈ entries, (∀ terms, ¬Lists entry.2 terms) ∧
      scopeEntries origin known entries = .error (.badTerms entry.1.written origin) := by
  induction entries generalizing known with
  | nil =>
    obtain ⟨entry, hentry, -⟩ := hbad
    cases hentry
  | cons entry others ih =>
    obtain ⟨key, value⟩ := entry
    obtain ⟨hkey, hnext⟩ := writable_of_cons hwritable
    rw [scopeEntries, hkey]
    cases hvalue : termsOf? value with
    | none => exact ⟨(key, value), List.mem_cons_self, termsOf?_eq_none_iff.1 hvalue, rfl⟩
    | some terms =>
      have hrest : ¬Unwritable others := hnext (by simp [hvalue])
      -- this value is one of terms, so the bad one comes later
      have hothers : ∃ entry ∈ others, ∀ terms, ¬Lists entry.2 terms := by
        obtain ⟨entry, hentry, hlists⟩ := hbad
        rcases List.mem_cons.1 hentry with rfl | hentry
        · exact absurd (termsOf?_eq_some_iff.1 hvalue) (hlists terms)
        · exact ⟨entry, hentry, hlists⟩
      obtain ⟨entry, hentry, hlists, herror⟩ := ih (setTerms key.written terms known) hrest hothers
      exact ⟨entry, List.mem_cons_of_mem _ hentry, hlists, herror⟩

/-! ## Documents -/

/-- The scopes of the document are no mapping, or the terms of one of them are no list of texts. -/
def Malformed (document : List (Key × Value)) : Prop :=
  ∃ value, Key.get? "scopes" document = some value ∧
    ∀ entries, value = .mapping entries → ∃ entry ∈ entries, ∀ terms, ¬Lists entry.2 terms

/-- The registry has the scopes of some entries, each with the terms of its last one. -/
structure ShowsLast (entries : List (Key × Value)) (r : Registry) : Prop where
  scopes_eq : r.scopes = (writtenNames entries).eraseDups
  terms_eq : ∀ name terms, LastLists name terms entries → r.terms name = terms.eraseDups
  others_eq : ∀ name, name ∉ writtenNames entries → r.terms name = []

theorem Reads.showsLast (h : Reads [] entries parsed) : ShowsLast entries (ofEntries parsed) := by
  have hscopes : (Registry.mk parsed).scopes = (writtenNames entries).eraseDups := by
    rw [h.scopes_eq]
    exact appendNew_of_nodup List.nodup_nil _
  have hnodup : (Registry.mk parsed).scopes.Nodup := by
    rw [h.scopes_eq]
    exact nodup_appendNew List.nodup_nil
  have hterms : ∀ name, (ofEntries parsed).terms name
      = ((Registry.mk parsed).terms name).eraseDups := by
    intro name
    rw [ofEntries, terms_extend, termsFor_entries hnodup]
    exact appendNew_of_nodup List.nodup_nil _
  refine ⟨?_, ?_, ?_⟩
  · rw [ofEntries, scopes_extend]
    show appendNew [] (Registry.mk parsed).scopes = _
    rw [appendNew_of_nodup List.nodup_nil, List.nil_append, eraseDups_of_nodup hnodup, hscopes]
  · intro name terms hlast
    rw [hterms, h.terms_eq name terms hlast]
  · intro name hname
    rw [hterms, h.others_eq name hname]
    rfl

/-- Nothing is shown that is not listed. -/
theorem ShowsLast.exists_entry {r : Registry} {term : String} (h : ShowsLast entries r)
    (hlists : ∀ entry ∈ entries, ∃ terms, Lists entry.2 terms) (hterm : term ∈ r.terms name) :
    ∃ key value terms, (key, value) ∈ entries ∧ key.written = name ∧ Lists value terms ∧
      term ∈ terms := by
  by_cases hname : name ∈ writtenNames entries
  · obtain ⟨terms, hlast⟩ := exists_lastLists hlists hname
    obtain ⟨key, value, hentry, hkey, hvalue⟩ := hlast.exists_entry
    rw [h.terms_eq name terms hlast, List.mem_eraseDups] at hterm
    exact ⟨key, value, terms, hentry, hkey, hvalue, hterm⟩
  · rw [h.others_eq name hname] at hterm
    cases hterm

theorem exists_ofDocument {document : List (Key × Value)}
    (hentries : Key.get? "scopes" document = some (.mapping entries))
    (hwritable : ¬Unwritable entries) (hlists : ∀ entry ∈ entries, ∃ terms, Lists entry.2 terms) :
    ∃ r, (∀ origin, ofDocument document origin = .ok r) ∧ ShowsLast entries r := by
  obtain ⟨parsed, hparsed, hreads⟩ := exists_scopeEntries [] hwritable hlists
  refine ⟨ofEntries parsed, fun origin => ?_, hreads.showsLast⟩
  rw [ofDocument, hentries]
  simp only [hparsed origin]
  rfl

theorem refused_ofDocument {document : List (Key × Value)}
    (hwritable : ¬NamesUnwritable document) :
    Refused (ofDocument document origin) ↔ Malformed document := by
  constructor
  · rintro ⟨e, herror, -⟩
    cases hvalue : Key.get? "scopes" document with
    | none =>
      rw [ofDocument, hvalue] at herror
      cases herror
    | some value =>
      refine ⟨value, hvalue, ?_⟩
      rintro entries rfl
      have hnames : ¬Unwritable entries := fun h => hwritable ⟨entries, hvalue, h⟩
      by_contra hbad
      push Not at hbad
      obtain ⟨r, hr, -⟩ := exists_ofDocument hvalue hnames hbad
      rw [hr origin] at herror
      cases herror
  · rintro ⟨value, hvalue, hbad⟩
    cases value with
    | mapping entries =>
      have hnames : ¬Unwritable entries := fun h => hwritable ⟨entries, hvalue, h⟩
      obtain ⟨entry, -, -, herror⟩ := exists_badTerms origin [] hnames (hbad entries rfl)
      rw [ofDocument, hvalue]
      simp only [herror]
      exact ⟨_, rfl, rfl⟩
    | _ =>
      rw [ofDocument, hvalue]
      exact ⟨_, rfl, rfl⟩

/-! ## Overlays -/

/-- The file at a path holds a keyword document. -/
def Holds (host : Host) (path : FilePath) (document : List (Key × Value)) : Prop :=
  ∃ text : String, host.file path = .readable text.toUTF8.data.toList ∧
    host.yaml (Text.unifyLineEnds text.toList) = .ok (.mapping document)

theorem overlay_of_holds {host : Host} {path : FilePath} {document : List (Key × Value)}
    (h : Holds host path document) : overlay host path = ofDocument document path.text := by
  obtain ⟨text, hcontent, hdocument⟩ := h
  have hdecode : Text.Utf8.decode? text.toUTF8.data.toList = some text.toList := by
    rw [Text.Utf8.decode?_eq_some_iff, Text.Utf8.toList_toUTF8]
  simp only [overlay, hcontent, hdecode, ofText, hdocument]

/-- A document stops the program exactly where a scope has no written name, and any other one is
refused exactly where it is malformed. Else it makes a registry of its scopes, each with the terms
of its last entry in order and everything once, and as an overlay it adds these to the packaged
vocabulary. Where no two keys are written alike no term of the document is lost. -/
theorem ofDocument_keeps_last (document : List (Key × Value)) (origin : String) :
    (Stops (ofDocument document origin) ↔ NamesUnwritable document) ∧
      (¬NamesUnwritable document →
        (Refused (ofDocument document origin) ↔ Malformed document)) ∧
      ∀ entries, Key.get? "scopes" document = some (.mapping entries) →
        ¬NamesUnwritable document → (∀ entry ∈ entries, ∃ terms, Lists entry.2 terms) →
        ∃ r, ofDocument document origin = .ok r ∧ ShowsLast entries r ∧
          (∀ name, ∀ term ∈ r.terms name, ∃ key value terms, (key, value) ∈ entries ∧
            key.written = name ∧ Lists value terms ∧ term ∈ terms) ∧
          (∀ host path, Holds host path document →
            load host (some path) = .ok (packaged.merge r)) ∧
          (∀ name, (packaged.merge r).terms name
            = (packaged.terms name ++ r.terms name).eraseDups) ∧
          ((writtenNames entries).Nodup → ∀ key value terms, (key, value) ∈ entries →
            Lists value terms → ∀ term ∈ terms, term ∈ r.terms key.written ∧
              term ∈ (packaged.merge r).terms key.written) := by
  refine ⟨stops_ofDocument document, refused_ofDocument, ?_⟩
  intro entries hentries hwritable hlists
  have hnames : ¬Unwritable entries := fun h => hwritable ⟨entries, hentries, h⟩
  obtain ⟨r, hr, hshows⟩ := exists_ofDocument hentries hnames hlists
  have hmerge := distinct_packaged.terms_merge (distinct_ofDocument (hr origin))
  refine ⟨r, hr origin, hshows, fun name term => hshows.exists_entry hlists, ?_, hmerge, ?_⟩
  · intro host path hholds
    show (overlay host path).map packaged.merge = _
    rw [overlay_of_holds hholds, hr path.text]
    rfl
  · intro hnodup key value terms hentry hvalue term hterm
    have hlast := LastLists.of_nodup hnodup hentry hvalue
    have hmem : term ∈ r.terms key.written := by
      rwa [hshows.terms_eq _ _ hlast, List.mem_eraseDups]
    refine ⟨hmem, ?_⟩
    rw [hmerge, List.mem_eraseDups]
    exact List.mem_append_right _ hmem

/-- Names that are a number, nothing at all and a text, and a scope without terms. -/
theorem ofDocument_keeps_last_numbered :
    let text := "scopes: {7: [x, y, x], null: , outer: [x]}"
    let path := FilePath.ofText "kw.yaml"
    let host := (FileTree.ofFiles [("kw.yaml", text.toUTF8.data.toList)]).host
    let entries : List (Key × Value) :=
      [(.scalar (.int 7), .sequence (["x", "y", "x"].map fun term => .scalar (.text term))),
       (.scalar .null, .scalar .null),
       (.scalar (.text "outer"), .sequence (["x"].map fun term => .scalar (.text term)))]
    let document : List (Key × Value) := [(.scalar (.text "scopes"), .mapping entries)]
    Holds host path document ∧ Key.get? "scopes" document = some (.mapping entries) ∧
      ¬NamesUnwritable document ∧ (∀ entry ∈ entries, ∃ terms, Lists entry.2 terms) ∧
      (writtenNames entries).Nodup ∧
      ∃ r, ofDocument document "kw.yaml" = .ok r ∧ r.scopes = ["7", "None", "outer"] ∧
        r.terms "7" = ["x", "y"] ∧ load host (some path) = .ok (packaged.merge r) ∧
        (packaged.merge r).terms "outer" = packaged.terms "outer" ++ ["x"] := by
  intro text path host entries document
  have hholds : Holds host path document := ⟨text, by decide +kernel, by decide +kernel⟩
  have hlists : ∀ entry ∈ entries, ∃ terms, Lists entry.2 terms := by
    simp only [entries, List.forall_mem_cons]
    exact ⟨⟨_, .texts _⟩, ⟨_, .nothing⟩, ⟨_, .texts _⟩, List.forall_mem_nil _⟩
  have hwritable : ¬NamesUnwritable document := by
    rintro ⟨others, heq, hunwritable⟩
    obtain rfl : entries = others := Value.mapping.inj (Option.some.inj heq)
    exact not_unwritable (by decide +kernel) hunwritable
  have hnodup : (writtenNames entries).Nodup := by decide
  obtain ⟨r, hr, hshows, -, hload, hmerge, -⟩ :=
    (ofDocument_keeps_last document "kw.yaml").2.2 entries rfl hwritable hlists
  have hseven : r.terms "7" = ["x", "y"] :=
    hshows.terms_eq "7" _ (.here rfl (.texts _) (by decide))
  have houter : r.terms "outer" = ["x"] :=
    hshows.terms_eq "outer" _ (.behind _ (.behind _ (.here rfl (.texts _) (by decide))))
  refine ⟨hholds, rfl, hwritable, hlists, hnodup, r, hr, ?_, hseven, hload host path hholds, ?_⟩
  · rw [hshows.scopes_eq]
    decide
  · rw [hmerge, houter]
    decide

/-- A number and the text that is written like it are one scope; the terms of the number are lost,
in the registry of the document and in the vocabulary that it extends. -/
theorem ofDocument_overwrites :
    let text := "scopes:\n  1: [a]\n  '1': [b]\n"
    let path := FilePath.ofText "kw.yaml"
    let host := (FileTree.ofFiles [("kw.yaml", text.toUTF8.data.toList)]).host
    let number : Key × Value := (.scalar (.int 1), .sequence [.scalar (.text "a")])
    let entries := [number, (.scalar (.text "1"), .sequence [.scalar (.text "b")])]
    let document : List (Key × Value) := [(.scalar (.text "scopes"), .mapping entries)]
    Holds host path document ∧ Lists number.2 ["a"] ∧
      ∃ r loaded, ofDocument document "kw.yaml" = .ok r ∧ load host (some path) = .ok loaded ∧
        "a" ∉ r.terms number.1.written ∧ "a" ∉ loaded.terms number.1.written := by
  intro text path host number entries document
  have hholds : Holds host path document := ⟨text, by decide +kernel, by decide +kernel⟩
  have hdocument : ofDocument document "kw.yaml" = .ok ⟨[("1", ["b"])]⟩ := by decide +kernel
  have hload : load host (some path) = .ok (packaged.merge ⟨[("1", ["b"])]⟩) := by
    show (overlay host path).map packaged.merge = _
    rw [overlay_of_holds hholds]
    exact congrArg (Except.map packaged.merge) hdocument
  exact ⟨hholds, .texts ["a"], _, _, hdocument, hload, by decide, by decide⟩

end Registry

end ServiceSyntax
