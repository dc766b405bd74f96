import ServiceSyntax.Proofs.Text.Encoding
import ServiceSyntax.Vocabulary.Session

/-!
# How loading a vocabulary fails

Whatever the library that reads YAML makes of a text, loading a keyword file gives a registry or an
error, and the error is one of the configuration unless the file is fatal: it cannot be read, it is
no UTF-8, or it names a scope by a number that has no written form (`stops_load`). A session that
fails to load its registry stays as it is (`Session.get_of_error`).
-/

namespace ServiceSyntax

open Yaml (Key Value)

/-- The result is an error that stops the program. -/
def Stops {α : Type} (result : Except LoadError α) : Prop :=
  ∃ e, result = .error e ∧ e.isConfig = false

theorem not_stops_ok {α : Type} (a : α) : ¬Stops (.ok a : Except LoadError α) := by
  rintro ⟨e, heq, -⟩
  cases heq

theorem stops_error {α : Type} {e : LoadError} :
    Stops (.error e : Except LoadError α) ↔ e.isConfig = false := by
  constructor
  · rintro ⟨e', heq, he⟩
    rwa [Except.error.inj heq]
  · intro he
    exact ⟨e, rfl, he⟩

theorem stops_map {α β : Type} (f : α → β) (result : Except LoadError α) :
    Stops (result.map f) ↔ Stops result := by
  cases result with
  | ok a => exact iff_of_false (not_stops_ok _) (not_stops_ok a)
  | error e => exact stops_error.trans stops_error.symm

namespace Registry

variable {origin : String}

/-- A scope is named by a number that has no written form, and all scopes before it can be read. -/
def Unwritable (scopes : List (Key × Value)) : Prop :=
  ∃ earlier key value later, scopes = earlier ++ (key, value) :: later ∧
    key.isWritable = false ∧
    ∀ entry ∈ earlier, entry.1.isWritable = true ∧ termsOf? entry.2 ≠ none

/-- The document has such a scope. -/
def NamesUnwritable (document : List (Key × Value)) : Prop :=
  ∃ scopes, Key.get? "scopes" document = some (.mapping scopes) ∧ Unwritable scopes

/-- What is found at the path stops the program instead of being refused. -/
inductive Fatal (host : Host) (path : FilePath) : Prop
  /-- The path cannot be looked up or the file cannot be read. -/
  | unreadable (reason : String) : host.file path = .unreadable reason → Fatal host path
  /-- The bytes are those of no text. -/
  | notUtf8 (bytes : List UInt8) : host.file path = .readable bytes →
      (∀ text : String, text.toUTF8.data.toList ≠ bytes) → Fatal host path
  /-- The text is a document that names a scope by a number without a written form. -/
  | longNumber (text : String) (document : List (Key × Value)) :
      host.file path = .readable text.toUTF8.data.toList →
      host.yaml (Text.unifyLineEnds text.toList) = .ok (.mapping document) →
      NamesUnwritable document → Fatal host path

/-! ## Documents -/

theorem unwritable_cons {key : Key} {value : Value} {others : List (Key × Value)} :
    Unwritable ((key, value) :: others) ↔
      key.isWritable = false ∨
        key.isWritable = true ∧ termsOf? value ≠ none ∧ Unwritable others := by
  constructor
  · rintro ⟨earlier, key', value', later, heq, hkey, hearlier⟩
    cases earlier with
    | nil =>
      obtain ⟨hhead, -⟩ := List.cons.inj heq
      cases hhead
      exact Or.inl hkey
    | cons entry earlier =>
      obtain ⟨rfl, rfl⟩ := List.cons.inj heq
      obtain ⟨⟨hwritable, hterms⟩, hrest⟩ := List.forall_mem_cons.1 hearlier
      exact Or.inr ⟨hwritable, hterms, earlier, key', value', later, rfl, hkey, hrest⟩
  · rintro (hkey | ⟨hwritable, hterms, earlier, key', value', later, rfl, hkey, hearlier⟩)
    · exact ⟨[], key, value, others, rfl, hkey, List.forall_mem_nil _⟩
    · exact ⟨(key, value) :: earlier, key', value', later, rfl, hkey,
        List.forall_mem_cons.2 ⟨⟨hwritable, hterms⟩, hearlier⟩⟩

example : Unwritable [(.scalar (.int (Nat.pow 10 4300)), .scalar .null)] :=
  unwritable_cons.2 (Or.inl (by decide +kernel))

theorem stops_scopeEntries (known : List (String × List String)) (scopes : List (Key × Value)) :
    Stops (scopeEntries origin known scopes) ↔ Unwritable scopes := by
  induction scopes generalizing known with
  | nil =>
    refine iff_of_false (not_stops_ok known) ?_
    rintro ⟨earlier, key, value, later, heq, -⟩
    simp at heq
  | cons entry others ih =>
    obtain ⟨key, value⟩ := entry
    rw [scopeEntries, unwritable_cons]
    -- the name of a scope is written before its terms are looked at, in the message at least
    cases hkey : key.isWritable with
    | false => simpa [hkey] using stops_error.2 rfl
    | true =>
      cases hterms : termsOf? value with
      | some terms => simpa [hkey, hterms] using ih _
      | none => simp [stops_error, LoadError.isConfig]

theorem stops_ofDocument (document : List (Key × Value)) :
    Stops (ofDocument document origin) ↔ NamesUnwritable document := by
  unfold ofDocument NamesUnwritable
  cases hscopes : Key.get? "scopes" document with
  | none => simp [not_stops_ok]
  | some value =>
    cases value with
    | mapping scopes => simp [stops_map, stops_scopeEntries]
    | _ => simp [stops_error, LoadError.isConfig]

/-- What is no mapping is refused, or it is nothing and counts as none. -/
theorem not_stops_other (value : Value) :
    ¬Stops (if value.isSomething then .error (.notMapping origin)
      else .ok {} : Except LoadError Registry) := by
  split
  · simp [stops_error, LoadError.isConfig]
  · exact not_stops_ok _

theorem stops_ofText (host : Host) (text : List Char) :
    Stops (ofText host text origin) ↔
      ∃ document, host.yaml text = .ok (.mapping document) ∧ NamesUnwritable document := by
  unfold ofText
  cases host.yaml text with
  | error reason => simp [stops_error, LoadError.isConfig]
  | ok value =>
    cases value with
    | mapping document => simp [stops_ofDocument]
    | _ =>
      refine iff_of_false (not_stops_other _) ?_
      rintro ⟨document, heq, -⟩
      cases heq

/-! ## Files -/

variable {host : Host} {path : FilePath} {bytes : List UInt8}

/-- Only its own text can make a file fatal that is UTF-8. -/
theorem fatal_iff_of_text {chars : List Char} (hfile : host.file path = .readable bytes)
    (hdecode : Text.Utf8.decode? bytes = some chars) :
    Fatal host path ↔ ∃ document,
      host.yaml (Text.unifyLineEnds chars) = .ok (.mapping document) ∧
        NamesUnwritable document := by
  constructor
  · intro h
    cases h with
    | unreadable reason hstate =>
      rw [hfile] at hstate
      cases hstate
    | notUtf8 bytes' hstate hnone =>
      rw [hfile] at hstate
      obtain rfl := FileState.readable.inj hstate
      rw [← Text.Utf8.decode?_eq_none_iff, hdecode] at hnone
      cases hnone
    | longNumber text document hstate hvalue hnames =>
      rw [hfile] at hstate
      obtain rfl := FileState.readable.inj hstate
      rw [Text.Utf8.toList_toUTF8, Text.Utf8.decode?_eq_some_iff.2 rfl] at hdecode
      obtain rfl := Option.some.inj hdecode
      exact ⟨document, hvalue, hnames⟩
  · rintro ⟨document, hvalue, hnames⟩
    refine .longNumber (String.ofList chars) document ?_ ?_ hnames
    · rw [Text.Utf8.toList_toUTF8, String.toList_ofList, ← Text.Utf8.decode?_eq_some_iff.1 hdecode]
      exact hfile
    · rwa [String.toList_ofList]

theorem stops_overlay (host : Host) (path : FilePath) :
    Stops (overlay host path) ↔ Fatal host path := by
  unfold overlay
  cases hfile : host.file path with
  | missing =>
    refine iff_of_false (by simp [stops_error, LoadError.isConfig]) fun h => ?_
    cases h <;> simp_all
  | unreadable reason => exact iff_of_true (stops_error.2 rfl) (.unreadable reason hfile)
  | readable bytes =>
    cases hdecode : Text.Utf8.decode? bytes with
    | none =>
      have hbytes := Text.Utf8.decode?_eq_none_iff.1 hdecode
      simp only [hdecode]
      exact iff_of_true (stops_error.2 rfl) (.notUtf8 bytes hfile hbytes)
    | some chars =>
      simp only [hdecode]
      exact (stops_ofText host _).trans (fatal_iff_of_text hfile hdecode).symm

/-- Loading stops the program exactly where the file is fatal. -/
theorem stops_load (host : Host) (path : FilePath) :
    Stops (load host (some path)) ↔ Fatal host path :=
  (stops_map _ _).trans (stops_overlay host path)

end Registry

/-! ## Sessions -/

namespace Session

variable {s : Session} {host : Host}

/-- A registry that has been loaded is kept. -/
theorem get_of_ok {r : Registry} (hunset : s.registry = none)
    (hload : Registry.load host s.overlayPath = .ok r) :
    s.get host = (.ok r, { s with registry := some r }) := by
  have hload' : s.load host none = .ok r := hload
  rw [get, hunset, hload']

/-- A session that cannot load its registry stays as it is, so it tries again when it is asked
again. -/
theorem get_of_error {e : LoadError} (hunset : s.registry = none)
    (hload : Registry.load host s.overlayPath = .error e) : s.get host = (.error e, s) := by
  have hload' : s.load host none = .error e := hload
  rw [get, hunset, hload']

theorem overlayPath_of_overlay {name : String} (hoverlay : s.overlay = some name)
    (hname : name.isEmpty = false) : s.overlayPath = some (.ofText name) := by
  simp [overlayPath, hoverlay, hname, Option.filter]

end Session

end ServiceSyntax
