import Mathlib.Data.Stream.Init
import ServiceSyntax.Proofs.Parse.Run

/-!
# Injected tokens

To whoever asks a parser for tokens it is one endless list of entries: those that are queued and,
behind them, whatever its scanner will give (`Parser.supply`). Injecting puts entries in front of
this list, and reading takes the first one that is no line break off it (`Serves`). The queue and
the scanner do just that, whatever is asked for and in whatever order (`serves_iff`).
-/

namespace ServiceSyntax

/-- What a reading can give: an entry, or an error in its place. -/
abbrev Offer := Except ScanError Entry

/-! ## What a scanner gives -/

namespace Scanner

/-- What the next call gives. -/
def answer (s : Scanner) : Offer := s.next.1.map (Cursor.scanned s.next.2)

/-- The scanner behind that many calls. -/
def past (s : Scanner) : Nat → Scanner
  | 0 => s
  | n + 1 => s.next.2.past n

/-- All that the scanner gives, call by call. -/
def feed (s : Scanner) : Stream' Offer := Stream'.corec answer (fun s => s.next.2) s

theorem feed_eq (s : Scanner) : s.feed = Stream'.cons s.answer s.next.2.feed :=
  Stream'.corec_eq _ _ s

/-- Behind some calls the scanner gives the others. -/
theorem feed_past (s : Scanner) (n : Nat) : (s.past n).feed = s.feed.drop n := by
  induction n generalizing s with
  | zero => rfl
  | succ n ih =>
    rw [past, ih, feed_eq s]
    rfl

theorem past_add (s : Scanner) (m n : Nat) : s.past (m + n) = (s.past m).past n := by
  induction m generalizing s with
  | zero => rw [Nat.zero_add, past]
  | succ m ih => rw [Nat.succ_add, past, past, ih]

end Scanner

/-! ## The list of what comes -/

/-- The token of an entry is a line break. -/
def Offer.IsBreak (a : Offer) : Prop := ∃ entry, a = .ok entry ∧ entry.token.kind = .newline

/-- The first item that is no line break, and what comes behind it. -/
def Comes (coming : Stream' Offer) (result : Offer) (rest : Stream' Offer) : Prop :=
  ∃ n, (∀ k < n, (coming.get k).IsBreak) ∧ ¬ (coming.get n).IsBreak ∧ result = coming.get n ∧
    rest = coming.drop (n + 1)

variable {coming rest rest' : Stream' Offer} {a result result' : Offer}

theorem comes_cons (ha : ¬ a.IsBreak) (rest : Stream' Offer) :
    Comes (Stream'.cons a rest) a rest :=
  ⟨0, fun k hk => absurd hk (Nat.not_lt_zero k), ha, rfl, rfl⟩

theorem Comes.behind (h : Comes coming result rest) (ha : a.IsBreak) :
    Comes (Stream'.cons a coming) result rest := by
  obtain ⟨n, hbreaks, hn, hresult, hrest⟩ := h
  refine ⟨n + 1, fun k hk => ?_, hn, hresult, hrest⟩
  cases k with
  | zero => exact ha
  | succ k => exact hbreaks k (Nat.lt_of_succ_lt_succ hk)

/-- There is no more than one first item. -/
theorem Comes.unique (h : Comes coming result rest) (h' : Comes coming result' rest') :
    result = result' ∧ rest = rest' := by
  obtain ⟨n, hbreaks, hn, rfl, rfl⟩ := h
  obtain ⟨n', hbreaks', hn', rfl, rfl⟩ := h'
  rcases Nat.lt_trichotomy n n' with hlt | rfl | hlt
  · exact absurd (hbreaks' n hlt) hn
  · exact ⟨rfl, rfl⟩
  · exact absurd (hbreaks n' hlt) hn'

namespace Cursor

variable {s t : Scanner} {queue queue' : List Entry}

theorem isBreak_ok {entry : Entry} : Offer.IsBreak (.ok entry) ↔ entry.token.kind = .newline := by
  constructor
  · rintro ⟨entry', heq, hkind⟩
    exact Except.ok.inj heq ▸ hkind
  · exact fun hkind => ⟨entry, rfl, hkind⟩

/-- A cursor scans what comes first. -/
theorem Scans.comes (h : Scans s result t) :
    Comes s.feed result t.feed ∧ ∃ k, t = s.past k := by
  induction h with
  | @failed s t e hnext =>
    have hbreak : ¬ Offer.IsBreak (.error e) := by
      rintro ⟨entry, heq, -⟩
      cases heq
    refine ⟨?_, 1, by rw [Scanner.past, Scanner.past, hnext]⟩
    rw [Scanner.feed_eq, Scanner.answer, hnext]
    exact comes_cons hbreak t.feed
  | @token s t token hnext hkind =>
    refine ⟨?_, 1, by rw [Scanner.past, Scanner.past, hnext]⟩
    rw [Scanner.feed_eq, Scanner.answer, hnext]
    exact comes_cons (mt isBreak_ok.1 hkind) t.feed
  | @lineBreak s t u token result hnext hkind _ ih =>
    obtain ⟨hcomes, k, rfl⟩ := ih
    refine ⟨?_, k + 1, by rw [Scanner.past, hnext]⟩
    rw [Scanner.feed_eq, Scanner.answer, hnext]
    exact hcomes.behind (isBreak_ok.2 hkind)

/-- The queue stands in front of what the scanner gives. -/
theorem Fetches.comes (h : Fetches s queue result t queue') :
    Comes (queue.map .ok ++ₛ s.feed) result (queue'.map .ok ++ₛ t.feed) ∧ ∃ k, t = s.past k := by
  induction h with
  | queued queue hkind => exact ⟨comes_cons (mt isBreak_ok.1 hkind) _, 0, rfl⟩
  | lineBreak hkind _ ih => exact ⟨ih.1.behind (isBreak_ok.2 hkind), ih.2⟩
  | scanned hscans => exact hscans.comes

end Cursor

/-! ## The list model -/

/-- What there is to be read: the entry that is current, the place at which a token would be
injected, and the list of what comes. -/
structure Supply where
  current : Option Entry
  place : Int × Int
  coming : Stream' Offer

namespace Supply

/-- A token with the place of what is current. -/
def entry (m : Supply) (token : Token) : Entry := ⟨token, m.place.1, m.place.2, false⟩

/-- Entries are put in front, in order. -/
def put (m : Supply) (entries : List Entry) : Supply :=
  { m with coming := entries.map .ok ++ₛ m.coming }

/-- An entry has become current, and the others are left. -/
def moved (entry : Entry) (coming : Stream' Offer) : Supply :=
  ⟨some entry, (entry.line, entry.column), coming⟩

end Supply

/-- What a parser has to give: the place is that of the current token, or the beginning of the line
of the scanner where there is none. -/
def Parser.supply (p : Parser) : Supply :=
  ⟨p.cursor.current, p.position, p.cursor.queue.map .ok ++ₛ p.scanner.feed⟩

namespace Parse

/-- A request that injects tokens or reads the next one. -/
inductive Request where
  | addToken (token : Token)
  | addTokens (tokens : List Token)
  | prependToken (token : Token)
  | nextToken
deriving Repr, DecidableEq

/-- A token that has been read, with its line and column. -/
abbrev Served := Token × Int × Int

/-- What there is in the end: the tokens that have been served and what is left, or an error. -/
abbrev Outcome := Except ScanError (List Served × Supply)

/-- What requests come to, one after the other, in terms of the list: the tokens that are served and
what there is behind them, or the error that stands where a token is asked for. -/
inductive Serves : Supply → List Request → Outcome → Prop
  | done (m : Supply) : Serves m [] (.ok ([], m))
  | addToken {m : Supply} {token : Token} {requests : List Request} {outcome : Outcome} :
      Serves (m.put [m.entry token]) requests outcome →
      Serves m (.addToken token :: requests) outcome
  | addTokens {m : Supply} {tokens : List Token} {requests : List Request} {outcome : Outcome} :
      Serves (m.put (tokens.map m.entry)) requests outcome →
      Serves m (.addTokens tokens :: requests) outcome
  | prependToken {m : Supply} {token : Token} {requests : List Request} {outcome : Outcome} :
      Serves (m.put (m.entry token :: m.current.toList)) requests outcome →
      Serves m (.prependToken token :: requests) outcome
  | served {m : Supply} {entry : Entry} {rest : Stream' Offer} {requests : List Request}
      {outcome : Outcome} :
      Comes m.coming (.ok entry) rest → Serves (.moved entry rest) requests outcome →
      Serves m (.nextToken :: requests)
        (outcome.map fun (others, m) => ((entry.token, entry.line, entry.column) :: others, m))
  | failed {m : Supply} {e : ScanError} {rest : Stream' Offer} {requests : List Request} :
      Comes m.coming (.error e) rest → Serves m (.nextToken :: requests) (.error e)

variable {m : Supply} {requests : List Request} {outcome outcome' : Outcome}

/-- Requests come to one end only. -/
theorem Serves.unique (h : Serves m requests outcome) (h' : Serves m requests outcome') :
    outcome = outcome' := by
  induction h generalizing outcome' with
  | done => cases h'; rfl
  | addToken _ ih => cases h' with | addToken h' => exact ih h'
  | addTokens _ ih => cases h' with | addTokens h' => exact ih h'
  | prependToken _ ih => cases h' with | prependToken h' => exact ih h'
  | served hcomes _ ih =>
    cases h' with
    | served hcomes' h' =>
      obtain ⟨hentry, rfl⟩ := hcomes.unique hcomes'
      obtain rfl := Except.ok.inj hentry
      rw [ih h']
    | failed hcomes' => cases (hcomes.unique hcomes').1
  | failed hcomes =>
    cases h' with
    | served hcomes' => cases (hcomes.unique hcomes').1
    | failed hcomes' => rw [Except.error.inj (hcomes.unique hcomes').1]

/-! ## Requests to a parser -/

/-- The action that a request is, with the token that it serves, if any. -/
def request : Request → Parse (List Served)
  | .addToken token => do
    addToken token
    return []
  | .addTokens tokens => do
    addTokens tokens
    return []
  | .prependToken token => do
    prependToken token
    return []
  | .nextToken => do
    let token ← nextToken
    return [(token, (← get).position)]

/-- Requests one after the other, with all tokens that they serve. -/
def serve : List Request → Parse (List Served)
  | [] => return []
  | r :: requests => do
    let first ← request r
    let others ← serve requests
    return first ++ others

/-- The parser injects in front of all that comes. -/
theorem supply_inject (p : Parser) (entries : List Entry) :
    ({ p with cursor := p.cursor.inject entries } : Parser).supply = p.supply.put entries := by
  show Supply.mk _ _ ((entries ++ p.cursor.queue).map .ok ++ₛ p.scanner.feed) = _
  rw [List.map_append, Stream'.append_append_stream]
  rfl

/-- An injection serves nothing and reads nothing. -/
theorem serve_inject {r : Request} {p : Parser} {entries : List Entry}
    (hrun : (request r).runOn p = (.ok [], { p with cursor := p.cursor.inject entries }))
    (requests : List Request) :
    (serve (r :: requests)).runOn p
      = (serve requests).runOn { p with cursor := p.cursor.inject entries } := by
  rw [serve, runOn_bind_ok hrun]
  refine (runOn_map (serve requests) ([] ++ ·) _).trans ?_
  cases (serve requests).runOn { p with cursor := p.cursor.inject entries } with
  | mk result q => cases result <;> rfl

/-- What is read becomes current at its own place, and the parser has the rest to give. -/
theorem serve_next {p : Parser} {entry : Entry} {cursor : Cursor}
    (hadvance : p.cursor.advance = (.ok entry, cursor)) (requests : List Request) :
    (serve (.nextToken :: requests)).runOn p
      = (((serve requests).runOn { p with cursor }).1.map
          ((entry.token, entry.line, entry.column) :: ·),
        ((serve requests).runOn { p with cursor }).2) := by
  have hplace : ({ p with cursor } : Parser).position = (entry.line, entry.column) := by
    rw [Parser.position, (Cursor.of_advance_entry hadvance).1]
  have hnext : nextToken.runOn p = (.ok entry.token, { p with cursor }) := by
    rw [runOn_nextToken, hadvance]
  have hrequest : (request .nextToken).runOn p
      = (.ok [(entry.token, entry.line, entry.column)], { p with cursor }) := by
    rw [request, runOn_bind_ok hnext, runOn_bind_ok (runOn_get _), hplace]
    rfl
  rw [serve, runOn_bind_ok hrequest]
  exact runOn_map (serve requests) ([(entry.token, entry.line, entry.column)] ++ ·) _

theorem serve_next_error {p : Parser} {e : ScanError} {cursor : Cursor}
    (hadvance : p.cursor.advance = (.error e, cursor)) (requests : List Request) :
    (serve (.nextToken :: requests)).runOn p
      = (.error (.scan e), ({ p with cursor } : Parser).closeUnguarded) := by
  have hnext : nextToken.runOn p
      = (.error (.scan e), ({ p with cursor } : Parser).closeUnguarded) := by
    rw [runOn_nextToken, hadvance]
  have hrequest : (request .nextToken).runOn p
      = (.error (.scan e), ({ p with cursor } : Parser).closeUnguarded) := by
    rw [request, runOn_bind_error hnext]
  rw [serve, runOn_bind_error hrequest]

/-- The parser gives for the requests what its list gives, and its scanner has been called a number
of times and nothing else. -/
inductive Agrees (p : Parser) (requests : List Request) : Prop
  | served {served : List Served} {q : Parser} (k : Nat) :
      (serve requests).runOn p = (.ok served, q) →
      Serves p.supply requests (.ok (served, q.supply)) → q.scanner = p.scanner.past k →
      Agrees p requests
  | failed {e : ScanError} {q : Parser} : (serve requests).runOn p = (.error (.scan e), q) →
      Serves p.supply requests (.error e) → Agrees p requests

theorem agrees_inject {r : Request} {p : Parser} {entries : List Entry} {requests : List Request}
    (hrun : (request r).runOn p = (.ok [], { p with cursor := p.cursor.inject entries }))
    (hserves : ∀ outcome, Serves (p.supply.put entries) requests outcome →
      Serves p.supply (r :: requests) outcome)
    (h : Agrees { p with cursor := p.cursor.inject entries } requests) :
    Agrees p (r :: requests) := by
  have hrequests := serve_inject hrun requests
  cases h with
  | served k hrest hlist hscanner =>
    rw [supply_inject] at hlist
    exact .served k (hrequests.trans hrest) (hserves _ hlist) hscanner
  | failed hrest hlist =>
    rw [supply_inject] at hlist
    exact .failed (hrequests.trans hrest) (hserves _ hlist)

theorem agrees_next {p : Parser} {requests : List Request}
    (h : ∀ q, Agrees q requests) : Agrees p (.nextToken :: requests) := by
  obtain ⟨result, t, queue, met, hfetches, hadvance⟩ :=
    Cursor.exists_fetch p.scanner p.cursor.queue
  have hadvance := hadvance p.cursor rfl rfl
  obtain ⟨hcomes, k, rfl⟩ := hfetches.comes
  cases result with
  | error e => exact .failed (serve_next_error hadvance requests) (.failed hcomes)
  | ok entry =>
    have hnext := serve_next hadvance requests
    generalize hq : ({ p with cursor := _ } : Parser) = q at hnext
    have hsupply : q.supply
        = .moved entry (queue.map .ok ++ₛ (p.scanner.past k).feed) := by rw [← hq]; rfl
    have hscanner : q.scanner = p.scanner.past k := by rw [← hq]; rfl
    cases h q with
    | served k' hrest hlist hscanner' =>
      rw [hrest] at hnext
      rw [hsupply] at hlist
      refine .served (k + k') hnext (.served hcomes hlist) ?_
      rw [hscanner', hscanner, Scanner.past_add]
    | failed hrest hlist =>
      rw [hrest] at hnext
      rw [hsupply] at hlist
      exact .failed hnext (.served hcomes hlist)

/-- One request agrees with the list, and so does what the others come to behind it. -/
theorem agrees (requests : List Request) (p : Parser) : Agrees p requests := by
  induction requests generalizing p with
  | nil => exact .served 0 rfl (.done _) rfl
  | cons r requests ih =>
    cases r with
    | addToken token => exact agrees_inject rfl (fun _ => .addToken) (ih _)
    | addTokens tokens => exact agrees_inject rfl (fun _ => .addTokens) (ih _)
    | prependToken token => exact agrees_inject rfl (fun _ => .prependToken) (ih _)
    | nextToken => exact agrees_next ih

end Parse

end ServiceSyntax
